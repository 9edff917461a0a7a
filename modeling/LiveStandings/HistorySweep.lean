/-
What the sweep computes.  The frame at a stop is the roster ranked on what was
recorded by that time, computed from scratch; the last stop has met everything.
-/
import LiveStandings.History
import Mathlib.Data.List.Dedup
import Mathlib.Data.List.Induction
import Mathlib.Data.List.Pairwise

namespace LiveStandings

open KeyedTable PyJson Ranking Sweep Highest

/-! The trackers as functions of what was met. -/

theorem runPeak_foldl (run : LogRun) (points : List (Instant × Int)) :
    (points.foldl LogRun.push run).runPeak =
      (points.map (·.2)).foldl raise run.runPeak := by
  induction points generalizing run with
  | nil => rfl
  | cons point points ih => exact ih (run.push point)

theorem snapRun_foldl (run : SnapRun) (points : List (Instant × Int)) :
    (points.foldl SnapRun.push run).snapRun =
      (points.map (·.2)).foldl raise run.snapRun := by
  induction points generalizing run with
  | nil => rfl
  | cons point points ih => exact ih (run.push point)

theorem foldl_logPush (points : List (Instant × Int)) :
    points.foldl LogRun.push .start =
      ⟨points.getLast?.map (·.2), points.getLast?.map (·.1),
        (points.map (·.2)).max?⟩ := by
  have hpeak := runPeak_foldl .start points
  rw [LogRun.start, foldl_raise] at hpeak
  induction points using List.reverseRecOn with
  | nil => rfl
  | append_singleton points point _ =>
      rw [← LogRun.start] at hpeak
      rw [← hpeak]
      simp [LogRun.push]

theorem foldl_snapPush (points : List (Instant × Int)) :
    points.foldl SnapRun.push .start =
      ⟨(points.map (·.2)).max?, points.getLast?.map (·.1),
        points.getLast?.map (·.2)⟩ := by
  have hpeak := snapRun_foldl .start points
  rw [SnapRun.start, foldl_raise] at hpeak
  induction points using List.reverseRecOn with
  | nil => rfl
  | append_singleton points point _ =>
      rw [← SnapRun.start] at hpeak
      rw [← hpeak]
      simp [SnapRun.push]

/-! The sweep, stop by stop. -/

/-- The series of an entrant are in time order. -/
structure Entrant.InOrder (entrant : Entrant) : Prop where
  points : Sweep.InOrder entrant.points
  snapPoints : Sweep.InOrder entrant.snapPoints

/-- The tracker that has met everything stamped by `time`. -/
def Entrant.trackerAt (entrant : Entrant) (time : Instant) : Tracker where
  entrant := entrant
  log := (upTo time entrant.points).foldl LogRun.push .start
  points := after time entrant.points
  snap := (upTo time entrant.snapPoints).foldl SnapRun.push .start
  snapPoints := after time entrant.snapPoints

theorem Entrant.InOrder.advance_tracker {entrant : Entrant}
    (horder : entrant.InOrder) (time : Instant) :
    entrant.tracker.advance time = entrant.trackerAt time := by
  simp only [Tracker.advance, Entrant.tracker, Entrant.trackerAt,
    advanceTo_eq _ _ _ horder.points, advanceTo_eq _ _ _ horder.snapPoints]

theorem Entrant.InOrder.advance_trackerAt {entrant : Entrant}
    (horder : entrant.InOrder) {time time' : Instant} (hle : time ≤ time') :
    (entrant.trackerAt time).advance time' = entrant.trackerAt time' := by
  simp only [Tracker.advance, Entrant.trackerAt,
    advanceTo_after _ hle _ horder.points,
    advanceTo_after _ hle _ horder.snapPoints]

/-- An entrant placed on what was recorded by `time`. -/
def Entrant.placedAt (rankBy : RankBy) (time : Instant) (entrant : Entrant) :
    Placed :=
  (entrant.trackerAt time).placed rankBy

/-- The frame at `time`, computed from scratch. -/
def frameAt (rankBy : RankBy) (entrants : List Entrant) (time : Instant) :
    Frame :=
  ⟨time, entrants.map (Entrant.placedAt rankBy time)⟩

theorem sweepFrames_from (rankBy : RankBy) {entrants : List Entrant}
    (horder : ∀ entrant ∈ entrants, entrant.InOrder) (trackers : List Tracker)
    (times : List Instant)
    (hadvance : ∀ time ∈ times, trackers.map (Tracker.advance time) =
      entrants.map (·.trackerAt time))
    (hsorted : times.Pairwise (· ≤ ·)) :
    sweepFrames rankBy trackers times =
      times.map (frameAt rankBy entrants) := by
  induction times generalizing trackers with
  | nil => rfl
  | cons time rest ih =>
      obtain ⟨hfirst, hrest⟩ := List.pairwise_cons.mp hsorted
      have hstop := hadvance time List.mem_cons_self
      have hlater : sweepFrames rankBy (entrants.map (·.trackerAt time)) rest =
          rest.map (frameAt rankBy entrants) := by
        refine ih _ (fun time' htime' => ?_) hrest
        rw [List.map_map]
        apply List.map_congr_left
        intro entrant hentrant
        exact (horder entrant hentrant).advance_trackerAt (hfirst time' htime')
      rw [sweepFrames, hstop, hlater, List.map_map]
      rfl

theorem sweepFrames_eq (rankBy : RankBy) {entrants : List Entrant}
    (horder : ∀ entrant ∈ entrants, entrant.InOrder) {times : List Instant}
    (hsorted : times.Pairwise (· ≤ ·)) :
    sweepFrames rankBy (entrants.map Entrant.tracker) times =
      times.map (frameAt rankBy entrants) := by
  refine sweepFrames_from rankBy horder _ _ (fun time _ => ?_) hsorted
  rw [List.map_map]
  apply List.map_congr_left
  intro entrant hentrant
  exact (horder entrant hentrant).advance_tracker time

/-! The series read from the database are in order. -/

theorem loggedGames_pairwise (db : Database) (t : Tournament)
    (wanted : Instant → Bool) (profileId : Int) :
    (loggedGames db t wanted profileId).Pairwise fun left right =>
      left.completedAt ≤ right.completedAt := by
  refine (sortBy_pairwise _ _).imp ?_
  intro left right hle
  exact Prod.Lex.monotone_fst _ _ hle

theorem pointsByProfile_inOrder (db : Database) (t : Tournament)
    (profileId : Int) : InOrder (pointsByProfile db t profileId) :=
  List.pairwise_map.mpr (loggedGames_pairwise db t t.inWindow profileId)

theorem observations_inOrder (db : Database) (t : Tournament)
    (profileId : Int) : InOrder (observations db t profileId) := by
  refine List.pairwise_filterMap.mpr ((sortBy_pairwise _ _).imp ?_)
  intro left right hle leftPoint hleft rightPoint hright
  obtain ⟨_, _, rfl⟩ := Option.map_eq_some_iff.mp hleft
  obtain ⟨_, _, rfl⟩ := Option.map_eq_some_iff.mp hright
  exact Prod.Lex.monotone_fst (toLex (left.observedAt, left.id))
    (toLex (right.observedAt, right.id)) hle

theorem snapPointsByProfile_inOrder (db : Database) (t : Tournament)
    (profileId : Int) : InOrder (snapPointsByProfile db t profileId) :=
  List.Pairwise.sublist List.filter_sublist
    (observations_inOrder db t profileId)

theorem historyEntrant_inOrder (db : Database) (t : Tournament)
    (row : RosterRow) : (historyEntrant db t row).InOrder := by
  unfold historyEntrant historySeries
  cases row.entry.profileId with
  | none => exact ⟨List.Pairwise.nil, List.Pairwise.nil⟩
  | some profileId =>
      exact ⟨pointsByProfile_inOrder db t profileId,
        snapPointsByProfile_inOrder db t profileId⟩

theorem historyEntrants_inOrder (db : Database) (t : Tournament) :
    ∀ entrant ∈ historyEntrants db t, entrant.InOrder := by
  intro entrant hentrant
  obtain ⟨row, _, rfl⟩ := List.mem_map.mp hentrant
  exact historyEntrant_inOrder db t row

/-! The time axis. -/

theorem candidateTimes_pairwise (start : Instant) (times : List Instant) :
    (candidateTimes start times).Pairwise (· ≤ ·) :=
  sortBy_pairwise id _

theorem mem_candidateTimes {start : Instant} {times : List Instant}
    {time : Instant} :
    time ∈ candidateTimes start times ↔
      time ∈ dailyAnchors start times ∨ time ∈ times := by
  simp [candidateTimes]

theorem candidateTimes_ne_nil (start : Instant) (times : List Instant) :
    candidateTimes start times ≠ [] := by
  have hanchor : min (dayOf start) (dayOf (times.max?.getD start)) * dayLength ∈
      dailyAnchors start times := by
    exact List.mem_map.mpr ⟨0, List.mem_range.mpr (Nat.succ_pos _), by simp⟩
  exact List.ne_nil_of_mem (mem_candidateTimes.mpr (Or.inl hanchor))

/-- The last stop of the sweep. -/
def lastTime (start : Instant) (times : List Instant) : Instant :=
  (candidateTimes start times).getLast (candidateTimes_ne_nil start times)

theorem le_lastTime {start : Instant} {times : List Instant} {time : Instant}
    (htime : time ∈ candidateTimes start times) :
    time ≤ lastTime start times :=
  (candidateTimes_pairwise start times).rel_getLast htime

/-! The buckets. -/

theorem bucketFrames_eq (rankBy : RankBy) {entrants : List Entrant}
    (horder : ∀ entrant ∈ entrants, entrant.InOrder)
    (teams : List HistoryTeam) (start : Instant) :
    bucketFrames rankBy entrants teams start =
      record (fun frame : Frame =>
          (dailyAnchors start (inEventTimes entrants)).contains frame.time)
        (fun frame => frame.vector teams) none
        ((candidateTimes start (inEventTimes entrants)).map
          (frameAt rankBy entrants)) := by
  rw [bucketFrames, sweepFrames_eq rankBy horder
    (candidateTimes_pairwise start (inEventTimes entrants))]

theorem mem_historyFrames {db : Database} {t : Tournament} {start : Instant}
    {frame : Frame} (hframe : frame ∈ historyFrames db t start) :
    ∃ time ∈ candidateTimes start (inEventTimes (historyEntrants db t)),
      frame = frameAt t.rankBy (historyEntrants db t) time := by
  rw [historyFrames, bucketFrames_eq _ (historyEntrants_inOrder db t)] at hframe
  obtain ⟨time, htime, heq⟩ :=
    List.mem_map.mp ((record_sublist _ _ _ _).subset hframe)
  exact ⟨time, htime, heq.symm⟩

theorem getLast?_historyFrames (db : Database) (t : Tournament)
    (start : Instant) :
    (historyFrames db t start).getLast? =
      some (frameAt t.rankBy (historyEntrants db t)
        (lastTime start (inEventTimes (historyEntrants db t)))) := by
  rw [historyFrames, bucketFrames_eq _ (historyEntrants_inOrder db t),
    getLast?_record, List.getLast?_map,
    List.getLast?_eq_some_getLast (candidateTimes_ne_nil _ _)]
  rfl

/-- An entrant placed on everything recorded. -/
def Entrant.placed (rankBy : RankBy) (entrant : Entrant) : Placed where
  id := entrant.id
  name := entrant.name
  metric := entrant.metric rankBy (entrant.points.foldl LogRun.push .start)
    (entrant.snapPoints.foldl SnapRun.push .start)
  other := entrant.other rankBy (entrant.points.foldl LogRun.push .start)

theorem placedAt_lastTime (rankBy : RankBy) {entrants : List Entrant}
    (start : Instant) {entrant : Entrant} (hentrant : entrant ∈ entrants) :
    entrant.placedAt rankBy (lastTime start (inEventTimes entrants)) =
      entrant.placed rankBy := by
  have hmet : ∀ events : List (Instant × Int),
      (∀ event ∈ events, event.1 ∈ inEventTimes entrants) →
        upTo (lastTime start (inEventTimes entrants)) events = events := by
    intro events hevents
    apply upTo_eq_self
    intro event hevent
    exact le_lastTime (mem_candidateTimes.mpr (Or.inr (hevents event hevent)))
  have hpoints := hmet entrant.points fun event hevent =>
    List.mem_append_left _ (List.mem_flatMap.mpr
      ⟨entrant, hentrant, List.mem_map_of_mem hevent⟩)
  have hsnaps := hmet entrant.snapPoints fun event hevent =>
    List.mem_append_right _ (List.mem_flatMap.mpr
      ⟨entrant, hentrant, List.mem_map_of_mem hevent⟩)
  simp only [Entrant.placedAt, Tracker.placed, Entrant.trackerAt, hpoints,
    hsnaps, Entrant.placed]

theorem frameAt_lastTime (rankBy : RankBy) (entrants : List Entrant)
    (start : Instant) :
    (frameAt rankBy entrants
      (lastTime start (inEventTimes entrants))).placed =
        entrants.map (Entrant.placed rankBy) := by
  apply List.map_congr_left
  intro entrant hentrant
  exact placedAt_lastTime rankBy start hentrant

end LiveStandings
