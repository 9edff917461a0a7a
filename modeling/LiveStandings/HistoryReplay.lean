/-
The sweep against its definition.  At every stop the metric of an entrant is
the one computed from scratch over what was recorded by then, and the frames
that are kept as buckets lose no order in between.
-/
import LiveStandings.HistoryEndpoint

namespace LiveStandings

open KeyedTable PyJson Ranking Sweep Highest

/-- The metric of an entrant at a time, over everything recorded by then.  In
current mode it is the newer of the last logged and the last observed rating;
in peak mode the greatest of all that is known, cut at the live peak. -/
def Entrant.metricBy (rankBy : RankBy) (time : Instant) (entrant : Entrant) :
    Option Int :=
  match rankBy with
  | .currentRating =>
      match (upTo time entrant.points).getLast?,
        (upTo time entrant.snapPoints).getLast? with
      | none, none => entrant.baseline
      | none, some observed => some observed.2
      | some logged, none => some logged.2
      | some logged, some observed =>
          if observed.1 ≤ logged.1 then some logged.2 else some observed.2
  | .peakRating =>
      (entrant.baseline.toList ++ (upTo time entrant.snapPoints).map (·.2) ++
        (upTo time entrant.points).map (·.2)).max?.map (cut entrant.curMax)

theorem metric_placedAt (rankBy : RankBy) (time : Instant) (entrant : Entrant) :
    (entrant.placedAt rankBy time).metric = entrant.metricBy rankBy time := by
  simp only [Entrant.placedAt, Tracker.placed, Entrant.trackerAt,
    Entrant.metric, Entrant.metricBy, foldl_logPush, foldl_snapPush]
  cases rankBy with
  | currentRating =>
      cases (upTo time entrant.points).getLast? <;>
        cases (upTo time entrant.snapPoints).getLast? <;> rfl
  | peakRating => exact congrArg (Option.map (cut entrant.curMax)) (max?_recorded _ _)

/-- What the sweep over these entrants, ranked with these teams, must give. -/
structure SweptRight (rankBy : RankBy) (entrants : List Entrant)
    (teams : List HistoryTeam) (start : Instant) (frames buckets : List Frame) :
    Prop where
  /-- There is a frame for each candidate time. -/
  stops : frames.map (·.time) = candidateTimes start (inEventTimes entrants)
  metrics : ∀ frame ∈ frames,
    frame.placed.map (fun placed => (placed.id, placed.metric)) =
      entrants.map fun entrant =>
        (entrant.id, entrant.metricBy rankBy frame.time)
  lossless : ∀ frame ∈ frames,
    (buckets.filter (·.time ≤ frame.time)).getLast?.map (·.vector teams) =
      some (frame.vector teams)
  reasons : ∀ earlier bucket later, buckets = earlier ++ bucket :: later →
    bucket.time ∈ dailyAnchors start (inEventTimes entrants) ∨
      (candidateTimes start (inEventTimes entrants)).getLast? =
          some bucket.time ∨
        earlier.getLast?.map (·.vector teams) ≠ some (bucket.vector teams)

theorem candidateTimes_increasing (start : Instant) (times : List Instant) :
    (candidateTimes start times).Pairwise (· < ·) := by
  have hnodup : (candidateTimes start times).Nodup :=
    (sortBy_perm id _).nodup_iff.mpr (List.nodup_dedup _)
  refine ((candidateTimes_pairwise start times).and hnodup).imp ?_
  rintro left right ⟨hle, hne⟩
  exact lt_of_le_of_ne hle hne

/-- The cursor-based sweep computes every metric from scratch, and its buckets
lose no order. -/
theorem sweep_declared (rankBy : RankBy) {entrants : List Entrant}
    (horder : ∀ entrant ∈ entrants, entrant.InOrder)
    (teams : List HistoryTeam) (start : Instant) :
    SweptRight rankBy entrants teams start
      (sweepFrames rankBy (entrants.map Entrant.tracker)
        (candidateTimes start (inEventTimes entrants)))
      (bucketFrames rankBy entrants teams start) := by
  rw [bucketFrames_eq rankBy horder, sweepFrames_eq rankBy horder
    (candidateTimes_pairwise start (inEventTimes entrants))]
  constructor
  · rw [List.map_map]
    exact List.map_id _
  · intro frame hframe
    obtain ⟨time, _, rfl⟩ := List.mem_map.mp hframe
    rw [frameAt, List.map_map]
    apply List.map_congr_left
    intro entrant _
    exact congrArg (entrant.id, ·) (metric_placedAt rankBy time entrant)
  · have hincreasing : ((candidateTimes start (inEventTimes entrants)).map
        (frameAt rankBy entrants)).Pairwise fun left right =>
          left.time < right.time :=
      List.pairwise_map.mpr (candidateTimes_increasing start _)
    intro frame hframe
    have hkept := record_lossless
      (fun frame : Frame =>
        (dailyAnchors start (inEventTimes entrants)).contains frame.time)
      (fun frame => frame.vector teams) Frame.time hincreasing none frame hframe
    rwa [Option.or_none] at hkept
  · intro earlier bucket later hsplit
    rcases record_reason _ _ hsplit with hdue | hlast | hnew
    · exact Or.inl (by simpa using hdue)
    · right
      left
      rw [List.getLast?_map] at hlast
      obtain ⟨time, htime, rfl⟩ := Option.map_eq_some_iff.mp hlast
      exact htime
    · right
      right
      rwa [Option.or_none] at hnew

namespace SweepWitness

/-- Observed and logged at the same time, first below its live peak. -/
def first : Entrant where
  id := 1
  name := "p1"
  curMax := some 1200
  curRating := some 1150
  baseline := some 1100
  points := [(10, 1150), (20, 1250)]
  snapPoints := [(10, 1100), (30, 1200)]

def second : Entrant where
  id := 2
  name := "p2"
  curMax := some 1180
  curRating := some 1180
  baseline := some 1160
  points := [(20, 1180)]
  snapPoints := [(20, 1180)]

theorem inOrder : ∀ entrant ∈ [first, second], entrant.InOrder := by
  have hfirst : first.InOrder :=
    ⟨by simp [InOrder, first], by simp [InOrder, first]⟩
  have hsecond : second.InOrder :=
    ⟨by simp [InOrder, second], by simp [InOrder, second]⟩
  simpa using ⟨hfirst, hsecond⟩

end SweepWitness

open SweepWitness in
/-- Two entrants with equal stamps: the order changes at the time 20, and the
frame of the time 10 is left out. -/
theorem sweep_declared_two :
    SweptRight .peakRating [first, second] [] 0
        (sweepFrames .peakRating ([first, second].map Entrant.tracker)
          (candidateTimes 0 (inEventTimes [first, second])))
        (bucketFrames .peakRating [first, second] [] 0) ∧
      (bucketFrames .peakRating [first, second] [] 0).map (·.time) =
        [0, 20, 30] := by
  exact ⟨sweep_declared .peakRating inOrder [] 0, by decide⟩

end LiveStandings
