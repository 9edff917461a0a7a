/-
The chart of a closed window against the frozen table.  The freeze reads every
snapshot and every settled game by the end; the chart reads the observation
carried in, the rating held entering the window, and what was observed and
completed in it.
-/
import LiveStandings.HistoryEndpoint

namespace LiveStandings

open KeyedTable PyJson Ranking Sweep Highest

/-- What the freeze reads of a profile in peak mode. -/
def freezeReads (db : Database) (t : Tournament) (bound : Instant)
    (profileId : Int) : List Int :=
  ((snapshotsOf db t profileId).filter (·.observedAt ≤ bound)).map
      (·.maxRating) ++
    (settledGames db t bound profileId).filterMap (·.row.newRating)

/-- A settled game the chart leaves out: it started before the window, or was
never completed. -/
def uncharted (t : Tournament) (game : Game) : Bool :=
  !(t.inWindow game.played.startedAt && game.played.completedAt.isSome)

/-- The observations of a profile made by the start of the window. -/
def earlyObservations (db : Database) (t : Tournament) (profileId : Int) :
    List (Instant × Int) :=
  (observations db t profileId).filter fun point => t.preStart point.1

/-- What the freeze alone reads: the early observations that are not carried
into the window, and the settled games the chart leaves out. -/
def freezeOnly (db : Database) (t : Tournament) (bound : Instant)
    (row : RosterRow) : List Int :=
  row.entry.profileId.elim [] fun profileId =>
    (if row.rating.isSome then (earlyObservations db t profileId).dropLast
      else earlyObservations db t profileId).map (·.2) ++
    ((settledGames db t bound profileId).filter (uncharted t)).filterMap
      (·.row.newRating)

/-- The rating held entering the window, which the chart reads of a rated
entrant. -/
def enteredWith (db : Database) (t : Tournament) (row : RosterRow) :
    List Int :=
  if row.rating.isSome then (historySeries db t row).entryOld.toList else []

/-- What the chart reads of an entrant in peak mode. -/
def chartReads (db : Database) (t : Tournament) (row : RosterRow) : List Int :=
  (if row.rating.isSome then (historySeries db t row).snapBase.toList else []) ++
    enteredWith db t row ++
      (historySeries db t row).snapPoints.map (·.2) ++
        (historySeries db t row).points.map (·.2)

section Peak

variable {db : Database} {t : Tournament} {bound : Instant}

theorem recordedPeak_eq (db : Database) (t : Tournament) (bound : Instant)
    (profileId : Int) :
    recordedPeak db t bound profileId =
      (freezeReads db t bound profileId).max? := by
  rw [freezeReads, ← max?_append_congr (max?_toList _) (max?_toList _),
    recordedPeak]
  cases (((snapshotsOf db t profileId).filter
      (·.observedAt ≤ bound)).map (·.maxRating)).max? with
  | none =>
      cases ((settledGames db t bound profileId).filterMap
        (·.row.newRating)).max? <;> rfl
  | some observed =>
      cases ((settledGames db t bound profileId).filterMap
        (·.row.newRating)).max? with
      | none => rfl
      | some started =>
          simp only [Option.all_some, decide_eq_true_eq, Option.toList_some,
            List.cons_append, List.nil_append, List.max?_cons,
            List.max?_nil, Option.elim_some, Option.elim_none]
          split
          · next hlt => rw [max_eq_right (le_of_lt hlt)]
          · next hnot => rw [max_eq_left (not_lt.mp hnot)]

theorem frozenPeak_eq {profileId : Int}
    (hread : liveRating db t profileId ≠ none →
      freezeReads db t bound profileId ≠ []) :
    frozenPeak db t bound profileId =
      (freezeReads db t bound profileId).max?.map
        (cut ((liveRating db t profileId).map (·.maxRating))) := by
  rw [frozenPeak, recordedPeak_eq]
  cases hpeak : (freezeReads db t bound profileId).max? with
  | none =>
      have hunrated : liveRating db t profileId = none := by
        by_contra hrated
        exact hread hrated (List.max?_eq_none_iff.mp hpeak)
      rw [hunrated]
      rfl
  | some peak =>
      cases (liveRating db t profileId).map (·.maxRating) with
      | none => rfl
      | some live =>
          simp only [Option.map_some, cut]
          split
          · next hlt => rw [min_eq_right (le_of_lt hlt)]
          · next hnot => rw [min_eq_left (not_lt.mp hnot)]

theorem chartedMetric_reads (hrank : t.rankBy = .peakRating) {row : RosterRow}
    (hbase : row.rating.isSome → (historySeries db t row).snapBase.isSome) :
    chartedMetric db t row =
      (chartReads db t row).max?.map (cut (row.rating.map (·.maxRating))) := by
  have hcarried : ((historySeries db t row).baseline
      (row.rating.map (·.maxRating))).toList.max? =
        ((if row.rating.isSome then (historySeries db t row).snapBase.toList
          else []) ++ enteredWith db t row).max? := by
    unfold enteredWith Series.baseline
    cases hrating : row.rating with
    | none => rfl
    | some rating =>
        obtain ⟨snapBase, hsnap⟩ :=
          Option.isSome_iff_exists.mp (hbase (by rw [hrating]; rfl))
        simp only [hsnap, Option.map_some, Option.bind_some,
          Option.isSome_some, ↓reduceIte]
        cases (historySeries db t row).entryOld <;> rfl
  rw [chartedMetric_peak hrank, chartReads]
  exact congrArg (Option.map _)
    (max?_append_congr (max?_append_congr hcarried rfl) rfl)

/-! What the two read, compared. -/

theorem mem_points {profileId value : Int}
    (hend : t.endDate = some bound) :
    value ∈ (pointsByProfile db t profileId).map (·.2) ↔
      ∃ game ∈ settledGames db t bound profileId,
        uncharted t game = false ∧ game.row.newRating = some value := by
  simp only [pointsByProfile, loggedGames, settledGames, List.mem_map,
    mem_sortBy, List.mem_filter, List.mem_filterMap]
  constructor
  · rintro ⟨_, ⟨logged, ⟨⟨game, hgame, hlogged⟩, hwindow⟩, rfl⟩, rfl⟩
    obtain ⟨completedAt, hcompleted, hlogged⟩ :=
      Option.bind_eq_some_iff.mp hlogged
    obtain ⟨newRating, hrating, hlogged⟩ := Option.bind_eq_some_iff.mp hlogged
    split at hlogged
    · next hboard =>
        cases hlogged
        have hstarted : game.played.startedAt ≤ bound := by
          simp only [Tournament.inWindow, hend, Option.all_some,
            Bool.and_eq_true, decide_eq_true_eq] at hwindow
          exact hwindow.2
        refine ⟨game, ⟨hgame, ?_⟩, ?_, hrating⟩
        · simp [hboard, hrating, hstarted]
        · simp [uncharted, hwindow, hcompleted]
    · cases hlogged
  · rintro ⟨game, ⟨hgame, hsettled⟩, hcharted, hrating⟩
    simp only [Bool.and_eq_true, decide_eq_true_eq] at hsettled
    simp only [uncharted, Bool.not_eq_false', Bool.and_eq_true] at hcharted
    obtain ⟨completedAt, hcompleted⟩ := Option.isSome_iff_exists.mp hcharted.2
    refine ⟨_, ⟨⟨game.played.matchId, game.played.startedAt, completedAt,
      game.row.oldRating, value⟩, ⟨⟨game, hgame, ?_⟩, hcharted.1⟩, rfl⟩, rfl⟩
    simp [loggedGame, hcompleted, hrating, hsettled.1.1]

/-- What the freeze reads: the observations, early or in the window, and the
settled games, charted or not. -/
theorem mem_freezeReads (hrank : t.rankBy = .peakRating)
    (hend : t.endDate = some bound) {profileId value : Int} :
    value ∈ freezeReads db t bound profileId ↔
      (value ∈ (earlyObservations db t profileId).map (·.2) ∨
        value ∈ (snapPointsByProfile db t profileId).map (·.2)) ∨
      (value ∈ (pointsByProfile db t profileId).map (·.2) ∨
        value ∈ ((settledGames db t bound profileId).filter
          (uncharted t)).filterMap (·.row.newRating)) := by
  rw [freezeReads, List.mem_append]
  apply or_congr
  · have hobserved : value ∈ ((snapshotsOf db t profileId).filter
        (·.observedAt ≤ bound)).map (·.maxRating) ↔
          ∃ point ∈ observations db t profileId, point.2 = value := by
      simp only [List.mem_map, List.mem_filter, decide_eq_true_eq,
        mem_observations, snapMetric, hrank, hend, Option.all_some,
        Option.some.injEq]
      constructor
      · rintro ⟨snapshot, ⟨hmem, hle⟩, rfl⟩
        exact ⟨(snapshot.observedAt, snapshot.maxRating),
          ⟨snapshot, hmem, hle, rfl, rfl⟩, rfl⟩
      · rintro ⟨point, ⟨snapshot, hmem, hle, _, hvalue⟩, rfl⟩
        exact ⟨snapshot, ⟨hmem, hle⟩, hvalue⟩
    rw [hobserved]
    simp only [earlyObservations, snapPointsByProfile, List.mem_map,
      List.mem_filter]
    constructor
    · rintro ⟨point, hpoint, rfl⟩
      cases hpre : t.preStart point.1 with
      | true => exact Or.inl ⟨point, ⟨hpoint, hpre⟩, rfl⟩
      | false => exact Or.inr ⟨point, ⟨hpoint, by simp [hpre]⟩, rfl⟩
    · rintro (⟨point, ⟨hpoint, _⟩, rfl⟩ | ⟨point, ⟨hpoint, _⟩, rfl⟩)
      · exact ⟨point, hpoint, rfl⟩
      · exact ⟨point, hpoint, rfl⟩
  · rw [mem_points hend]
    simp only [List.mem_filterMap, List.mem_filter]
    constructor
    · rintro ⟨game, hgame, hrating⟩
      cases hcharted : uncharted t game with
      | false => exact Or.inl ⟨game, hgame, hcharted, hrating⟩
      | true => exact Or.inr ⟨game, ⟨hgame, hcharted⟩, hrating⟩
    · rintro (⟨game, hgame, _, hrating⟩ | ⟨game, ⟨hgame, _⟩, hrating⟩)
      · exact ⟨game, hgame, hrating⟩
      · exact ⟨game, hgame, hrating⟩

/-- Every settled rating that only the freeze reads is matched, cut at the live
peak, by one the chart reads, and so is the rating held entering the window by
one the freeze reads. -/
structure PeakEndsFrozen (db : Database) (t : Tournament) (bound : Instant)
    (row : RosterRow) : Prop where
  recorded : ∀ value ∈ freezeOnly db t bound row,
    ∃ charted ∈ chartReads db t row,
      cut (row.rating.map (·.maxRating)) value ≤ charted
  entered : ∀ value ∈ enteredWith db t row,
    ∃ read ∈ row.entry.profileId.elim [] (freezeReads db t bound),
      cut (row.rating.map (·.maxRating)) value ≤ read

/-- What the chart reads is read by the freeze too, except for the rating held
entering the window. -/
theorem mem_freezeReads_of_charted (hrank : t.rankBy = .peakRating)
    (hend : t.endDate = some bound) {row : RosterRow} {profileId value : Int}
    (hprofile : row.entry.profileId = some profileId)
    (hvalue : value ∈ chartReads db t row) :
    value ∈ freezeReads db t bound profileId ∨
      value ∈ enteredWith db t row := by
  rw [mem_freezeReads hrank hend]
  have hseries := historySeries_of_profile db t hprofile
  simp only [chartReads, List.mem_append] at hvalue
  rcases hvalue with ((hbase | hentry) | hsnap) | hpoint
  · split at hbase
    · have hbase' : (snapBaselineByProfile db t profileId).or
          ((snapPointsByProfile db t profileId).head?.map (·.2)) =
            some value := by
        rw [hseries] at hbase
        exact Option.mem_toList.mp hbase
      rcases Option.or_eq_some_iff.mp hbase' with hearly | ⟨_, hfirst⟩
      · obtain ⟨point, hpoint, rfl⟩ := Option.map_eq_some_iff.mp hearly
        exact Or.inl (Or.inl (Or.inl
          (List.mem_map_of_mem (List.mem_of_getLast? hpoint))))
      · obtain ⟨point, hpoint, rfl⟩ := Option.map_eq_some_iff.mp hfirst
        exact Or.inl (Or.inl (Or.inr
          (List.mem_map_of_mem (List.mem_of_head? hpoint))))
    · simp at hbase
  · exact Or.inr hentry
  · rw [hseries] at hsnap
    exact Or.inl (Or.inl (Or.inr hsnap))
  · rw [hseries] at hpoint
    exact Or.inl (Or.inr (Or.inl hpoint))

/-- What the freeze reads is read by the chart too, or by the freeze alone. -/
theorem mem_chartReads_of_frozen (hrank : t.rankBy = .peakRating)
    (hend : t.endDate = some bound) {row : RosterRow} {profileId value : Int}
    (hprofile : row.entry.profileId = some profileId)
    (hvalue : value ∈ freezeReads db t bound profileId) :
    value ∈ chartReads db t row ∨ value ∈ freezeOnly db t bound row := by
  have hseries := historySeries_of_profile db t hprofile
  have honly : freezeOnly db t bound row =
      (if row.rating.isSome then (earlyObservations db t profileId).dropLast
        else earlyObservations db t profileId).map (·.2) ++
      ((settledGames db t bound profileId).filter (uncharted t)).filterMap
        (·.row.newRating) := by
    rw [freezeOnly, hprofile, Option.elim_some]
  rw [honly, List.mem_append]
  simp only [chartReads, List.mem_append]
  rcases (mem_freezeReads hrank hend).mp hvalue with
    (hearly | hsnap) | (hpoint | hgame)
  · split
    · rename_i hrated
      obtain ⟨point, hpoint, rfl⟩ := List.mem_map.mp hearly
      have hne := List.ne_nil_of_mem hpoint
      rw [← List.dropLast_append_getLast hne, List.mem_append] at hpoint
      rcases hpoint with hdropped | hlast
      · exact Or.inr (Or.inl (List.mem_map_of_mem hdropped))
      · refine Or.inl (Or.inl (Or.inl (Or.inl ?_)))
        have hbase : (historySeries db t row).snapBaseline = some point.2 := by
          rw [hseries, List.mem_singleton.mp hlast]
          change ((earlyObservations db t profileId).getLast?).map _ = _
          rw [List.getLast?_eq_some_getLast hne, Option.map_some]
        simp [Series.snapBase, hbase]
    · exact Or.inr (Or.inl hearly)
  · rw [hseries]
    exact Or.inl (Or.inl (Or.inr hsnap))
  · rw [hseries]
    exact Or.inl (Or.inr hpoint)
  · exact Or.inr (Or.inr hgame)

theorem freezeReads_of_freezeOnly (hrank : t.rankBy = .peakRating)
    (hend : t.endDate = some bound) {row : RosterRow} {profileId value : Int}
    (hprofile : row.entry.profileId = some profileId)
    (hvalue : value ∈ freezeOnly db t bound row) :
    value ∈ freezeReads db t bound profileId := by
  rw [freezeOnly, hprofile, Option.elim_some, List.mem_append] at hvalue
  rw [mem_freezeReads hrank hend]
  rcases hvalue with hearly | hgame
  · obtain ⟨point, hpoint, rfl⟩ := List.mem_map.mp hearly
    refine Or.inl (Or.inl (List.mem_map_of_mem ?_))
    split at hpoint
    · exact (List.dropLast_sublist _).subset hpoint
    · exact hpoint
  · exact Or.inr (Or.inr hgame)

theorem snapBase_of_recorded (hrank : t.rankBy = .peakRating)
    (hend : t.endDate = some bound) {row : RosterRow} {profileId : Int}
    (hprofile : row.entry.profileId = some profileId)
    (hrecorded : Recorded db t bound profileId) :
    (historySeries db t row).snapBase.isSome := by
  obtain ⟨snapshot, hsnapshot, hle⟩ := hrecorded
  have hpoint : (snapshot.observedAt, snapshot.maxRating) ∈
      observations db t profileId :=
    mem_observations.mpr ⟨snapshot, hsnapshot, by simpa [hend] using hle, rfl,
      by rw [snapMetric, hrank]⟩
  rw [historySeries_of_profile db t hprofile, Series.snapBase]
  cases hpre : t.preStart snapshot.observedAt with
  | true =>
      have hearly : (snapshot.observedAt, snapshot.maxRating) ∈
          earlyObservations db t profileId :=
        List.mem_filter.mpr ⟨hpoint, hpre⟩
      have hlast : (snapBaselineByProfile db t profileId).isSome := by
        rw [snapBaselineByProfile, Option.isSome_map, List.getLast?_isSome]
        exact List.ne_nil_of_mem hearly
      simp [seriesByProfile, hlast]
  | false =>
      have hlate : (snapshot.observedAt, snapshot.maxRating) ∈
          snapPointsByProfile db t profileId :=
        List.mem_filter.mpr ⟨hpoint, by simp [hpre]⟩
      have hfirst : (snapPointsByProfile db t profileId).head?.isSome :=
        List.isSome_head?.mpr (List.ne_nil_of_mem hlate)
      simp [seriesByProfile, hfirst]

/-- In peak mode the chart of an entrant ends on its frozen peak exactly when
what only one of the two reads is matched in the other. -/
theorem chartedMetric_frozen_peak (hrank : t.rankBy = .peakRating)
    (hend : t.endDate = some bound) {row : RosterRow}
    (hrow : row ∈ rosterRows db t)
    (hrecorded : ∀ rating, row.rating = some rating →
      Recorded db t bound rating.profileId) :
    chartedMetric db t row =
        row.entry.profileId.bind (frozenPeak db t bound) ↔
      PeakEndsFrozen db t bound row := by
  cases hprofile : row.entry.profileId with
  | none =>
      have hunrated := unrated_of_unlinked hrow hprofile
      refine iff_of_true ?_ ⟨by simp [freezeOnly, hprofile],
        by simp [enteredWith, hunrated]⟩
      rw [chartedMetric_peak hrank, historySeries_unlinked db t hprofile, hunrated]
      rfl
  | some profileId =>
      have hlive := (rating_of_listed hrow hprofile).symm
      have hbase : row.rating.isSome →
          (historySeries db t row).snapBase.isSome := by
        intro hrated
        obtain ⟨rating, hrating⟩ := Option.isSome_iff_exists.mp hrated
        have hlinked := (rated_row hrow hrating).1
        exact snapBase_of_recorded hrank hend hlinked
          (hrecorded rating hrating)
      have hread : liveRating db t profileId ≠ none →
          freezeReads db t bound profileId ≠ [] := by
        intro hrated
        rw [hlive] at hrated
        obtain ⟨rating, hrating⟩ := Option.ne_none_iff_exists'.mp hrated
        obtain ⟨snapshot, hsnapshot, hle⟩ := hrecorded rating hrating
        have hlinked := (rated_row hrow hrating).1
        rw [hprofile] at hlinked
        cases hlinked
        exact List.ne_nil_of_mem (List.mem_append_left _ (List.mem_map_of_mem
          (List.mem_filter.mpr ⟨hsnapshot, decide_eq_true hle⟩)))
      rw [chartedMetric_reads hrank hbase, Option.bind_some,
        frozenPeak_eq hread, hlive, cut_max?_eq_iff]
      constructor
      · rintro ⟨hcharted, hfrozen⟩
        refine ⟨fun value hvalue => hfrozen value
          (freezeReads_of_freezeOnly hrank hend hprofile hvalue), ?_⟩
        rw [hprofile, Option.elim_some]
        exact fun value hvalue => hcharted value (by
          simp only [chartReads, List.mem_append]
          exact Or.inl (Or.inl (Or.inr hvalue)))
      · rintro ⟨hrecorded', hentered⟩
        rw [hprofile, Option.elim_some] at hentered
        constructor
        · intro value hvalue
          rcases mem_freezeReads_of_charted hrank hend hprofile hvalue with
            hread' | hentry
          · exact ⟨value, hread', cut_le _ _⟩
          · exact hentered value hentry
        · intro value hvalue
          rcases mem_chartReads_of_frozen hrank hend hprofile hvalue with
            hcharted | honly
          · exact ⟨value, hcharted, cut_le _ _⟩
          · exact hrecorded' value honly

end Peak

/-- The rating of the last settled game by start time. -/
def lastStarted (db : Database) (t : Tournament) (bound : Instant)
    (profileId : Int) : Option Int :=
  ((sortBy (fun game : Game =>
    toLex (game.played.startedAt, game.played.matchId))
      (settledGames db t bound profileId)).getLast?).bind (·.row.newRating)

/-- In the window the chart has this rating last: of the last completed game,
or of an observation made after it.  Where there is neither, it is the rating
carried in of a rated entrant. -/
def LastCharted (db : Database) (t : Tournament) (row : RosterRow)
    (value : Int) : Prop :=
  match (historySeries db t row).points.getLast?,
    (historySeries db t row).snapPoints.getLast? with
  | some logged, none => logged.2 = value
  | some logged, some observed =>
      if observed.1 ≤ logged.1 then logged.2 = value else observed.2 = value
  | none, some observed => observed.2 = value
  | none, none => ∃ rating, row.rating = some rating ∧
      (historySeries db t row).snapBaseline.getD rating.currentRating = value

/-- The chart ends on the rating of the last settled game by start time; an
unrated entrant without one has no observation, or one in the window. -/
structure CurrentEndsFrozen (db : Database) (t : Tournament) (bound : Instant)
    (row : RosterRow) : Prop where
  started : ∀ value, row.entry.profileId.bind (lastStarted db t bound) =
    some value → LastCharted db t row value
  unrated : row.entry.profileId.bind (lastStarted db t bound) = none →
    row.rating = none → (historySeries db t row).snapPoints = [] →
      (historySeries db t row).snapBaseline = none

section Current

variable {db : Database} {t : Tournament} {bound : Instant}

/-- The last observation in current mode is the last snapshot that has a
current rating. -/
theorem fromSnapshots_eq (hrank : t.rankBy = .currentRating)
    (hend : t.endDate = some bound) (profileId : Int) :
    ((sortBy (fun snapshot : PlayerRatingSnapshot =>
        toLex (snapshot.observedAt, snapshot.id))
      ((snapshotsOf db t profileId).filter fun snapshot =>
        snapshot.observedAt ≤ bound && snapshot.currentRating.isSome)).getLast?).bind
          (·.currentRating) =
      (observations db t profileId).getLast?.map (·.2) := by
  have hread : (snapshotsOf db t profileId).filter (fun snapshot =>
      snapshot.observedAt ≤ bound && snapshot.currentRating.isSome) =
        (snapshotsOf db t profileId).filter fun snapshot =>
          (snapMetric t snapshot).isSome &&
            t.endDate.all fun bound => snapshot.observedAt ≤ bound := by
    apply List.filter_congr
    intro snapshot _
    rw [snapMetric, hrank, hend, Option.all_some, Bool.and_comm]
  rw [hread, ← chartedSnapshots, getLast?_observations]
  cases (chartedSnapshots db t profileId).getLast? with
  | none => rfl
  | some latest => simp [snapMetric, hrank]

/-- The frozen current rating: of the last game by start time, else of the last
observation, else the live one. -/
theorem frozenCurrent_eq (hrank : t.rankBy = .currentRating)
    (hend : t.endDate = some bound) (profileId : Int) :
    frozenCurrent db t bound profileId =
      (lastStarted db t bound profileId).or
        (((observations db t profileId).getLast?.map (·.2)).or
          ((liveRating db t profileId).map (·.currentRating))) := by
  rw [← fromSnapshots_eq hrank hend, frozenCurrent_eq_or, lastStarted]

theorem points_of_none_started (hend : t.endDate = some bound)
    {profileId : Int} (hnone : lastStarted db t bound profileId = none) :
    pointsByProfile db t profileId = [] := by
  rw [List.eq_nil_iff_forall_not_mem]
  intro point hpoint
  obtain ⟨game, hgame, _, _⟩ :=
    (mem_points hend).mp (List.mem_map_of_mem hpoint)
  have hne : sortBy (fun game : Game =>
      toLex (game.played.startedAt, game.played.matchId))
        (settledGames db t bound profileId) ≠ [] :=
    List.ne_nil_of_mem ((mem_sortBy _).mpr hgame)
  rw [lastStarted, List.getLast?_eq_some_getLast hne, Option.bind_some] at hnone
  have hlast := (mem_sortBy _).mp (List.getLast_mem hne)
  have hsettled := (List.mem_filter.mp hlast).2
  simp only [Bool.and_eq_true] at hsettled
  rw [hnone] at hsettled
  exact absurd hsettled.1.2 (by simp)

theorem chartedMetric_eq_some_iff (hrank : t.rankBy = .currentRating)
    (row : RosterRow) (value : Int) :
    chartedMetric db t row = some value ↔ LastCharted db t row value := by
  rw [chartedMetric_current hrank]
  unfold LastCharted
  cases hlogged : (historySeries db t row).points.getLast? with
  | none =>
      cases hobserved : (historySeries db t row).snapPoints.getLast? with
      | none =>
          have hentry := entryOld_of_no_points
            (List.getLast?_eq_none_iff.mp hlogged)
          have hsnap := List.getLast?_eq_none_iff.mp hobserved
          simp [Series.baselineCurrent, Series.snapBase, hentry, hsnap]
      | some observed => simp
  | some logged =>
      cases (historySeries db t row).snapPoints.getLast? with
      | none => simp
      | some observed =>
          simp only
          split <;> simp

/-- An entrant without a logged game is charted with its last observation, or
else its live rating; only an unrated entrant's early observations are not
carried in. -/
theorem chartedMetric_without_points (hrank : t.rankBy = .currentRating)
    {row : RosterRow} {profileId : Int}
    (hprofile : row.entry.profileId = some profileId)
    (hpoints : (historySeries db t row).points = []) :
    chartedMetric db t row =
        ((observations db t profileId).getLast?.map (·.2)).or
          (row.rating.map (·.currentRating)) ↔
      (row.rating = none → (historySeries db t row).snapPoints = [] →
        (historySeries db t row).snapBaseline = none) := by
  have hseries := historySeries_of_profile db t hprofile
  have hentry := entryOld_of_no_points hpoints
  rw [chartedMetric_current hrank, hpoints]
  cases hlast : (observations db t profileId).getLast? with
  | none =>
      have hnone := List.getLast?_eq_none_iff.mp hlast
      have hsnap : (historySeries db t row).snapPoints = [] := by
        rw [hseries]
        exact List.filter_eq_nil_iff.mpr (by simp [hnone])
      have hbaseline : (historySeries db t row).snapBaseline = none := by
        rw [hseries]
        simp [seriesByProfile, snapBaselineByProfile, hnone]
      simp [hsnap, hbaseline, Series.baselineCurrent, Series.snapBase, hentry,
        Function.comp_def]
  | some last =>
      cases hpre : t.preStart last.1 with
      | false =>
          have hsnap : (historySeries db t row).snapPoints.getLast? =
              some last := by
            rw [hseries]
            exact getLast?_snapPoints hlast hpre
          have hne : (historySeries db t row).snapPoints ≠ [] := by
            intro hnil
            simp [hnil] at hsnap
          simp [hsnap, hne]
      | true =>
          obtain ⟨hnil, hbase⟩ := snapBaseline_of_preStart hlast hpre
          have hsnap : (historySeries db t row).snapPoints = [] := by
            rw [hseries]
            exact hnil
          have hbaseline : (historySeries db t row).snapBaseline =
              some last.2 := by
            rw [hseries]
            exact hbase
          cases row.rating with
          | none => simp [hsnap, hbaseline, Series.baselineCurrent]
          | some rating =>
              simp [hsnap, hbaseline, Series.baselineCurrent, Series.snapBase,
                hentry]

/-- In current mode the chart of an entrant ends on its frozen rating exactly
when it has the rating of the last game by start time last. -/
theorem chartedMetric_frozen_current (hrank : t.rankBy = .currentRating)
    (hend : t.endDate = some bound) {row : RosterRow}
    (hrow : row ∈ rosterRows db t) :
    chartedMetric db t row =
        row.entry.profileId.bind (frozenCurrent db t bound) ↔
      CurrentEndsFrozen db t bound row := by
  cases hprofile : row.entry.profileId with
  | none =>
      have hseries := historySeries_unlinked db t hprofile
      have hunrated := unrated_of_unlinked hrow hprofile
      refine iff_of_true ?_
        ⟨by simp [hprofile], fun _ _ _ => by rw [hseries]; rfl⟩
      rw [chartedMetric_current hrank, hseries, hunrated]
      rfl
  | some profileId =>
      have hbind : row.entry.profileId.bind (lastStarted db t bound) =
          lastStarted db t bound profileId := by rw [hprofile, Option.bind_some]
      rw [Option.bind_some, frozenCurrent_eq hrank hend,
        ← rating_of_listed hrow hprofile]
      cases hstarted : lastStarted db t bound profileId with
      | some value =>
          rw [hstarted] at hbind
          rw [Option.some_or, chartedMetric_eq_some_iff hrank]
          constructor
          · intro hlast
            refine ⟨fun value' hvalue => ?_, fun hnone => ?_⟩
            · cases hbind.symm.trans hvalue
              exact hlast
            · cases hbind.symm.trans hnone
          · intro hends
            exact hends.started value hbind
      | none =>
          rw [hstarted] at hbind
          have hpoints : (historySeries db t row).points = [] := by
            rw [historySeries_of_profile db t hprofile]
            exact points_of_none_started hend hstarted
          rw [Option.none_or,
            chartedMetric_without_points hrank hprofile hpoints]
          constructor
          · intro hunrated
            exact ⟨by simp [hbind], fun _ => hunrated⟩
          · intro hends
            exact hends.unrated hbind

end Current

/-- What an entrant's records must say for the chart to end on its frozen
metric. -/
def EndsFrozen (db : Database) (t : Tournament) (bound : Instant)
    (row : RosterRow) : Prop :=
  match t.rankBy with
  | .currentRating => CurrentEndsFrozen db t bound row
  | .peakRating => PeakEndsFrozen db t bound row

/-- The last bucket carries for every entrant the ranked rating its row of the
table surfaces. -/
def EndsOnMetrics (db : Database) (t : Tournament) (names : Dict Int String)
    (now : Instant) : Prop :=
  ∀ charted ∈ (getStandingsHistory db t).lastLines t,
    ∀ listed ∈ tableLines db t names now,
      charted.1 = listed.1 → charted.2 = listed.2

/-- After the window has closed the history chart ends on the frozen table
exactly when the records of every entrant say so. -/
theorem history_ends_on_frozen_table_iff {db : Database} (hdb : db.Consistent)
    {t : Tournament} {now bound : Instant}
    (hclosed : closedBound t now = some bound)
    (hrecorded : ∀ row ∈ rosterRows db t, ∀ rating, row.rating = some rating →
      Recorded db t bound rating.profileId)
    (hbuckets : (getStandingsHistory db t).buckets ≠ [])
    (names : Dict Int String) :
    EndsOnMetrics db t names now ↔
      ∀ row ∈ rosterRows db t, EndsFrozen db t bound row := by
  have hend := (closedBound_eq_some_iff.mp hclosed).1
  have hmetric : ∀ row ∈ rosterRows db t,
      chartedMetric db t row = tableMetric db t now row ↔
        EndsFrozen db t bound row := by
    intro row hrow
    have hfrozen : tableMetric db t now row =
        row.entry.profileId.bind (frozenMetric db t bound) := by
      rw [tableMetric, hclosed]
    rw [hfrozen, EndsFrozen]
    cases hrank : t.rankBy with
    | currentRating =>
        rw [frozenMetric_current hrank]
        exact chartedMetric_frozen_current hrank hend hrow
    | peakRating =>
        rw [frozenMetric_peak hrank]
        exact chartedMetric_frozen_peak hrank hend hrow (hrecorded row hrow)
  have hlisted : ∀ row, row ∈ orderedRows db t now ↔ row ∈ rosterRows db t := by
    intro row
    rw [orderedRows_eq hdb.name_unique, mem_sortBy]
  unfold EndsOnMetrics
  rw [lastLines_eq hbuckets, tableLines_rows hdb.name_unique]
  constructor
  · intro hends row hrow
    exact (hmetric row hrow).mp (hends _
      (List.mem_map_of_mem ((mem_sortBy _).mpr hrow)) _
      (List.mem_map_of_mem ((hlisted row).mpr hrow)) rfl)
  · intro hrows charted hcharted listed hlist hid
    obtain ⟨row, hrow, rfl⟩ := List.mem_map.mp hcharted
    obtain ⟨row', hrow', rfl⟩ := List.mem_map.mp hlist
    have hmem := (mem_sortBy _).mp hrow
    have hsame : row = row' := List.inj_on_of_nodup_map
      (rosterRows_nodup db t) hmem ((hlisted row').mp hrow') hid
    rw [← hsame]
    exact (hmetric row hmem).mpr (hrows row hmem)

namespace HistoryFrozenWitness

open Factory

/-- The window was open from 300 to 1000. -/
def cup : Tournament := makeTournament .peakRating (some 300) (some 1000)

/-- The peaks were observed before the window, and no game in it passed
them. -/
def kept : Database :=
  seed [makePlayerRating 1 1500 1600, makePlayerRating 2 1520 1550]
    [makePlayerRatingSnapshot 1 1 1500 1600 100,
      makePlayerRatingSnapshot 2 2 1520 1550 100]
    [makeMatch 10 400 500] [makeMatchPlayer 10 2 1500 1520]

/-- The first entrant's peak was rebased down before the window, and passed
after it. -/
def passed : Database :=
  seed [makePlayerRating 1 1640 1650, makePlayerRating 2 1490 1500]
    [makePlayerRatingSnapshot 1 1 1500 1600 100,
      makePlayerRatingSnapshot 2 2 1490 1500 100,
      makePlayerRatingSnapshot 3 1 1500 1550 200,
      makePlayerRatingSnapshot 4 1 1640 1650 1500] [] []

theorem kept_consistent : kept.Consistent := by
  constructor <;> decide

theorem passed_consistent : passed.Consistent := by
  constructor <;> decide

end HistoryFrozenWitness

open HistoryFrozenWitness in
/-- Peaks observed before the window and not passed in it are charted as they
are frozen. -/
theorem history_ends_on_frozen_table_iff_kept :
    kept.Consistent ∧ closedBound cup 2000 = some 1000 ∧
      (getStandingsHistory kept cup).buckets ≠ [] ∧
        EndsOnMetrics kept cup [] 2000 := by
  have hrecorded : ∀ row ∈ rosterRows kept cup, ∀ rating ∈ row.rating,
      ∃ snapshot ∈ snapshotsOf kept cup rating.profileId,
        snapshot.observedAt ≤ (1000 : Instant) := by decide
  have hread : ∀ row ∈ rosterRows kept cup,
      ∀ value ∈ freezeOnly kept cup 1000 row,
        ∃ charted ∈ chartReads kept cup row,
          cut (row.rating.map (·.maxRating)) value ≤ charted := by decide
  have hentered : ∀ row ∈ rosterRows kept cup,
      ∀ value ∈ enteredWith kept cup row,
        ∃ read ∈ row.entry.profileId.elim [] (freezeReads kept cup 1000),
          cut (row.rating.map (·.maxRating)) value ≤ read := by decide
  have hclosed : closedBound cup 2000 = some 1000 := by decide
  refine ⟨kept_consistent, hclosed, by decide, ?_⟩
  refine (history_ends_on_frozen_table_iff kept_consistent hclosed hrecorded
    (by decide) []).mpr ?_
  exact fun row hrow => ⟨hread row hrow, hentered row hrow⟩

open HistoryFrozenWitness in
/-- The freeze takes the peak observed before it was rebased down, the chart
the one carried in. -/
theorem rebased_peak_not_carried_in :
    ¬ ∀ (db : Database) (t : Tournament) (now bound : Instant)
      (names : Dict Int String), db.Consistent →
        closedBound t now = some bound → SnapshotsFollow db t →
          (∀ row ∈ rosterRows db t, ∀ rating, row.rating = some rating →
            Recorded db t bound rating.profileId) →
              (getStandingsHistory db t).buckets ≠ [] →
                EndsOnMetrics db t names now := by
  intro hclaim
  have hfollow : SnapshotsFollow passed cup := by
    unfold SnapshotsFollow
    decide
  have hrecorded : ∀ row ∈ rosterRows passed cup, ∀ rating ∈ row.rating,
      ∃ snapshot ∈ snapshotsOf passed cup rating.profileId,
        snapshot.observedAt ≤ (1000 : Instant) := by decide
  have hends := hclaim passed cup 2000 1000 [] passed_consistent (by decide)
    hfollow hrecorded (by decide) (1, some 1550) (by decide) (1, some 1600)
    (by decide) rfl
  cases hends

end LiveStandings
