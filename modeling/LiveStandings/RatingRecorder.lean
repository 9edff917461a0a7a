/-
The recorder of ratings.  Every stats tick enters a pair's ratings in the
snapshot log when they differ from the last ones entered, and overwrites its
live row; over a run the log is the series of reported ratings without its
repetitions, and it ends in what the live row says.
-/
import LiveStandings.Pollers
import LiveStandings.Library.ChangeLog
import LiveStandings.Library.Runs
import Mathlib.Data.List.Infix

namespace LiveStandings

open KeyedTable PyJson Ranking ChangeLog Runs Fallible

/-- The recorded pair of ratings. -/
def PlayerRatingSnapshot.observation (row : PlayerRatingSnapshot) :
    Int × Option Int :=
  (row.maxRating, row.currentRating)

/-- The pair of ratings of a live row. -/
def PlayerRating.observation (row : PlayerRating) : Int × Option Int :=
  (row.maxRating, some row.currentRating)

/-- The snapshots of a pair in `(observed_at, id)` order. -/
def snapshotSequence (db : Database) (pair : Int × Int) :
    List PlayerRatingSnapshot :=
  (sortBy (fun row => toLex (row.observedAt, row.id))
    db.playerRatingSnapshots.rows).filter fun row =>
      row.profileId = pair.1 && row.leaderboardId = pair.2

/-- What was recorded of a pair. -/
def recordedValues (db : Database) (pair : Int × Int) :
    List (Int × Option Int) :=
  (snapshotSequence db pair).map (·.observation)

/-- What was reported of a pair. -/
def reportedValues (pair : Int × Int) (ratings : List PlayerRating) :
    List (Int × Option Int) :=
  (ratings.filter (·.key = pair)).map (·.observation)

/-- The ratings a stats tick reports: those of its payload, if it commits. -/
def reportedBy (now : Instant) (profileIds : List Int) (payload : Json)
    (db : Database) : List PlayerRating :=
  match tickPlayerStats now profileIds payload db, boundStats now payload with
  | .ok _, .ok (_, ratings) => if profileIds.isEmpty then [] else ratings
  | _, _ => []

/-- The database and the clock of the last tick. -/
structure Recorder where
  db : Database
  clock : Instant

/-- A stats tick of a payload that rates no pair twice, or anything that
writes neither table, each with the ratings it reports. -/
inductive RecorderStep : Recorder → List PlayerRating → Recorder → Prop where
  | tick {s : Recorder} {now : Instant} {profileIds : List Int}
      {payload : Json} :
      s.clock ≤ now →
      (∀ players ratings, boundStats now payload = .ok (players, ratings) →
        (ratings.map PlayerRating.key).Nodup) →
      RecorderStep s (reportedBy now profileIds payload s.db)
        ⟨committedState s.db (tickPlayerStats now profileIds payload s.db), now⟩
  | other {s : Recorder} {db' : Database} {now : Instant} :
      s.clock ≤ now →
      db'.playerRatings = s.db.playerRatings →
      db'.playerRatingSnapshots = s.db.playerRatingSnapshots →
      RecorderStep s [] ⟨db', now⟩

section Tick

variable {db db' : Database} {now : Instant}

/-- A tick commits what it reports, or nothing. -/
theorem reportedBy_cases (now : Instant) (profileIds : List Int)
    (payload : Json) (db : Database) :
    (reportedBy now profileIds payload db = [] ∧
      committedState db (tickPlayerStats now profileIds payload db) = db) ∨
    ∃ players written nudges,
      boundStats now payload =
          .ok (players, reportedBy now profileIds payload db) ∧
        writeStats db now players (reportedBy now profileIds payload db) =
          .ok written ∧
        committedState db (tickPlayerStats now profileIds payload db) =
          { written with nudgeVersions := nudges } := by
  rcases tickPlayerStats_cases now profileIds payload db with
    ⟨error, htick⟩ | ⟨hnone, htick⟩ |
      ⟨players, ratings, written, hsome, hbound, hwrite, htick⟩
  · left
    rw [reportedBy, htick]
    exact ⟨rfl, rfl⟩
  · left
    rw [reportedBy, htick]
    cases boundStats now payload with
    | error error => exact ⟨rfl, rfl⟩
    | ok bound => exact ⟨if_pos hnone, rfl⟩
  · right
    rw [commitNudge_eq] at htick
    have hreported : reportedBy now profileIds payload db = ratings := by
      simp [reportedBy, htick, hbound, hsome]
    rw [hreported, htick]
    exact ⟨players, written, _, hbound, hwrite, rfl⟩

theorem ratingChanged_eq (db : Database) (rating : PlayerRating) :
    ratingChanged db rating =
      decide ((recordedValues db rating.key).getLast? ≠ some rating.observation) := by
  rw [recordedValues, List.getLast?_map]
  rfl

theorem numberSnapshots_increasing (now : Instant) (id : Int)
    (ratings : List PlayerRating) :
    (numberSnapshots now id ratings).Pairwise fun earlier later =>
      toLex (earlier.observedAt, earlier.id) ≤
        toLex (later.observedAt, later.id) := by
  induction ratings generalizing id with
  | nil => exact .nil
  | cons rating ratings ih =>
      apply List.Pairwise.cons
      · intro later hlater
        have hstamp := (mem_numberSnapshots hlater).1
        have hid := (numberSnapshots_ids now (id + 1) ratings).2 later hlater
        apply Prod.Lex.toLex_mono
        constructor
        · exact hstamp.ge
        · show id ≤ later.id
          omega
      · exact ih (id + 1)

theorem observation_numberSnapshots (now : Instant) (id : Int)
    (ratings : List PlayerRating) (pair : Int × Int) :
    ((numberSnapshots now id ratings).filter fun row =>
        row.profileId = pair.1 && row.leaderboardId = pair.2).map (·.observation) =
      reportedValues pair ratings := by
  induction ratings generalizing id with
  | nil => rfl
  | cons rating ratings ih =>
      have hpair : (decide (rating.profileId = pair.1) &&
          decide (rating.leaderboardId = pair.2)) =
            decide (rating.key = pair) := by
        rw [← Bool.decide_and]
        exact decide_eq_decide.mpr (@Prod.ext_iff _ _ rating.key pair).symm
      have htail := ih (id + 1)
      simp only [numberSnapshots, reportedValues, List.filter_cons, hpair] at htail ⊢
      split
      · rw [List.map_cons, List.map_cons, htail]
        rfl
      · exact htail

end Tick

/-- The log is in order and observed by now. -/
structure Recorder.InOrder (s : Recorder) : Prop where
  ordered : s.db.playerRatingSnapshots.rows.Pairwise fun earlier later =>
    toLex (earlier.observedAt, earlier.id) ≤ toLex (later.observedAt, later.id)
  observed : ∀ row ∈ s.db.playerRatingSnapshots.rows, row.observedAt ≤ s.clock

/-- After these reports the log of a pair is the change log of its values and
its live row carries the last of them. -/
structure Recorder.Exact (s : Recorder) (reported : List PlayerRating)
    (pair : Int × Int) : Prop where
  recorded : recordedValues s.db pair =
    (reportedValues pair reported).foldl record []
  live : reportedValues pair reported ≠ [] →
    (s.db.playerRatings.find? pair).map (·.observation) =
      (reportedValues pair reported).getLast?

section Step

variable {s : Recorder} {now : Instant} {players : List Player}
variable {ratings : List PlayerRating} {written : Database}

theorem Recorder.InOrder.recordedValues_eq (hinorder : s.InOrder)
    (pair : Int × Int) :
    recordedValues s.db pair =
      (s.db.playerRatingSnapshots.rows.filter fun row =>
        row.profileId = pair.1 && row.leaderboardId = pair.2).map (·.observation) := by
  rw [recordedValues, snapshotSequence, sortBy_of_ordered _ hinorder.ordered]

theorem Recorder.InOrder.write (hinorder : s.InOrder) (hnow : s.clock ≤ now)
    (hwrite : writeStats s.db now players ratings = .ok written) :
    Recorder.InOrder ⟨written, now⟩ := by
  obtain ⟨table, hrows, rfl⟩ := writeStats_eq hwrite
  have hnumbered := numberSnapshots_ids now (lastSnapshotId s.db + 1)
    (ratings.filter (ratingChanged s.db))
  constructor
  · show table.rows.Pairwise _
    rw [hrows, List.pairwise_append]
    refine ⟨hinorder.ordered, numberSnapshots_increasing .., ?_⟩
    intro earlier hearlier later hlater
    have hstamp := (mem_numberSnapshots hlater).1
    have hobserved := hinorder.observed earlier hearlier
    have hid := hnumbered.2 later hlater
    have hlast : earlier.id ≤ lastSnapshotId s.db :=
      le_foldr_max (List.mem_map_of_mem hearlier)
    apply Prod.Lex.toLex_mono
    constructor
    · exact hstamp ▸ hobserved.trans hnow
    · show earlier.id ≤ later.id
      omega
  · intro row hrow
    rw [hrows, List.mem_append] at hrow
    rcases hrow with hold | hnew
    · exact (hinorder.observed row hold).trans hnow
    · exact (mem_numberSnapshots hnew).1.le

theorem Recorder.InOrder.recordedValues_write (hinorder : s.InOrder)
    (hnow : s.clock ≤ now) (hnodup : (ratings.map PlayerRating.key).Nodup)
    (hwrite : writeStats s.db now players ratings = .ok written)
    (pair : Int × Int) :
    recordedValues written pair =
      (reportedValues pair ratings).foldl record (recordedValues s.db pair) := by
  have hafter := (hinorder.write hnow hwrite).recordedValues_eq pair
  obtain ⟨table, hrows, rfl⟩ := writeStats_eq hwrite
  rw [hafter, hrows, List.filter_append, List.map_append,
    observation_numberSnapshots, ← hinorder.recordedValues_eq, reportedValues,
    List.filter_comm, reportedValues, filter_key_eq hnodup]
  cases hfind : ratings.find? fun row => decide (row.key = pair) with
  | none => simp
  | some rating =>
      have hkey : rating.key = pair := by
        simpa using List.find?_some hfind
      by_cases hlast :
          (recordedValues s.db pair).getLast? = some rating.observation
      · simp [record, ratingChanged_eq, hkey, hlast]
      · simp [record, ratingChanged_eq, hkey, hlast]

theorem find?_overwriteAll_observation (table : Table PlayerRating.key)
    (ratings : List PlayerRating) (pair : Int × Int) :
    ((table.overwriteAll ratings).find? pair).map (·.observation) =
      (reportedValues pair ratings).getLast?.or
        ((table.find? pair).map (·.observation)) := by
  have hlast : lastUnder PlayerRating.key pair ratings =
      (ratings.filter (·.key = pair)).getLast? := by
    rw [lastUnder, ← List.head?_filter, List.filter_reverse, List.head?_reverse]
  rw [Table.find?_overwriteAll, hlast, Option.map_or, reportedValues,
    List.getLast?_map]

theorem reportedValues_append (pair : Int × Int)
    (earlier later : List PlayerRating) :
    reportedValues pair (earlier ++ later) =
      reportedValues pair earlier ++ reportedValues pair later := by
  rw [reportedValues, List.filter_append, List.map_append]
  rfl

variable {s' : Recorder} {reported : List PlayerRating}

theorem RecorderStep.inOrder (hstep : RecorderStep s reported s')
    (hinorder : s.InOrder) : s'.InOrder := by
  cases hstep with
  | @tick now profileIds payload hnow hunique =>
      rcases reportedBy_cases now profileIds payload s.db with
        ⟨_, hdb⟩ | ⟨players, written, nudges, _, hwrite, hdb⟩
      · rw [hdb]
        exact ⟨hinorder.ordered,
          fun row hrow => (hinorder.observed row hrow).trans hnow⟩
      · rw [hdb]
        have hwritten := hinorder.write hnow hwrite
        exact ⟨hwritten.ordered, hwritten.observed⟩
  | other hnow _ hsnapshots =>
      constructor
      · exact hsnapshots ▸ hinorder.ordered
      · intro row hrow
        rw [hsnapshots] at hrow
        exact (hinorder.observed row hrow).trans hnow

/-- What one step does to the log and the live row of a pair. -/
theorem RecorderStep.recorded (hstep : RecorderStep s reported s')
    (hinorder : s.InOrder) (pair : Int × Int) :
    recordedValues s'.db pair =
        (reportedValues pair reported).foldl record
          (recordedValues s.db pair) ∧
      (s'.db.playerRatings.find? pair).map (·.observation) =
        (reportedValues pair reported).getLast?.or
          ((s.db.playerRatings.find? pair).map (·.observation)) := by
  cases hstep with
  | @tick now profileIds payload hnow hunique =>
      rcases reportedBy_cases now profileIds payload s.db with
        ⟨hnone, hdb⟩ | ⟨players, written, nudges, hbound, hwrite, hdb⟩
      · rw [hdb, hnone]
        exact ⟨rfl, rfl⟩
      · rw [hdb]
        constructor
        · exact hinorder.recordedValues_write hnow (hunique _ _ hbound) hwrite
            pair
        · obtain ⟨table, _, rfl⟩ := writeStats_eq hwrite
          exact find?_overwriteAll_observation ..
  | other _ hratings hsnapshots =>
      constructor
      · rw [recordedValues, snapshotSequence, hsnapshots]
        rfl
      · rw [hratings]
        rfl

theorem RecorderStep.appends (hstep : RecorderStep s reported s') :
    s.db.playerRatingSnapshots.rows <+: s'.db.playerRatingSnapshots.rows := by
  cases hstep with
  | @tick now profileIds payload _ _ =>
      rcases reportedBy_cases now profileIds payload s.db with
        ⟨_, hdb⟩ | ⟨players, written, nudges, _, hwrite, hdb⟩
      · rw [hdb]
      · obtain ⟨table, hrows, rfl⟩ := writeStats_eq hwrite
        rw [hdb]
        exact ⟨_, hrows.symm⟩
  | other _ _ hsnapshots =>
      rw [hsnapshots]

end Step

section Run

variable {start s : Recorder} {reported : List (List PlayerRating)}

theorem run_inOrder (hempty : start.db.playerRatingSnapshots.rows = [])
    (hrun : Run RecorderStep start reported s) : s.InOrder := by
  apply hrun.invariant Recorder.InOrder
  · constructor
    · rw [hempty]
      exact .nil
    · intro row hrow
      rw [hempty] at hrow
      cases hrow
  · intro s reported s' hinorder hstep
    exact hstep.inOrder hinorder

theorem run_exact (hempty : start.db.playerRatingSnapshots.rows = [])
    (hrun : Run RecorderStep start reported s) (pair : Int × Int) :
    s.Exact reported.flatten pair := by
  induction hrun with
  | refl =>
      constructor
      · rw [recordedValues, snapshotSequence, hempty]
        rfl
      · intro hreported
        exact absurd rfl hreported
  | @snoc earlier s s' last hrun hstep ih =>
      have hinorder := run_inOrder hempty hrun
      obtain ⟨hrecorded, hlive⟩ := hstep.recorded hinorder pair
      rw [List.flatten_append, List.flatten_singleton]
      constructor
      · rw [hrecorded, ih.recorded, reportedValues_append, List.foldl_append]
      · intro hreported
        rw [hlive, reportedValues_append, List.getLast?_append]
        by_cases hnone : reportedValues pair earlier.flatten = []
        · have hlast : reportedValues pair last ≠ [] := by
            simpa [reportedValues_append, hnone] using hreported
          rw [List.getLast?_eq_some_getLast hlast]
          rfl
        · rw [ih.live hnone]

end Run

/-- The recorder is exact.  After any run from an empty log, for every pair
ever reported: the latest snapshot carries the ratings of the live row, the
snapshots are the reported ratings without consecutive repetitions; and no
later step changes or removes a snapshot. -/
theorem recorder_exact {start s : Recorder}
    {reported : List (List PlayerRating)}
    (hempty : start.db.playerRatingSnapshots.rows = [])
    (hrun : Run RecorderStep start reported s) :
    (∀ pair ∈ reported.flatten.map PlayerRating.key,
      (∃ rating, s.db.playerRatings.find? pair = some rating ∧
        (latestSnapshot s.db pair.1 pair.2).map (·.observation) =
          some rating.observation) ∧
      (snapshotSequence s.db pair).map (·.observation) =
        (reportedValues pair reported.flatten).destutter (· ≠ ·)) ∧
      ∀ later s', Run RecorderStep s later s' →
        s.db.playerRatingSnapshots.rows <+:
          s'.db.playerRatingSnapshots.rows := by
  constructor
  · intro pair hpair
    have hexact := run_exact hempty hrun pair
    have hreported : reportedValues pair reported.flatten ≠ [] := by
      obtain ⟨rating, hrating, hkey⟩ := List.mem_map.mp hpair
      apply List.ne_nil_of_mem
      exact List.mem_map_of_mem (List.mem_filter.mpr ⟨hrating, by simpa⟩)
    have hlive := hexact.live hreported
    have hlast : (latestSnapshot s.db pair.1 pair.2).map (·.observation) =
        (reportedValues pair reported.flatten).getLast? := by
      have hlog := congrArg List.getLast? hexact.recorded
      rw [getLast?_recordAll, List.getLast?_nil, Option.or_none, recordedValues,
        List.getLast?_map] at hlog
      exact hlog
    constructor
    · rw [List.getLast?_eq_some_getLast hreported] at hlive hlast
      obtain ⟨rating, hfind, hvalues⟩ := Option.map_eq_some_iff.mp hlive
      exact ⟨rating, hfind, hlast.trans (congrArg some hvalues.symm)⟩
    · exact hexact.recorded.trans (recordAll_eq_destutter _)
  · intro later s' hlater
    apply hlater.invariant fun reached =>
      s.db.playerRatingSnapshots.rows <+: reached.db.playerRatingSnapshots.rows
    · exact List.prefix_rfl
    · intro reached ratings next hreached hstep
      exact hreached.trans hstep.appends

namespace RecorderWitness

/-- A poll of one player on one ladder. -/
def payload (rating : Int) : Json :=
  .obj [("statGroups", .arr [.obj [("id", .int 7),
      ("members", .arr [.obj [("profile_id", .int 1)]])]]),
    ("leaderboardStats", .arr [.obj [("statgroup_id", .int 7),
      ("leaderboard_id", .int 3), ("rating", .int rating),
      ("highestrating", .int 1100)]])]

/-- What a poll of the player leaves. -/
def polled (s : Recorder) (now : Instant) (rating : Int) : Recorder :=
  ⟨committedState s.db (tickPlayerStats now [1] (payload rating) s.db), now⟩

def start : Recorder := ⟨.empty, 0⟩

def first : Recorder := polled start 1 1000

def second : Recorder := polled first 2 1050

def third : Recorder := polled second 3 1050

theorem step_polled (s : Recorder) (now : Instant) (rating : Int)
    (hnow : s.clock ≤ now)
    (hkeys : (boundStats now (payload rating)).toOption.map
      (fun bound => bound.2.map PlayerRating.key) = some [(1, 3)]) :
    RecorderStep s (reportedBy now [1] (payload rating) s.db)
      (polled s now rating) := by
  apply RecorderStep.tick hnow
  intro players ratings hbound
  rw [hbound] at hkeys
  have hratings : ratings.map PlayerRating.key = [(1, 3)] :=
    Option.some.inj hkeys
  rw [hratings]
  exact List.nodup_singleton _

end RecorderWitness

open RecorderWitness in
/-- Of three polls the last repeats the second. -/
theorem recorder_exact_polls :
    (snapshotSequence third.db (1, 3)).map (·.observation) =
      [(1100, some 1000), (1100, some 1050)] := by
  have hfirst := step_polled start 1 1000 (by decide) (by decide)
  have hsecond := step_polled first 2 1050 (by decide) (by decide)
  have hthird := step_polled second 3 1050 (by decide) (by decide)
  have hrun := ((Run.refl.snoc hfirst).snoc hsecond).snoc hthird
  have hexact := (recorder_exact rfl hrun).1 (1, 3) (by decide)
  exact hexact.2.trans (by decide)

end LiveStandings
