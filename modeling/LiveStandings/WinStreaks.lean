/-
Streaks.  The pass behind the longest win streak keeps five values; they are
the lengths and the end dates of two segments, the best all-win segment and
the open one.  The counts of a record agree with each other.
-/
import LiveStandings.Records
import LiveStandings.Library.LongestRun

namespace LiveStandings

open LongestRun PyJson

/-- A newest-first outcome with the completion time of its match. -/
abbrev DatedOutcome := MatchOutcome × Option Instant

/-- The outcome is a win. -/
abbrev Won (pair : DatedOutcome) : Prop := pair.1 = .win

/-- The five values, for the two segments of a scan. -/
structure WinRun.Tracks (run : WinRun) (segments : Scan DatedOutcome) :
    Prop where
  bestLen : run.bestLen = segments.best.length
  bestStart : run.bestStart = segments.best.getLast?.bind (·.2)
  bestEnd : run.bestEnd = segments.best.head?.bind (·.2)
  runLen : run.runLen = segments.current.length
  runEnd : segments.current ≠ [] →
    run.runEnd = segments.current.head?.bind (·.2)

theorem WinRun.Tracks.runEnd_concat {run : WinRun}
    {segments : Scan DatedOutcome} (htracks : run.Tracks segments)
    (pair : DatedOutcome) :
    (if run.runLen = 0 then pair.2 else run.runEnd) =
      (segments.current ++ [pair]).head?.bind (·.2) := by
  cases hcurrent : segments.current with
  | nil => simp [htracks.runLen, hcurrent]
  | cons newest older =>
      have hopen : segments.current ≠ [] := by simp [hcurrent]
      rw [htracks.runLen, hcurrent, if_neg (by simp), htracks.runEnd hopen,
        hcurrent, List.cons_append, List.head?_cons, List.head?_cons]

theorem WinRun.Tracks.push {run : WinRun} {segments : Scan DatedOutcome}
    (htracks : run.Tracks segments) (pair : DatedOutcome) :
    (run.push pair.1 pair.2).Tracks (segments.push Won pair) := by
  obtain ⟨outcome, completedAt⟩ := pair
  cases outcome with
  | loss =>
      rw [Scan.push, if_neg (by simp)]
      exact ⟨htracks.bestLen, htracks.bestStart, htracks.bestEnd, rfl,
        fun hopen => absurd rfl hopen⟩
  | win =>
      have hend := htracks.runEnd_concat (.win, completedAt)
      rw [Scan.push, if_pos rfl, WinRun.push, ← htracks.bestLen,
        ← htracks.runLen]
      by_cases hpass : run.bestLen < run.runLen + 1
      · rw [if_pos hpass, if_pos hpass]
        exact ⟨by simp [htracks.runLen], by simp, hend,
          by simp [htracks.runLen], fun _ => hend⟩
      · rw [if_neg hpass, if_neg hpass]
        exact ⟨htracks.bestLen, htracks.bestStart, htracks.bestEnd,
          by simp [htracks.runLen], fun _ => hend⟩

theorem tracks_foldl (outcomes : List DatedOutcome) {run : WinRun}
    {segments : Scan DatedOutcome} (htracks : run.Tracks segments) :
    (outcomes.foldl (fun (run : WinRun) pair => run.push pair.1 pair.2)
      run).Tracks (outcomes.foldl (Scan.push Won) segments) := by
  induction outcomes generalizing run segments with
  | nil => exact htracks
  | cons pair rest ih => exact ih (htracks.push pair)

/-- The length and the end dates of the most recent of the longest all-win
segments. -/
structure PeakRun (outcomes : List DatedOutcome)
    (found : Nat × Option Instant × Option Instant) : Prop where
  segment : ∃ newer run, Longest Won outcomes newer run ∧
    found = (run.length, run.getLast?.bind (·.2), run.head?.bind (·.2))
  without : (∀ pair ∈ outcomes, ¬Won pair) → found = (0, none, none)

theorem longestWinRun_peak (outcomes : List DatedOutcome) :
    PeakRun outcomes (longestWinRun outcomes) := by
  have hstart : WinRun.Tracks ⟨0, none, none, 0, none⟩
      (⟨[], []⟩ : Scan DatedOutcome) :=
    ⟨rfl, rfl, rfl, rfl, fun hopen => absurd rfl hopen⟩
  have htracks : WinRun.Tracks _ (scan Won outcomes) :=
    tracks_foldl outcomes hstart
  have hfound : longestWinRun outcomes = ((scan Won outcomes).best.length,
      (scan Won outcomes).best.getLast?.bind (·.2),
      (scan Won outcomes).best.head?.bind (·.2)) := by
    rw [← htracks.bestLen, ← htracks.bestStart, ← htracks.bestEnd]
    rfl
  obtain ⟨newer, hlongest⟩ := longest_scan (p := Won) outcomes
  refine ⟨⟨newer, _, hlongest, hfound⟩, ?_⟩
  intro hnone
  have hempty : (scan Won outcomes).best = [] := by
    refine List.eq_nil_iff_forall_not_mem.mpr fun pair hpair => ?_
    have hmem : pair ∈ outcomes :=
      hlongest.within.subset (List.mem_append_right newer hpair)
    exact hnone pair hmem (hlongest.all pair hpair)
  rw [hfound, hempty]
  rfl

/-- A leading run of wins is no longer than the longest one, which is no
longer than there are wins. -/
theorem PeakRun.bounds {outcomes : List DatedOutcome}
    {found : Nat × Option Instant × Option Instant}
    (hpeak : PeakRun outcomes found) :
    (outcomes.takeWhile Won).length ≤ found.1 ∧
      found.1 ≤ outcomes.countP Won := by
  obtain ⟨newer, run, hlongest, rfl⟩ := hpeak.segment
  exact ⟨hlongest.longest [] _ (runAt_takeWhile outcomes),
    hlongest.toRunAt.length_le_countP⟩

/-- The dated outcomes of the games in the window, newest first. -/
def windowOutcomes (db : Database) (t : Tournament) (profileId : Int) :
    List DatedOutcome :=
  (windowGames db t profileId).filterMap fun game =>
    game.row.outcome.map fun outcome => (outcome, game.played.completedAt)

/-- `_longest_win_streak_run`. -/
def longestWinStreakRun (db : Database) (t : Tournament) (profileId : Int) :
    Nat × Option Instant × Option Instant :=
  longestWinRun (windowOutcomes db t profileId)

theorem isSome_outcome_of_mem_windowGames {db : Database} {t : Tournament}
    {profileId : Int} {game : Game}
    (hgame : game ∈ windowGames db t profileId) :
    game.row.outcome.isSome := by
  have hdecided := (Ranking.mem_sortBy _).mp (List.mem_of_mem_filter hgame)
  have hfilter := (List.mem_filter.mp hdecided).2
  exact (Bool.and_eq_true _ _ ▸ hfilter).2

theorem map_fst_windowOutcomes (db : Database) (t : Tournament)
    (profileId : Int) :
    (windowOutcomes db t profileId).map (·.1) =
      (windowGames db t profileId).filterMap (·.row.outcome) := by
  rw [windowOutcomes, List.map_filterMap]
  apply List.filterMap_congr
  intro game _
  cases game.row.outcome <;> rfl

/-- The signed length of the maximal leading run of one outcome. -/
structure LeadingRun (outcomes : List MatchOutcome) (streak : Int) : Prop where
  exact : ∃ lead run older, outcomes = run ++ older ∧
    (∀ outcome ∈ run, outcome = lead) ∧ older.head? ≠ some lead ∧
    (run = [] → outcomes = []) ∧
    streak = if lead = .win then (run.length : Int) else -run.length

theorem leadingStreak_run (outcomes : List MatchOutcome) :
    LeadingRun outcomes (leadingStreak outcomes) := by
  cases outcomes with
  | nil => exact ⟨.win, [], [], rfl, by simp, by simp, by simp, rfl⟩
  | cons lead rest =>
      refine ⟨lead, _, _,
        (List.takeWhile_append_dropWhile (p := (· = lead))).symm, ?_, ?_, ?_,
        rfl⟩
      · intro outcome houtcome
        simpa using List.mem_takeWhile_imp houtcome
      · intro hlead
        have hnot := List.head?_dropWhile_not (· = lead) (lead :: rest)
        rw [hlead] at hnot
        simp at hnot
      · intro hempty
        simp at hempty

/-- The counts of a record and its streaks, against the games it is made
from. -/
structure ExactRecord (db : Database) (t : Tournament) (profileId : Int)
    (record : TournamentRecord) : Prop where
  games : record.gamesPlayed = (windowGames db t profileId).length
  wins : record.wins = (windowGames db t profileId).countP
    (·.row.outcome = some .win)
  split : record.gamesPlayed = record.wins + record.losses
  streak : LeadingRun
    ((windowGames db t profileId).filterMap (·.row.outcome)) record.streak
  longest :
    record.longestWinStreak = (longestWinStreakRun db t profileId).1
  current : record.streak ≤ record.longestWinStreak
  counted : record.longestWinStreak ≤ record.wins

/-- The counts of a record, with or without games. -/
structure Counted (record : TournamentRecord) (pairs : List DatedOutcome) :
    Prop where
  games : record.gamesPlayed = (pairs.map (·.1)).length
  wins : record.wins = (pairs.map (·.1)).countP (· = .win)
  losses : record.losses = record.gamesPlayed - record.wins
  streak : record.streak = leadingStreak (pairs.map (·.1))
  longest : record.longestWinStreak = (longestWinRun pairs).1

theorem tournamentRecord_counted (db : Database) (t : Tournament)
    (names : Dict Int String) (profileId : Int) :
    Counted (tournamentRecordByProfile db t names profileId)
      (windowOutcomes db t profileId) := by
  have hdated := map_fst_windowOutcomes db t profileId
  unfold tournamentRecordByProfile
  split
  · next hnone =>
      rw [windowOutcomes, hnone]
      exact ⟨rfl, rfl, rfl, rfl, rfl⟩
  · next newest older hgames =>
      rw [hgames] at hdated
      have hpairs : windowOutcomes db t profileId =
          (newest :: older).filterMap fun game => game.row.outcome.map
            fun outcome => (outcome, game.played.completedAt) := by
        rw [windowOutcomes, hgames]
      exact ⟨by rw [hdated], by rw [hdated], rfl, by rw [hdated],
        by rw [hpairs]⟩

theorem leadingStreak_le (pairs : List DatedOutcome) :
    leadingStreak (pairs.map (·.1)) ≤ ((pairs.takeWhile Won).length : Int) := by
  cases pairs with
  | nil => simp [leadingStreak]
  | cons pair rest =>
      obtain ⟨outcome, completedAt⟩ := pair
      rw [List.map_cons, leadingStreak]
      cases outcome with
      | win =>
          rw [if_pos rfl, ← List.map_cons, List.takeWhile_map, List.length_map]
          exact le_of_eq rfl
      | loss =>
          rw [if_neg (by simp)]
          omega

theorem tournamentRecord_exact (db : Database) (t : Tournament)
    (names : Dict Int String) (profileId : Int) :
    ExactRecord db t profileId
      (tournamentRecordByProfile db t names profileId) := by
  have hcounted := tournamentRecord_counted db t names profileId
  have hdated := map_fst_windowOutcomes db t profileId
  have hbounds := (longestWinRun_peak (windowOutcomes db t profileId)).bounds
  have hwins : (tournamentRecordByProfile db t names profileId).wins ≤
      (tournamentRecordByProfile db t names profileId).gamesPlayed := by
    rw [hcounted.wins, hcounted.games]
    exact List.countP_le_length
  have hlosses := hcounted.losses
  refine ⟨?_, ?_, by omega, ?_, hcounted.longest, ?_, ?_⟩
  · rw [hcounted.games, hdated, List.length_filterMap_eq_countP]
    exact List.countP_eq_length.mpr fun _ => isSome_outcome_of_mem_windowGames
  · rw [hcounted.wins, hdated, List.countP_filterMap]
    apply List.countP_congr
    intro game _
    cases game.row.outcome <;> simp
  · rw [hcounted.streak, hdated]
    exact leadingStreak_run _
  · rw [hcounted.streak, hcounted.longest]
    exact (leadingStreak_le _).trans (by exact_mod_cast hbounds.1)
  · rw [hcounted.longest, hcounted.wins, List.countP_map]
    exact hbounds.2

/-- The single pass finds the most recent of the longest winning streaks with
its dates, and every record counts its games exactly. -/
theorem streaks_exact :
    (∀ outcomes : List DatedOutcome,
      PeakRun outcomes (longestWinRun outcomes)) ∧
    ∀ (db : Database) (t : Tournament) (names : Dict Int String)
      (profileId : Int), ExactRecord db t profileId
        (tournamentRecordByProfile db t names profileId) :=
  ⟨longestWinRun_peak, tournamentRecord_exact⟩

end LiveStandings
