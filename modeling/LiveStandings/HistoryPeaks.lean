/-
Charted peaks.  In peak mode a charted rating is the greatest of more and more
values, cut at the live peak, so it never falls, and neither do the sums of the
teams.
-/
import LiveStandings.HistoryRanking
import LiveStandings.Library.Tally
import Mathlib.Algebra.Order.BigOperators.Group.List

namespace LiveStandings

open KeyedTable PyJson Ranking Sweep Highest

/-- Stored ratings are not negative. -/
structure NonNegativeRatings (db : Database) : Prop where
  live : ∀ rating ∈ db.playerRatings.rows, 0 ≤ rating.maxRating
  observed : ∀ snapshot ∈ db.playerRatingSnapshots.rows,
    0 ≤ snapshot.maxRating
  old : ∀ row ∈ db.matchPlayers.rows, ∀ rating ∈ row.oldRating, 0 ≤ rating
  new : ∀ row ∈ db.matchPlayers.rows, ∀ rating ∈ row.newRating, 0 ≤ rating

/-- A missing value counts as no negative one. -/
def NonNegative (value : Option Int) : Prop := ∀ rating ∈ value, 0 ≤ rating

theorem nonNegative_none : NonNegative none := by
  intro rating hrating
  cases hrating

theorem NonNegative.raise {peak : Option Int} (hpeak : NonNegative peak)
    {value : Int} (hvalue : 0 ≤ value) :
    NonNegative (Highest.raise peak value) := by
  intro rating hrating
  cases peak with
  | none =>
      cases hrating
      exact hvalue
  | some peak =>
      cases hrating
      exact hvalue.trans (le_max_right peak value)

section Peaks

variable {db : Database} {t : Tournament}

theorem mem_loggedGames {wanted : Instant → Bool} {profileId : Int}
    {game : LoggedGame} (hgame : game ∈ loggedGames db t wanted profileId) :
    ∃ row ∈ db.matchPlayers.rows, row.newRating = some game.newRating ∧
      row.oldRating = game.oldRating := by
  have hlogged := List.mem_of_mem_filter ((mem_sortBy _).mp hgame)
  obtain ⟨played, hplayed, hread⟩ := List.mem_filterMap.mp hlogged
  obtain ⟨row, hrow, hjoin⟩ := List.mem_filterMap.mp hplayed
  obtain ⟨completedAt, _, hread⟩ := Option.bind_eq_some_iff.mp hread
  obtain ⟨newRating, hnew, hread⟩ := Option.bind_eq_some_iff.mp hread
  split at hread
  · cases hread
    obtain ⟨_, _, rfl⟩ := Option.map_eq_some_iff.mp hjoin
    exact ⟨row, List.mem_of_mem_filter hrow, hnew, rfl⟩
  · cases hread

/-- The series of a profile hold no negative rating. -/
structure Series.NonNegative (series : Series) : Prop where
  points : ∀ point ∈ series.points, 0 ≤ point.2
  entryOld : LiveStandings.NonNegative series.entryOld
  preEventPeak : LiveStandings.NonNegative series.preEventPeak
  snapBaseline : LiveStandings.NonNegative series.snapBaseline
  snapPoints : ∀ point ∈ series.snapPoints, 0 ≤ point.2

theorem observations_nonNegative (hrank : t.rankBy = .peakRating)
    (hratings : NonNegativeRatings db) (profileId : Int) :
    ∀ point ∈ observations db t profileId, 0 ≤ point.2 := by
  intro point hpoint
  obtain ⟨snapshot, hsnapshot, _, _, hvalue⟩ := mem_observations.mp hpoint
  have hmax : some snapshot.maxRating = some point.2 := by
    rw [← hvalue, snapMetric, hrank]
  rw [← Option.some.inj hmax]
  exact hratings.observed snapshot (List.mem_of_mem_filter hsnapshot)

theorem foldl_pushPreEvent_nonNegative (curMax : Option Int)
    {played : List LoggedGame} (hnew : ∀ game ∈ played, 0 ≤ game.newRating)
    {peak : Option Int} (hpeak : NonNegative peak) :
    NonNegative (played.foldl (pushPreEvent curMax) peak) := by
  induction played generalizing peak with
  | nil => exact hpeak
  | cons game rest ih =>
      refine ih (fun later hlater => hnew later (List.mem_cons_of_mem _ hlater))
        ?_
      unfold pushPreEvent
      dsimp only
      split
      · exact nonNegative_none
      · exact hpeak.raise ((hnew game List.mem_cons_self).trans
          (le_max_right _ _))

theorem seriesByProfile_nonNegative (hrank : t.rankBy = .peakRating)
    (hratings : NonNegativeRatings db) (curMax : Option Int)
    (profileId : Int) :
    (seriesByProfile db t curMax profileId).NonNegative := by
  have hobserved := observations_nonNegative hrank hratings profileId
  have hnew : ∀ wanted, ∀ game ∈ loggedGames db t wanted profileId,
      0 ≤ game.newRating := by
    intro wanted game hgame
    obtain ⟨row, hrow, hnew, _⟩ := mem_loggedGames hgame
    exact hratings.new row hrow _ hnew
  constructor
  · intro point hpoint
    obtain ⟨game, hgame, rfl⟩ := List.mem_map.mp hpoint
    exact hnew _ game hgame
  · intro rating hrating
    obtain ⟨game, hfirst, hold⟩ := Option.bind_eq_some_iff.mp hrating
    obtain ⟨row, hrow, _, hrowOld⟩ := mem_loggedGames (List.mem_of_head? hfirst)
    exact hratings.old row hrow rating (hrowOld.trans hold)
  · intro rating hrating
    obtain ⟨start, _, hpeak⟩ := Option.bind_eq_some_iff.mp hrating
    exact foldl_pushPreEvent_nonNegative curMax (hnew _) nonNegative_none
      rating hpeak
  · intro rating hrating
    obtain ⟨point, hlast, rfl⟩ := Option.map_eq_some_iff.mp hrating
    exact hobserved point
      (List.mem_of_mem_filter (List.mem_of_getLast? hlast))
  · intro point hpoint
    exact hobserved point (List.mem_of_mem_filter hpoint)

theorem Series.NonNegative.snapBase {series : Series}
    (hseries : series.NonNegative) :
    LiveStandings.NonNegative series.snapBase := by
  intro rating hrating
  rcases Option.or_eq_some_iff.mp hrating with hbaseline | ⟨_, hfirst⟩
  · exact hseries.snapBaseline rating hbaseline
  · obtain ⟨point, hhead, rfl⟩ := Option.map_eq_some_iff.mp hfirst
    exact hseries.snapPoints point (List.mem_of_head? hhead)

theorem Series.NonNegative.baseline {series : Series}
    (hseries : series.NonNegative) {curMax : Option Int}
    (hmax : LiveStandings.NonNegative curMax) :
    LiveStandings.NonNegative (series.baseline curMax) := by
  cases curMax with
  | none => exact nonNegative_none
  | some cap =>
      have hsnap := hseries.snapBase
      have hentry := hseries.entryOld
      unfold Series.baseline
      rw [Option.bind_some]
      extract_lets baseline
      have hbase : LiveStandings.NonNegative baseline := by
        simp only [baseline]
        split
        · next snapBase hfound =>
            rw [hfound] at hsnap
            exact hsnap
        · split
          · exact hmax
          · split
            · exact hmax
            · exact hseries.preEventPeak
      cases hfound : series.entryOld with
      | none => exact hbase
      | some entry => exact hbase.raise (hentry entry hfound)

theorem historySeries_nonNegative (hrank : t.rankBy = .peakRating)
    (hratings : NonNegativeRatings db) (row : RosterRow) :
    (historySeries db t row).NonNegative := by
  cases hprofile : row.entry.profileId with
  | none =>
      rw [historySeries_unlinked db t hprofile]
      exact ⟨by simp [Series.empty], nonNegative_none, nonNegative_none,
        nonNegative_none, by simp [Series.empty]⟩
  | some profileId =>
      rw [historySeries_of_profile db t hprofile]
      exact seriesByProfile_nonNegative hrank hratings _ profileId

theorem rating_nonNegative (hratings : NonNegativeRatings db)
    {row : RosterRow} (hrow : row ∈ rosterRows db t) :
    NonNegative (row.rating.map (·.maxRating)) := by
  intro value hvalue
  obtain ⟨rating, hrating, rfl⟩ := Option.map_eq_some_iff.mp hvalue
  have hlive := (rated_row hrow hrating).2
  exact hratings.live rating (db.playerRatings.mem_of_find? hlive)

/-- The values whose greatest is charted. -/
def chartedValues (entrant : Entrant) (time : Instant) : List Int :=
  entrant.baseline.toList ++ (upTo time entrant.snapPoints).map (·.2) ++
    (upTo time entrant.points).map (·.2)

theorem metricBy_peak (entrant : Entrant) (time : Instant) :
    entrant.metricBy .peakRating time =
      (chartedValues entrant time).max?.map (cut entrant.curMax) := rfl

theorem chartedValues_subset (entrant : Entrant) {time time' : Instant}
    (hle : time ≤ time') :
    chartedValues entrant time ⊆ chartedValues entrant time' := by
  have hsnaps := List.map_subset (·.2) (upTo_subset hle entrant.snapPoints)
  have hpoints := List.map_subset (·.2) (upTo_subset hle entrant.points)
  intro value hvalue
  rcases List.mem_append.mp hvalue with hcarried | hlogged
  · rcases List.mem_append.mp hcarried with hbaseline | hobserved
    · exact List.mem_append_left _ (List.mem_append_left _ hbaseline)
    · exact List.mem_append_left _
        (List.mem_append_right _ (hsnaps hobserved))
  · exact List.mem_append_right _ (hpoints hlogged)

theorem metricBy_rises (entrant : Entrant) {time time' : Instant}
    (hle : time ≤ time') :
    Rises (entrant.metricBy .peakRating time)
      (entrant.metricBy .peakRating time') :=
  (max?_rises (chartedValues_subset entrant hle)).cut entrant.curMax

theorem metricBy_le_curMax {entrant : Entrant} {time : Instant} {peak cap : Int}
    (hpeak : entrant.metricBy .peakRating time = some peak)
    (hcap : entrant.curMax = some cap) : peak ≤ cap := by
  rw [metricBy_peak, hcap] at hpeak
  obtain ⟨value, _, rfl⟩ := Option.map_eq_some_iff.mp hpeak
  exact min_le_right value cap

theorem metricBy_nonNegative (hrank : t.rankBy = .peakRating)
    (hratings : NonNegativeRatings db) {row : RosterRow}
    (hrow : row ∈ rosterRows db t) (time : Instant) :
    NonNegative ((historyEntrant db t row).metricBy .peakRating time) := by
  have hseries := historySeries_nonNegative hrank hratings row
  have hmax := rating_nonNegative hratings hrow
  have hbaseline : NonNegative (historyEntrant db t row).baseline := by
    have hcarried := hseries.baseline hmax
    unfold historyEntrant
    rw [hrank]
    exact hcarried
  have hvalues : ∀ value ∈ chartedValues (historyEntrant db t row) time,
      0 ≤ value := by
    intro value hvalue
    rcases List.mem_append.mp hvalue with hcarried | hlogged
    · rcases List.mem_append.mp hcarried with hcarried | hobserved
      · exact hbaseline value (Option.mem_toList.mp hcarried)
      · obtain ⟨point, hpoint, rfl⟩ := List.mem_map.mp hobserved
        exact hseries.snapPoints point (mem_upTo.mp hpoint).1
    · obtain ⟨point, hpoint, rfl⟩ := List.mem_map.mp hlogged
      exact hseries.points point (mem_upTo.mp hpoint).1
  intro peak hpeak
  rw [metricBy_peak] at hpeak
  obtain ⟨value, hgreatest, rfl⟩ := Option.map_eq_some_iff.mp hpeak
  have hvalue := hvalues value (List.max?_mem hgreatest)
  cases hcap : (historyEntrant db t row).curMax with
  | none => exact hvalue
  | some cap => exact le_min hvalue (hmax cap hcap)

/-- A series of peaks: null at first, then rising, below the live peak. -/
structure PeaksRise (db : Database) (t : Tournament)
    (player : PlayerStandingHistory) : Prop where
  rises : ∃ (n : Nat) (peaks : List Int),
    player.points.map (·.peakRating) =
        List.replicate n none ++ peaks.map some ∧
      peaks.Pairwise (· ≤ ·)
  capped : ∀ rating, player.profileId.bind (liveRating db t) = some rating →
    ∀ point ∈ player.points, ∀ peak ∈ point.peakRating,
      peak ≤ rating.maxRating

/-- A series of sums: never null, and rising. -/
def SumsRise (team : TeamStandingHistory) : Prop :=
  ∃ sums : List Int, team.points.map (·.combinedPeakElo) = sums.map some ∧
    sums.Pairwise (· ≤ ·)

theorem peakRating_playerPoint (hrank : t.rankBy = .peakRating)
    {start : Instant} {frame : Frame}
    (hframe : frame ∈ historyFrames db t start) {row : RosterRow}
    (hrow : row ∈ rosterRows db t) :
    (frame.playerPoint t.rankBy row.entry.id).peakRating =
      (historyEntrant db t row).metricBy .peakRating frame.time := by
  have hmetric := metricAt_historyFrame hframe hrow
  rw [hrank] at hmetric
  rw [hrank, Frame.playerPoint, hmetric]
  rfl

theorem playerSeries_rises (hrank : t.rankBy = .peakRating) (start : Instant)
    {row : RosterRow} (hrow : row ∈ rosterRows db t) :
    PeaksRise db t (playerSeries db t start row) := by
  constructor
  · apply split_of_rises
    rw [playerSeries, List.map_map]
    refine List.pairwise_map.mpr
      ((increasing_historyFrames db t start).imp_of_mem ?_)
    intro earlier later hearlier hlater hlt
    rw [Function.comp, Function.comp, peakRating_playerPoint hrank hearlier hrow,
      peakRating_playerPoint hrank hlater hrow]
    exact metricBy_rises _ hlt.le
  · intro rating hrating point hpoint peak hpeak
    obtain ⟨frame, hframe, rfl⟩ := List.mem_map.mp hpoint
    obtain ⟨profileId, hprofile, hlive⟩ := Option.bind_eq_some_iff.mp hrating
    have hcap : (historyEntrant db t row).curMax = some rating.maxRating := by
      rw [historyEntrant, rating_of_listed hrow hprofile, hlive,
        Option.map_some]
    rw [peakRating_playerPoint hrank hframe hrow] at hpeak
    exact metricBy_le_curMax hpeak hcap

/-- What an entrant adds to its team's sum. -/
def Frame.share (frame : Frame) (id : Int) : Int :=
  (frame.metricAt id).join.getD 0

theorem teamCombined_eq (frame : Frame) (team : HistoryTeam) :
    frame.teamCombined team = (team.members.map frame.share).sum := by
  rw [Frame.teamCombined, List.map_filterMap, Tally.sum_filterMap]
  apply congrArg List.sum
  apply List.map_congr_left
  intro id _
  rw [Frame.share]
  cases frame.metricAt id <;> rfl

/-- What an entrant adds never falls; one that is not listed adds nothing. -/
theorem share_le (hrank : t.rankBy = .peakRating)
    (hratings : NonNegativeRatings db) {start : Instant}
    {earlier later : Frame} (hearlier : earlier ∈ historyFrames db t start)
    (hlater : later ∈ historyFrames db t start)
    (hle : earlier.time ≤ later.time) (id : Int) :
    earlier.share id ≤ later.share id := by
  by_cases hlisted : ∃ row ∈ rosterRows db t, row.entry.id = id
  · obtain ⟨row, hrow, rfl⟩ := hlisted
    have hrises := metricBy_rises (historyEntrant db t row) hle
    have hpositive := metricBy_nonNegative hrank hratings hrow later.time
    rw [Frame.share, Frame.share, metricAt_historyFrame hearlier hrow,
      metricAt_historyFrame hlater hrow, hrank, Option.join_some,
      Option.join_some]
    cases hfirst : (historyEntrant db t row).metricBy .peakRating
        earlier.time with
    | none =>
        cases hsecond : (historyEntrant db t row).metricBy .peakRating
            later.time with
        | none => exact le_refl _
        | some peak => exact hpositive peak hsecond
    | some peak =>
        obtain ⟨peak', hpeak', hpeaks⟩ := hrises peak hfirst
        rw [Option.mem_def.mp hpeak']
        exact hpeaks
  · have habsent : ∀ row ∈ rosterRows db t, row.entry.id ≠ id :=
      fun row hrow heq => hlisted ⟨row, hrow, heq⟩
    rw [Frame.share, Frame.share,
      metricAt_historyFrame_of_absent hearlier habsent,
      metricAt_historyFrame_of_absent hlater habsent]

theorem teamSeries_rises (hrank : t.rankBy = .peakRating)
    (hratings : NonNegativeRatings db) (start : Instant) (team : HistoryTeam) :
    SumsRise (teamSeries db t start team) := by
  refine ⟨(historyFrames db t start).map fun frame => frame.teamCombined team,
    ?_, ?_⟩
  · rw [teamSeries, List.map_map, List.map_map]
    apply List.map_congr_left
    intro frame _
    unfold Frame.teamPoint
    rw [hrank]
    rfl
  · refine List.pairwise_map.mpr
      ((increasing_historyFrames db t start).imp_of_mem ?_)
    intro earlier later hearlier hlater hlt
    rw [teamCombined_eq, teamCombined_eq]
    exact List.sum_le_sum fun id _ =>
      share_le hrank hratings hearlier hlater hlt.le id

end Peaks

/-- In peak mode every charted peak rises and stays below the live peak, and
every team's sum rises. -/
theorem charted_peaks_rise {db : Database} {t : Tournament}
    (hrank : t.rankBy = .peakRating) (hratings : NonNegativeRatings db) :
    (∀ player ∈ (getStandingsHistory db t).players, PeaksRise db t player) ∧
      ∀ team ∈ (getStandingsHistory db t).teams, SumsRise team := by
  cases hstart : historyStart db t with
  | none =>
      rw [getStandingsHistory, hstart]
      exact ⟨by simp [StandingsHistory.empty], by simp [StandingsHistory.empty]⟩
  | some start =>
      obtain ⟨_, hplayers, hteams⟩ := getStandingsHistory_of_start hstart
      constructor
      · intro player hplayer
        rw [hplayers, mem_sortBy] at hplayer
        obtain ⟨row, hrow, rfl⟩ := List.mem_map.mp hplayer
        exact playerSeries_rises hrank start hrow
      · intro series hseries
        rw [hteams, mem_sortBy] at hseries
        obtain ⟨team, _, rfl⟩ := List.mem_map.mp hseries
        exact teamSeries_rises hrank hratings start team

namespace PeakWitness

open Factory

def cup : Tournament := makeTournament .peakRating (some 0) none

/-- Two entrants of one team, the second unrated until it is observed. -/
def climbing : Database :=
  { seed [makePlayerRating 1 1500 1600]
      [makePlayerRatingSnapshot 1 1 1450 1550 100,
        makePlayerRatingSnapshot 2 2 1490 1500 200]
      [makeMatch 10 150 300] [makeMatchPlayer 10 1 1550 1580] with
    teams := Table.empty.insertAll [⟨1, 1, "Reds", "R"⟩]
    teamMembers := Table.empty.insertAll [⟨1, 1, true⟩, ⟨1, 2, false⟩] }

theorem climbing_nonNegative : NonNegativeRatings climbing := by
  constructor <;> decide

end PeakWitness

open PeakWitness in
/-- A peak that rises from an observation to a logged rating, one that starts
null, and their sum. -/
theorem charted_peaks_rise_climbing :
    (∀ player ∈ (getStandingsHistory climbing cup).players,
        PeaksRise climbing cup player) ∧
      (∀ team ∈ (getStandingsHistory climbing cup).teams, SumsRise team) ∧
        (getStandingsHistory climbing cup).players.map
            (fun player => player.points.map (·.peakRating)) =
          [[some 1550, some 1580], [none, some 1500]] := by
  have hrank : cup.rankBy = .peakRating := rfl
  obtain ⟨hplayers, hteams⟩ := charted_peaks_rise hrank climbing_nonNegative
  exact ⟨hplayers, hteams, by decide⟩

end LiveStandings
