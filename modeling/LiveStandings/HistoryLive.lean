/-
The chart of an open window against the live table.  The two rank on the same
metric where the latest snapshots carry the live ratings, but the chart takes
logged ratings for unrated entrants, for the newer value of a current rating,
and for breaking ties.
-/
import LiveStandings.HistoryEndpoint
import LiveStandings.Library.Tally

namespace LiveStandings

open KeyedTable PyJson Ranking Sweep Highest

/-- No snapshot is dated later than now. -/
def ObservedBy (db : Database) (now : Instant) : Prop :=
  ∀ snapshot ∈ db.playerRatingSnapshots.rows, snapshot.observedAt ≤ now

section Metric

variable {db : Database} {t : Tournament} {now : Instant}

theorem charted_of_open (hopen : closedBound t now = none) {observedAt : Instant}
    (hobserved : observedAt ≤ now) :
    (t.endDate.all fun bound => observedAt ≤ bound) = true := by
  cases hend : t.endDate with
  | none => rfl
  | some bound =>
      have hnot : ¬bound ≤ now := fun hle => by
        rw [closedBound_eq_some_iff.mpr ⟨hend, hle⟩] at hopen
        cases hopen
      simpa using hobserved.trans (le_of_lt (not_le.mp hnot))

/-- The last observation of a rated entrant, if there is any, is its live
rating. -/
theorem last_observation (hopen : closedBound t now = none)
    (hfollow : SnapshotsFollow db t) (hclock : ObservedBy db now)
    {row : RosterRow} (hrow : row ∈ rosterRows db t) {rating : PlayerRating}
    (hrating : row.rating = some rating) :
    observations db t rating.profileId = [] ∨
      ∃ observedAt, (observations db t rating.profileId).getLast? =
        some (observedAt, rankedRating t rating) := by
  cases hfirst : observations db t rating.profileId with
  | nil => exact Or.inl rfl
  | cons point points =>
      right
      rw [← hfirst]
      have hpoint : point ∈ observations db t rating.profileId :=
        hfirst ▸ List.mem_cons_self
      obtain ⟨snapshot, hsnapshot, _⟩ := mem_observations.mp hpoint
      obtain ⟨latest, hmem, hlatest⟩ := exists_noneLater hsnapshot
      obtain ⟨hmax, hcurrent⟩ :=
        hfollow row hrow rating hrating latest hmem hlatest
      have hvalue : snapMetric t latest = some (rankedRating t rating) := by
        unfold snapMetric rankedRating
        cases t.rankBy with
        | currentRating => exact hcurrent
        | peakRating => exact congrArg some hmax
      have hbound := charted_of_open hopen
        (hclock latest (List.mem_of_mem_filter hmem))
      refine ⟨latest.observedAt, ?_⟩
      rw [getLast?_observations, getLast?_chartedSnapshots hmem hlatest
        (by rw [hvalue]; rfl) hbound, Option.bind_some, hvalue, Option.map_some]

/-- The series of a rated entrant: its last observation is in the window, or
was carried in, or there is none. -/
theorem observed_cases (hopen : closedBound t now = none)
    (hfollow : SnapshotsFollow db t) (hclock : ObservedBy db now)
    {row : RosterRow} (hrow : row ∈ rosterRows db t) {rating : PlayerRating}
    (hrating : row.rating = some rating) :
    (∃ observedAt, (historySeries db t row).snapPoints.getLast? =
        some (observedAt, rankedRating t rating)) ∨
      (historySeries db t row).snapPoints = [] ∧
        ((historySeries db t row).snapBaseline =
            some (rankedRating t rating) ∨
          (historySeries db t row).snapBaseline = none) := by
  obtain ⟨hprofile, _⟩ := rated_row hrow hrating
  rw [historySeries_of_profile db t hprofile]
  change (∃ observedAt, (snapPointsByProfile db t rating.profileId).getLast? =
      some (observedAt, rankedRating t rating)) ∨
    snapPointsByProfile db t rating.profileId = [] ∧
      (snapBaselineByProfile db t rating.profileId =
          some (rankedRating t rating) ∨
        snapBaselineByProfile db t rating.profileId = none)
  rcases last_observation hopen hfollow hclock hrow hrating with
    hnone | ⟨observedAt, hlast⟩
  · right
    simp [snapPointsByProfile, snapBaselineByProfile, hnone]
  · cases hpre : t.preStart observedAt with
    | false => exact Or.inl ⟨observedAt, getLast?_snapPoints hlast hpre⟩
    | true =>
        obtain ⟨hpoints, hbaseline⟩ := snapBaseline_of_preStart hlast hpre
        exact Or.inr ⟨hpoints, Or.inl hbaseline⟩

/-- Without observations the live peak is carried in, or was reached in the
window. -/
theorem reached_without_observations {series : Series} {curMax : Int}
    (hbase : series.snapBase = none) :
    ∃ value ∈ (series.baseline (some curMax)).toList ++
      series.points.map (·.2), curMax ≤ value := by
  cases htotal : (series.points.map (·.2)).max? with
  | none =>
      refine ⟨(raise (some curMax) (series.entryOld.getD curMax)).getD curMax,
        List.mem_append_left _ ?_, ?_⟩
      · rw [Series.baseline]
        rw [Option.bind_some, hbase]
        simp only [htotal]
        cases series.entryOld <;> simp [raise]
      · exact le_max_left _ _
  | some total =>
      by_cases hbelow : total < curMax
      · refine ⟨(raise (some curMax) (series.entryOld.getD curMax)).getD curMax,
          List.mem_append_left _ ?_, ?_⟩
        · rw [Series.baseline]
          rw [Option.bind_some, hbase]
          simp only [htotal, if_pos hbelow]
          cases series.entryOld <;> simp [raise]
        · exact le_max_left _ _
      · exact ⟨total, List.mem_append_right _ (List.max?_mem htotal),
          not_lt.mp hbelow⟩

theorem chartedMetric_rated_peak (hrank : t.rankBy = .peakRating)
    (hopen : closedBound t now = none) (hfollow : SnapshotsFollow db t)
    (hclock : ObservedBy db now) {row : RosterRow}
    (hrow : row ∈ rosterRows db t) {rating : PlayerRating}
    (hrating : row.rating = some rating) :
    chartedMetric db t row = some rating.maxRating := by
  have hreached : ∃ value ∈
      ((historySeries db t row).baseline (some rating.maxRating)).toList ++
        (historySeries db t row).snapPoints.map (·.2) ++
          (historySeries db t row).points.map (·.2),
      rating.maxRating ≤ value := by
    have hranked : rankedRating t rating = rating.maxRating := by
      rw [rankedRating, hrank]
    rcases observed_cases hopen hfollow hclock hrow hrating with
      ⟨observedAt, hlast⟩ | ⟨hnone, hbaseline | hbaseline⟩
    · refine ⟨rating.maxRating, ?_, le_refl _⟩
      rw [hranked] at hlast
      exact List.mem_append_left _ (List.mem_append_right _
        (List.mem_map.mpr ⟨_, List.mem_of_getLast? hlast, rfl⟩))
    · have hbase : (historySeries db t row).snapBase =
          some rating.maxRating := by
        rw [Series.snapBase, hbaseline, hranked, Option.some_or]
      have hcarried := baseline_of_snapBase hbase rating.maxRating
      refine ⟨_, List.mem_append_left _ (List.mem_append_left _
        (Option.mem_toList.mpr hcarried)), ?_⟩
      cases (historySeries db t row).entryOld with
      | none => exact le_refl _
      | some held => exact le_max_left _ _
    · have hbase : (historySeries db t row).snapBase = none := by
        simp [Series.snapBase, hbaseline, hnone]
      obtain ⟨value, hvalue, hle⟩ := reached_without_observations hbase
      exact ⟨value, by simpa [hnone] using hvalue, hle⟩
  obtain ⟨value, hvalue, hle⟩ := hreached
  rw [chartedMetric_peak hrank, hrating]
  exact max?_map_cut_of_reached hvalue hle

/-- Nothing is recorded for an entrant in the window. -/
def NothingCharted (db : Database) (t : Tournament) (row : RosterRow) : Prop :=
  (historySeries db t row).points = [] ∧
    (historySeries db t row).snapPoints = []

theorem chartedMetric_unrated {row : RosterRow} (hrating : row.rating = none) :
    chartedMetric db t row = none ↔ NothingCharted db t row := by
  rw [NothingCharted]
  cases hrank : t.rankBy with
  | peakRating =>
      rw [chartedMetric_peak hrank, hrating]
      simp [Series.baseline, and_comm]
  | currentRating =>
      rw [chartedMetric_current hrank, hrating]
      simp only [← List.getLast?_eq_none_iff]
      cases (historySeries db t row).points.getLast? with
      | none =>
          cases (historySeries db t row).snapPoints.getLast? with
          | none => simp [Series.baselineCurrent]
          | some observed => simp
      | some logged =>
          cases (historySeries db t row).snapPoints.getLast? with
          | none => simp
          | some observed =>
              simp only
              split <;> simp

/-- The last game logged in the window, if nothing was observed after it, left
the entrant on its live current rating. -/
def LastGameLive (db : Database) (t : Tournament) (row : RosterRow)
    (rating : PlayerRating) : Prop :=
  ∀ logged, (historySeries db t row).points.getLast? = some logged →
    (∀ observed ∈ (historySeries db t row).snapPoints,
      observed.1 ≤ logged.1) → logged.2 = rating.currentRating

/-- In current mode the chart of a rated entrant ends on its live current
rating exactly when its last game does. -/
theorem chartedMetric_rated_current (hrank : t.rankBy = .currentRating)
    (hopen : closedBound t now = none) (hfollow : SnapshotsFollow db t)
    (hclock : ObservedBy db now) {row : RosterRow}
    (hrow : row ∈ rosterRows db t) {rating : PlayerRating}
    (hrating : row.rating = some rating) :
    chartedMetric db t row = some rating.currentRating ↔
      LastGameLive db t row rating := by
  have hranked : rankedRating t rating = rating.currentRating := by
    rw [rankedRating, hrank]
  have hcases := observed_cases hopen hfollow hclock hrow hrating
  rw [hranked] at hcases
  rw [chartedMetric_current hrank, hrating]
  rw [LastGameLive]
  cases hlogged : (historySeries db t row).points.getLast? with
  | none =>
      refine iff_of_true ?_ (by simp)
      rcases hcases with ⟨observedAt, hlast⟩ | ⟨hnone, hbaseline⟩
      · rw [hlast]
      · have hentry := entryOld_of_no_points
          (List.getLast?_eq_none_iff.mp hlogged)
        rcases hbaseline with hbaseline | hbaseline <;>
          simp [hnone, Series.baselineCurrent, Series.snapBase, hentry,
            hbaseline]
  | some logged =>
      rcases hcases with ⟨observedAt, hlast⟩ | ⟨hnone, _⟩
      · rw [hlast]
        by_cases hle : observedAt ≤ logged.1
        · have hall : ∀ observed ∈ (historySeries db t row).snapPoints,
              observed.1 ≤ logged.1 := by
            intro observed hobserved
            exact ((historySeries_inOrder db t row).2.le_last hlast observed
              hobserved).trans hle
          simp only [if_pos hle, Option.some.injEq, forall_eq']
          exact ⟨fun heq _ => heq, fun heq => heq hall⟩
        · simp only [if_neg hle, true_iff]
          intro other hother hall
          cases hother
          exact absurd (hall _ (List.mem_of_getLast? hlast)) hle
      · simp [hnone]

/-- What an entrant's records must say for the chart to end on its live
metric. -/
def ChartsLive (db : Database) (t : Tournament) (row : RosterRow) : Prop :=
  match row.rating with
  | none => NothingCharted db t row
  | some rating => t.rankBy = .currentRating → LastGameLive db t row rating

/-- The last bucket carries the live metric of an entrant exactly when its
records say so. -/
theorem chartedMetric_live_iff (hopen : closedBound t now = none)
    (hfollow : SnapshotsFollow db t) (hclock : ObservedBy db now)
    {row : RosterRow} (hrow : row ∈ rosterRows db t) :
    chartedMetric db t row = tableMetric db t now row ↔
      ChartsLive db t row := by
  have hlive : tableMetric db t now row = row.rating.map (rankedRating t) := by
    rw [tableMetric, hopen]
  rw [hlive]
  rw [ChartsLive]
  cases hrating : row.rating with
  | none => exact chartedMetric_unrated hrating
  | some rating =>
      rw [Option.map_some, rankedRating]
      cases hrank : t.rankBy with
      | currentRating =>
          simpa using
            chartedMetric_rated_current hrank hopen hfollow hclock hrow hrating
      | peakRating =>
          simpa using
            chartedMetric_rated_peak hrank hopen hfollow hclock hrow hrating

end Metric

/-! The order of the last bucket. -/

theorem standingKey_eq (t : Tournament) (metric : RosterRow → Option Int)
    (row : RosterRow) :
    standingKey t metric row =
      toLex (descNullsLast (metric row),
        tieKey (fun row => row.rating.map (otherRating t)) row) :=
  rfl

/-- The chart breaks ties by the last rating logged in the window, if there is
one. -/
def loggedCurrent (db : Database) (t : Tournament) (row : RosterRow) :
    Option Int :=
  ((historySeries db t row).points.getLast?.map (·.2)).or
    (row.rating.map (·.currentRating))

/-- Two rows that tie on the metric are ranked alike by the last logged ratings
and by the live ones. -/
def TiesAgree (db : Database) (t : Tournament) : Prop :=
  ∀ left ∈ rosterRows db t, ∀ right ∈ rosterRows db t,
    left.rating.map (·.maxRating) = right.rating.map (·.maxRating) →
      (tieKey (loggedCurrent db t) left ≤ tieKey (loggedCurrent db t) right ↔
        tieKey (fun row => row.rating.map (·.currentRating)) left ≤
          tieKey (fun row => row.rating.map (·.currentRating)) right)

section Order

variable {db : Database} {t : Tournament} {now : Instant}

theorem other_finalPlace_peak (hrank : t.rankBy = .peakRating)
    (row : RosterRow) :
    (finalPlace db t row).other = loggedCurrent db t row := by
  simp only [finalPlace, Entrant.placed, Entrant.other, hrank, foldl_logPush,
    historyEntrant, loggedCurrent]

theorem other_finalPlace_current (hrank : t.rankBy = .currentRating)
    (row : RosterRow) :
    (finalPlace db t row).other = row.rating.map (·.maxRating) := by
  simp only [finalPlace, Entrant.placed, Entrant.other, hrank, historyEntrant]

/-- Where the metrics agree, the chart's order is the table's exactly when ties
are broken alike. -/
theorem chartedOrder_eq_iff (hnames : UniqueNames db.tournamentPlayers)
    (hopen : closedBound t now = none)
    (hmetric : ∀ row ∈ rosterRows db t,
      chartedMetric db t row = tableMetric db t now row) :
    chartedOrder db t = orderedRows db t now ↔
      (t.rankBy = .peakRating → TiesAgree db t) := by
  have hlive : ∀ row, tableMetric db t now row =
      row.rating.map (rankedRating t) := by
    intro row
    rw [tableMetric, hopen]
  have hpairs : chartedOrder db t = orderedRows db t now ↔
      ∀ left ∈ rosterRows db t, ∀ right ∈ rosterRows db t,
        (tableMetric db t now left = tableMetric db t now right →
          (tieKey (fun row => (finalPlace db t row).other) left ≤
              tieKey (fun row => (finalPlace db t row).other) right ↔
            tieKey (fun row => row.rating.map (otherRating t)) left ≤
              tieKey (fun row => row.rating.map (otherRating t)) right)) := by
    rw [orderedRows_eq hnames, chartedOrder,
      sortBy_eq_sortBy_iff (placedKey_injOn (finalPlace db t) fun _ => rfl)
        (fun left hleft right hright =>
          standingKey_injOn hnames _ _ hleft hright)]
    refine forall₂_congr fun left hleft => forall₂_congr fun right hright => ?_
    rw [placedKey_le_iff hnames (finalPlace db t) (fun _ => rfl)
      (fun _ => rfl) hleft hright, ← chartedMetric, ← chartedMetric,
      hmetric left hleft, hmetric right hright]
    constructor
    · intro hagree htie
      rw [standingKey_eq, standingKey_eq, htie, toLex_le_same,
        toLex_le_same] at hagree
      exact hagree
    · intro hagree
      exact toLex_le_congr fun hkey => hagree (descNullsLast_injective hkey)
  rw [hpairs]
  cases hrank : t.rankBy with
  | currentRating =>
      have hother : otherRating t = (·.maxRating) := by
        funext rating
        rw [otherRating, hrank]
      refine iff_of_true ?_ (by simp)
      intro left _ right _ _
      simp only [tieKey, other_finalPlace_current hrank, hother]
  | peakRating =>
      have hother : otherRating t = (·.currentRating) := by
        funext rating
        rw [otherRating, hrank]
      have hranked : rankedRating t = (·.maxRating) := by
        funext rating
        rw [rankedRating, hrank]
      simp only [TiesAgree, tieKey, other_finalPlace_peak hrank, hother, hlive,
        hranked, forall_const]

/-! The teams. -/

/-- What a member row counts for, joined to its entry. -/
theorem memberRow_of_mem (hdb : db.Consistent) {member : TeamMember}
    (hmember : member ∈ db.teamMembers.rows) {team : Team}
    (hteam : db.teams.find? member.teamId = some team)
    (htournament : team.tournamentId = t.id) :
    ∃ entry ∈ db.tournamentPlayers.rows, entry.tournamentId = t.id ∧
      entry.id = member.tournamentPlayerId ∧
        db.tournamentPlayers.find? member.tournamentPlayerId = some entry := by
  obtain ⟨entry, hentry⟩ :=
    Option.isSome_iff_exists.mp (hdb.member_entry member hmember)
  have hmem := db.tournamentPlayers.mem_of_find? hentry
  have hid := db.tournamentPlayers.key_of_find? hentry
  refine ⟨entry, hmem, ?_, hid, hentry⟩
  rw [hdb.member_tournament member hmember team
    (db.teams.mem_of_find? hteam) entry hmem
    (db.teams.key_of_find? hteam).symm hid.symm, htournament]

/-- The metric of a team member in the last bucket is what it counts for in
the team table, if the metrics of the listed rows agree. -/
theorem metricAt_member (hdb : db.Consistent)
    (hopen : closedBound t now = none)
    (hmetric : ∀ row ∈ rosterRows db t,
      chartedMetric db t row = tableMetric db t now row)
    (start : Instant) {entry : TournamentPlayer}
    (hentry : entry ∈ db.tournamentPlayers.rows)
    (htournament : entry.tournamentId = t.id) :
    (((lastFrame db t start).metricAt entry.id).map (·.getD 0)).getD 0 =
      ((entry.profileId.bind (liveRating db t)).map
        (rankedRating t)).getD 0 := by
  by_cases hvisible : (historyRow db t entry).visible
  · have hrow : rosterRow db t entry ∈ rosterRows db t :=
      mem_rosterRows.mpr ⟨entry, hentry, htournament, rfl, hvisible⟩
    have hid : (rosterRow db t entry).entry.id = entry.id := rfl
    have hrating : (rosterRow db t entry).rating =
        entry.profileId.bind (liveRating db t) := by
      rw [← historyRow_eq hvisible]
      rfl
    rw [← hid, metricAt_lastFrame start hrow, hmetric _ hrow, tableMetric,
      hopen, hrating]
    rfl
  · have habsent : ∀ row ∈ rosterRows db t, row.entry.id ≠ entry.id := by
      intro row hrow heq
      obtain ⟨entry', hentry', _, rfl, hvisible'⟩ := mem_rosterRows.mp hrow
      rw [db.tournamentPlayers.eq_of_key_eq hentry' hentry heq] at hvisible'
      exact hvisible hvisible'
    have hunrated : entry.profileId.bind (liveRating db t) = none := by
      cases hprofile : entry.profileId with
      | none => rfl
      | some profileId =>
          cases hlive : liveRating db t profileId with
          | none => exact hlive
          | some rating =>
              have hplayer := hdb.rating_player rating
                (db.playerRatings.mem_of_find? hlive)
              have hid : rating.profileId = profileId :=
                congrArg Prod.fst (db.playerRatings.key_of_find? hlive)
              refine absurd ?_ hvisible
              simpa [RosterRow.visible, historyRow, hprofile, hid]
                using hplayer
    rw [metricAt_lastFrame_of_absent start habsent, hunrated]
    rfl

/-- A team's combined rating in the last bucket is the one of the team table. -/
theorem teamCombined_lastFrame (hdb : db.Consistent)
    (hopen : closedBound t now = none)
    (hmetric : ∀ row ∈ rosterRows db t,
      chartedMetric db t row = tableMetric db t now row)
    (names : Dict Int String) (start : Instant) {team : Team}
    (hteam : team ∈ db.teams.rows) (htournament : team.tournamentId = t.id) :
    (lastFrame db t start).teamCombined
        ⟨team, (db.teamMembers.rows.filter (·.teamId = team.id)).map
          (·.tournamentPlayerId)⟩ =
      (teamStandingRow db t names now team).combinedRatingSum := by
  have hfind : db.teams.find? team.id = some team :=
    db.teams.find?_eq_some_iff.mpr ⟨hteam, rfl⟩
  rw [combinedRatingSum_eq, Frame.teamCombined, memberRows,
    List.filter_filterMap, List.filterMap_filterMap, List.filterMap_map,
    List.filterMap_filter, List.map_filterMap, Tally.sum_filterMap,
    Tally.sum_filterMap]
  apply congrArg List.sum
  apply List.map_congr_left
  intro member hmember
  by_cases hid : member.teamId = team.id
  · obtain ⟨entry, hentry, hroster, hkey, hjoin⟩ := memberRow_of_mem hdb hmember
      (hid ▸ hfind) htournament
    have hcount := metricAt_member hdb hopen hmetric start hentry hroster
    rw [hkey] at hcount
    simp only [hid, hfind, hjoin, htournament, decide_true, ↓reduceIte,
      Option.bind_eq_bind, Option.bind_some, Option.filter_some,
      Function.comp, memberRowMetric, hopen]
    exact hcount
  · -- the member of another team is in neither sum
    rw [if_neg (by simpa using hid), Option.filter_eq_none_iff.mpr]
    · rfl
    · intro row hrow
      obtain ⟨_, _, hrow⟩ := Option.bind_eq_some_iff.mp hrow
      obtain ⟨_, _, hrow⟩ := Option.bind_eq_some_iff.mp hrow
      split at hrow
      · cases hrow
        simpa using hid
      · cases hrow

/-! The end of the chart. -/

/-- The last bucket is the table: its entrants by position are the rows in
order, each with the ranked rating the row surfaces, and each team has the
combined rating of the team table. -/
structure EndsOnTable (db : Database) (t : Tournament)
    (names : Dict Int String) (now : Instant) : Prop where
  lines : (getStandingsHistory db t).lastLines t = tableLines db t names now
  teams : ∀ team ∈ (getStandingsHistory db t).teams,
    ∃ row ∈ (getTeamStandings db t names now).items,
      row.teamId = team.teamId ∧
        team.lastCombined t = some row.combinedRatingSum

/-- Lines that agree come from the same rows with the same metrics. -/
theorem lines_eq_iff (hnames : UniqueNames db.tournamentPlayers)
    (names : Dict Int String)
    (hbuckets : (getStandingsHistory db t).buckets ≠ []) :
    (getStandingsHistory db t).lastLines t = tableLines db t names now ↔
      (∀ row ∈ rosterRows db t,
        chartedMetric db t row = tableMetric db t now row) ∧
        chartedOrder db t = orderedRows db t now := by
  have hcharted : ∀ row, row ∈ chartedOrder db t ↔ row ∈ rosterRows db t :=
    fun row => mem_sortBy _
  rw [lastLines_eq hbuckets, tableLines_rows hnames]
  constructor
  · intro hlines
    have hids := congrArg (List.map Prod.fst) hlines
    rw [List.map_map, List.map_map] at hids
    have hrows : chartedOrder db t = orderedRows db t now := by
      refine eq_of_map_eq ?_ hids
      intro row hrow row' hrow' hid
      rw [orderedRows_eq hnames, mem_sortBy] at hrow'
      exact List.inj_on_of_nodup_map (rosterRows_nodup db t)
        ((hcharted row).mp hrow) hrow' hid
    rw [hrows] at hlines
    refine ⟨fun row hrow => ?_, hrows⟩
    have hmem : row ∈ orderedRows db t now := hrows ▸ (hcharted row).mpr hrow
    exact congrArg Prod.snd (List.map_inj_left.mp hlines row hmem)
  · rintro ⟨hmetric, hrows⟩
    rw [← hrows]
    apply List.map_congr_left
    intro row hrow
    rw [hmetric row ((hcharted row).mp hrow)]

end Order

/-- While the window is open the history chart ends on the live table exactly
when every entrant's records chart its live metric and ties on the peak are
broken alike. -/
theorem history_ends_on_live_table_iff {db : Database} (hdb : db.Consistent)
    {t : Tournament} {now : Instant} (hopen : closedBound t now = none)
    (hfollow : SnapshotsFollow db t) (hclock : ObservedBy db now)
    (hbuckets : (getStandingsHistory db t).buckets ≠ [])
    (names : Dict Int String) :
    EndsOnTable db t names now ↔
      (∀ row ∈ rosterRows db t, ChartsLive db t row) ∧
        (t.rankBy = .peakRating → TiesAgree db t) := by
  have hmetrics : (∀ row ∈ rosterRows db t,
      chartedMetric db t row = tableMetric db t now row) ↔
        ∀ row ∈ rosterRows db t, ChartsLive db t row :=
    forall₂_congr fun row hrow =>
      chartedMetric_live_iff hopen hfollow hclock hrow
  rw [← hmetrics]
  constructor
  · intro hends
    obtain ⟨hmetric, horder⟩ :=
      (lines_eq_iff hdb.name_unique names hbuckets).mp hends.lines
    exact ⟨hmetric,
      (chartedOrder_eq_iff hdb.name_unique hopen hmetric).mp horder⟩
  · rintro ⟨hmetric, hties⟩
    have horder :=
      (chartedOrder_eq_iff hdb.name_unique hopen hmetric).mpr hties
    refine ⟨(lines_eq_iff hdb.name_unique names hbuckets).mpr
      ⟨hmetric, horder⟩, ?_⟩
    intro series hseries
    obtain ⟨start, team, hteam, hid, hcombined⟩ :=
      mem_teams_history hbuckets hseries
    obtain ⟨⟨stored, ⟨hstored, htournament⟩, rfl⟩, _⟩ := by
      simpa only [historyTeams, List.mem_filter, List.mem_map,
        decide_eq_true_eq] using hteam
    refine ⟨teamStandingRow db t names now stored, ?_, hid.symm, ?_⟩
    · exact (mem_sortBy _).mpr (List.mem_map_of_mem
        (List.mem_filter.mpr ⟨hstored, by simpa using htournament⟩))
    · rw [hcombined, teamCombined_lastFrame hdb hopen hmetric names start
        hstored htournament]

namespace HistoryLiveWitness

open Factory

/-- The window opened at 0 and has no end. -/
def cup : Tournament := makeTournament .peakRating (some 0) none

/-- The second entrant, behind on the peak, has played a game since the ratings
were polled. -/
def leading : Database :=
  seed [makePlayerRating 1 1500 1600, makePlayerRating 2 1490 1550]
    [makePlayerRatingSnapshot 1 1 1500 1600 100,
      makePlayerRatingSnapshot 2 2 1490 1550 100]
    [makeMatch 10 200 300] [makeMatchPlayer 10 2 1500 1520]

/-- The two entrants share a peak, and the second has played a game since the
ratings were polled. -/
def tied : Database :=
  seed [makePlayerRating 1 1500 1600, makePlayerRating 2 1490 1600]
    [makePlayerRatingSnapshot 1 1 1500 1600 100,
      makePlayerRatingSnapshot 2 2 1490 1600 100]
    [makeMatch 10 200 300] [makeMatchPlayer 10 2 1500 1520]

theorem leading_consistent : leading.Consistent := by
  constructor <;> decide

theorem tied_consistent : tied.Consistent := by
  constructor <;> decide

theorem leading_follow : SnapshotsFollow leading cup := by
  rw [SnapshotsFollow]
  decide

theorem tied_follow : SnapshotsFollow tied cup := by
  rw [SnapshotsFollow]
  decide

end HistoryLiveWitness

open HistoryLiveWitness in
/-- The leader's peak is ahead, so a game the live ratings do not show yet
changes nothing. -/
theorem history_ends_on_live_table_iff_leading :
    leading.Consistent ∧ closedBound cup 1000 = none ∧
      SnapshotsFollow leading cup ∧ ObservedBy leading 1000 ∧
        (getStandingsHistory leading cup).buckets ≠ [] ∧
          EndsOnTable leading cup [] 1000 := by
  have hclock : ObservedBy leading 1000 := by
    rw [ObservedBy]
    decide
  refine ⟨leading_consistent, rfl, leading_follow, hclock, by decide, ?_⟩
  refine (history_ends_on_live_table_iff leading_consistent rfl leading_follow
    hclock (by decide) []).mpr ⟨?_, fun _ => ?_⟩
  · intro row hrow
    have hrated : row.rating ≠ none := by
      revert row
      decide
    obtain ⟨rating, hrating⟩ := Option.ne_none_iff_exists'.mp hrated
    rw [ChartsLive]
    rw [hrating]
    intro hrank
    cases hrank
  · rw [TiesAgree]
    decide

open HistoryLiveWitness in
/-- Two entrants on one peak are ordered by the rating logged in the window on
the chart, and by the live rating in the table. -/
theorem logged_rating_breaks_tie :
    ¬ ∀ (db : Database) (t : Tournament) (now : Instant)
      (names : Dict Int String), db.Consistent → closedBound t now = none →
        SnapshotsFollow db t → ObservedBy db now →
          (getStandingsHistory db t).buckets ≠ [] →
            EndsOnTable db t names now := by
  intro hclaim
  have hclock : ObservedBy tied 1000 := by
    rw [ObservedBy]
    decide
  have hends := hclaim tied cup 1000 [] tied_consistent rfl tied_follow hclock
    (by decide)
  exact absurd hends.lines (by decide)

end LiveStandings
