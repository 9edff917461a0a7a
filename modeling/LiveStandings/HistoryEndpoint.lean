/-
The end of the chart.  The last bucket ranks the roster on everything recorded;
here it is put in the terms of the table, row by row.
-/
import LiveStandings.HistorySweep

namespace LiveStandings

open KeyedTable PyJson Ranking Sweep Highest

/-! What the last bucket says, line by line. -/

/-- The point of an entrant in the last bucket. -/
def PlayerStandingHistory.last (player : PlayerStandingHistory) :
    Option StandingHistoryPoint :=
  player.points.getLast?

/-- The charted rating of a point. -/
def StandingHistoryPoint.ranked (t : Tournament)
    (point : StandingHistoryPoint) : Option Int :=
  match t.rankBy with
  | .currentRating => point.currentRating
  | .peakRating => point.peakRating

/-- The entrants of the last bucket by position, with their charted ratings. -/
def StandingsHistory.lastLines (t : Tournament) (history : StandingsHistory) :
    List (Int × Option Int) :=
  (sortBy (fun player : PlayerStandingHistory =>
      (player.last.map (·.position)).getD 0) history.players).map fun player =>
    (player.tournamentPlayerId, player.last.bind (·.ranked t))

/-- The combined rating of a point. -/
def TeamStandingHistoryPoint.combined (t : Tournament)
    (point : TeamStandingHistoryPoint) : Option Int :=
  match t.rankBy with
  | .currentRating => point.combinedCurrentElo
  | .peakRating => point.combinedPeakElo

/-- The combined rating of a team in the last bucket. -/
def TeamStandingHistory.lastCombined (t : Tournament)
    (team : TeamStandingHistory) : Option Int :=
  team.points.getLast?.bind (·.combined t)

section LastBucket

variable {db : Database} {t : Tournament}

theorem historyRow_eq {entry : TournamentPlayer}
    (hvisible : (historyRow db t entry).visible) :
    historyRow db t entry = rosterRow db t entry := by
  unfold historyRow rosterRow
  cases hprofile : entry.profileId with
  | none => rfl
  | some profileId =>
      have hplayer : (db.players.find? profileId).isSome := by
        simpa [RosterRow.visible, historyRow, hprofile] using hvisible
      obtain ⟨player, hfind⟩ := Option.isSome_iff_exists.mp hplayer
      simp [hfind, db.players.key_of_find? hfind]

theorem historyRoster_eq (db : Database) (t : Tournament) :
    historyRoster db t = rosterRows db t := by
  unfold historyRoster rosterRows
  induction db.tournamentPlayers.rows.filter (·.tournamentId = t.id) with
  | nil => rfl
  | cons entry entries ih =>
      have hgate : (historyRow db t entry).visible =
          (rosterRow db t entry).visible := rfl
      rw [List.map_cons, List.map_cons, List.filter_cons, List.filter_cons,
        ← hgate, ih]
      split
      · next hvisible => rw [historyRow_eq hvisible]
      · rfl

theorem rosterRows_nodup (db : Database) (t : Tournament) :
    ((rosterRows db t).map (·.entry.id)).Nodup := by
  have hentries : ((rosterEntries db t).map (rosterRow db t)).map
      (·.entry.id) = (rosterEntries db t).map (·.id) := by
    rw [List.map_map]
    rfl
  exact (List.filter_sublist.map _).nodup
    (hentries ▸ nodup_rosterEntries db t)

/-- A listed row as the last bucket places it. -/
def finalPlace (db : Database) (t : Tournament) (row : RosterRow) : Placed :=
  (historyEntrant db t row).placed t.rankBy

/-- The rating charted for a listed row in the last bucket. -/
def chartedMetric (db : Database) (t : Tournament) (row : RosterRow) :
    Option Int :=
  (finalPlace db t row).metric

/-- The listed rows in the order of the last bucket. -/
def chartedOrder (db : Database) (t : Tournament) : List RosterRow :=
  sortBy (fun row => (finalPlace db t row).key) (rosterRows db t)

/-- The last frame of the history. -/
def lastFrame (db : Database) (t : Tournament) (start : Instant) : Frame :=
  frameAt t.rankBy (historyEntrants db t)
    (lastTime start (inEventTimes (historyEntrants db t)))

theorem placed_lastFrame (db : Database) (t : Tournament) (start : Instant) :
    (lastFrame db t start).placed =
      (rosterRows db t).map (finalPlace db t) := by
  rw [lastFrame, frameAt_lastTime, historyEntrants, historyRoster_eq,
    List.map_map]
  rfl

theorem playerOrder_lastFrame (db : Database) (t : Tournament)
    (start : Instant) :
    (lastFrame db t start).playerOrder =
      (chartedOrder db t).map (·.entry.id) := by
  rw [Frame.playerOrder, placed_lastFrame, sortBy_map, List.map_map]
  rfl

theorem metricAt_of_mem {frame : Frame}
    (hnodup : (frame.placed.map (·.id)).Nodup) {placed : Placed}
    (hplaced : placed ∈ frame.placed) :
    frame.metricAt placed.id = some placed.metric := by
  have hfind : frame.placed.find? (·.id = placed.id) = some placed := by
    generalize frame.placed = all at hnodup hplaced
    induction all with
    | nil => simp at hplaced
    | cons head tail ih =>
        rw [List.map_cons, List.nodup_cons] at hnodup
        rcases List.mem_cons.mp hplaced with rfl | htail
        · exact List.find?_cons_of_pos (decide_eq_true rfl)
        · have hne : head.id ≠ placed.id := fun heq =>
            hnodup.1 (heq ▸ List.mem_map_of_mem htail)
          rw [List.find?_cons_of_neg]
          · exact ih hnodup.2 htail
          · exact fun htrue => hne (of_decide_eq_true htrue)
  rw [Frame.metricAt, hfind, Option.map_some]

theorem metricAt_of_absent {frame : Frame} {id : Int}
    (habsent : ∀ placed ∈ frame.placed, placed.id ≠ id) :
    frame.metricAt id = none := by
  have hfind : frame.placed.find? (·.id = id) = none := by
    rw [List.find?_eq_none]
    intro placed hplaced
    exact fun htrue => habsent placed hplaced (of_decide_eq_true htrue)
  rw [Frame.metricAt, hfind, Option.map_none]

theorem metricAt_lastFrame (start : Instant) {row : RosterRow}
    (hrow : row ∈ rosterRows db t) :
    (lastFrame db t start).metricAt row.entry.id =
      some (chartedMetric db t row) := by
  have hplaced : finalPlace db t row ∈ (lastFrame db t start).placed := by
    rw [placed_lastFrame]
    exact List.mem_map_of_mem hrow
  refine metricAt_of_mem ?_ hplaced
  rw [placed_lastFrame, List.map_map]
  exact rosterRows_nodup db t

theorem metricAt_lastFrame_of_absent (start : Instant) {id : Int}
    (habsent : ∀ row ∈ rosterRows db t, row.entry.id ≠ id) :
    (lastFrame db t start).metricAt id = none := by
  apply metricAt_of_absent
  intro placed hplaced
  rw [placed_lastFrame] at hplaced
  obtain ⟨row, hrow, rfl⟩ := List.mem_map.mp hplaced
  exact habsent row hrow

theorem getStandingsHistory_of_buckets
    (hbuckets : (getStandingsHistory db t).buckets ≠ []) :
    ∃ start, historyStart db t = some start := by
  rw [getStandingsHistory] at hbuckets
  cases hstart : historyStart db t with
  | none =>
      rw [hstart] at hbuckets
      exact absurd rfl hbuckets
  | some start => exact ⟨start, rfl⟩

/-- The series of a listed row over the frames of a time axis. -/
def playerSeries (db : Database) (t : Tournament) (start : Instant)
    (row : RosterRow) : PlayerStandingHistory where
  tournamentPlayerId := row.entry.id
  profileId := row.entry.profileId
  name := resolveDisplayName row.entry.name row.entry.presentation
  points := (historyFrames db t start).map fun frame =>
    frame.playerPoint t.rankBy row.entry.id

/-- The series of a team over the frames of a time axis. -/
def teamSeries (db : Database) (t : Tournament) (start : Instant)
    (team : HistoryTeam) : TeamStandingHistory where
  teamId := team.team.id
  name := team.team.name
  initials := team.team.initials
  points := (historyFrames db t start).map fun frame =>
    frame.teamPoint t.rankBy (historyTeams db t) team

/-- Bucket times and points are all read off the frames. -/
theorem getStandingsHistory_of_start {start : Instant}
    (hstart : historyStart db t = some start) :
    (getStandingsHistory db t).buckets =
        (historyFrames db t start).map (·.time) ∧
      (getStandingsHistory db t).players = sortBy (·.tournamentPlayerId)
        ((rosterRows db t).map (playerSeries db t start)) ∧
      (getStandingsHistory db t).teams = sortBy (·.teamId)
        ((historyTeams db t).map (teamSeries db t start)) := by
  rw [getStandingsHistory, hstart, historyRoster_eq]
  exact ⟨rfl, rfl, rfl⟩

theorem last_playerSeries (start : Instant) (row : RosterRow) :
    (playerSeries db t start row).last =
      some ((lastFrame db t start).playerPoint t.rankBy row.entry.id) := by
  rw [PlayerStandingHistory.last, playerSeries, List.getLast?_map,
    getLast?_historyFrames]
  rfl

theorem ranked_playerPoint (frame : Frame) (id : Int) :
    (frame.playerPoint t.rankBy id).ranked t = (frame.metricAt id).join := by
  unfold StandingHistoryPoint.ranked Frame.playerPoint
  cases t.rankBy <;> rfl

theorem position_playerPoint (frame : Frame) (id : Int) :
    (frame.playerPoint t.rankBy id).position =
      positionIn frame.playerOrder id := by
  unfold Frame.playerPoint
  cases t.rankBy <;> rfl

theorem lastLines_eq (hbuckets : (getStandingsHistory db t).buckets ≠ []) :
    (getStandingsHistory db t).lastLines t =
      (chartedOrder db t).map fun row =>
        (row.entry.id, chartedMetric db t row) := by
  obtain ⟨start, hstart⟩ := getStandingsHistory_of_buckets hbuckets
  obtain ⟨_, hplayers, _⟩ := getStandingsHistory_of_start hstart
  have hposition : ∀ row,
      ((playerSeries db t start row).last.map (·.position)).getD 0 =
        positionIn ((chartedOrder db t).map (·.entry.id)) row.entry.id := by
    intro row
    rw [last_playerSeries, Option.map_some, Option.getD_some,
      position_playerPoint, playerOrder_lastFrame]
  have horder : sortBy (fun row =>
        ((playerSeries db t start row).last.map (·.position)).getD 0)
      (sortBy (fun row => (playerSeries db t start row).tournamentPlayerId)
        (rosterRows db t)) = chartedOrder db t := by
    simp only [hposition]
    refine sortBy_positionIn (fun row : RosterRow => row.entry.id)
      ((sortBy_perm _ _).trans (sortBy_perm _ _).symm) ?_
    exact ((sortBy_perm _ _).map _).nodup_iff.mpr (rosterRows_nodup db t)
  rw [StandingsHistory.lastLines, hplayers, sortBy_map, sortBy_map,
    List.map_map, horder]
  apply List.map_congr_left
  intro row hrow
  have hlisted : row ∈ rosterRows db t := (mem_sortBy _).mp hrow
  rw [Function.comp, last_playerSeries, Option.bind_some, ranked_playerPoint,
    metricAt_lastFrame start hlisted]
  rfl

theorem combined_teamPoint (teams : List HistoryTeam) (frame : Frame)
    (team : HistoryTeam) :
    (frame.teamPoint t.rankBy teams team).combined t =
      some (frame.teamCombined team) := by
  unfold TeamStandingHistoryPoint.combined Frame.teamPoint
  cases t.rankBy <;> rfl

/-- The combined rating of a team in the last bucket is the sum over the
members the chart shows. -/
theorem mem_teams_history (hbuckets : (getStandingsHistory db t).buckets ≠ [])
    {series : TeamStandingHistory}
    (hseries : series ∈ (getStandingsHistory db t).teams) :
    ∃ start, ∃ team ∈ historyTeams db t, series.teamId = team.team.id ∧
      series.lastCombined t =
        some ((lastFrame db t start).teamCombined team) := by
  obtain ⟨start, hstart⟩ := getStandingsHistory_of_buckets hbuckets
  rw [(getStandingsHistory_of_start hstart).2.2, mem_sortBy] at hseries
  obtain ⟨team, hteam, rfl⟩ := List.mem_map.mp hseries
  refine ⟨start, team, hteam, rfl, ?_⟩
  rw [TeamStandingHistory.lastCombined, teamSeries, List.getLast?_map,
    getLast?_historyFrames, Option.map_some, Option.bind_some,
    combined_teamPoint]
  rfl

/-! The charted rating in terms of what was recorded. -/

theorem max?_recorded {values : List Int} (carried : Option Int)
    (logged : List Int) :
    (carried.toList ++ values.max?.toList ++ logged.max?.toList).max? =
      (carried.toList ++ values ++ logged).max? :=
  max?_append_congr (max?_append_congr rfl (max?_toList values))
    (max?_toList logged)

/-- In peak mode: the greatest of what was carried in, observed and logged,
cut at the live peak. -/
theorem chartedMetric_peak (hrank : t.rankBy = .peakRating) (row : RosterRow) :
    chartedMetric db t row =
      (((historySeries db t row).baseline
          (row.rating.map (·.maxRating))).toList ++
        (historySeries db t row).snapPoints.map (·.2) ++
          (historySeries db t row).points.map (·.2)).max?.map
            (cut (row.rating.map (·.maxRating))) := by
  rw [← max?_recorded]
  simp only [chartedMetric, finalPlace, Entrant.placed, Entrant.metric, hrank,
    foldl_logPush, foldl_snapPush, historyEntrant]

/-- In current mode: the newer of the last logged and the last observed
rating, or else what was carried in. -/
theorem chartedMetric_current (hrank : t.rankBy = .currentRating)
    (row : RosterRow) :
    chartedMetric db t row =
      match (historySeries db t row).points.getLast?,
        (historySeries db t row).snapPoints.getLast? with
      | none, none => (historySeries db t row).baselineCurrent
          (row.rating.map (·.currentRating))
      | none, some observed => some observed.2
      | some logged, none => some logged.2
      | some logged, some observed =>
          if observed.1 ≤ logged.1 then some logged.2 else some observed.2 := by
  simp only [chartedMetric, finalPlace, Entrant.placed, Entrant.metric, hrank,
    foldl_logPush, foldl_snapPush, historyEntrant]
  cases (historySeries db t row).points.getLast? <;>
    cases (historySeries db t row).snapPoints.getLast? <;> rfl

/-! The order of a frame. -/

/-- What breaks a tie of two rows: a rating, and then the name. -/
def tieKey (rating : RosterRow → Option Int) (row : RosterRow) :
    (Bool ×ₗ Int) ×ₗ List Nat :=
  toLex (descNullsLast (rating row), codePoints row.entry.name)

theorem name_le_iff (hnames : UniqueNames db.tournamentPlayers)
    {left right : RosterRow} (hleft : left ∈ rosterRows db t)
    (hright : right ∈ rosterRows db t) :
    toLex (codePoints left.entry.name, left.entry.id) ≤
        toLex (codePoints right.entry.name, right.entry.id) ↔
      codePoints left.entry.name ≤ codePoints right.entry.name := by
  rw [Prod.Lex.toLex_le_toLex]
  constructor
  · rintro (hlt | ⟨heq, _⟩)
    · exact le_of_lt hlt
    · exact le_of_eq heq
  · intro hle
    rcases lt_or_eq_of_le hle with hlt | heq
    · exact Or.inl hlt
    · obtain ⟨entry, hentry, htournament, rfl, _⟩ := mem_rosterRows.mp hleft
      obtain ⟨entry', hentry', htournament', rfl, _⟩ :=
        mem_rosterRows.mp hright
      have hid := hnames entry hentry entry' hentry'
        (htournament.trans htournament'.symm) (codePoints_injective heq)
      exact Or.inr ⟨heq, le_of_eq hid⟩

/-- The keys of the chart, in the terms of the table's. -/
theorem placedKey_le_iff (hnames : UniqueNames db.tournamentPlayers)
    (place : RosterRow → Placed) (hid : ∀ row, (place row).id = row.entry.id)
    (hname : ∀ row, (place row).name = row.entry.name)
    {left right : RosterRow} (hleft : left ∈ rosterRows db t)
    (hright : right ∈ rosterRows db t) :
    (place left).key ≤ (place right).key ↔
      toLex (descNullsLast (place left).metric,
          tieKey (fun row => (place row).other) left) ≤
        toLex (descNullsLast (place right).metric,
          tieKey (fun row => (place row).other) right) := by
  refine toLex_le_congr fun _ => toLex_le_congr fun _ => ?_
  rw [hid, hid, hname, hname]
  exact name_le_iff hnames hleft hright

theorem placedKey_injOn (place : RosterRow → Placed)
    (hid : ∀ row, (place row).id = row.entry.id) :
    ∀ left ∈ rosterRows db t, ∀ right ∈ rosterRows db t,
      (place left).key = (place right).key → left = right := by
  intro left hleft right hright heq
  have hkey : (place left).id = (place right).id :=
    congrArg (fun key => (ofLex (ofLex (ofLex key).2).2).2) heq
  rw [hid, hid] at hkey
  exact List.inj_on_of_nodup_map (rosterRows_nodup db t) hleft hright hkey

/-! What is recorded for a listed row. -/

theorem rated_row {row : RosterRow} (hrow : row ∈ rosterRows db t)
    {rating : PlayerRating} (hrating : row.rating = some rating) :
    row.entry.profileId = some rating.profileId ∧
      liveRating db t rating.profileId = some rating := by
  obtain ⟨entry, _, _, rfl, _⟩ := mem_rosterRows.mp hrow
  obtain ⟨player, hplayer, hlive⟩ := Option.bind_eq_some_iff.mp hrating
  have hprofile := profile_of_player hrow hplayer
  have hkey : rating.key = (player.profileId, t.leaderboardId) :=
    db.playerRatings.key_of_find? hlive
  have hid : rating.profileId = player.profileId := congrArg Prod.fst hkey
  rw [hid]
  exact ⟨hprofile, hlive⟩

theorem unrated_of_unlinked {row : RosterRow} (hrow : row ∈ rosterRows db t)
    (hprofile : row.entry.profileId = none) : row.rating = none := by
  cases hrating : row.rating with
  | none => rfl
  | some rating =>
      have hlinked := (rated_row hrow hrating).1
      rw [hprofile] at hlinked
      cases hlinked

theorem rating_of_listed {row : RosterRow} (hrow : row ∈ rosterRows db t)
    {profileId : Int} (hprofile : row.entry.profileId = some profileId) :
    row.rating = liveRating db t profileId := by
  obtain ⟨entry, _, _, rfl, hvisible⟩ := mem_rosterRows.mp hrow
  have hlinked : entry.profileId = some profileId := hprofile
  exact rating_rosterRow hlinked
    (by simpa [RosterRow.visible, rosterRow, hlinked] using hvisible)

theorem historySeries_of_profile (db : Database) (t : Tournament)
    {row : RosterRow} {profileId : Int}
    (hprofile : row.entry.profileId = some profileId) :
    historySeries db t row =
      seriesByProfile db t (row.rating.map (·.maxRating)) profileId := by
  rw [historySeries, hprofile, Option.elim_some]

theorem historySeries_unlinked (db : Database) (t : Tournament)
    {row : RosterRow} (hprofile : row.entry.profileId = none) :
    historySeries db t row = .empty := by
  rw [historySeries, hprofile, Option.elim_none]

theorem historySeries_inOrder (db : Database) (t : Tournament)
    (row : RosterRow) :
    InOrder (historySeries db t row).points ∧
      InOrder (historySeries db t row).snapPoints :=
  ⟨(historyEntrant_inOrder db t row).points,
    (historyEntrant_inOrder db t row).snapPoints⟩

theorem entryOld_of_no_points {row : RosterRow}
    (hpoints : (historySeries db t row).points = []) :
    (historySeries db t row).entryOld = none := by
  cases hprofile : row.entry.profileId with
  | none => rw [historySeries_unlinked db t hprofile]; rfl
  | some profileId =>
      rw [historySeries_of_profile db t hprofile] at hpoints ⊢
      have hgames : loggedGames db t t.inWindow profileId = [] :=
        List.map_eq_nil_iff.mp hpoints
      change (loggedGames db t t.inWindow profileId).head?.bind _ = none
      rw [hgames]
      rfl

/-- A carried-in observation is the baseline, floored by the rating held
entering the window. -/
theorem baseline_of_snapBase {series : Series} {carried : Int}
    (hbase : series.snapBase = some carried) (curMax : Int) :
    series.baseline (some curMax) =
      some (series.entryOld.elim carried (max carried)) := by
  rw [Series.baseline]
  rw [Option.bind_some, hbase]
  cases series.entryOld with
  | none => rfl
  | some held => rfl

/-- Snapshots are ordered by observation, and then by id. -/
def PlayerRatingSnapshot.order (snapshot : PlayerRatingSnapshot) :
    Instant ×ₗ Int :=
  toLex (snapshot.observedAt, snapshot.id)

theorem order_injOn (db : Database) (t : Tournament) (profileId : Int) :
    ∀ left ∈ snapshotsOf db t profileId,
      ∀ right ∈ snapshotsOf db t profileId,
        left.order = right.order → left = right := by
  intro left hleft right hright heq
  exact db.playerRatingSnapshots.eq_of_key_eq (List.mem_of_mem_filter hleft)
    (List.mem_of_mem_filter hright) (congrArg (fun key => (ofLex key).2) heq)

/-- No snapshot is later than this one. -/
def NoneLater (snapshots : List PlayerRatingSnapshot)
    (latest : PlayerRatingSnapshot) : Prop :=
  ∀ other ∈ snapshots, other.order ≤ latest.order

instance (snapshots : List PlayerRatingSnapshot)
    (latest : PlayerRatingSnapshot) : Decidable (NoneLater snapshots latest) :=
  inferInstanceAs (Decidable (∀ other ∈ snapshots, other.order ≤ latest.order))

/-- The latest snapshot of a rated entrant carries the ratings of its row. -/
def SnapshotsFollow (db : Database) (t : Tournament) : Prop :=
  ∀ row ∈ rosterRows db t, ∀ rating ∈ row.rating,
    ∀ latest ∈ snapshotsOf db t rating.profileId,
      NoneLater (snapshotsOf db t rating.profileId) latest →
        latest.maxRating = rating.maxRating ∧
          latest.currentRating = some rating.currentRating

theorem exists_noneLater {db : Database} {t : Tournament} {profileId : Int}
    {snapshot : PlayerRatingSnapshot}
    (hsnapshot : snapshot ∈ snapshotsOf db t profileId) :
    ∃ latest ∈ snapshotsOf db t profileId,
      NoneLater (snapshotsOf db t profileId) latest := by
  have hne : sortBy PlayerRatingSnapshot.order (snapshotsOf db t profileId) ≠
      [] := List.ne_nil_of_mem ((mem_sortBy _).mpr hsnapshot)
  exact ⟨_, (getLast?_sortBy_eq_some_iff (order_injOn db t profileId)).mp
    (List.getLast?_eq_some_getLast hne)⟩

theorem mem_observations {profileId : Int} {point : Instant × Int} :
    point ∈ observations db t profileId ↔
      ∃ snapshot ∈ snapshotsOf db t profileId,
        (t.endDate.all fun bound => snapshot.observedAt ≤ bound) = true ∧
          snapshot.observedAt = point.1 ∧
            snapMetric t snapshot = some point.2 := by
  simp only [observations, chartedSnapshots, List.mem_filterMap, mem_sortBy,
    List.mem_filter, Bool.and_eq_true]
  constructor
  · rintro ⟨snapshot, ⟨hmem, _, hbound⟩, hpoint⟩
    obtain ⟨value, hvalue, rfl⟩ := Option.map_eq_some_iff.mp hpoint
    exact ⟨snapshot, hmem, hbound, rfl, hvalue⟩
  · rintro ⟨snapshot, hmem, hbound, htime, hvalue⟩
    refine ⟨snapshot, ⟨hmem, by simp [hvalue], hbound⟩, ?_⟩
    rw [hvalue, htime, Option.map_some]

theorem getLast?_observations (db : Database) (t : Tournament)
    (profileId : Int) :
    (observations db t profileId).getLast? =
      (chartedSnapshots db t profileId).getLast?.bind fun snapshot =>
        (snapMetric t snapshot).map fun value =>
          (snapshot.observedAt, value) := by
  have hread : ∀ snapshot ∈ chartedSnapshots db t profileId,
      (snapMetric t snapshot).isSome := by
    intro snapshot hsnapshot
    have hkept := (List.mem_filter.mp ((mem_sortBy _).mp hsnapshot)).2
    exact (Bool.and_eq_true _ _ ▸ hkept).1
  rw [observations]
  generalize chartedSnapshots db t profileId = read at hread
  induction read using List.reverseRecOn with
  | nil => rfl
  | append_singleton earlier last _ =>
      obtain ⟨value, hvalue⟩ :=
        Option.isSome_iff_exists.mp (hread last (by simp))
      simp [List.filterMap_append, hvalue]

/-- The latest snapshot, if the chart reads it, is the last one read. -/
theorem getLast?_chartedSnapshots {profileId : Int}
    {latest : PlayerRatingSnapshot}
    (hmem : latest ∈ snapshotsOf db t profileId)
    (hlatest : NoneLater (snapshotsOf db t profileId) latest)
    (hvalue : (snapMetric t latest).isSome)
    (hbound : (t.endDate.all fun bound => latest.observedAt ≤ bound) = true) :
    (chartedSnapshots db t profileId).getLast? = some latest := by
  refine (getLast?_sortBy_eq_some_iff ?_).mpr ⟨?_, ?_⟩
  · intro left hleft right hright
    exact order_injOn db t profileId left (List.mem_of_mem_filter hleft)
      right (List.mem_of_mem_filter hright)
  · exact List.mem_filter.mpr ⟨hmem, by simp [hvalue, hbound]⟩
  · intro other hother
    exact hlatest other (List.mem_of_mem_filter hother)

/-- If the last observation is in the window it is the last in-window one. -/
theorem getLast?_snapPoints {profileId : Int} {last : Instant × Int}
    (hlast : (observations db t profileId).getLast? = some last)
    (hlate : t.preStart last.1 = false) :
    (snapPointsByProfile db t profileId).getLast? = some last := by
  obtain ⟨earlier, hsplit⟩ := List.getLast?_eq_some_iff.mp hlast
  rw [snapPointsByProfile, hsplit, List.filter_append]
  simp [hlate]

theorem preStart_mono {earlier later : Instant}
    (hpre : t.preStart later = true) (hle : earlier ≤ later) :
    t.preStart earlier = true := by
  unfold Tournament.preStart at hpre ⊢
  cases hstart : t.startDate with
  | none => simp [hstart] at hpre
  | some start =>
      simp only [hstart, Option.any_some, decide_eq_true_eq] at hpre ⊢
      exact hle.trans hpre

/-- If the last observation is from before, there is none in the window and it
is the one carried in. -/
theorem snapBaseline_of_preStart {profileId : Int} {last : Instant × Int}
    (hlast : (observations db t profileId).getLast? = some last)
    (hearly : t.preStart last.1 = true) :
    snapPointsByProfile db t profileId = [] ∧
      snapBaselineByProfile db t profileId = some last.2 := by
  constructor
  · apply List.filter_eq_nil_iff.mpr
    intro point hpoint
    have hle := (observations_inOrder db t profileId).le_last hlast point hpoint
    simp [preStart_mono hearly hle]
  · obtain ⟨earlier, hsplit⟩ := List.getLast?_eq_some_iff.mp hlast
    rw [snapBaselineByProfile, hsplit, List.filter_append]
    simp [hearly]

end LastBucket

end LiveStandings
