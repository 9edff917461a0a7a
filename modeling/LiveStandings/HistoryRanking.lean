/-
Every bucket ranks everyone.  A bucket's frame places the listed rows; sorting
it gives each of them one position, and so for the teams.
-/
import LiveStandings.HistoryReplay

namespace LiveStandings

open KeyedTable PyJson Ranking Sweep Highest

theorem descNullsLast_le_iff {left right : Option Int} :
    descNullsLast left ≤ descNullsLast right ↔ Rises right left := by
  cases left with
  | none => cases right <;> simp [descNullsLast, Rises, Prod.Lex.toLex_le_toLex]
  | some value =>
      cases right <;> simp [descNullsLast, Rises, Prod.Lex.toLex_le_toLex]

section Frames

variable {db : Database} {t : Tournament}

/-- A listed row placed on what was recorded by `time`. -/
def placeAt (db : Database) (t : Tournament) (time : Instant)
    (row : RosterRow) : Placed :=
  (historyEntrant db t row).placedAt t.rankBy time

theorem placed_historyFrame {start : Instant} {frame : Frame}
    (hframe : frame ∈ historyFrames db t start) :
    frame.placed = (rosterRows db t).map (placeAt db t frame.time) := by
  obtain ⟨time, _, rfl⟩ := mem_historyFrames hframe
  rw [frameAt, historyEntrants, historyRoster_eq, List.map_map]
  rfl

theorem ids_historyFrame {start : Instant} {frame : Frame}
    (hframe : frame ∈ historyFrames db t start) :
    frame.placed.map (·.id) = (rosterRows db t).map (·.entry.id) := by
  rw [placed_historyFrame hframe, List.map_map]
  rfl

theorem metricAt_historyFrame {start : Instant} {frame : Frame}
    (hframe : frame ∈ historyFrames db t start) {row : RosterRow}
    (hrow : row ∈ rosterRows db t) :
    frame.metricAt row.entry.id =
      some ((historyEntrant db t row).metricBy t.rankBy frame.time) := by
  have hplaced : placeAt db t frame.time row ∈ frame.placed := by
    rw [placed_historyFrame hframe]
    exact List.mem_map_of_mem hrow
  rw [← metric_placedAt]
  exact metricAt_of_mem (ids_historyFrame hframe ▸ rosterRows_nodup db t) hplaced

theorem metricAt_historyFrame_of_absent {start : Instant} {frame : Frame}
    (hframe : frame ∈ historyFrames db t start) {id : Int}
    (habsent : ∀ row ∈ rosterRows db t, row.entry.id ≠ id) :
    frame.metricAt id = none := by
  apply metricAt_of_absent
  intro placed hplaced
  rw [placed_historyFrame hframe] at hplaced
  obtain ⟨row, hrow, rfl⟩ := List.mem_map.mp hplaced
  exact habsent row hrow

theorem playerOrder_historyFrame {start : Instant} {frame : Frame}
    (hframe : frame ∈ historyFrames db t start) :
    frame.playerOrder =
      (sortBy (fun row => (placeAt db t frame.time row).key)
        (rosterRows db t)).map (·.entry.id) := by
  rw [Frame.playerOrder, placed_historyFrame hframe, sortBy_map, List.map_map]
  rfl

/-- The players' positions are the numbers from 1 to the size of the roster. -/
theorem positions_playerPoint {start : Instant} {frame : Frame}
    (hframe : frame ∈ historyFrames db t start) :
    ((rosterRows db t).map fun row =>
      (frame.playerPoint t.rankBy row.entry.id).position).Perm
        (List.range' 1 (rosterRows db t).length) := by
  have hperm : frame.playerOrder.Perm ((rosterRows db t).map (·.entry.id)) := by
    rw [playerOrder_historyFrame hframe]
    exact (sortBy_perm _ _).map _
  have hpositions := map_positionIn_perm hperm (rosterRows_nodup db t)
  simpa only [List.map_map, List.length_map, position_playerPoint,
    Function.comp_def] using hpositions

/-- Who has a better position has no smaller rating. -/
theorem rises_playerPoint {start : Instant} {frame : Frame}
    (hframe : frame ∈ historyFrames db t start) {left right : RosterRow}
    (hleft : left ∈ rosterRows db t) (hright : right ∈ rosterRows db t)
    (hle : (frame.playerPoint t.rankBy left.entry.id).position ≤
      (frame.playerPoint t.rankBy right.entry.id).position) :
    Rises ((frame.playerPoint t.rankBy right.entry.id).ranked t)
      ((frame.playerPoint t.rankBy left.entry.id).ranked t) := by
  rw [position_playerPoint, position_playerPoint,
    playerOrder_historyFrame hframe] at hle
  have hkey := key_le_of_positionIn_le (fun row : RosterRow => row.entry.id)
    (fun row => (placeAt db t frame.time row).key) (rosterRows_nodup db t)
    hleft hright hle
  have hmetric := Prod.Lex.monotone_fst _ _ hkey
  rw [ranked_playerPoint, ranked_playerPoint,
    metricAt_historyFrame hframe hleft, metricAt_historyFrame hframe hright,
    ← metric_placedAt, ← metric_placedAt]
  exact descNullsLast_le_iff.mp hmetric

theorem nodup_historyTeams (db : Database) (t : Tournament) :
    ((historyTeams db t).map (·.team.id)).Nodup := by
  have hteams : ((db.teams.rows.filter (·.tournamentId = t.id)).map
      fun team => (⟨team, (db.teamMembers.rows.filter
        (·.teamId = team.id)).map (·.tournamentPlayerId)⟩ : HistoryTeam)).map
          (·.team.id) =
      (db.teams.rows.filter (·.tournamentId = t.id)).map (·.id) := by
    rw [List.map_map]
    rfl
  exact (List.filter_sublist.map _).nodup
    (hteams ▸ (List.filter_sublist.map _).nodup db.teams.keys_nodup)

theorem position_teamPoint (frame : Frame) (teams : List HistoryTeam)
    (team : HistoryTeam) :
    (frame.teamPoint t.rankBy teams team).position =
      positionIn (frame.teamOrder teams) team.team.id := by
  unfold Frame.teamPoint
  cases t.rankBy <;> rfl

theorem positions_teamPoint (db : Database) (t : Tournament) (frame : Frame) :
    ((historyTeams db t).map fun team =>
      (frame.teamPoint t.rankBy (historyTeams db t) team).position).Perm
        (List.range' 1 (historyTeams db t).length) := by
  have hperm : (frame.teamOrder (historyTeams db t)).Perm
      ((historyTeams db t).map (·.team.id)) := (sortBy_perm _ _).map _
  have hpositions := map_positionIn_perm hperm (nodup_historyTeams db t)
  simpa only [List.map_map, List.length_map, position_teamPoint,
    Function.comp_def] using hpositions

theorem rises_teamPoint (frame : Frame) {left right : HistoryTeam}
    (hleft : left ∈ historyTeams db t) (hright : right ∈ historyTeams db t)
    (hle : (frame.teamPoint t.rankBy (historyTeams db t) left).position ≤
      (frame.teamPoint t.rankBy (historyTeams db t) right).position) :
    Rises ((frame.teamPoint t.rankBy (historyTeams db t) right).combined t)
      ((frame.teamPoint t.rankBy (historyTeams db t) left).combined t) := by
  rw [position_teamPoint, position_teamPoint] at hle
  have hkey := key_le_of_positionIn_le (fun team : HistoryTeam => team.team.id)
    (fun team => toLex (-frame.teamCombined team, team.team.id))
    (nodup_historyTeams db t) hleft hright hle
  have hsum : -frame.teamCombined left ≤ -frame.teamCombined right :=
    Prod.Lex.monotone_fst _ _ hkey
  rw [combined_teamPoint, combined_teamPoint]
  intro value hvalue
  cases hvalue
  exact ⟨_, rfl, by omega⟩

/-- The teams of the tournament that have members. -/
def memberedTeams (db : Database) (t : Tournament) : List Team :=
  db.teams.rows.filter fun team => team.tournamentId = t.id &&
    db.teamMembers.rows.any (·.teamId = team.id)

theorem map_team_historyTeams (db : Database) (t : Tournament) :
    (historyTeams db t).map (·.team) = memberedTeams db t := by
  rw [historyTeams, List.filter_map, List.map_map, memberedTeams]
  refine (List.map_id _).trans ?_
  rw [List.filter_filter]
  apply List.filter_congr
  intro team _
  rw [Bool.and_comm]
  congr 1
  rw [Bool.eq_iff_iff]
  simp

/-- What the bucket at an index says is a ranking of the listed rows and of
the teams with members. -/
structure RankedBucket (db : Database) (t : Tournament)
    (history : StandingsHistory) (i : Nat) : Prop where
  roster : (history.players.map (·.tournamentPlayerId)).Perm
    ((rosterRows db t).map (·.entry.id))
  positions : (history.players.map fun player =>
      player.points[i]?.map (·.position)).Perm
    ((List.range' 1 (rosterRows db t).length).map some)
  rated : ∀ left ∈ history.players, ∀ right ∈ history.players,
    ∀ first ∈ left.points[i]?, ∀ second ∈ right.points[i]?,
      first.position ≤ second.position → Rises (second.ranked t) (first.ranked t)
  teams : (history.teams.map (·.teamId)).Perm
    ((memberedTeams db t).map (·.id))
  teamPositions : (history.teams.map fun team =>
      team.points[i]?.map (·.position)).Perm
    ((List.range' 1 (memberedTeams db t).length).map some)
  teamsRated : ∀ left ∈ history.teams, ∀ right ∈ history.teams,
    ∀ first ∈ left.points[i]?, ∀ second ∈ right.points[i]?,
      first.position ≤ second.position →
        Rises (second.combined t) (first.combined t)

/-- Every bucket is a complete ranking, and every series has a point for it. -/
structure RankedThroughout (db : Database) (t : Tournament)
    (history : StandingsHistory) : Prop where
  increasing : history.buckets.Pairwise (· < ·)
  playerPoints : ∀ player ∈ history.players,
    player.points.length = history.buckets.length
  teamPoints : ∀ team ∈ history.teams,
    team.points.length = history.buckets.length
  ranked : ∀ i < history.buckets.length, RankedBucket db t history i

theorem increasing_historyFrames (db : Database) (t : Tournament)
    (start : Instant) :
    (historyFrames db t start).Pairwise fun left right =>
      left.time < right.time := by
  have hincreasing : ((candidateTimes start
      (inEventTimes (historyEntrants db t))).map
        (frameAt t.rankBy (historyEntrants db t))).Pairwise
          fun left right => left.time < right.time :=
    List.pairwise_map.mpr (candidateTimes_increasing start _)
  refine hincreasing.sublist ?_
  rw [historyFrames, bucketFrames_eq _ (historyEntrants_inOrder db t)]
  exact record_sublist _ _ _ _

theorem point_playerSeries {start : Instant} {i : Nat} {frame : Frame}
    (hframe : (historyFrames db t start)[i]? = some frame) (row : RosterRow) :
    (playerSeries db t start row).points[i]? =
      some (frame.playerPoint t.rankBy row.entry.id) := by
  rw [playerSeries, List.getElem?_map, hframe, Option.map_some]

theorem point_teamSeries {start : Instant} {i : Nat} {frame : Frame}
    (hframe : (historyFrames db t start)[i]? = some frame)
    (team : HistoryTeam) :
    (teamSeries db t start team).points[i]? =
      some (frame.teamPoint t.rankBy (historyTeams db t) team) := by
  rw [teamSeries, List.getElem?_map, hframe, Option.map_some]

theorem rankedBucket {start : Instant} (hstart : historyStart db t = some start)
    {i : Nat} {frame : Frame}
    (hindex : (historyFrames db t start)[i]? = some frame) :
    RankedBucket db t (getStandingsHistory db t) i := by
  obtain ⟨_, hplayers, hteams⟩ := getStandingsHistory_of_start hstart
  have hframe : frame ∈ historyFrames db t start := List.mem_of_getElem? hindex
  have hlisted : (getStandingsHistory db t).players.Perm
      ((rosterRows db t).map (playerSeries db t start)) :=
    hplayers ▸ sortBy_perm _ _
  have hranked : (getStandingsHistory db t).teams.Perm
      ((historyTeams db t).map (teamSeries db t start)) :=
    hteams ▸ sortBy_perm _ _
  constructor
  · have hids := hlisted.map (·.tournamentPlayerId)
    rwa [List.map_map] at hids
  · refine (hlisted.map _).trans ?_
    have hpositions := (positions_playerPoint hframe).map some
    simpa only [List.map_map, Function.comp_def, point_playerSeries hindex,
      Option.map_some] using hpositions
  · intro left hleft right hright first hfirst second hsecond hle
    obtain ⟨row, hrow, rfl⟩ := List.mem_map.mp (hlisted.mem_iff.mp hleft)
    obtain ⟨row', hrow', rfl⟩ := List.mem_map.mp (hlisted.mem_iff.mp hright)
    rw [point_playerSeries hindex] at hfirst hsecond
    cases hfirst
    cases hsecond
    exact rises_playerPoint hframe hrow hrow' hle
  · have hids := hranked.map (·.teamId)
    rw [List.map_map] at hids
    rwa [← map_team_historyTeams, List.map_map]
  · refine (hranked.map _).trans ?_
    have hpositions := (positions_teamPoint db t frame).map some
    rw [← map_team_historyTeams, List.length_map]
    simpa only [List.map_map, Function.comp_def, point_teamSeries hindex,
      Option.map_some] using hpositions
  · intro left hleft right hright first hfirst second hsecond hle
    obtain ⟨team, hteam, rfl⟩ := List.mem_map.mp (hranked.mem_iff.mp hleft)
    obtain ⟨team', hteam', rfl⟩ := List.mem_map.mp (hranked.mem_iff.mp hright)
    rw [point_teamSeries hindex] at hfirst hsecond
    cases hfirst
    cases hsecond
    exact rises_teamPoint frame hteam hteam' hle

end Frames

/-- In every bucket the players and the teams have the positions from 1 on,
better positions for greater ratings, in one point of each series. -/
theorem history_ranks_everyone (db : Database) (t : Tournament) :
    RankedThroughout db t (getStandingsHistory db t) := by
  cases hstart : historyStart db t with
  | none =>
      rw [getStandingsHistory, hstart]
      exact ⟨List.Pairwise.nil, by simp [StandingsHistory.empty],
        by simp [StandingsHistory.empty], by simp [StandingsHistory.empty]⟩
  | some start =>
      obtain ⟨hbuckets, hplayers, hteams⟩ := getStandingsHistory_of_start hstart
      refine ⟨?_, ?_, ?_, ?_⟩
      · rw [hbuckets]
        exact List.pairwise_map.mpr (increasing_historyFrames db t start)
      · intro player hplayer
        rw [hplayers, mem_sortBy] at hplayer
        obtain ⟨row, _, rfl⟩ := List.mem_map.mp hplayer
        rw [hbuckets, playerSeries, List.length_map, List.length_map]
      · intro team hteam
        rw [hteams, mem_sortBy] at hteam
        obtain ⟨team, _, rfl⟩ := List.mem_map.mp hteam
        rw [hbuckets, teamSeries, List.length_map, List.length_map]
      · intro i hi
        rw [hbuckets, List.length_map] at hi
        exact rankedBucket hstart (List.getElem?_eq_getElem hi)

end LiveStandings
