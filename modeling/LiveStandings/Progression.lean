/-
The progression charts.  One query lists the settled games of the roster by
player, and a loop collects them into a series each; a series has the points
that the standings over time are swept from.
-/
import LiveStandings.HistorySweep
import LiveStandings.ManagementInvariants
import LiveStandings.Library.Tally

namespace LiveStandings

open KeyedTable PyJson Ranking Tally Highest

/-- `RatingPoint`. -/
structure RatingPoint where
  completedAt : Instant
  rating : Int
deriving Repr, DecidableEq

/-- `PlayerProgression`. -/
structure PlayerProgression where
  tournamentPlayerId : Int
  profileId : Int
  aliasName : String
  points : List RatingPoint
deriving Repr, DecidableEq

/-- A row of the query, with what it is ordered by. -/
structure ProgressionRow where
  tournamentPlayerId : Int
  profileId : Int
  aliasName : String
  completedAt : Instant
  rating : Int
  matchId : Int
deriving Repr, DecidableEq

/-- The joins of a match-player row with an entry of the roster. -/
def progressionRow (db : Database) (t : Tournament) (row : MatchPlayer)
    (entry : TournamentPlayer) : Option ProgressionRow := do
  let player ← db.players.find? row.profileId
  let m ← db.matchTable.find? row.matchId
  let completedAt ← m.completedAt
  let rating ← row.newRating
  if m.leaderboardId = some t.leaderboardId && t.inWindow m.startedAt then
    some ⟨entry.id, player.profileId, player.aliasName, completedAt, rating,
      m.matchId⟩
  else none

/-- The rows of the `get_progression` query. -/
def progressionRows (db : Database) (t : Tournament) : List ProgressionRow :=
  db.matchPlayers.rows.flatMap fun row =>
    ((rosterEntries db t).filter
      (·.profileId = some row.profileId)).filterMap (progressionRow db t row)

/-- `ORDER BY alias, profile_id, completed_at, match_id`. -/
def ProgressionRow.order (row : ProgressionRow) :
    List Nat ×ₗ Int ×ₗ Instant ×ₗ Int :=
  toLex (codePoints row.aliasName,
    toLex (row.profileId, toLex (row.completedAt, row.matchId)))

/-- The body of the loop of `get_progression`. -/
def pushPoint (held : Option PlayerProgression) (row : ProgressionRow) :
    PlayerProgression :=
  let playerSeries := held.getD
    ⟨row.tournamentPlayerId, row.profileId, row.aliasName, []⟩
  { playerSeries with
    points := playerSeries.points ++ [⟨row.completedAt, row.rating⟩] }

/-- `get_progression`. -/
def getProgression (db : Database) (t : Tournament) :
    ListEnvelope PlayerProgression :=
  let rows := sortBy ProgressionRow.order (progressionRows db t)
  { lastPolledAt := computeLastPolledAt (rows.map fun row =>
      some row.completedAt)
    items := (collect pushPoint (·.profileId) [] rows).map (·.2) }

section Rows

variable {db : Database} {t : Tournament}

/-- The row of a logged game. -/
def LoggedGame.row (game : LoggedGame) (entry : TournamentPlayer)
    (player : Player) : ProgressionRow :=
  ⟨entry.id, player.profileId, player.aliasName, game.completedAt,
    game.newRating, game.matchId⟩

theorem progressionRow_eq {row : MatchPlayer} {player : Player}
    (hplayer : db.players.find? row.profileId = some player)
    (entry : TournamentPlayer) :
    progressionRow db t row entry =
      (((joinMatch db row).bind (loggedGame t)).filter fun game =>
        t.inWindow game.startedAt).map (·.row entry player) := by
  unfold progressionRow joinMatch
  rw [hplayer]
  cases db.matchTable.find? row.matchId with
  | none => rfl
  | some m =>
      cases hcompleted : m.completedAt with
      | none => simp [loggedGame, Match.played, hcompleted]
      | some completedAt =>
          cases hrating : row.newRating with
          | none => simp [loggedGame, hrating]
          | some rating =>
              by_cases hboard : m.leaderboardId = some t.leaderboardId
              · by_cases hwindow : t.inWindow m.startedAt = true
                · simp [loggedGame, Match.played, hcompleted, hrating, hboard,
                    hwindow, LoggedGame.row]
                · simp [loggedGame, Match.played, hcompleted, hrating, hboard,
                    hwindow]
              · simp [loggedGame, Match.played, hcompleted, hboard]

theorem filter_rosterEntries (hunique : UniqueProfiles db.tournamentPlayers)
    {entry : TournamentPlayer} {profileId : Int}
    (hlinked : Linked db t entry profileId) :
    (rosterEntries db t).filter (·.profileId = some profileId) = [entry] := by
  have hmem : entry ∈
      (rosterEntries db t).filter (·.profileId = some profileId) :=
    List.mem_filter.mpr ⟨mem_rosterEntries.mpr ⟨hlinked.mem, hlinked.tournament⟩,
      decide_eq_true hlinked.profile⟩
  have hnodup := (nodup_rosterEntries db t).of_map.filter
    fun entry => decide (entry.profileId = some profileId)
  have hsame : ∀ other ∈
      (rosterEntries db t).filter (·.profileId = some profileId),
        other = entry := by
    intro other hother
    obtain ⟨hroster, hprofile⟩ := List.mem_filter.mp hother
    obtain ⟨hstored, htournament⟩ := mem_rosterEntries.mp hroster
    have hprofile := of_decide_eq_true hprofile
    exact db.tournamentPlayers.eq_of_key_eq hstored hlinked.mem
      (hunique other hstored entry hlinked.mem
        (htournament.trans hlinked.tournament.symm)
        (hprofile.trans hlinked.profile.symm) (by simp [hprofile]))
  exact List.perm_singleton.mp
    ((List.perm_ext_iff_of_nodup hnodup (List.nodup_singleton _)).mpr
      fun other => ⟨fun hother => by simp [hsame other hother],
        fun hother => by rwa [List.mem_singleton.mp hother]⟩)

theorem profileId_of_progressionRow {row : MatchPlayer}
    {entry : TournamentPlayer} {joined : ProgressionRow}
    (hrow : progressionRow db t row entry = some joined) :
    joined.profileId = row.profileId := by
  unfold progressionRow at hrow
  cases hplayer : db.players.find? row.profileId with
  | none => simp [hplayer] at hrow
  | some player =>
      rw [← progressionRow.eq_def, progressionRow_eq hplayer] at hrow
      obtain ⟨game, _, rfl⟩ := Option.map_eq_some_iff.mp hrow
      exact db.players.key_of_find? hplayer

/-- The rows of a polled entrant are its logged games. -/
theorem filter_progressionRows (hunique : UniqueProfiles db.tournamentPlayers)
    {entry : TournamentPlayer} {player : Player}
    (hplayer : player ∈ db.players.rows)
    (hlinked : Linked db t entry player.profileId) :
    (progressionRows db t).filter (·.profileId = player.profileId) =
      (((games db player.profileId).filterMap (loggedGame t)).filter fun game =>
        t.inWindow game.startedAt).map (·.row entry player) := by
  have hfind := db.players.find?_key hplayer
  -- each stored row adds its joined row on both sides, or nothing
  unfold progressionRows games
  rw [List.filter_flatMap]
  induction db.matchPlayers.rows with
  | nil => rfl
  | cons row rows ih =>
      rw [List.flatMap_cons, ih]
      by_cases hrow : row.profileId = player.profileId
      · rw [hrow, filter_rosterEntries hunique hlinked,
          List.filter_cons_of_pos (by simpa using hrow),
          List.filterMap_cons, List.filterMap_cons,
          progressionRow_eq (by rwa [hrow])]
        cases hjoin : joinMatch db row with
        | none => simp
        | some game =>
            cases hlogged : loggedGame t game with
            | none => simp [hlogged]
            | some logged =>
                by_cases hwindow : t.inWindow logged.startedAt = true
                · simp [hlogged, hwindow, Option.filter_some, LoggedGame.row]
                · simp [hlogged, hwindow, Option.filter_some]
      · have hnone : (((rosterEntries db t).filter
            (·.profileId = some row.profileId)).filterMap
              (progressionRow db t row)).filter
                (·.profileId = player.profileId) = [] := by
          refine List.filter_eq_nil_iff.mpr fun joined hjoined => ?_
          obtain ⟨other, _, hother⟩ := List.mem_filterMap.mp hjoined
          rw [profileId_of_progressionRow hother]
          simpa using hrow
        rw [hnone, List.nil_append, List.filter_cons_of_neg (by simpa using hrow)]

/-- In order, they are the points of its chart. -/
theorem filter_sorted_rows (hunique : UniqueProfiles db.tournamentPlayers)
    {entry : TournamentPlayer} {player : Player}
    (hplayer : player ∈ db.players.rows)
    (hlinked : Linked db t entry player.profileId) :
    (sortBy ProgressionRow.order (progressionRows db t)).filter
        (·.profileId = player.profileId) =
      (loggedGames db t t.inWindow player.profileId).map
        (·.row entry player) := by
  rw [filter_sortBy, filter_progressionRows hunique hplayer hlinked,
    sortBy_map, loggedGames]
  refine congrArg _ (sortBy_of_le_iff _ _ (fun left right => ?_) _)
  exact toLex_le_same.trans toLex_le_same

theorem mem_progressionRows {joined : ProgressionRow}
    (hjoined : joined ∈ progressionRows db t) :
    ∃ entry, ∃ player ∈ db.players.rows, Linked db t entry player.profileId ∧
      joined.profileId = player.profileId ∧
      joined.aliasName = player.aliasName := by
  obtain ⟨row, _, hrow⟩ := List.mem_flatMap.mp hjoined
  obtain ⟨entry, hentry, hjoin⟩ := List.mem_filterMap.mp hrow
  obtain ⟨hroster, hprofile⟩ := List.mem_filter.mp hentry
  obtain ⟨hstored, htournament⟩ := mem_rosterEntries.mp hroster
  cases hplayer : db.players.find? row.profileId with
  | none => simp [progressionRow, hplayer] at hjoin
  | some player =>
      obtain ⟨hmem, hid⟩ := db.players.find?_eq_some_iff.mp hplayer
      rw [progressionRow_eq hplayer] at hjoin
      obtain ⟨game, _, rfl⟩ := Option.map_eq_some_iff.mp hjoin
      exact ⟨entry, player, hmem,
        ⟨hstored, htournament, by rw [hid]; exact of_decide_eq_true hprofile⟩,
        rfl, rfl⟩

end Rows

section Series

variable {db : Database} {t : Tournament}

theorem foldl_pushPoint_some (rows : List ProgressionRow)
    (held : PlayerProgression) :
    rows.foldl (fun held row => some (pushPoint held row)) (some held) =
      some { held with
        points := held.points ++
          rows.map fun row => ⟨row.completedAt, row.rating⟩ } := by
  induction rows generalizing held with
  | nil => simp
  | cons row rows ih =>
      rw [List.foldl_cons, ih]
      simp [pushPoint]

theorem foldl_pushPoint_cons (row : ProgressionRow)
    (rows : List ProgressionRow) :
    (row :: rows).foldl (fun held row => some (pushPoint held row)) none =
      some ⟨row.tournamentPlayerId, row.profileId, row.aliasName,
        (row :: rows).map fun row => ⟨row.completedAt, row.rating⟩⟩ := by
  rw [List.foldl_cons, foldl_pushPoint_some]
  rfl

/-- The series that the loop leaves, by profile. -/
def seriesEntries (db : Database) (t : Tournament) :
    List (Int × PlayerProgression) :=
  collect pushPoint (·.profileId) []
    (sortBy ProgressionRow.order (progressionRows db t))

/-- The points of an entrant, as the standings over time have them. -/
def chartPoints (db : Database) (t : Tournament) (profileId : Int) :
    List RatingPoint :=
  (pointsByProfile db t profileId).map fun point => ⟨point.1, point.2⟩

theorem chartPoints_eq_nil_iff {profileId : Int} :
    chartPoints db t profileId = [] ↔ pointsByProfile db t profileId = [] :=
  List.map_eq_nil_iff

theorem nodup_seriesEntries (db : Database) (t : Tournament) :
    ((seriesEntries db t).map (·.1)).Nodup :=
  nodup_collect _ _ _ List.nodup_nil

/-- The series of a polled entrant, if it has a point. -/
theorem lookup_seriesEntries (hunique : UniqueProfiles db.tournamentPlayers)
    {entry : TournamentPlayer} {player : Player}
    (hplayer : player ∈ db.players.rows)
    (hlinked : Linked db t entry player.profileId) :
    (seriesEntries db t).lookup player.profileId =
      if chartPoints db t player.profileId = [] then none
      else some ⟨entry.id, player.profileId, player.aliasName,
        chartPoints db t player.profileId⟩ := by
  rw [seriesEntries, lookup_collect,
    filter_sorted_rows hunique hplayer hlinked, chartPoints, pointsByProfile]
  cases loggedGames db t t.inWindow player.profileId with
  | nil => rfl
  | cons game rest =>
      rw [List.map_cons, List.lookup_nil, foldl_pushPoint_cons, if_neg (by simp)]
      simp [LoggedGame.row, LoggedGame.point]

/-- Every series is that of a polled entrant. -/
theorem mem_seriesEntries {held : Int × PlayerProgression}
    (hunique : UniqueProfiles db.tournamentPlayers)
    (hheld : held ∈ seriesEntries db t) :
    ∃ entry, ∃ player ∈ db.players.rows, Linked db t entry player.profileId ∧
      chartPoints db t player.profileId ≠ [] ∧
      held = (player.profileId, ⟨entry.id, player.profileId, player.aliasName,
        chartPoints db t player.profileId⟩) := by
  have hkey : held.1 ∈ (sortBy ProgressionRow.order
      (progressionRows db t)).map (·.profileId) := by
    have hsub := keys_collect_sublist pushPoint
      (·.profileId) [] (sortBy ProgressionRow.order (progressionRows db t))
    exact hsub.subset (List.mem_map_of_mem hheld)
  obtain ⟨joined, hjoined, hid⟩ := List.mem_map.mp hkey
  obtain ⟨entry, player, hplayer, hlinked, hprofile, _⟩ :=
    mem_progressionRows ((mem_sortBy _).mp hjoined)
  have hlookup := lookup_of_mem (nodup_seriesEntries db t) hheld
  have hheldId : held.1 = player.profileId := hid.symm.trans hprofile
  rw [hheldId, lookup_seriesEntries hunique hplayer hlinked] at hlookup
  split at hlookup
  · cases hlookup
  · next hpoints =>
      exact ⟨entry, player, hplayer, hlinked, hpoints,
        Prod.ext hheldId (Option.some.inj hlookup).symm⟩

/-- How the legend of the chart is ordered. -/
def PlayerProgression.order (series : PlayerProgression) : List Nat ×ₗ Int :=
  toLex (codePoints series.aliasName, series.profileId)

/-- The polled alias of a profile. -/
def polledAlias (db : Database) (profileId : Int) : String :=
  ((db.players.find? profileId).map (·.aliasName)).getD ""

theorem polledAlias_of_mem {player : Player}
    (hplayer : player ∈ db.players.rows) :
    polledAlias db player.profileId = player.aliasName := by
  rw [polledAlias, db.players.find?_key hplayer]
  rfl

theorem seriesEntries_pairwise (hunique : UniqueProfiles db.tournamentPlayers) :
    ((seriesEntries db t).map (·.2)).Pairwise fun left right =>
      left.order < right.order := by
  have hsub : ((seriesEntries db t).map (·.1)).Sublist
      ((sortBy ProgressionRow.order (progressionRows db t)).map
        (·.profileId)) :=
    keys_collect_sublist _ _ _ _
  -- an order on profiles that rows and series are in
  let legend := fun profileId : Int =>
    toLex (codePoints (polledAlias db profileId), profileId)
  have hlegend : ∀ row ∈ sortBy ProgressionRow.order (progressionRows db t),
      legend row.profileId = toLex (codePoints row.aliasName, row.profileId) := by
    intro row hrow
    obtain ⟨_, player, hplayer, _, hid, hname⟩ :=
      mem_progressionRows ((mem_sortBy _).mp hrow)
    simp only [legend, hid, hname, polledAlias_of_mem hplayer]
  have hrows : ((sortBy ProgressionRow.order (progressionRows db t)).map
      (·.profileId)).Pairwise fun left right => legend left ≤ legend right := by
    refine List.pairwise_map.mpr
      ((sortBy_pairwise ProgressionRow.order _).imp_of_mem ?_)
    intro left right hleft hright hle
    rw [hlegend left hleft, hlegend right hright]
    exact toLex_le_leading hle
  have hstrict : ((seriesEntries db t).map (·.1)).Pairwise fun left right =>
      legend left < legend right := by
    refine (hrows.sublist hsub).imp₂ ?_ (nodup_seriesEntries db t)
    intro left right hle hne
    refine lt_of_le_of_ne hle fun heq => hne ?_
    exact congrArg (fun key => (ofLex key).2) heq
  refine List.pairwise_map.mpr ((List.pairwise_map.mp hstrict).imp_of_mem ?_)
  intro left right hleft hright hlt
  obtain ⟨_, player, hplayer, _, _, rfl⟩ := mem_seriesEntries hunique hleft
  obtain ⟨_, player', hplayer', _, _, rfl⟩ := mem_seriesEntries hunique hright
  simp only [legend, polledAlias_of_mem hplayer,
    polledAlias_of_mem hplayer'] at hlt
  exact hlt

theorem mem_points_iff (hunique : UniqueProfiles db.tournamentPlayers)
    {stamp : Instant} :
    (∃ row ∈ sortBy ProgressionRow.order (progressionRows db t),
        row.completedAt = stamp) ↔
      ∃ held ∈ seriesEntries db t, ∃ point ∈ held.2.points,
        point.completedAt = stamp := by
  constructor
  · rintro ⟨row, hrow, rfl⟩
    obtain ⟨entry, player, hplayer, hlinked, hid, _⟩ :=
      mem_progressionRows ((mem_sortBy _).mp hrow)
    have hown : row ∈ (sortBy ProgressionRow.order (progressionRows db t)).filter
        (·.profileId = player.profileId) :=
      List.mem_filter.mpr ⟨hrow, decide_eq_true hid⟩
    rw [filter_sorted_rows hunique hplayer hlinked] at hown
    obtain ⟨game, hgame, rfl⟩ := List.mem_map.mp hown
    have hpoint : (⟨game.completedAt, game.newRating⟩ : RatingPoint) ∈
        chartPoints db t player.profileId :=
      List.mem_map_of_mem (List.mem_map_of_mem hgame)
    have hlookup := lookup_seriesEntries hunique hplayer hlinked
    rw [if_neg (List.ne_nil_of_mem hpoint)] at hlookup
    exact ⟨_, mem_of_lookup hlookup, _, hpoint, rfl⟩
  · rintro ⟨held, hheld, point, hpoint, rfl⟩
    obtain ⟨entry, player, hplayer, hlinked, _, rfl⟩ :=
      mem_seriesEntries hunique hheld
    obtain ⟨logged, hlogged, rfl⟩ := List.mem_map.mp hpoint
    obtain ⟨game, hgame, rfl⟩ := List.mem_map.mp hlogged
    have hown : game.row entry player ∈
        (sortBy ProgressionRow.order (progressionRows db t)).filter
          (·.profileId = player.profileId) := by
      rw [filter_sorted_rows hunique hplayer hlinked]
      exact List.mem_map_of_mem hgame
    exact ⟨_, (List.mem_filter.mp hown).1, rfl⟩

/-- An entrant has a series if it has a point. -/
theorem mem_series_iff (hunique : UniqueProfiles db.tournamentPlayers)
    {series : PlayerProgression} :
    series ∈ (getProgression db t).items ↔
      ∃ entry, ∃ player ∈ db.players.rows,
        Linked db t entry player.profileId ∧
        pointsByProfile db t player.profileId ≠ [] ∧
        series = ⟨entry.id, player.profileId, player.aliasName,
          chartPoints db t player.profileId⟩ := by
  constructor
  · intro hseries
    obtain ⟨held, hheld, rfl⟩ := List.mem_map.mp hseries
    obtain ⟨entry, player, hplayer, hlinked, hpoints, rfl⟩ :=
      mem_seriesEntries hunique hheld
    exact ⟨entry, player, hplayer, hlinked,
      mt chartPoints_eq_nil_iff.mpr hpoints, rfl⟩
  · rintro ⟨entry, player, hplayer, hlinked, hpoints, rfl⟩
    have hlookup := lookup_seriesEntries hunique hplayer hlinked
    rw [if_neg (mt chartPoints_eq_nil_iff.mp hpoints)] at hlookup
    exact List.mem_map_of_mem (mem_of_lookup hlookup)

theorem lastPolledAt_getProgression
    (hunique : UniqueProfiles db.tournamentPlayers) :
    (getProgression db t).lastPolledAt =
      ((getProgression db t).items.flatMap fun series =>
        series.points.map (·.completedAt)).max? := by
  have hstamps : (getProgression db t).lastPolledAt =
      ((sortBy ProgressionRow.order (progressionRows db t)).map
        (·.completedAt)).max? := by
    simp [getProgression, computeLastPolledAt, List.filterMap_map]
  rw [hstamps]
  refine max?_eq_max?_iff.mpr ⟨fun stamp hstamp => ?_, fun stamp hstamp => ?_⟩
  · obtain ⟨held, hheld, point, hpoint, rfl⟩ :=
      (mem_points_iff hunique).mp (List.mem_map.mp hstamp)
    exact ⟨_, List.mem_flatMap.mpr ⟨held.2, List.mem_map_of_mem hheld,
      List.mem_map_of_mem hpoint⟩, le_refl _⟩
  · obtain ⟨series, hseries, hof⟩ := List.mem_flatMap.mp hstamp
    obtain ⟨point, hpoint, rfl⟩ := List.mem_map.mp hof
    obtain ⟨held, hheld, rfl⟩ := List.mem_map.mp hseries
    obtain ⟨row, hrow, hrowStamp⟩ :=
      (mem_points_iff hunique).mpr ⟨held, hheld, point, hpoint, rfl⟩
    exact ⟨_, List.mem_map_of_mem hrow, hrowStamp.ge⟩

end Series

/-- The charts follow the games.  The series are those of the polled entrants
with a settled game in the window, one each, by alias; a series has the points
that the standings over time are swept from, in order; and the stamp of the
list is the last of all points. -/
theorem progression_follows_games {db : Database}
    (hunique : UniqueProfiles db.tournamentPlayers) (t : Tournament) :
    (getProgression db t).items.Pairwise (fun left right =>
        left.order < right.order) ∧
      (∀ series, series ∈ (getProgression db t).items ↔
        ∃ entry, ∃ player ∈ db.players.rows,
          Linked db t entry player.profileId ∧
          pointsByProfile db t player.profileId ≠ [] ∧
          series = ⟨entry.id, player.profileId, player.aliasName,
            (pointsByProfile db t player.profileId).map fun point =>
              ⟨point.1, point.2⟩⟩) ∧
      (∀ series ∈ (getProgression db t).items,
        series.points.Pairwise fun left right =>
          left.completedAt ≤ right.completedAt) ∧
      (getProgression db t).lastPolledAt =
        ((getProgression db t).items.flatMap fun series =>
          series.points.map (·.completedAt)).max? := by
  refine ⟨seriesEntries_pairwise hunique, fun series => mem_series_iff hunique,
    fun series hseries => ?_, lastPolledAt_getProgression hunique⟩
  obtain ⟨entry, player, _, _, _, rfl⟩ := (mem_series_iff hunique).mp hseries
  exact List.pairwise_map.mpr (pointsByProfile_inOrder db t player.profileId)

open Factory in
/-- The second entrant has no settled game in the window. -/
def climbed : Database :=
  seed [] [] [makeMatch 7 300 400, makeMatch 6 100 200, makeMatch 5 0 50]
    [makeMatchPlayer 7 1 1010 1025, makeMatchPlayer 6 1 1000 1010,
      makeMatchPlayer 5 2 900 910]

open Factory in
theorem progression_follows_games_climbed :
    (getProgression climbed
        (makeTournament .currentRating (some 100) none)).items =
      [⟨1, 1, "player", [⟨200, 1010⟩, ⟨400, 1025⟩]⟩] ∧
    (getProgression climbed
        (makeTournament .currentRating (some 100) none)).lastPolledAt =
      some 400 ∧
    (getProgression climbed
        (makeTournament .currentRating (some 100) none)).lastPolledAt =
      ((getProgression climbed
        (makeTournament .currentRating (some 100) none)).items.flatMap
          fun series => series.points.map (·.completedAt)).max? :=
  ⟨by decide, by decide,
    (@progression_follows_games climbed (by decide) _).2.2.2⟩

end LiveStandings
