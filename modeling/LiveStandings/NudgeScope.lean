/-
The scope a tick stores on its nudge against what its writes change.  The
scope is computed from the profiles that were asked for; a payload carries
rows of everybody who took part in a match.
-/
import LiveStandings.BatchIsolation
import LiveStandings.EntrantData

namespace LiveStandings

open KeyedTable PyJson Ranking Fallible

/-- A tick of one of the pollers, with what its requests brought. -/
inductive Tick where
  | playerStats (now : Instant) (profileIds : List Int) (response : Fetch)
  | recentMatches (now : Instant) (batch : List (Int × Fetch))
  | liveMatches (now : Instant) (profileIds : List Int) (response : Fetch)

/-- The event a tick emits. -/
def Tick.event : Tick → EventType
  | playerStats .. => .standings
  | recentMatches .. => .recentMatches
  | liveMatches .. => .live

/-- The rows a lobby response binds to. -/
def boundLive (codec : Codec) (now : Instant) (profileIds : List Int)
    (payload : Json) : Except PyError (List Match × List LiveMatchPlayer) := do
  let (rows, links) ← parseLiveAdvertisements codec profileIds now payload
  let rows ← rows.mapM (·.bind now)
  let links ← links.mapM (·.bind)
  .ok (rows, links)

/-- A live tick binds everything before it writes. -/
theorem tickLiveMatches_eq (codec : Codec) (now : Instant)
    (profileIds : List Int) (payload : Json) (db : Database) :
    tickLiveMatches codec now profileIds payload db =
      if profileIds.isEmpty then .ok db
      else (do
        let (rows, links) ← boundLive codec now profileIds payload
        let db' ← replaceLiveMatchPlayers (rows.foldl upsertMatchFromLive db)
          links
        commitNudge db' .live
          (getTournamentIdsForProfiles db'
            (db.liveMatchPlayers.rows.map (·.profileId) ++
              links.map (·.profileId))) now) := by
  unfold tickLiveMatches boundLive
  split
  · rfl
  · cases hparse : parseLiveAdvertisements codec profileIds now payload with
    | error error => rfl
    | ok parsed =>
        have hrows := foldlM_total (fun row : MatchDict => row.bind now)
          upsertMatchFromLive parsed.1 db
        simp only [bind, Except.bind] at hrows ⊢
        rw [hrows]
        cases parsed.1.mapM (·.bind now) with
        | error error => rfl
        | ok rows =>
            simp only [Except.map]
            cases parsed.2.mapM (·.bind) with
            | error error => rfl
            | ok links => rfl

/-- A live tick raises, has nothing to poll, or commits the writes of its
payload and a nudge. -/
theorem tickLiveMatches_cases (codec : Codec) (now : Instant)
    (profileIds : List Int) (payload : Json) (db : Database) :
    (∃ error, tickLiveMatches codec now profileIds payload db =
        .error error) ∨
      tickLiveMatches codec now profileIds payload db = .ok db ∨
      ∃ rows links db',
        boundLive codec now profileIds payload = .ok (rows, links) ∧
          replaceLiveMatchPlayers (rows.foldl upsertMatchFromLive db) links =
            .ok db' ∧
          tickLiveMatches codec now profileIds payload db =
            commitNudge db' .live
              (getTournamentIdsForProfiles db'
                (db.liveMatchPlayers.rows.map (·.profileId) ++
                  links.map (·.profileId))) now := by
  rw [tickLiveMatches_eq]
  by_cases hnone : profileIds.isEmpty
  · exact Or.inr (Or.inl (if_pos hnone))
  · rw [if_neg hnone]
    cases boundLive codec now profileIds payload with
    | error error => exact Or.inl ⟨error, rfl⟩
    | ok bound =>
        obtain ⟨rows, links⟩ := bound
        cases hreplace : replaceLiveMatchPlayers
            (rows.foldl upsertMatchFromLive db) links with
        | error error =>
            left
            exact ⟨error, by simp only [bind, Except.bind, hreplace]⟩
        | ok db' =>
            right
            right
            refine ⟨rows, links, db', rfl, hreplace, ?_⟩
            simp only [bind, Except.bind, hreplace]

section Ticks

variable (codec : Codec) (mapping : Dict Int Int)

/-- The database after a tick; one whose request failed writes nothing. -/
def Tick.commit (db : Database) : Tick → Database
  | playerStats _ _ .failed => db
  | playerStats now profileIds (.payload payload) =>
      committedState db (tickPlayerStats now profileIds payload db)
  | recentMatches now batch =>
      committedState db (tickRecentMatches codec mapping now batch db)
  | liveMatches _ _ .failed => db
  | liveMatches now profileIds (.payload payload) =>
      committedState db (tickLiveMatches codec now profileIds payload db)

/-- The profiles whose tournaments a tick names. -/
def Tick.named (db : Database) : Tick → List Int
  | playerStats _ profileIds _ => profileIds
  | recentMatches _ batch => fetchedOk batch
  | liveMatches _ _ .failed => db.liveMatchPlayers.rows.map (·.profileId)
  | liveMatches now profileIds (.payload payload) =>
      db.liveMatchPlayers.rows.map (·.profileId) ++
        match boundLive codec now profileIds payload with
        | .ok (_, links) => links.map (·.profileId)
        | .error _ => []

end Ticks

/-- The stored nudge of an event concerns a tournament. -/
def Nudged (db : Database) (event : EventType) (tournamentId : Int) : Prop :=
  ∃ row, db.nudgeVersions.find? event = some row ∧
    ∀ ids, row.tournamentIds = some ids → tournamentId ∈ ids

/-- Two databases whose `/standings` differ on some entrant. -/
def Changed (db db' : Database) (t : Tournament) (names : Dict Int String)
    (now : Instant) : Prop :=
  ∃ entry ∈ rosterEntries db t,
    entrantData db' t names now entry ≠ entrantData db t names now entry

/-- Ratings that are stored already, live and as the latest snapshot. -/
structure NoNewRating (db : Database) (t : Tournament)
    (players : List Player) (ratings : List PlayerRating) (profileId : Int) :
    Prop where
  player : (∃ row ∈ players, row.profileId = profileId) →
    (db.players.find? profileId).isSome
  rating : ∀ row,
    lastUnder PlayerRating.key (profileId, t.leaderboardId) ratings = some row →
      (liveRating db t profileId).map PlayerRating.values = some row.values
  snapshot : ∀ row ∈ ratings, row.key = (profileId, t.leaderboardId) →
    ratingChanged db row = false

/-- A match is live. -/
def Match.isLive (m : Match) : Bool := liveMatchStates.contains m.state

/-- A match that counts on a leaderboard. -/
def Match.onBoard (m : Match) (leaderboardId : Int) : Bool :=
  m.leaderboardId = some leaderboardId

/-- Rows that bring nothing new about a profile: its stored games and lobbies
are reported as they stand, no new player row joins a game of its on the
leaderboard, and the opponents it has met there keep their names. -/
structure NoNewGame (db : Database) (t : Tournament) (rows : RecentRows)
    (profileId : Int) : Prop where
  games : ∀ matchId m,
    lastUnder Match.matchId matchId rows.matchRows = some m →
      (db.matchPlayers.find? (matchId, profileId)).isSome →
        (m.onBoard t.leaderboardId ||
          (db.matchTable.find? matchId).any (·.onBoard t.leaderboardId)) →
          (db.matchTable.find? matchId).map Match.played = some m.played
  lobbies : ∀ matchId m,
    lastUnder Match.matchId matchId rows.matchRows = some m →
      (db.liveMatchPlayers.find? (matchId, profileId)).isSome →
        (db.matchTable.find? matchId).any Match.isLive = m.isLive
  players : ∀ row ∈ rows.players,
    (db.matchPlayers.find? row.key).isNone →
      row.profileId = profileId ∨
        (db.matchPlayers.find? (row.matchId, profileId)).isSome →
        ∀ m, lastUnder Match.matchId row.matchId rows.matchRows = some m →
          m.onBoard t.leaderboardId = false
  aliases : ∀ game ∈ boardGames db t.leaderboardId profileId,
    ∀ opponent ∈ opponentsOf db game,
      rosterLabelByProfile db t.id opponent.profileId = none →
        ∀ row, lastUnder ProfileAlias.profileId opponent.profileId rows.aliases =
            some row →
          aliasesByProfile db opponent.profileId = some row.aliasName

/-- What a tick brings is not new about a profile.  A batch with a malformed
payload brings nothing at all, and a live tick names everybody it concerns. -/
def Tick.BringsNothing (codec : Codec) (mapping : Dict Int Int)
    (db : Database) (t : Tournament) (profileId : Int) : Tick → Prop
  | playerStats now _ (.payload payload) =>
      ∀ players ratings, boundStats now payload = .ok (players, ratings) →
        NoNewRating db t players ratings profileId
  | playerStats _ _ .failed => True
  | recentMatches now batch =>
      (batch.all fun result => harmless codec mapping now result.2) →
        NoNewGame db t (batchRows codec mapping now batch) profileId
  | liveMatches .. => True

section Sources

variable {db db' : Database} {t : Tournament} {profileId : Int}

theorem SameSources.nudge (hsame : SameSources db db' t profileId)
    (nudges : NudgeTable) :
    SameSources db { db' with nudgeVersions := nudges } t profileId :=
  ⟨hsame.player, hsame.rating, hsame.snapshots, hsame.board, hsame.opponents,
    hsame.aliases, hsame.lobby⟩

/-- Ratings that are stored already leave an entrant's rows as they are. -/
theorem NoNewRating.sameSources {now : Instant} {players : List Player}
    {ratings : List PlayerRating}
    (hnothing : NoNewRating db t players ratings profileId)
    (hwrite : writeStats db now players ratings = .ok db') :
    SameSources db db' t profileId := by
  obtain ⟨table, appended, hrows, hsnapshots, rfl⟩ := writeStats_ok hwrite
  refine ⟨?_, ?_, ?_, rfl, fun _ _ => rfl, fun _ _ _ _ _ => rfl, rfl⟩
  · simp only [Table.find?_overwriteAll]
    cases hlast : lastUnder Player.profileId profileId players with
    | none => rfl
    | some row =>
        have hmem := List.mem_reverse.mp (List.mem_of_find?_eq_some hlast)
        have hkey := List.find?_some hlast
        rw [hnothing.player ⟨row, hmem, by simpa using hkey⟩]
        rfl
  · have hfind := db.playerRatings.find?_overwriteAll ratings
      (profileId, t.leaderboardId)
    cases hlast : lastUnder PlayerRating.key (profileId, t.leaderboardId)
        ratings with
    | none =>
        rw [hlast, Option.none_or] at hfind
        exact congrArg (Option.map PlayerRating.values) hfind
    | some row =>
        rw [hlast, Option.some_or] at hfind
        exact (congrArg (Option.map PlayerRating.values) hfind).trans
          (hnothing.rating row hlast).symm
  · have hnew : (appended.filter fun snapshot =>
        snapshot.profileId = profileId &&
          snapshot.leaderboardId = t.leaderboardId) = [] := by
      rw [List.filter_eq_nil_iff]
      intro snapshot hmem hfields
      simp only [Bool.and_eq_true, decide_eq_true_eq] at hfields
      obtain ⟨_, rating, hrating, hchanged, hkey⟩ := hsnapshots snapshot hmem
      rw [hfields.1, hfields.2] at hkey
      rw [hnothing.snapshot rating hrating hkey.symm] at hchanged
      cases hchanged
    rw [snapshotsOf, snapshotsOf, hrows, List.filter_append, hnew,
      List.append_nil]

/-- The board game a stored row is joined to. -/
def boardEntry (db : Database) (leaderboardId : Int) (row : MatchPlayer) :
    Option Game :=
  (joinMatch db row).filter (·.played.leaderboardId = some leaderboardId)

theorem boardGames_eq (db : Database) (leaderboardId profileId : Int) :
    boardGames db leaderboardId profileId =
      (db.matchPlayers.rows.filter (·.profileId = profileId)).filterMap
        (boardEntry db leaderboardId) := by
  rw [boardGames, games, List.filter_filterMap]
  rfl

theorem boardEntry_of_find? {row : MatchPlayer} {m : Match}
    (hfind : db.matchTable.find? row.matchId = some m) (leaderboardId : Int) :
    boardEntry db leaderboardId row =
      if m.onBoard leaderboardId then some ⟨row, m.played⟩ else none := by
  unfold boardEntry joinMatch
  rw [hfind]
  simp only [Option.map_some, Option.filter_some, Match.onBoard]
  rfl

/-- A game on the board is joined from a stored row of the profile and a
stored match on the board. -/
theorem mem_boardGames {leaderboardId : Int} {game : Game}
    (hgame : game ∈ boardGames db leaderboardId profileId) :
    (db.matchPlayers.find? (game.row.matchId, profileId)).isSome ∧
      ∃ m, db.matchTable.find? game.row.matchId = some m ∧
        m.onBoard leaderboardId := by
  rw [boardGames_eq] at hgame
  obtain ⟨row, hrow, hentry⟩ := List.mem_filterMap.mp hgame
  obtain ⟨hmem, hprofile⟩ := List.mem_filter.mp hrow
  cases hfind : db.matchTable.find? row.matchId with
  | none => simp [boardEntry, joinMatch, hfind] at hentry
  | some m =>
      rw [boardEntry_of_find? hfind] at hentry
      split at hentry
      · next hboard =>
          cases hentry
          have hkey : row.key = (row.matchId, profileId) := by
            simp only [decide_eq_true_eq] at hprofile
            rw [MatchPlayer.key, hprofile]
          refine ⟨?_, m, hfind, hboard⟩
          rw [← hkey, db.matchPlayers.find?_key hmem]
          rfl
      · cases hentry

/-- Rows whose match players belong to the matches among them. -/
def RecentRows.Joined (rows : RecentRows) : Prop :=
  ∀ row ∈ rows.players, ∃ m,
    lastUnder Match.matchId row.matchId rows.matchRows = some m

theorem NoNewGame.boardEntry_eq {rows : RecentRows}
    (hnothing : NoNewGame db t rows profileId) {row : MatchPlayer}
    (hstored : (db.matchPlayers.find? (row.matchId, profileId)).isSome) :
    boardEntry (writeRecent db rows) t.leaderboardId row =
      boardEntry db t.leaderboardId row := by
  have hafter := find?_matchTable_writeRecent db rows row.matchId
  cases hlast : lastUnder Match.matchId row.matchId rows.matchRows with
  | none =>
      rw [hlast, Option.none_or] at hafter
      simp only [boardEntry, joinMatch, hafter]
  | some m =>
      rw [hlast, Option.some_or] at hafter
      have hgames := hnothing.games row.matchId m hlast hstored
      rw [boardEntry_of_find? hafter]
      cases hbefore : db.matchTable.find? row.matchId with
      | none =>
          rw [hbefore] at hgames
          cases hboard : m.onBoard t.leaderboardId with
          | false => simp [boardEntry, joinMatch, hbefore]
          | true => simp [hboard] at hgames
      | some old =>
          rw [hbefore] at hgames
          rw [boardEntry_of_find? hbefore]
          by_cases hboard : m.onBoard t.leaderboardId ∨
              old.onBoard t.leaderboardId
          · have hplayed : old.played = m.played := by
              simpa [hboard] using hgames
            have hsame : m.onBoard t.leaderboardId =
                old.onBoard t.leaderboardId := by
              have hid := congrArg PlayedMatch.leaderboardId hplayed
              unfold Match.onBoard
              rw [show m.leaderboardId = old.leaderboardId from hid.symm]
            rw [hsame, hplayed]
          · simp only [not_or, Bool.not_eq_true] at hboard
            simp [hboard.1, hboard.2]

/-- A new player row adds no game to the board of the profile, and no player
to one. -/
theorem NoNewGame.off_board {rows : RecentRows} (hjoined : rows.Joined)
    (hnothing : NoNewGame db t rows profileId) {row : MatchPlayer}
    (hreported : row ∈ rows.players)
    (hfresh : row.key ∉ db.matchPlayers.rows.map (·.key))
    (hinvolved : row.profileId = profileId ∨
      (db.matchPlayers.find? (row.matchId, profileId)).isSome) :
    ∃ m, lastUnder Match.matchId row.matchId rows.matchRows = some m ∧
      m.onBoard t.leaderboardId = false := by
  obtain ⟨m, hlast⟩ := hjoined row hreported
  have hnone : (db.matchPlayers.find? row.key).isNone := by
    rw [Option.isNone_iff_eq_none, Table.find?_eq_none_iff]
    intro old hold heq
    exact hfresh (List.mem_map.mpr ⟨old, hold, heq⟩)
  exact ⟨m, hlast, hnothing.players row hreported hnone hinvolved m hlast⟩

theorem find?_of_profile {row : MatchPlayer} (hmem : row ∈ db.matchPlayers.rows)
    (hprofile : row.profileId = profileId) :
    db.matchPlayers.find? (row.matchId, profileId) = some row := by
  rw [← hprofile]
  exact db.matchPlayers.find?_key hmem

theorem NoNewGame.board_eq {rows : RecentRows} (hjoined : rows.Joined)
    (hnothing : NoNewGame db t rows profileId) :
    boardGames (writeRecent db rows) t.leaderboardId profileId =
      boardGames db t.leaderboardId profileId := by
  rw [boardGames_eq, boardGames_eq]
  apply filterMap_writeRecent
  · intro row hmem hprofile
    apply hnothing.boardEntry_eq
    rw [find?_of_profile hmem hprofile]
    rfl
  · intro row hreported hkey hprofile
    obtain ⟨m, hlast, hboard⟩ := hnothing.off_board hjoined hreported hkey
      (Or.inl hprofile)
    have hfind := find?_matchTable_writeRecent db rows row.matchId
    rw [hlast, Option.some_or] at hfind
    rw [boardEntry_of_find? hfind, hboard]
    rfl

theorem NoNewGame.opponents_eq {rows : RecentRows} (hjoined : rows.Joined)
    (hnothing : NoNewGame db t rows profileId) {game : Game}
    (hgame : game ∈ boardGames db t.leaderboardId profileId) :
    opponentsOf (writeRecent db rows) game = opponentsOf db game := by
  obtain ⟨appended, hrows, hfresh⟩ :=
    db.matchPlayers.rows_insertAll rows.players
  have hplayers : (writeRecent db rows).matchPlayers.rows =
      db.matchPlayers.rows ++ appended := hrows
  obtain ⟨hstored, old, hfind, hboard⟩ := mem_boardGames hgame
  have hnew : (appended.filter fun row =>
      row.matchId = game.row.matchId && row.profileId ≠ game.row.profileId &&
        row.teamId ≠ game.row.teamId) = [] := by
    rw [List.filter_eq_nil_iff]
    intro row hmem hfields
    simp only [Bool.and_eq_true, decide_eq_true_eq] at hfields
    have hid := hfields.1.1
    obtain ⟨hreported, hkey⟩ := hfresh row hmem
    obtain ⟨m, hlast, hoff⟩ := hnothing.off_board hjoined hreported hkey
      (Or.inr (hid ▸ hstored))
    rw [hid] at hlast
    -- the match stays on the board, where the new row would join it
    have hgames := hnothing.games game.row.matchId m hlast hstored
    rw [hfind] at hgames
    have hplayed : old.played = m.played := by simpa [hboard] using hgames
    have hsame : old.leaderboardId = m.leaderboardId :=
      congrArg PlayedMatch.leaderboardId hplayed
    rw [Match.onBoard, ← hsame, ← Match.onBoard, hboard] at hoff
    cases hoff
  rw [opponentsOf, opponentsOf, hplayers, List.filter_append, hnew,
    List.append_nil]

theorem NoNewGame.alias_eq {rows : RecentRows}
    (hnothing : NoNewGame db t rows profileId) {game : Game}
    (hgame : game ∈ boardGames db t.leaderboardId profileId)
    {opponent : MatchPlayer} (hopponent : opponent ∈ opponentsOf db game)
    (hlabel : rosterLabelByProfile db t.id opponent.profileId = none) :
    aliasesByProfile (writeRecent db rows) opponent.profileId =
      aliasesByProfile db opponent.profileId := by
  have hname : aliasesByProfile (writeRecent db rows) opponent.profileId =
      ((lastUnder ProfileAlias.profileId opponent.profileId rows.aliases).or
        (db.profileAliases.find? opponent.profileId)).map (·.aliasName) :=
    congrArg (Option.map ProfileAlias.aliasName)
      (db.profileAliases.find?_overwriteAll rows.aliases opponent.profileId)
  rw [hname]
  cases hlast : lastUnder ProfileAlias.profileId opponent.profileId
      rows.aliases with
  | none => rfl
  | some row =>
      exact (hnothing.aliases game hgame opponent hopponent hlabel row
        hlast).symm

theorem NoNewGame.lobby_eq {rows : RecentRows}
    (hnothing : NoNewGame db t rows profileId) :
    liveMatchByProfile (writeRecent db rows) profileId =
      liveMatchByProfile db profileId := by
  have hlinks : (db.liveMatchPlayers.rows.filter fun link =>
      link.profileId = profileId &&
        ((writeRecent db rows).matchTable.find? link.matchId).any fun row =>
          liveMatchStates.contains row.state) =
      db.liveMatchPlayers.rows.filter fun link =>
        link.profileId = profileId &&
          (db.matchTable.find? link.matchId).any fun row =>
            liveMatchStates.contains row.state := by
    apply List.filter_congr
    intro link hlink
    by_cases hprofile : link.profileId = profileId
    · have hstored : (db.liveMatchPlayers.find?
          (link.matchId, profileId)).isSome := by
        rw [← hprofile]
        exact Option.isSome_iff_exists.mpr
          ⟨link, db.liveMatchPlayers.find?_key hlink⟩
      have hfind := find?_matchTable_writeRecent db rows link.matchId
      cases hlast : lastUnder Match.matchId link.matchId rows.matchRows with
      | none =>
          rw [hlast, Option.none_or] at hfind
          rw [hfind]
      | some m =>
          rw [hlast, Option.some_or] at hfind
          have hlive := hnothing.lobbies link.matchId m hlast hstored
          simp only [hfind, Option.any_some]
          unfold Match.isLive at hlive
          rw [← hlive]
    · simp [hprofile]
  exact congrArg (fun links : List LiveMatchPlayer =>
    ((sortBy (·.matchId) links).getLast?).map (·.matchId)) hlinks

theorem NoNewGame.sameSources {rows : RecentRows} (hjoined : rows.Joined)
    (hnothing : NoNewGame db t rows profileId) :
    SameSources db (writeRecent db rows) t profileId where
  player := rfl
  rating := rfl
  snapshots := rfl
  board := hnothing.board_eq hjoined
  opponents := fun _ hgame => hnothing.opponents_eq hjoined hgame
  aliases := fun _ hgame _ hopponent hlabel =>
    hnothing.alias_eq hgame hopponent hlabel
  lobby := hnothing.lobby_eq

theorem liveMatchByProfile_of_absent
    (habsent : profileId ∉ db.liveMatchPlayers.rows.map (·.profileId)) :
    liveMatchByProfile db profileId = none := by
  have hnone : (db.liveMatchPlayers.rows.filter fun link =>
      link.profileId = profileId &&
        (db.matchTable.find? link.matchId).any fun row =>
          liveMatchStates.contains row.state) = [] := by
    rw [List.filter_eq_nil_iff]
    intro link hlink hfields
    simp only [Bool.and_eq_true, decide_eq_true_eq] at hfields
    exact habsent (List.mem_map.mpr ⟨link, hlink, hfields.1⟩)
  unfold liveMatchByProfile
  rw [hnone]
  rfl

/-- A live tick leaves the rows of an entrant that was in no lobby, and is in
none now, as they are. -/
theorem sameSources_live
    (hmatches : ∀ row ∈ db.matchPlayers.rows,
      (db.matchTable.find? row.matchId).isSome)
    {rows : List Match} {links : List LiveMatchPlayer}
    (hreplace : replaceLiveMatchPlayers (rows.foldl upsertMatchFromLive db)
      links = .ok db')
    (hbefore : profileId ∉ db.liveMatchPlayers.rows.map (·.profileId))
    (hafter : profileId ∉ links.map (·.profileId)) :
    SameSources db db' t profileId := by
  have hjoin : ∀ row ∈ db.matchPlayers.rows, joinMatch db' row =
      joinMatch db row :=
    fun row hrow => joinMatch_writeLive hreplace (hmatches row hrow)
  obtain ⟨table, rfl, _⟩ := writeLive_ok hreplace
  have hboard : boardGames { db with
        matchTable := table
        liveMatchPlayers := Table.empty.insertAll links } t.leaderboardId
          profileId = boardGames db t.leaderboardId profileId := by
    rw [boardGames_eq, boardGames_eq]
    apply List.filterMap_congr
    intro row hrow
    rw [boardEntry, boardEntry, hjoin row (List.mem_of_mem_filter hrow)]
  refine ⟨rfl, rfl, rfl, hboard, fun _ _ => rfl, fun _ _ _ _ _ => rfl, ?_⟩
  rw [liveMatchByProfile_of_absent hbefore]
  apply liveMatchByProfile_of_absent
  intro hmem
  obtain ⟨link, hlink, hprofile⟩ := List.mem_map.mp hmem
  have hreported : link ∈ links := by
    obtain ⟨appended, hrows, hfresh⟩ :=
      (Table.empty : Table LiveMatchPlayer.key).rows_insertAll links
    have happended : link ∈ appended := by
      rw [hrows] at hlink
      simpa using hlink
    exact (hfresh link happended).1
  exact hafter (List.mem_map.mpr ⟨link, hreported, hprofile⟩)

theorem batchRows_joined (codec : Codec) (mapping : Dict Int Int)
    (now : Instant) (batch : List (Int × Fetch)) :
    (batchRows codec mapping now batch).Joined := by
  intro row hrow
  obtain ⟨result, hresult, hmem⟩ := List.mem_flatMap.mp hrow
  have hown : ∃ m ∈ (fetchedRows codec mapping now result.2).matchRows,
      m.matchId = row.matchId := by
    cases hfetch : result.2 with
    | failed => simp [fetchedRows, hfetch] at hmem
    | payload payload =>
        rw [hfetch] at hmem
        simp only [fetchedRows] at hmem ⊢
        cases hbound : boundRecent codec mapping now payload with
        | error error => simp [hbound] at hmem
        | ok rows =>
            rw [hbound] at hmem
            exact boundRecent_player hbound hmem
  obtain ⟨m, hm, hid⟩ := hown
  cases hlast : lastUnder Match.matchId row.matchId
      (batchRows codec mapping now batch).matchRows with
  | some last => exact ⟨last, rfl⟩
  | none =>
      exact absurd hid (lastUnder_eq_none_iff.mp hlast m
        (List.mem_flatMap.mpr ⟨result, hresult, hm⟩))

end Sources

/-- The scope of a tick: the tournaments of the profiles it names. -/
def Tick.scope (codec : Codec) (db : Database) (tick : Tick) : List Int :=
  getTournamentIdsForProfiles db (tick.named codec db)

/-- What a tick writes before its nudge. -/
inductive Tick.Writes (codec : Codec) (mapping : Dict Int Int)
    (db : Database) : Tick → Database → Prop where
  | stats {now : Instant} {profileIds : List Int} {payload : Json}
      {players : List Player} {ratings : List PlayerRating} {db' : Database} :
      boundStats now payload = .ok (players, ratings) →
      writeStats db now players ratings = .ok db' →
      Writes codec mapping db (.playerStats now profileIds (.payload payload))
        db'
  | recent {now : Instant} {batch : List (Int × Fetch)} :
      (batch.all fun result => harmless codec mapping now result.2) →
      Writes codec mapping db (.recentMatches now batch)
        (writeRecent db (batchRows codec mapping now batch))
  | live {now : Instant} {profileIds : List Int} {payload : Json}
      {rows : List Match} {links : List LiveMatchPlayer} {db' : Database} :
      boundLive codec now profileIds payload = .ok (rows, links) →
      replaceLiveMatchPlayers (rows.foldl upsertMatchFromLive db) links =
        .ok db' →
      Writes codec mapping db (.liveMatches now profileIds (.payload payload))
        db'

/-- The writes of a committed tick: the rosters stay, and so do the rows of an
entrant that the tick neither names nor brings anything new about. -/
structure Tick.Wrote (codec : Codec) (mapping : Dict Int Int)
    (db db' : Database) (tick : Tick) : Prop where
  roster : db'.tournamentPlayers = db.tournamentPlayers
  frame : ∀ t profileId, profileId ∉ tick.named codec db →
    tick.BringsNothing codec mapping db t profileId →
      SameSources db db' t profileId

/-- A committed tick ends on a nudge with its scope. -/
def Tick.nudged (codec : Codec) (db db' : Database) (now : Instant)
    (tick : Tick) : Database :=
  { db' with
    nudgeVersions := db'.nudgeVersions.overwrite
      ⟨tick.event, now, storedScope (some (tick.scope codec db))⟩ }

section Commit

variable {codec : Codec} {mapping : Dict Int Int} {db : Database}

theorem getTournamentIdsForProfiles_congr {db' : Database}
    (hroster : db'.tournamentPlayers = db.tournamentPlayers)
    (profileIds : List Int) :
    getTournamentIdsForProfiles db' profileIds =
      getTournamentIdsForProfiles db profileIds := by
  unfold getTournamentIdsForProfiles
  rw [hroster]

theorem commit_playerStats (now : Instant) (profileIds : List Int)
    (payload : Json) :
    let tick : Tick := .playerStats now profileIds (.payload payload)
    tick.commit codec mapping db = db ∨
      ∃ db', tick.Writes codec mapping db db' ∧
        tick.commit codec mapping db = tick.nudged codec db db' now := by
  intro tick
  rcases tickPlayerStats_cases now profileIds payload db with
    ⟨error, htick⟩ | ⟨_, htick⟩ |
      ⟨players, ratings, db', _, hbound, hwrite, htick⟩
  · left
    exact congrArg (committedState db) htick
  · left
    exact congrArg (committedState db) htick
  · have hroster : db'.tournamentPlayers = db.tournamentPlayers := by
      obtain ⟨_, _, _, _, rfl⟩ := writeStats_ok hwrite
      rfl
    rw [commitNudge_eq, getTournamentIdsForProfiles_congr hroster] at htick
    right
    exact ⟨db', .stats hbound hwrite, congrArg (committedState db) htick⟩

theorem commit_recentMatches (now : Instant) (batch : List (Int × Fetch)) :
    let tick : Tick := .recentMatches now batch
    tick.commit codec mapping db = db ∨
      ∃ db', tick.Writes codec mapping db db' ∧
        tick.commit codec mapping db = tick.nudged codec db db' now := by
  simp only [Tick.commit, tickRecentMatches]
  have hloop := foldlM_storeFetched codec mapping now batch db
  split
  · exact Or.inl rfl
  · split at hloop
    · next hall =>
        right
        refine ⟨_, .recent hall, ?_⟩
        simp only [hloop, bind, Except.bind, commitNudge_eq, committedState]
        rfl
    · obtain ⟨error, herror⟩ := hloop
      left
      simp only [herror, bind, Except.bind, committedState]

theorem commit_liveMatches (now : Instant) (profileIds : List Int)
    (payload : Json) :
    let tick : Tick := .liveMatches now profileIds (.payload payload)
    tick.commit codec mapping db = db ∨
      ∃ db', tick.Writes codec mapping db db' ∧
        tick.commit codec mapping db = tick.nudged codec db db' now := by
  intro tick
  rcases tickLiveMatches_cases codec now profileIds payload db with
    ⟨error, htick⟩ | htick | ⟨rows, links, db', hbound, hreplace, htick⟩
  · left
    exact congrArg (committedState db) htick
  · left
    exact congrArg (committedState db) htick
  · have hroster : db'.tournamentPlayers = db.tournamentPlayers := by
      obtain ⟨_, rfl, _⟩ := writeLive_ok hreplace
      rfl
    rw [commitNudge_eq, getTournamentIdsForProfiles_congr hroster] at htick
    right
    refine ⟨db', .live hbound hreplace, ?_⟩
    have hcommit : tick.commit codec mapping db = _ :=
      congrArg (committedState db) htick
    rw [hcommit]
    simp only [tick, Tick.nudged, Tick.scope, Tick.named, hbound, Tick.event,
      committedState]

/-- A tick leaves the database as it is, or commits its writes and its
nudge. -/
theorem Tick.commit_cases (codec : Codec) (mapping : Dict Int Int)
    (db : Database) (tick : Tick) :
    tick.commit codec mapping db = db ∨
      ∃ db' now, tick.Writes codec mapping db db' ∧
        tick.commit codec mapping db = tick.nudged codec db db' now := by
  cases tick with
  | playerStats now profileIds response =>
      cases response with
      | failed => exact Or.inl rfl
      | payload payload =>
          rcases commit_playerStats now profileIds payload with h | ⟨db', h⟩
          · exact Or.inl h
          · exact Or.inr ⟨db', now, h⟩
  | recentMatches now batch =>
      rcases commit_recentMatches now batch with h | ⟨db', h⟩
      · exact Or.inl h
      · exact Or.inr ⟨db', now, h⟩
  | liveMatches now profileIds response =>
      cases response with
      | failed => exact Or.inl rfl
      | payload payload =>
          rcases commit_liveMatches now profileIds payload with h | ⟨db', h⟩
          · exact Or.inl h
          · exact Or.inr ⟨db', now, h⟩

/-- A tick that is no recent-matches cycle writes no match but its lobbies. -/
theorem Tick.commit_lobbies (codec : Codec) (mapping : Dict Int Int)
    (db : Database) {tick : Tick}
    (hother : ∀ now batch, tick ≠ .recentMatches now batch) :
    (tick.commit codec mapping db).matchPlayers = db.matchPlayers ∧
      ∃ rows : List Match,
        (rows = [] ∨ ∃ now profileIds payload links,
          boundLive codec now profileIds payload = .ok (rows, links)) ∧
        (tick.commit codec mapping db).matchTable =
          (rows.foldl upsertMatchFromLive db).matchTable := by
  rcases tick.commit_cases codec mapping db with
    hcommit | ⟨db', now, hwrites, hcommit⟩
  · rw [hcommit]
    exact ⟨rfl, [], Or.inl rfl, rfl⟩
  · rw [hcommit]
    cases hwrites with
    | stats _ hwrite =>
        obtain ⟨_, _, _, _, rfl⟩ := writeStats_ok hwrite
        exact ⟨rfl, [], Or.inl rfl, rfl⟩
    | recent _ => exact absurd rfl (hother _ _)
    | @live _ _ _ rows _ _ hbound hreplace =>
        refine ⟨?_, rows, Or.inr ⟨_, _, _, _, hbound⟩, ?_⟩
        · obtain ⟨_, rfl, _⟩ := writeLive_ok hreplace
          rfl
        · rw [replaceLiveMatchPlayers_ok hreplace]
          rfl

theorem Tick.Writes.wrote {db' : Database} {tick : Tick} (hdb : db.Consistent)
    (hwrites : tick.Writes codec mapping db db') :
    tick.Wrote codec mapping db db' := by
  cases hwrites with
  | stats hbound hwrite =>
      refine ⟨?_, fun t profileId _ hnothing =>
        (hnothing _ _ hbound).sameSources hwrite⟩
      obtain ⟨_, _, _, _, rfl⟩ := writeStats_ok hwrite
      rfl
  | recent hall =>
      exact ⟨rfl, fun t profileId _ hnothing =>
        (hnothing hall).sameSources (batchRows_joined _ _ _ _)⟩
  | live hbound hreplace =>
      refine ⟨?_, fun t profileId hnamed _ => ?_⟩
      · obtain ⟨_, rfl, _⟩ := writeLive_ok hreplace
        rfl
      · simp only [Tick.named, hbound, List.mem_append, not_or] at hnamed
        exact sameSources_live hdb.matchPlayer_match hreplace hnamed.1 hnamed.2

/-- The nudge of a tick concerns the tournaments of its scope, and every
tournament when the scope is empty. -/
theorem Tick.nudged_concerns {db' : Database} {now : Instant} {tick : Tick}
    {tournamentId : Int}
    (hscope : tournamentId ∈ tick.scope codec db ∨ tick.scope codec db = []) :
    Nudged (tick.nudged codec db db' now) tick.event tournamentId := by
  refine ⟨⟨tick.event, now, storedScope (some (tick.scope codec db))⟩,
    by simp [Tick.nudged], fun ids hids => ?_⟩
  cases hlist : tick.scope codec db with
  | nil =>
      simp only [hlist] at hids
      cases hids
  | cons head tail =>
      rw [hlist] at hscope
      simp only [hlist] at hids
      cases hids
      exact mem_sortedSet.mpr (hscope.resolve_right (List.cons_ne_nil head tail))

end Commit

/-- A tick's nudge concerns a tournament whose entrants' data the tick changes,
provided what it brings is nothing new about them where the tournament is
outside its scope. -/
theorem nudge_scope_sound {codec : Codec} {mapping : Dict Int Int}
    {db : Database} (hdb : db.Consistent) (tick : Tick) (t : Tournament)
    (hreach : t.id ∉ tick.scope codec db → tick.scope codec db ≠ [] →
      ∀ entry profileId, Linked db t entry profileId →
        tick.BringsNothing codec mapping db t profileId)
    (names : Dict Int String) (readAt : Instant)
    (hchanged : Changed db (tick.commit codec mapping db) t names readAt) :
    Nudged (tick.commit codec mapping db) tick.event t.id := by
  rcases tick.commit_cases codec mapping db with
    hcommit | ⟨db', now, hwrites, hcommit⟩
  · rw [hcommit] at hchanged
    obtain ⟨_, _, hdata⟩ := hchanged
    exact absurd rfl hdata
  · have hwrote := hwrites.wrote hdb
    rw [hcommit] at hchanged ⊢
    apply Tick.nudged_concerns
    by_contra houtside
    rw [not_or] at houtside
    obtain ⟨entry, hentry, hdata⟩ := hchanged
    obtain ⟨hmem, htournament⟩ := mem_rosterEntries.mp hentry
    apply hdata
    cases hprofile : entry.profileId with
    | none =>
        exact entrantData_unlinked hwrote.roster names readAt hentry hprofile
    | some profileId =>
        have hlinked : Linked db t entry profileId :=
          ⟨hmem, htournament, hprofile⟩
        have hunnamed : profileId ∉ tick.named codec db := by
          intro hnamed
          exact houtside.1 (htournament ▸
            mem_getTournamentIdsForProfiles hmem hprofile hnamed)
        have hsame := hwrote.frame t profileId hunnamed
          (hreach houtside.1 houtside.2 entry profileId hlinked)
        exact (hsame.nudge _).entrantData_eq hwrote.roster names readAt hentry
          hprofile

namespace NudgeScopeWitness

open Factory

/-- Two tournaments of one entrant each, profiles 1 and 2. -/
def twoCups : Database :=
  { seed [] [] [] [] with
    tournamentPlayers := Table.empty.insertAll
      [makeEntry 1 "p1", { makeEntry 2 "p2" with tournamentId := 2 }] }

/-- The second tournament. -/
def secondCup : Tournament :=
  { makeTournament .peakRating none none with id := 2, slug := "second-cup" }

/-- A finished match that the two profiles played against each other. -/
def payload : Json :=
  .obj [("matchHistoryStats", .arr [.obj [("id", .int 1),
    ("mapname", .str "x.rms"), ("matchtype_id", .int 6),
    ("startgametime", .int 1), ("completiontime", .int 2),
    ("matchhistoryreportresults", .arr [
      .obj [("profile_id", .int 1), ("teamid", .int 0), ("resulttype", .int 1)],
      .obj [("profile_id", .int 2), ("teamid", .int 1),
        ("resulttype", .int 0)]])]])]

/-- Both fetches brought the match. -/
def bothFetched : Tick :=
  .recentMatches 5000000 [(1, .payload payload), (2, .payload payload)]

/-- The fetch for the second profile failed. -/
def secondFailed : Tick :=
  .recentMatches 5000000 [(1, .payload payload), (2, .failed)]

theorem twoCups_consistent : twoCups.Consistent := by
  constructor <;> decide

/-- The entrant of the second tournament. -/
def entrant : TournamentPlayer := { makeEntry 2 "p2" with tournamentId := 2 }

theorem bothFetched_changed :
    Changed twoCups (bothFetched.commit BatchWitness.codec [(6, 3)] twoCups)
      secondCup [] 0 := by
  refine ⟨entrant, mem_rosterEntries.mpr
    ⟨List.mem_cons_of_mem _ List.mem_cons_self, rfl⟩, fun hsame => ?_⟩
  have hgames := congrArg (Option.map fun data =>
    data.tournamentRecord.gamesPlayed) hsame
  exact absurd hgames (by decide)

theorem secondFailed_bringsNothing (profileId : Int) :
    secondFailed.BringsNothing BatchWitness.codec [(6, 4)] twoCups secondCup
      profileId := by
  intro _
  refine ⟨fun _ _ _ hstored => ?_, fun _ _ _ hstored => ?_,
    fun _ _ _ _ m hlast => ?_, fun game hgame => ?_⟩
  · cases hstored
  · cases hstored
  · have hm := List.mem_reverse.mp (List.mem_of_find?_eq_some hlast)
    have hoff : ∀ m ∈ (batchRows BatchWitness.codec [(6, 4)] 5000000
        [(1, .payload payload), (2, .failed)]).matchRows,
          m.onBoard secondCup.leaderboardId = false := by decide
    exact hoff m hm
  · cases hgame

end NudgeScopeWitness

open BatchWitness NudgeScopeWitness in
/-- When both fetches succeed the nudge concerns the second tournament too; and
a match of another leaderboard changes nothing in it, which is out of scope when
the fetch of its entrant fails. -/
theorem nudge_scope_sound_both :
    (Changed twoCups (bothFetched.commit codec [(6, 3)] twoCups) secondCup []
        0 ∧
      Nudged (bothFetched.commit codec [(6, 3)] twoCups) .recentMatches 2) ∧
    secondCup.id ∉ secondFailed.scope codec twoCups ∧
      ∀ names readAt, ¬ Changed twoCups
        (secondFailed.commit codec [(6, 4)] twoCups) secondCup names
          readAt := by
  refine ⟨⟨?_, ?_⟩, by decide, fun names readAt hchanged => ?_⟩
  · exact bothFetched_changed
  · exact nudge_scope_sound twoCups_consistent bothFetched secondCup
      (fun houtside _ => absurd (by decide) houtside) [] 0 bothFetched_changed
  · obtain ⟨row, hfind, hcovers⟩ := nudge_scope_sound twoCups_consistent
      secondFailed secondCup
      (fun _ _ _ profileId _ => secondFailed_bringsNothing profileId) names
      readAt hchanged
    have hstored : (secondFailed.commit codec [(6, 4)]
        twoCups).nudgeVersions.find? .recentMatches =
          some ⟨.recentMatches, 5000000, some [1]⟩ := by decide
    cases hstored.symm.trans hfind
    exact absurd (hcovers [1] rfl) (by decide)

open BatchWitness NudgeScopeWitness in
/-- A match fetched for one profile changes the record of its opponent, whose
own fetch failed, and the nudge leaves the opponent's tournament out. -/
theorem opponent_not_nudged :
    ¬ ∀ (codec : Codec) (mapping : Dict Int Int) (db : Database),
      db.Consistent → ∀ (tick : Tick) (t : Tournament)
        (names : Dict Int String) (readAt : Instant),
          Changed db (tick.commit codec mapping db) t names readAt →
            Nudged (tick.commit codec mapping db) tick.event t.id := by
  intro hclaim
  have hchanged : Changed twoCups (secondFailed.commit codec [(6, 3)] twoCups)
      secondCup [] 0 := by
    refine ⟨entrant, mem_rosterEntries.mpr
      ⟨List.mem_cons_of_mem _ List.mem_cons_self, rfl⟩, fun hsame => ?_⟩
    have hgames := congrArg (Option.map fun data =>
      data.tournamentRecord.gamesPlayed) hsame
    exact absurd hgames (by decide)
  obtain ⟨row, hfind, hcovers⟩ := hclaim codec [(6, 3)] twoCups
    twoCups_consistent secondFailed secondCup [] 0 hchanged
  have hstored : (secondFailed.commit codec [(6, 3)] twoCups).nudgeVersions.find?
      .recentMatches = some ⟨.recentMatches, 5000000, some [1]⟩ := by decide
  cases hstored.symm.trans hfind
  exact absurd (hcovers [1] rfl) (by decide)

end LiveStandings
