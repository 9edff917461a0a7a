/-
The worker's ticks.  A tick fetches, parses, writes and emits its nudge in
one transaction, so an exception anywhere leaves the database as it was.
-/
import LiveStandings.Records
import LiveStandings.Events
import LiveStandings.Upserts
import LiveStandings.Library.Fallible

namespace LiveStandings

open KeyedTable PyJson Fallible

/-- What `asyncio.gather(..., return_exceptions=True)` holds for one call. -/
inductive Fetch where
  | failed
  | payload (document : Json)
deriving Repr

/-- `get_tournament_ids_for_profiles`. -/
def getTournamentIdsForProfiles (db : Database) (profileIds : List Int) :
    List Int :=
  if profileIds.isEmpty then []
  else
    sortedSet ((db.tournamentPlayers.rows.filter fun row =>
      row.profileId.any fun profileId => profileIds.contains profileId).map
        (·.tournamentId))

theorem mem_getTournamentIdsForProfiles {db : Database} {profileIds : List Int}
    {entry : TournamentPlayer} (hentry : entry ∈ db.tournamentPlayers.rows)
    {profileId : Int} (hprofile : entry.profileId = some profileId)
    (hmem : profileId ∈ profileIds) :
    entry.tournamentId ∈ getTournamentIdsForProfiles db profileIds := by
  have hnonempty : profileIds.isEmpty = false :=
    List.isEmpty_eq_false_iff.mpr (List.ne_nil_of_mem hmem)
  rw [getTournamentIdsForProfiles, if_neg (by simp [hnonempty]), mem_sortedSet]
  exact List.mem_map.mpr ⟨entry,
    List.mem_filter.mpr ⟨hentry, by simp [hprofile, hmem]⟩, rfl⟩

/-- The emit and the commit that end a tick. -/
def commitNudge (db : Database) (event : EventType) (tournamentIds : List Int)
    (now : Instant) : Except PyError Database :=
  match (emitNudge db.nudgeVersions event (some tournamentIds) now).written?
      db.nudgeVersions with
  | none => .error .integrityError
  | some row => .ok { db with nudgeVersions := db.nudgeVersions.overwrite row }

theorem Emit.update_self (emit : Emit) (loaded : NudgeVersion) :
    emit.update loaded loaded =
      ⟨loaded.event, emit.polledAt, emit.tournamentIds⟩ := by
  rw [Emit.update]
  rw [ite_eq_right_iff.mpr Eq.symm, ite_eq_right_iff.mpr Eq.symm]

theorem written?_emitNudge (nudges : NudgeTable) (event : EventType)
    (tournamentIds : Option (List Int)) (now : Instant) :
    (emitNudge nudges event tournamentIds now).written? nudges =
      some ⟨event, now, storedScope tournamentIds⟩ := by
  cases hfind : nudges.find? event with
  | none => simp [Emit.written?, emitNudge, hfind, Emit.row]
  | some stored =>
      have hevent := nudges.key_of_find? hfind
      simp [Emit.written?, emitNudge, hfind, Emit.update_self, hevent]

theorem commitNudge_eq (db : Database) (event : EventType)
    (tournamentIds : List Int) (now : Instant) :
    commitNudge db event tournamentIds now =
      .ok { db with
        nudgeVersions := db.nudgeVersions.overwrite
          ⟨event, now, storedScope (some tournamentIds)⟩ } := by
  rw [commitNudge, written?_emitNudge]

/-- What is committed: all a tick wrote, or nothing. -/
def committedState (db : Database) : Except PyError Database → Database
  | .ok db' => db'
  | .error _ => db

/-- The rows of one recent-matches payload, bound to their columns. -/
structure RecentRows where
  matchRows : List Match
  players : List MatchPlayer
  aliases : List ProfileAlias
deriving Repr

/-- The loop body of `tick_recent_matches` for a fetched payload. -/
def storeRecent (codec : Codec) (mapping : Dict Int Int) (now : Instant)
    (db : Database) (payload : Json) : Except PyError Database := do
  let parsed ← parseRecentMatches codec mapping payload
  let db ← parsed.matchRows.foldlM (fun db row => do
    .ok (upsertMatchFromRecent db (← row.bind now))) db
  let db ← parsed.players.foldlM (fun db row => do
    upsertMatchPlayer db (← row.bind)) db
  parsed.aliases.foldlM (fun db row => do
    .ok (upsertProfileAlias db (← row.bind now))) db

/-- One result of the fan-out: a failed fetch is skipped. -/
def storeFetched (codec : Codec) (mapping : Dict Int Int) (now : Instant)
    (db : Database) (result : Int × Fetch) : Except PyError Database :=
  match result.2 with
  | .failed => .ok db
  | .payload payload => storeRecent codec mapping now db payload

/-- The profiles whose fetch succeeded. -/
def fetchedOk (batch : List (Int × Fetch)) : List Int :=
  (batch.filter fun result =>
    match result.2 with
    | .failed => false
    | .payload _ => true).map (·.1)

/-- `tick_recent_matches`, from the results of its fan-out on. -/
def tickRecentMatches (codec : Codec) (mapping : Dict Int Int) (now : Instant)
    (batch : List (Int × Fetch)) (db : Database) : Except PyError Database :=
  if batch.isEmpty then .ok db
  else do
    let db ← batch.foldlM (storeFetched codec mapping now) db
    commitNudge db .recentMatches
      (getTournamentIdsForProfiles db (fetchedOk batch)) now

/-- `tick_player_stats`, from its response on.  A rating row is bound where
it is written; one that cannot be bound fails the tick at either write. -/
def tickPlayerStats (now : Instant) (profileIds : List Int) (payload : Json)
    (db : Database) : Except PyError Database :=
  if profileIds.isEmpty then .ok db
  else do
    let (players, ratings) ← parsePlayerStats payload
    let db ← players.foldlM (fun db row => do
      .ok (upsertPlayer db (← row.bind now))) db
    let ratings ← ratings.mapM (·.bind now)
    let db ← insertRatingSnapshots db ratings now
    let db ← ratings.foldlM upsertPlayerRating db
    commitNudge db .standings (getTournamentIdsForProfiles db profileIds) now

/-- `tick_live_matches`, from its response on.  The scope is the profiles
that were live before the rewrite and those that are live after it. -/
def tickLiveMatches (codec : Codec) (now : Instant) (profileIds : List Int)
    (payload : Json) (db : Database) : Except PyError Database :=
  if profileIds.isEmpty then .ok db
  else do
    let (rows, links) ← parseLiveAdvertisements codec profileIds now payload
    let previousLive := db.liveMatchPlayers.rows.map (·.profileId)
    let db ← rows.foldlM (fun db row => do
      .ok (upsertMatchFromLive db (← row.bind now))) db
    let links ← links.mapM (·.bind)
    let db ← replaceLiveMatchPlayers db links
    commitNudge db .live
      (getTournamentIdsForProfiles db
        (previousLive ++ links.map (·.profileId))) now

/-- Parsing and binding a stats payload, before anything is written. -/
def boundStats (now : Instant) (payload : Json) :
    Except PyError (List Player × List PlayerRating) := do
  let (players, ratings) ← parsePlayerStats payload
  let players ← players.mapM (·.bind now)
  let ratings ← ratings.mapM (·.bind now)
  .ok (players, ratings)

/-- The writes of a stats tick. -/
def writeStats (db : Database) (now : Instant) (players : List Player)
    (ratings : List PlayerRating) : Except PyError Database := do
  let db ← insertRatingSnapshots (players.foldl upsertPlayer db) ratings now
  ratings.foldlM upsertPlayerRating db

/-- A stats tick binds everything before it writes. -/
theorem tickPlayerStats_eq (now : Instant) (profileIds : List Int)
    (payload : Json) (db : Database) :
    tickPlayerStats now profileIds payload db =
      if profileIds.isEmpty then .ok db
      else (do
        let (players, ratings) ← boundStats now payload
        let db ← writeStats db now players ratings
        commitNudge db .standings
          (getTournamentIdsForProfiles db profileIds) now) := by
  unfold tickPlayerStats boundStats writeStats
  split
  · rfl
  · cases hparse : parsePlayerStats payload with
    | error error => rfl
    | ok parsed =>
        have hplayers := foldlM_total (fun row : PlayerDict => row.bind now)
          upsertPlayer parsed.1 db
        simp only [bind, Except.bind] at hplayers ⊢
        rw [hplayers]
        cases parsed.1.mapM (·.bind now) with
        | error error => rfl
        | ok players =>
            simp only [Except.map]
            cases parsed.2.mapM (·.bind now) with
            | error error => rfl
            | ok ratings =>
                simp only
                cases insertRatingSnapshots (players.foldl upsertPlayer db)
                    ratings now with
                | error error => rfl
                | ok db' => rfl

theorem foldl_upsertPlayer (rows : List Player) (db : Database) :
    rows.foldl upsertPlayer db =
      { db with players := db.players.overwriteAll rows } := by
  induction rows generalizing db with
  | nil => rfl
  | cons row rows ih => exact ih (upsertPlayer db row)

theorem foldlM_upsertPlayerRating {rows : List PlayerRating}
    {db db' : Database} (hrun : rows.foldlM upsertPlayerRating db = .ok db') :
    db' = { db with playerRatings := db.playerRatings.overwriteAll rows } := by
  induction rows generalizing db with
  | nil =>
      cases hrun
      rfl
  | cons row rows ih =>
      rw [List.foldlM_cons] at hrun
      obtain ⟨next, hstep, hrest⟩ := bind_eq_ok.mp hrun
      rw [upsertPlayerRating] at hstep
      split at hstep
      · cases hstep
        exact ih hrest
      · cases hstep

theorem foldlM_upsertPlayerRating_ok {rows : List PlayerRating} {db : Database}
    (hplayers : ∀ row ∈ rows, (db.players.find? row.profileId).isSome) :
    rows.foldlM upsertPlayerRating db =
      .ok { db with playerRatings := db.playerRatings.overwriteAll rows } := by
  induction rows generalizing db with
  | nil => rfl
  | cons row rows ih =>
      have hstep : upsertPlayerRating db row = .ok { db with
          playerRatings := db.playerRatings.overwrite row } :=
        if_pos (hplayers row List.mem_cons_self)
      rw [List.foldlM_cons, hstep]
      exact ih fun row' hrow' => hplayers row' (List.mem_cons_of_mem row hrow')

theorem mem_numberSnapshots {now : Instant} {id : Int}
    {ratings : List PlayerRating} {row : PlayerRatingSnapshot}
    (hrow : row ∈ numberSnapshots now id ratings) :
    row.observedAt = now ∧ ∃ rating ∈ ratings,
      (row.profileId, row.leaderboardId) = rating.key := by
  induction ratings generalizing id with
  | nil => simp [numberSnapshots] at hrow
  | cons rating ratings ih =>
      rcases List.mem_cons.mp hrow with rfl | htail
      · exact ⟨rfl, rating, List.mem_cons_self, rfl⟩
      · obtain ⟨hstamp, rating', hrating, hkey⟩ := ih htail
        exact ⟨hstamp, rating', List.mem_cons_of_mem rating hrating, hkey⟩

/-- What the writes of a stats tick leave: the incoming rows overwrite, and the
changed ratings are numbered and appended. -/
theorem writeStats_eq {db db' : Database} {now : Instant}
    {players : List Player} {ratings : List PlayerRating}
    (hwrite : writeStats db now players ratings = .ok db') :
    ∃ table : Table PlayerRatingSnapshot.id,
      table.rows = db.playerRatingSnapshots.rows ++
        numberSnapshots now (lastSnapshotId db + 1)
          (ratings.filter (ratingChanged db)) ∧
        db' = { db with
          players := db.players.overwriteAll players
          playerRatings := db.playerRatings.overwriteAll ratings
          playerRatingSnapshots := table } := by
  rw [writeStats] at hwrite
  obtain ⟨db₁, hinsert, hratings⟩ := bind_eq_ok.mp hwrite
  rw [foldl_upsertPlayer] at hinsert
  rw [insertRatingSnapshots] at hinsert
  simp only at hinsert
  split at hinsert
  · cases hinsert
    rw [foldlM_upsertPlayerRating hratings]
    exact ⟨_, rfl, rfl⟩
  · cases hinsert

/-- The appended snapshots are stamped `now` and are of changed ratings. -/
theorem writeStats_ok {db db' : Database} {now : Instant}
    {players : List Player} {ratings : List PlayerRating}
    (hwrite : writeStats db now players ratings = .ok db') :
    ∃ table : Table PlayerRatingSnapshot.id,
      ∃ appended : List PlayerRatingSnapshot,
        table.rows = db.playerRatingSnapshots.rows ++ appended ∧
          (∀ row ∈ appended, row.observedAt = now ∧ ∃ rating ∈ ratings,
            ratingChanged db rating ∧
              (row.profileId, row.leaderboardId) = rating.key) ∧
          db' = { db with
            players := db.players.overwriteAll players
            playerRatings := db.playerRatings.overwriteAll ratings
            playerRatingSnapshots := table } := by
  obtain ⟨table, hrows, hdb⟩ := writeStats_eq hwrite
  refine ⟨table, _, hrows, fun row hrow => ?_, hdb⟩
  obtain ⟨hstamp, rating, hrating, hkey⟩ := mem_numberSnapshots hrow
  obtain ⟨hmem, hchanged⟩ := List.mem_filter.mp hrating
  exact ⟨hstamp, rating, hmem, hchanged, hkey⟩

/-- A stats tick raises, has nothing to poll, or commits the writes of its
payload and a nudge. -/
theorem tickPlayerStats_cases (now : Instant) (profileIds : List Int)
    (payload : Json) (db : Database) :
    (∃ error, tickPlayerStats now profileIds payload db = .error error) ∨
      (profileIds.isEmpty ∧
        tickPlayerStats now profileIds payload db = .ok db) ∨
      ∃ players ratings written,
        profileIds.isEmpty = false ∧
          boundStats now payload = .ok (players, ratings) ∧
          writeStats db now players ratings = .ok written ∧
          tickPlayerStats now profileIds payload db =
            commitNudge written .standings
              (getTournamentIdsForProfiles written profileIds) now := by
  rw [tickPlayerStats_eq]
  by_cases hnone : profileIds.isEmpty
  · exact Or.inr (Or.inl ⟨hnone, if_pos hnone⟩)
  · rw [if_neg hnone]
    cases boundStats now payload with
    | error error => exact Or.inl ⟨error, rfl⟩
    | ok bound =>
        obtain ⟨players, ratings⟩ := bound
        cases hwrite : writeStats db now players ratings with
        | error error =>
            left
            exact ⟨error, by simp only [bind, Except.bind, hwrite]⟩
        | ok written =>
            right
            right
            refine ⟨players, ratings, written, by simpa using hnone, rfl,
              hwrite, ?_⟩
            simp only [bind, Except.bind, hwrite]

theorem writeStats_isOk {db : Database} (now : Instant)
    {ratings : List PlayerRating}
    (hplayers : ∀ row ∈ ratings, (db.players.find? row.profileId).isSome) :
    ∃ db', writeStats db now [] ratings = .ok db' := by
  have hall : ((ratings.filter (ratingChanged db)).all fun rating =>
      (db.players.find? rating.profileId).isSome) = true := by
    rw [List.all_eq_true]
    exact fun row hrow => hplayers row (List.mem_of_mem_filter hrow)
  rw [writeStats]
  simp only [List.foldl_nil, insertRatingSnapshots, hall, ↓reduceIte]
  exact ⟨_, foldlM_upsertPlayerRating_ok hplayers⟩

/-- Parsing and binding a payload, before anything is written. -/
def boundRecent (codec : Codec) (mapping : Dict Int Int) (now : Instant)
    (payload : Json) : Except PyError RecentRows := do
  let parsed ← parseRecentMatches codec mapping payload
  .ok {
    matchRows := ← parsed.matchRows.mapM (·.bind now)
    players := ← parsed.players.mapM (·.bind)
    aliases := ← parsed.aliases.mapM (·.bind now) }

/-- The database after the rows of a payload are written. -/
def writeRecent (db : Database) (rows : RecentRows) : Database :=
  { db with
    matchTable := db.matchTable.overwriteAll rows.matchRows
    matchPlayers := db.matchPlayers.insertAll rows.players
    profileAliases := db.profileAliases.overwriteAll rows.aliases }

theorem MatchDict.bind_matchId {data : MatchDict} {now : Instant} {row : Match}
    (hbind : data.bind now = .ok row) : bindInt data.matchId = .ok row.matchId := by
  simp only [MatchDict.bind, bind_eq_ok] at hbind
  obtain ⟨matchId, hid, _, _, _, _, _, _, _, _, _, _, hrow⟩ := hbind
  cases hrow
  exact hid

theorem MatchPlayerDict.bind_matchId {data : MatchPlayerDict}
    {row : MatchPlayer} (hbind : data.bind = .ok row) :
    bindInt data.matchId = .ok row.matchId := by
  simp only [MatchPlayerDict.bind, bind_eq_ok] at hbind
  obtain ⟨matchId, hid, _, _, _, _, _, _, _, _, _, _, _, _, hrow⟩ := hbind
  cases hrow
  exact hid

theorem foldl_upsertMatchFromRecent (rows : List Match) (db : Database) :
    rows.foldl upsertMatchFromRecent db =
      { db with matchTable := db.matchTable.overwriteAll rows } := by
  induction rows generalizing db with
  | nil => rfl
  | cons row rows ih => exact ih (upsertMatchFromRecent db row)

theorem foldl_upsertProfileAlias (rows : List ProfileAlias) (db : Database) :
    rows.foldl upsertProfileAlias db =
      { db with profileAliases := db.profileAliases.overwriteAll rows } := by
  induction rows generalizing db with
  | nil => rfl
  | cons row rows ih => exact ih (upsertProfileAlias db row)

/-- A match-player row written without its foreign-key check. -/
def writeMatchPlayer (db : Database) (row : MatchPlayer) : Database :=
  { db with matchPlayers := db.matchPlayers.insertNew row }

theorem foldl_writeMatchPlayer (rows : List MatchPlayer) (db : Database) :
    rows.foldl writeMatchPlayer db =
      { db with matchPlayers := db.matchPlayers.insertAll rows } := by
  induction rows generalizing db with
  | nil => rfl
  | cons row rows ih => exact ih (writeMatchPlayer db row)

/-- A bound match-player row belongs to one of the bound matches. -/
theorem mapM_bind_matchId {codec : Codec} {mapping : Dict Int Int}
    {now : Instant} {payload : Json} {parsed : RecentMatches}
    {bound : List Match}
    (hparse : parseRecentMatches codec mapping payload = .ok parsed)
    (hbound : parsed.matchRows.mapM (·.bind now) = .ok bound)
    {data : MatchPlayerDict} (hdata : data ∈ parsed.players)
    {row : MatchPlayer} (hrow : data.bind = .ok row) :
    ∃ m ∈ bound, m.matchId = row.matchId := by
  obtain ⟨raw, hraw, hid⟩ := parseRecentMatches_player hparse hdata
  obtain ⟨m, hm, hbind⟩ := mem_of_mapM hbound hraw
  refine ⟨m, hm, ?_⟩
  have hmatch := MatchDict.bind_matchId hbind
  rw [hid, MatchPlayerDict.bind_matchId hrow] at hmatch
  exact (Except.ok.inj hmatch).symm

theorem boundRecent_player {codec : Codec} {mapping : Dict Int Int}
    {now : Instant} {payload : Json} {rows : RecentRows}
    (hbound : boundRecent codec mapping now payload = .ok rows)
    {row : MatchPlayer} (hrow : row ∈ rows.players) :
    ∃ m ∈ rows.matchRows, m.matchId = row.matchId := by
  simp only [boundRecent, bind_eq_ok] at hbound
  obtain ⟨parsed, hparse, matchRows, hmatches, players, hplayers, aliases, _,
    hrows⟩ := hbound
  cases hrows
  obtain ⟨data, hdata, hbind⟩ := exists_of_mem_mapM hplayers hrow
  exact mapM_bind_matchId hparse hmatches hdata hbind

/-- A payload is refused before its first write or not at all: the matches it
reports players of are the ones it has just written. -/
theorem storeRecent_eq (codec : Codec) (mapping : Dict Int Int) (now : Instant)
    (db : Database) (payload : Json) :
    storeRecent codec mapping now db payload =
      (boundRecent codec mapping now payload).map (writeRecent db) := by
  unfold storeRecent boundRecent
  cases hparse : parseRecentMatches codec mapping payload with
  | error error => rfl
  | ok parsed =>
      have hmatches := foldlM_total (fun row : MatchDict => row.bind now)
        upsertMatchFromRecent parsed.matchRows db
      simp only [bind, Except.bind] at hmatches ⊢
      rw [hmatches]
      cases hbound : parsed.matchRows.mapM (·.bind now) with
      | error error => rfl
      | ok bound =>
          let Written := fun db : Database =>
            ∀ m ∈ bound, (db.matchTable.find? m.matchId).isSome
          have hwritten : Written (bound.foldl upsertMatchFromRecent db) := by
            intro m hm
            rw [foldl_upsertMatchFromRecent, Table.find?_overwriteAll]
            cases hlast : lastUnder Match.matchId m.matchId bound with
            | none => exact absurd rfl (lastUnder_eq_none_iff.mp hlast m hm)
            | some last => rfl
          have hplayers := foldlM_checked (fun row : MatchPlayerDict => row.bind)
            upsertMatchPlayer writeMatchPlayer Written
            (fun s data hs hdata row hrow => by
              obtain ⟨m, hm, hid⟩ := mapM_bind_matchId hparse hbound hdata hrow
              exact if_pos (hid ▸ hs m hm))
            (fun s row hs => hs) hwritten
          simp only [bind, Except.bind, Except.map] at hplayers ⊢
          rw [hplayers]
          cases parsed.players.mapM (·.bind) with
          | error error => rfl
          | ok players =>
              have haliases := foldlM_total (fun row : AliasDict => row.bind now)
                upsertProfileAlias parsed.aliases
                (players.foldl writeMatchPlayer
                  (bound.foldl upsertMatchFromRecent db))
              simp only [bind, Except.bind] at haliases ⊢
              rw [haliases]
              cases parsed.aliases.mapM (·.bind now) with
              | error error => rfl
              | ok aliases =>
                  simp only [Except.map]
                  rw [foldl_upsertProfileAlias, foldl_writeMatchPlayer,
                    foldl_upsertMatchFromRecent]
                  rfl

theorem find?_matchTable_writeRecent (db : Database) (rows : RecentRows)
    (matchId : Int) :
    (writeRecent db rows).matchTable.find? matchId =
      (lastUnder Match.matchId matchId rows.matchRows).or
        (db.matchTable.find? matchId) :=
  db.matchTable.find?_overwriteAll rows.matchRows matchId

/-- What is read off the player rows of a profile stays where the stored rows
are read as before and nothing is read off the new ones. -/
theorem filterMap_writeRecent {A : Type} {db : Database} {rows : RecentRows}
    {profileId : Int} {read read' : MatchPlayer → Option A}
    (hold : ∀ row ∈ db.matchPlayers.rows, row.profileId = profileId →
      read' row = read row)
    (hnew : ∀ row ∈ rows.players,
      row.key ∉ db.matchPlayers.rows.map (·.key) →
        row.profileId = profileId → read' row = none) :
    ((writeRecent db rows).matchPlayers.rows.filter
        (·.profileId = profileId)).filterMap read' =
      (db.matchPlayers.rows.filter (·.profileId = profileId)).filterMap
        read := by
  obtain ⟨appended, hrows, hfresh⟩ :=
    db.matchPlayers.rows_insertAll rows.players
  have hplayers : (writeRecent db rows).matchPlayers.rows =
      db.matchPlayers.rows ++ appended := hrows
  have hstored : (db.matchPlayers.rows.filter
      (·.profileId = profileId)).filterMap read' =
        (db.matchPlayers.rows.filter (·.profileId = profileId)).filterMap
          read := by
    apply List.filterMap_congr
    intro row hrow
    obtain ⟨hmem, hprofile⟩ := List.mem_filter.mp hrow
    exact hold row hmem (by simpa using hprofile)
  have happended : (appended.filter (·.profileId = profileId)).filterMap
      read' = [] := by
    rw [List.filterMap_eq_nil_iff]
    intro row hrow
    obtain ⟨hmem, hprofile⟩ := List.mem_filter.mp hrow
    obtain ⟨hreported, hkey⟩ := hfresh row hmem
    exact hnew row hreported hkey (by simpa using hprofile)
  rw [hplayers, List.filter_append, List.filterMap_append, hstored, happended,
    List.append_nil]

theorem foldl_upsertMatchFromLive (rows : List Match) (db : Database) :
    ∃ table : Table Match.matchId,
      rows.foldl upsertMatchFromLive db = { db with matchTable := table } ∧
        ∀ matchId, (db.matchTable.find? matchId).isSome →
          (table.find? matchId).map Match.played =
            (db.matchTable.find? matchId).map Match.played := by
  induction rows generalizing db with
  | nil => exact ⟨db.matchTable, rfl, fun _ _ => rfl⟩
  | cons row rows ih =>
      obtain ⟨table, hfold, hplayed⟩ := ih (upsertMatchFromLive db row)
      refine ⟨table, hfold, fun matchId hstored => ?_⟩
      obtain ⟨old, hfind⟩ := Option.isSome_iff_exists.mp hstored
      have hobserved : (row.observedLive old).played = old.played := by
        rw [Match.observedLive]
        split <;> rfl
      have hstep : (upsertMatchFromLive db row).matchTable.find? matchId =
          if row.matchId = matchId then some (row.observedLive old)
          else some old := by
        rw [upsertMatchFromLive, Table.find?_upsert, hfind]
        rfl
      rw [hplayed matchId (by rw [hstep]; split <;> rfl), hstep, hfind]
      split
      · rw [Option.map_some, hobserved, Option.map_some]
      · rfl

theorem replaceLiveMatchPlayers_ok {db db' : Database}
    {links : List LiveMatchPlayer}
    (hreplace : replaceLiveMatchPlayers db links = .ok db') :
    db' = { db with liveMatchPlayers := Table.empty.insertAll links } := by
  rw [replaceLiveMatchPlayers] at hreplace
  split at hreplace
  · cases hreplace
    rfl
  · cases hreplace

/-- The writes of a live tick. -/
theorem writeLive_ok {db db' : Database} {rows : List Match}
    {links : List LiveMatchPlayer}
    (hreplace : replaceLiveMatchPlayers (rows.foldl upsertMatchFromLive db)
      links = .ok db') :
    ∃ table : Table Match.matchId,
      db' = { db with
        matchTable := table
        liveMatchPlayers := Table.empty.insertAll links } ∧
      ∀ matchId, (db.matchTable.find? matchId).isSome →
        (table.find? matchId).map Match.played =
          (db.matchTable.find? matchId).map Match.played := by
  obtain ⟨table, hfold, hplayed⟩ := foldl_upsertMatchFromLive rows db
  rw [hfold] at hreplace
  exact ⟨table, replaceLiveMatchPlayers_ok hreplace, hplayed⟩

theorem joinMatch_writeLive {db db' : Database} {rows : List Match}
    {links : List LiveMatchPlayer}
    (hreplace : replaceLiveMatchPlayers (rows.foldl upsertMatchFromLive db)
      links = .ok db') {row : MatchPlayer}
    (hstored : (db.matchTable.find? row.matchId).isSome) :
    joinMatch db' row = joinMatch db row := by
  obtain ⟨table, rfl, hplayed⟩ := writeLive_ok hreplace
  have hgame := congrArg (Option.map (Game.mk row)) (hplayed row.matchId hstored)
  rwa [Option.map_map, Option.map_map] at hgame

end LiveStandings
