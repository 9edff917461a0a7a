/-
The worker's writes.  A row from a parser is first bound to its columns,
which is where a missing or ill-typed value raises; what is bound is written
with `INSERT ... ON CONFLICT`.
-/
import LiveStandings.Parsers
import LiveStandings.Library.Ranking

namespace LiveStandings

open KeyedTable PyJson Ranking

/-- A value an `integer` column stores. -/
def inInt32 (n : Int) : Bool :=
  -2147483648 ≤ n && n ≤ 2147483647

/-- Binding to a non-null `integer` column. -/
def bindInt (value : Json) : Except PyError Int :=
  match value.asInt? with
  | some n => if inInt32 n then .ok n else .error .dataError
  | none => .error (if value.isNull then .integrityError else .dataError)

theorem asInt?_of_bindInt {value : Json} {n : Int}
    (hbind : bindInt value = .ok n) : value.asInt? = some n := by
  unfold bindInt at hbind
  split at hbind
  · next hint =>
      split at hbind
      · cases hbind
        exact hint
      · cases hbind
  · cases hbind

/-- Binding to a nullable `integer` column. -/
def bindInt? (value : Json) : Except PyError (Option Int) :=
  if value.isNull then .ok none else (bindInt value).map some

/-- Binding to a non-null `varchar` column. -/
def bindText (value : Json) : Except PyError String :=
  match value with
  | .str text =>
      if text.toList.contains '\x00' then .error .dataError else .ok text
  | .null => .error .integrityError
  | _ => .error .dataError

/-- Binding to a nullable `varchar` column. -/
def bindText? (value : Json) : Except PyError (Option String) :=
  if value.isNull then .ok none else (bindText value).map some

/-- What a `varchar(limit)` column stores: blanks beyond the limit are cut,
anything else beyond it is refused. -/
def fitText (limit : Nat) (text : String) : Except PyError String :=
  if text.length ≤ limit then .ok text
  else if (text.toList.drop limit).all (· == ' ') then
    .ok (String.ofList (text.toList.take limit))
  else .error .dataError

/-- Binding an id of the static matchtype map. -/
def bindId? : Option Int → Except PyError (Option Int)
  | none => .ok none
  | some n => if inInt32 n then .ok (some n) else .error .dataError

theorem eq_of_bindId? {id stored : Option Int}
    (hbind : bindId? id = .ok stored) : stored = id := by
  cases id with
  | none => cases hbind; rfl
  | some n =>
      by_cases hn : inInt32 n
      · rw [bindId?, if_pos hn] at hbind
        cases hbind
        rfl
      · rw [bindId?, if_neg hn] at hbind
        cases hbind

/-- Binding to a non-null timestamp. -/
def bindInstant : Option Instant → Except PyError Instant
  | some instant => .ok instant
  | none => .error .integrityError

def PlayerDict.bind (data : PlayerDict) (now : Instant) :
    Except PyError Player := do
  .ok {
    profileId := ← bindInt data.profileId
    aliasName := ← bindText data.aliasName
    country := ← (← bindText? data.country).mapM (fitText 2)
    steamId := ← bindText? data.steamId
    level := ← bindInt data.level
    xp := ← bindInt data.xp
    regionId := ← bindInt data.regionId
    clanName := ← bindText? data.clanName
    updatedAt := now }

def RatingDict.bind (data : RatingDict) (now : Instant) :
    Except PyError PlayerRating := do
  .ok {
    profileId := ← bindInt data.profileId
    leaderboardId := ← bindInt data.leaderboardId
    currentRating := ← bindInt data.currentRating
    maxRating := ← bindInt data.maxRating
    wins := ← bindInt data.wins
    losses := ← bindInt data.losses
    streak := ← bindInt data.streak
    drops := ← bindInt data.drops
    rank := ← bindInt? data.rank
    rankTotal := ← bindInt? data.rankTotal
    regionRank := ← bindInt? data.regionRank
    regionRankTotal := ← bindInt? data.regionRankTotal
    lastMatchAt := data.lastMatchAt
    updatedAt := now }

def MatchDict.bind (data : MatchDict) (now : Instant) :
    Except PyError Match := do
  .ok {
    matchId := ← bindInt data.matchId
    mapName := ← bindText data.mapName
    matchtypeId := ← bindInt data.matchtypeId
    leaderboardId := ← bindId? data.leaderboardId
    startedAt := ← bindInstant data.startedAt
    completedAt := data.completedAt
    description := ← bindText? data.description
    state := data.state
    updatedAt := now }

def MatchPlayerDict.bind (data : MatchPlayerDict) :
    Except PyError MatchPlayer := do
  .ok {
    matchId := ← bindInt data.matchId
    profileId := ← bindInt data.profileId
    civilizationId := ← bindInt data.civilizationId
    teamId := ← bindInt data.teamId
    outcome := data.outcome
    oldRating := ← bindInt? data.oldRating
    newRating := ← bindInt? data.newRating
    xpGained := ← bindInt data.xpGained }

def AliasDict.bind (data : AliasDict) (now : Instant) :
    Except PyError ProfileAlias := do
  .ok {
    profileId := ← bindInt data.profileId
    aliasName := ← bindText data.aliasName
    updatedAt := now }

def LivePlayerDict.bind (data : LivePlayerDict) :
    Except PyError LiveMatchPlayer := do
  .ok { matchId := ← bindInt data.matchId, profileId := ← bindInt data.profileId }

def LeaderboardDict.bind (data : LeaderboardDict) (now : Instant) :
    Except PyError Leaderboard := do
  .ok {
    leaderboardId := ← bindInt data.leaderboardId
    name := ← bindText data.name
    isRanked := data.isRanked
    -- a JSON column; of its ids the model keeps the integers
    matchtypes := data.matchtypes.filterMap Json.asInt?
    updatedAt := now }

def CivilizationDict.bind (data : CivilizationDict) (now : Instant) :
    Except PyError Civilization := do
  .ok {
    civilizationId := ← bindInt data.civilizationId
    name := ← bindText data.name
    updatedAt := now }

/-- `upsert_leaderboard`. -/
def upsertLeaderboard (db : Database) (row : Leaderboard) : Database :=
  { db with leaderboards := db.leaderboards.overwrite row }

/-- `upsert_civilization`. -/
def upsertCivilization (db : Database) (row : Civilization) : Database :=
  { db with civilizations := db.civilizations.overwrite row }

/-- `upsert_player`. -/
def upsertPlayer (db : Database) (row : Player) : Database :=
  { db with players := db.players.overwrite row }

/-- `upsert_player_rating`; the row's player must exist. -/
def upsertPlayerRating (db : Database) (row : PlayerRating) :
    Except PyError Database :=
  if (db.players.find? row.profileId).isSome then
    .ok { db with playerRatings := db.playerRatings.overwrite row }
  else .error .integrityError

/-- `upsert_profile_alias`. -/
def upsertProfileAlias (db : Database) (row : ProfileAlias) : Database :=
  { db with profileAliases := db.profileAliases.overwrite row }

/-- `upsert_match_from_recent`: the finished-match feed overwrites. -/
def upsertMatchFromRecent (db : Database) (row : Match) : Database :=
  { db with matchTable := db.matchTable.overwrite row }

/-- What `upsert_match_from_live` leaves of a stored match: only an unfinished
one changes, and only in its state. -/
def Match.observedLive (row stored : Match) : Match :=
  if stored.completedAt.isNone then
    { stored with state := row.state, updatedAt := row.updatedAt }
  else stored

/-- `upsert_match_from_live`. -/
def upsertMatchFromLive (db : Database) (row : Match) : Database :=
  { db with
    matchTable := db.matchTable.upsert row row.observedLive fun stored hkey => by
      unfold Match.observedLive
      split
      · exact hkey
      · exact hkey }

/-- `upsert_match_player`: final once written; its match must exist. -/
def upsertMatchPlayer (db : Database) (row : MatchPlayer) :
    Except PyError Database :=
  if (db.matchTable.find? row.matchId).isSome then
    .ok { db with matchPlayers := db.matchPlayers.insertNew row }
  else .error .integrityError

/-- The latest snapshot of a pair: the rows in `(observed_at, id)` order, the
last of the pair's. -/
def latestSnapshot (db : Database) (profileId leaderboardId : Int) :
    Option PlayerRatingSnapshot :=
  ((sortBy (fun row => toLex (row.observedAt, row.id))
    db.playerRatingSnapshots.rows).filter fun row =>
      row.profileId = profileId && row.leaderboardId = leaderboardId).getLast?

/-- A pair is recorded when its ratings differ from the latest snapshot's. -/
def ratingChanged (db : Database) (rating : PlayerRating) : Bool :=
  (latestSnapshot db rating.profileId rating.leaderboardId).map
      (fun row => (row.maxRating, row.currentRating)) ≠
    some (rating.maxRating, some rating.currentRating)

/-- The `player_rating_snapshots.id` sequence: above every id in use. -/
def lastSnapshotId (db : Database) : Int :=
  (db.playerRatingSnapshots.rows.map (·.id)).foldr max 0

/-- The snapshots of these ratings, numbered from `id` on. -/
def numberSnapshots (now : Instant) :
    Int → List PlayerRating → List PlayerRatingSnapshot
  | _, [] => []
  | id, rating :: ratings =>
      { id := id, profileId := rating.profileId,
        leaderboardId := rating.leaderboardId, maxRating := rating.maxRating,
        currentRating := some rating.currentRating, observedAt := now } ::
        numberSnapshots now (id + 1) ratings

theorem le_foldr_max {n : Int} {ns : List Int} (hmem : n ∈ ns) :
    n ≤ ns.foldr max 0 := by
  induction ns with
  | nil => simp at hmem
  | cons head tail ih =>
      rcases List.mem_cons.mp hmem with rfl | htail
      · exact le_max_left _ _
      · exact le_trans (ih htail) (le_max_right _ _)

theorem numberSnapshots_ids (now : Instant) (id : Int)
    (ratings : List PlayerRating) :
    ((numberSnapshots now id ratings).map (·.id)).Nodup ∧
      ∀ row ∈ numberSnapshots now id ratings, id ≤ row.id := by
  induction ratings generalizing id with
  | nil => simp [numberSnapshots]
  | cons rating ratings ih =>
      obtain ⟨hnodup, hle⟩ := ih (id + 1)
      constructor
      · simp only [numberSnapshots, List.map_cons, List.nodup_cons,
          List.mem_map, not_exists, not_and]
        refine ⟨fun row hrow heq => ?_, hnodup⟩
        have hrowle := hle row hrow
        omega
      · intro row hrow
        rcases List.mem_cons.mp hrow with rfl | htail
        · exact le_refl id
        · have hrowle := hle row htail
          omega

/-- `insert_rating_snapshots`: one statement, so every diff is against the
snapshots stored before it; each row's player must exist. -/
def insertRatingSnapshots (db : Database) (ratings : List PlayerRating)
    (now : Instant) : Except PyError Database :=
  let changed := ratings.filter (ratingChanged db)
  if changed.all fun rating => (db.players.find? rating.profileId).isSome then
    .ok { db with
      playerRatingSnapshots := db.playerRatingSnapshots.append
        (numberSnapshots now (lastSnapshotId db + 1) changed)
        (numberSnapshots_ids now _ changed).1
        (by
          intro row hrow hmem
          have hge := (numberSnapshots_ids now _ changed).2 row hrow
          have hle : row.id ≤ lastSnapshotId db := le_foldr_max hmem
          omega) }
  else .error .integrityError

/-- `replace_live_match_players`; each link's match must exist. -/
def replaceLiveMatchPlayers (db : Database) (rows : List LiveMatchPlayer) :
    Except PyError Database :=
  if rows.all fun row => (db.matchTable.find? row.matchId).isSome then
    .ok { db with
      liveMatchPlayers :=
        rows.foldl (fun table row => table.insertNew row) .empty }
  else .error .integrityError

end LiveStandings
