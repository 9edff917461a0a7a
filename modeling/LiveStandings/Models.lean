/-
The database schema: one structure per mapped class, one keyed table per
relation.  Timestamps are instants on one UTC axis, in microseconds.
-/
import LiveStandings.Library.KeyedTable
import LiveStandings.Library.PyJson
import Mathlib.Data.Int.Order.Basic

namespace LiveStandings

open KeyedTable PyJson

/-- An aware UTC datetime: microseconds since the epoch. -/
abbrev Instant := Int

/-- `MatchState`. -/
inductive MatchState where
  | staging
  | inProgress
  | completed
deriving Repr, DecidableEq

/-- `MatchOutcome`. -/
inductive MatchOutcome where
  | win
  | loss
deriving Repr, DecidableEq

/-- `RankBy`: the per-tournament ranking metric. -/
inductive RankBy where
  | peakRating
  | currentRating
deriving Repr, DecidableEq

/-- Stored in `civilization_id` when upstream omits the civ. -/
def unknownCivilizationId : Int := -1

/-- `players`: the polled record of a tracked profile. -/
structure Player where
  profileId : Int
  aliasName : String
  country : Option String
  steamId : Option String
  level : Int
  xp : Int
  regionId : Int
  clanName : Option String
  updatedAt : Instant
deriving Repr, DecidableEq

/-- `profile_aliases`: a display alias for any profile ever seen. -/
structure ProfileAlias where
  profileId : Int
  aliasName : String
  updatedAt : Instant
deriving Repr, DecidableEq

/-- `player_rating_snapshots`: one recorded observation of a rating pair. -/
structure PlayerRatingSnapshot where
  id : Int
  profileId : Int
  leaderboardId : Int
  maxRating : Int
  currentRating : Option Int
  observedAt : Instant
deriving Repr, DecidableEq

/-- `player_ratings`: the live rating row, overwritten by every poll. -/
structure PlayerRating where
  profileId : Int
  leaderboardId : Int
  currentRating : Int
  maxRating : Int
  wins : Int
  losses : Int
  streak : Int
  drops : Int
  rank : Option Int
  rankTotal : Option Int
  regionRank : Option Int
  regionRankTotal : Option Int
  lastMatchAt : Option Instant
  updatedAt : Instant
deriving Repr, DecidableEq

/-- The primary key of `player_ratings`. -/
def PlayerRating.key (rating : PlayerRating) : Int × Int :=
  (rating.profileId, rating.leaderboardId)

/-- `matches`. -/
structure Match where
  matchId : Int
  mapName : String
  matchtypeId : Int
  leaderboardId : Option Int
  startedAt : Instant
  completedAt : Option Instant
  description : Option String
  state : MatchState
  updatedAt : Instant
deriving Repr, DecidableEq

/-- `match_players`: one participant of one match. -/
structure MatchPlayer where
  matchId : Int
  profileId : Int
  civilizationId : Int
  teamId : Int
  outcome : Option MatchOutcome
  oldRating : Option Int
  newRating : Option Int
  xpGained : Int
deriving Repr, DecidableEq

/-- The primary key of `match_players`. -/
def MatchPlayer.key (row : MatchPlayer) : Int × Int :=
  (row.matchId, row.profileId)

/-- `live_match_players`: a tracked player in a live lobby as of the last
poll. -/
structure LiveMatchPlayer where
  matchId : Int
  profileId : Int
deriving Repr, DecidableEq

/-- The primary key of `live_match_players`. -/
def LiveMatchPlayer.key (row : LiveMatchPlayer) : Int × Int :=
  (row.matchId, row.profileId)

/-- `live_streams`: a roster row broadcasting now, per platform. -/
structure LiveStream where
  tournamentPlayerId : Int
  platform : String
  title : Option String
  category : Option String
deriving Repr, DecidableEq

/-- The primary key of `live_streams`. -/
def LiveStream.key (row : LiveStream) : Int × String :=
  (row.tournamentPlayerId, row.platform)

/-- `host_live_streams`: a tournament host broadcasting now, per platform. -/
structure HostLiveStream where
  tournamentId : Int
  platform : String
deriving Repr, DecidableEq

/-- The primary key of `host_live_streams`. -/
def HostLiveStream.key (row : HostLiveStream) : Int × String :=
  (row.tournamentId, row.platform)

/-- `tournaments`. -/
structure Tournament where
  id : Int
  slug : String
  name : String
  leaderboardId : Int
  rankBy : RankBy
  startDate : Option Instant
  endDate : Option Instant
  prizePoolCents : Option Int
  hostStreamUrls : List String
  presentation : List (String × Json)
  createdAt : Instant
deriving Repr

/-- `tournament_players`: a roster entry, linked to a polled profile or not. -/
structure TournamentPlayer where
  id : Int
  tournamentId : Int
  profileId : Option Int
  name : String
  presentation : List (String × Json)
deriving Repr

/-- `tournament_creators`. -/
structure TournamentCreator where
  userId : String
  createdAt : Instant
deriving Repr, DecidableEq

/-- `tournament_owners`. -/
structure TournamentOwner where
  tournamentId : Int
  userId : String
  createdAt : Instant
deriving Repr, DecidableEq

/-- The primary key of `tournament_owners`. -/
def TournamentOwner.key (row : TournamentOwner) : Int × String :=
  (row.tournamentId, row.userId)

/-- `teams`. -/
structure Team where
  id : Int
  tournamentId : Int
  name : String
  initials : String
deriving Repr, DecidableEq

/-- `team_members`. -/
structure TeamMember where
  teamId : Int
  tournamentPlayerId : Int
  isCaptain : Bool
deriving Repr, DecidableEq

/-- The primary key of `team_members`. -/
def TeamMember.key (row : TeamMember) : Int × Int :=
  (row.teamId, row.tournamentPlayerId)

/-- `leaderboards`. -/
structure Leaderboard where
  leaderboardId : Int
  name : String
  isRanked : Bool
  matchtypes : List Int
  updatedAt : Instant
deriving Repr, DecidableEq

/-- `civilizations`. -/
structure Civilization where
  civilizationId : Int
  name : String
  updatedAt : Instant
deriving Repr, DecidableEq

/-- `EventType`: the SSE event names. -/
inductive EventType where
  | standings
  | live
  | recentMatches
deriving Repr, DecidableEq

/-- The value of an `EventType`, sent in the SSE `event:` field. -/
def EventType.value : EventType → String
  | standings => "standings"
  | live => "live"
  | recentMatches => "matches"

/-- `nudge_versions`: one row per event; `polledAt` is the version token and
a null scope concerns every tournament. -/
structure NudgeVersion where
  event : EventType
  polledAt : Instant
  tournamentIds : Option (List Int)
deriving Repr, DecidableEq

/-- The committed database. -/
structure Database where
  players : Table Player.profileId
  profileAliases : Table ProfileAlias.profileId
  playerRatings : Table PlayerRating.key
  playerRatingSnapshots : Table PlayerRatingSnapshot.id
  matchTable : Table Match.matchId
  matchPlayers : Table MatchPlayer.key
  liveMatchPlayers : Table LiveMatchPlayer.key
  liveStreams : Table LiveStream.key
  hostLiveStreams : Table HostLiveStream.key
  tournaments : Table Tournament.id
  tournamentPlayers : Table TournamentPlayer.id
  tournamentCreators : Table TournamentCreator.userId
  tournamentOwners : Table TournamentOwner.key
  teams : Table Team.id
  teamMembers : Table TeamMember.key
  leaderboards : Table Leaderboard.leaderboardId
  civilizations : Table Civilization.civilizationId
  nudgeVersions : Table NudgeVersion.event

/-- A freshly migrated database. -/
def Database.empty : Database where
  players := .empty
  profileAliases := .empty
  playerRatings := .empty
  playerRatingSnapshots := .empty
  matchTable := .empty
  matchPlayers := .empty
  liveMatchPlayers := .empty
  liveStreams := .empty
  hostLiveStreams := .empty
  tournaments := .empty
  tournamentPlayers := .empty
  tournamentCreators := .empty
  tournamentOwners := .empty
  teams := .empty
  teamMembers := .empty
  leaderboards := .empty
  civilizations := .empty
  nudgeVersions := .empty

/-- `uq_tournament_players_tournament_id_name`. -/
abbrev UniqueNames (entries : Table TournamentPlayer.id) : Prop :=
  ∀ left ∈ entries.rows, ∀ right ∈ entries.rows,
    left.tournamentId = right.tournamentId → left.name = right.name →
      left.id = right.id

/-- The unique constraints and foreign keys the schema declares on the tables
the standings are read from, and what the team endpoints keep. -/
structure Database.Consistent (db : Database) : Prop where
  name_unique : UniqueNames db.tournamentPlayers
  /-- `uq_tournament_players_tournament_id_profile_id`; nulls are distinct -/
  profile_unique : ∀ left ∈ db.tournamentPlayers.rows,
    ∀ right ∈ db.tournamentPlayers.rows,
      left.tournamentId = right.tournamentId →
        left.profileId = right.profileId → left.profileId ≠ none →
          left.id = right.id
  rating_player : ∀ rating ∈ db.playerRatings.rows,
    (db.players.find? rating.profileId).isSome
  snapshot_player : ∀ snapshot ∈ db.playerRatingSnapshots.rows,
    (db.players.find? snapshot.profileId).isSome
  matchPlayer_match : ∀ row ∈ db.matchPlayers.rows,
    (db.matchTable.find? row.matchId).isSome
  liveMatchPlayer_match : ∀ row ∈ db.liveMatchPlayers.rows,
    (db.matchTable.find? row.matchId).isSome
  member_team : ∀ row ∈ db.teamMembers.rows,
    (db.teams.find? row.teamId).isSome
  member_entry : ∀ row ∈ db.teamMembers.rows,
    (db.tournamentPlayers.find? row.tournamentPlayerId).isSome
  /-- `add_team_member` takes its entry from the team's tournament. -/
  member_tournament : ∀ row ∈ db.teamMembers.rows, ∀ team ∈ db.teams.rows,
    ∀ entry ∈ db.tournamentPlayers.rows, row.teamId = team.id →
      row.tournamentPlayerId = entry.id → entry.tournamentId = team.tournamentId

end LiveStandings
