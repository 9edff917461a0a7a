/-
`PATCH /v1/tournaments/{slug}`.  The edit is validated against the row the
request loaded, and only the columns it changed are written, so what is
committed can combine two rows.
-/
import LiveStandings.Roster

namespace LiveStandings

open KeyedTable PyJson

/-- `TournamentUpdate`, validated; a field that is not in the body is `none`,
and a bound sent as `null` is `some none`. -/
structure TournamentUpdate where
  name : Option String
  leaderboardId : Option Int
  rankBy : Option RankBy
  startDate : Option (Option Datetime)
  endDate : Option (Option Datetime)
  prizePoolCents : Option (Option Int)
  hostStreamUrls : Option (List String)
  presentation : Option (List (String × Json))

/-- A bound of the row in memory, once the changes are set on it. -/
def mergedDate (loaded : Option Instant) (change : Option (Option Datetime)) :
    Option Datetime :=
  change.getD (loaded.map .aware)

/-- Whether a bound is dirty: a naive datetime equals no aware one. -/
def dateChanged (loaded : Option Instant) : Option (Option Datetime) → Bool
  | none => false
  | some none => loaded.isSome
  | some (some (.aware instant)) => loaded ≠ some instant
  | some (some (.naive _)) => true

/-- The row in memory, once the changes are set on it. -/
def TournamentUpdate.merged (changes : TournamentUpdate)
    (loaded : Tournament) : Tournament :=
  { loaded with
    name := changes.name.getD loaded.name
    leaderboardId := changes.leaderboardId.getD loaded.leaderboardId
    rankBy := changes.rankBy.getD loaded.rankBy
    startDate :=
      (mergedDate loaded.startDate changes.startDate).map Datetime.stored
    endDate := (mergedDate loaded.endDate changes.endDate).map Datetime.stored
    prizePoolCents := changes.prizePoolCents.getD loaded.prizePoolCents
    hostStreamUrls := changes.hostStreamUrls.getD loaded.hostStreamUrls
    presentation := changes.presentation.getD loaded.presentation }

/-- The row the `UPDATE` of the dirty columns leaves of a stored one. -/
def TournamentUpdate.update (changes : TournamentUpdate)
    (loaded stored : Tournament) : Tournament :=
  let merged := changes.merged loaded
  { stored with
    name := updatedColumn (loaded.name ≠ merged.name) merged.name stored.name
    leaderboardId :=
      updatedColumn (loaded.leaderboardId ≠ merged.leaderboardId)
        merged.leaderboardId stored.leaderboardId
    rankBy := updatedColumn (loaded.rankBy ≠ merged.rankBy) merged.rankBy
      stored.rankBy
    startDate := updatedColumn (dateChanged loaded.startDate changes.startDate)
      merged.startDate stored.startDate
    endDate := updatedColumn (dateChanged loaded.endDate changes.endDate)
      merged.endDate stored.endDate
    prizePoolCents :=
      updatedColumn (loaded.prizePoolCents ≠ merged.prizePoolCents)
        merged.prizePoolCents stored.prizePoolCents
    hostStreamUrls :=
      updatedColumn (loaded.hostStreamUrls ≠ merged.hostStreamUrls)
        merged.hostStreamUrls stored.hostStreamUrls
    presentation :=
      updatedColumn (documentChanged loaded.presentation changes.presentation)
        merged.presentation stored.presentation }

/-- Whether any column is dirty. -/
def TournamentUpdate.dirty (changes : TournamentUpdate)
    (loaded : Tournament) : Bool :=
  let merged := changes.merged loaded
  loaded.name ≠ merged.name || loaded.leaderboardId ≠ merged.leaderboardId ||
    loaded.rankBy ≠ merged.rankBy ||
    dateChanged loaded.startDate changes.startDate ||
    dateChanged loaded.endDate changes.endDate ||
    loaded.prizePoolCents ≠ merged.prizePoolCents ||
    loaded.hostStreamUrls ≠ merged.hostStreamUrls ||
    documentChanged loaded.presentation changes.presentation

/-- `_require_supported_leaderboard`, where the ladder is in the body. -/
def requireSupportedChange (db : Database) (leaderboardId : Option Int) :
    Except Raised Unit :=
  match leaderboardId with
  | none => .ok ()
  | some leaderboardId => requireSupportedLeaderboard db leaderboardId

/-- `_host_stream_live_tournaments`. -/
def hostStreamLiveTournaments (db : Database) : List Int :=
  db.hostLiveStreams.rows.map (·.tournamentId)

/-- `update_tournament` over the row the owner gate loaded.  An `UPDATE` that
matches no row raises. -/
def updateTournament (platform : Platform) (loaded : Tournament)
    (payload : TournamentUpdate) (registry : Registry) :
    Except Raised (Response × Registry) := do
  let db := registry.db
  requireSupportedChange db payload.leaderboardId
  requireOrderedWindow (mergedDate loaded.startDate payload.startDate)
    (mergedDate loaded.endDate payload.endDate)
  let response := jsonResponse 200
    (serializeTournament platform (payload.merged loaded)
      (hostStreamLiveTournaments db)) (by decide)
  if !payload.dirty loaded then .ok (response, registry)
  else
    match db.tournaments.find? loaded.id with
    | none => .error .unhandled
    | some stored =>
        .ok (response, { registry with
          db := { db with
            tournaments :=
              db.tournaments.overwrite (payload.update loaded stored) } })

end LiveStandings
