/-
The roster routes: adding, removing and editing an entry.  The count check,
the clash checks and the insert are separate statements, each a definition of
its own here, so that requests which overlap can interleave them.
-/
import LiveStandings.Management
import LiveStandings.Upserts

namespace LiveStandings

open KeyedTable PyJson

/-- The management state: the backend with its other two id sequences. -/
structure Registry extends Backend where
  /-- The `tournament_players.id` sequence. -/
  lastTournamentPlayerId : Int
  /-- The `teams.id` sequence. -/
  lastTeamId : Int

/-- `RosterPlayerCreate`, validated. -/
structure RosterPlayerCreate where
  name : String
  profileId : Option Int
  presentation : List (String × Json)
  name_length : 1 ≤ name.length ∧ name.length ≤ 64
  profile_positive : ∀ id, profileId = some id → 0 < id

/-- `RosterPlayerUpdate`, validated. -/
structure RosterPlayerUpdate where
  presentation : Option (List (String × Json))
  profileId : Option Int
  profile_positive : ∀ id, profileId = some id → 0 < id

/-- `_MAX_ROSTER_ROWS_PER_TOURNAMENT`. -/
def maxRosterRowsPerTournament : Nat := 100

/-- The number of entries on the roster. -/
def rosterCount (db : Database) (tournamentId : Int) : Nat :=
  db.tournamentPlayers.rows.countP (·.tournamentId = tournamentId)

/-- Whether the roster has an entry linked to the profile. -/
def profileTaken (db : Database) (tournamentId profileId : Int) : Bool :=
  db.tournamentPlayers.rows.any fun entry =>
    entry.tournamentId = tournamentId && entry.profileId = some profileId

/-- Whether the roster has an entry of that name. -/
def nameTaken (db : Database) (tournamentId : Int) (name : String) : Bool :=
  db.tournamentPlayers.rows.any fun entry =>
    entry.tournamentId = tournamentId && entry.name = name

/-- The count check of `add_roster_player`. -/
def requireRosterRoom (db : Database) (tournamentId : Int) :
    Except Raised Unit :=
  if maxRosterRowsPerTournament ≤ rosterCount db tournamentId then
    .error (httpException 422
      ("Roster is at the " ++ toString maxRosterRowsPerTournament ++
        "-row ceiling — contact the platform operator if this tournament " ++
        "genuinely needs more") final_422)
  else .ok ()

/-- The driver encodes the id for its `INTEGER` column. -/
def profileEncodes (profileId : Option Int) : Bool := profileId.all inInt32

/-- The driver encodes the text: PostgreSQL stores no NUL. -/
def textEncodes (text : String) : Bool := !text.toList.contains '\x00'

/-- The profile check of `add_roster_player`; its `SELECT` binds the id. -/
def requireFreeProfile (db : Database) (tournamentId : Int)
    (profileId : Option Int) : Except Raised Unit :=
  if !profileEncodes profileId then .error .unhandled
  else if profileId.any (profileTaken db tournamentId) then
    .error (httpException 409 "Player already on the roster" final_409)
  else .ok ()

/-- The name check of `add_roster_player`; its `SELECT` binds the name. -/
def requireFreeName (db : Database) (tournamentId : Int) (name : String) :
    Except Raised Unit :=
  if !textEncodes name then .error .unhandled
  else if nameTaken db tournamentId name then
    .error (httpException 409 "Name already on the roster" final_409)
  else .ok ()

/-- The row `add_roster_player` adds. -/
def rosterEntryOf (payload : RosterPlayerCreate) (id tournamentId : Int) :
    TournamentPlayer where
  id := id
  tournamentId := tournamentId
  profileId := payload.profileId
  name := payload.name
  presentation := payload.presentation

/-- What the driver encodes of a new row. -/
def RosterPlayerCreate.encodes (payload : RosterPlayerCreate) : Bool :=
  profileEncodes payload.profileId && textEncodes payload.name

/-- `INSERT INTO tournament_players`: the two unique constraints of the table
and its foreign key decide over what the driver encodes. -/
def insertRosterRow (registry : Registry) (tournamentId : Int)
    (payload : RosterPlayerCreate) : Except PyError Registry :=
  let db := registry.db
  if !payload.encodes then .error .dataError
  else if (db.tournaments.find? tournamentId).isNone ||
      payload.profileId.any (profileTaken db tournamentId) ||
      nameTaken db tournamentId payload.name then
    .error .integrityError
  else
    let id := registry.lastTournamentPlayerId + 1
    .ok { registry with
      lastTournamentPlayerId := id
      db := { db with
        tournamentPlayers := db.tournamentPlayers.insertNew
          (rosterEntryOf payload id tournamentId) } }

/-- `add_roster_player`, once the owner gate let it through. -/
def addRosterPlayer (tournament : Tournament) (payload : RosterPlayerCreate)
    (registry : Registry) : Except Raised (Response × Registry) := do
  requireRosterRoom registry.db tournament.id
  requireFreeProfile registry.db tournament.id payload.profileId
  requireFreeName registry.db tournament.id payload.name
  match insertRosterRow registry tournament.id payload with
  | .error _ => .error .unhandled
  | .ok registry => .ok (noContent, registry)

/-- `_roster_row_by_id`. -/
def rosterRowById (db : Database) (tournamentId tournamentPlayerId : Int) :
    Option TournamentPlayer :=
  (db.tournamentPlayers.find? tournamentPlayerId).filter
    (·.tournamentId = tournamentId)

/-- `ON DELETE CASCADE` from a roster row. -/
def cascadeRosterRow (db : Database) (id : Int) : Database :=
  { db with
    tournamentPlayers := db.tournamentPlayers.keepWhere (·.id ≠ id)
    teamMembers := db.teamMembers.keepWhere (·.tournamentPlayerId ≠ id)
    liveStreams := db.liveStreams.keepWhere (·.tournamentPlayerId ≠ id) }

/-- `remove_roster_player`, once the owner gate let it through. -/
def removeRosterPlayer (tournament : Tournament) (tournamentPlayerId : Int)
    (registry : Registry) : Except Raised (Response × Registry) :=
  match rosterRowById registry.db tournament.id tournamentPlayerId with
  | none => .error
      (httpException 404 "Player not found in this tournament" final_404)
  | some entry => .ok (noContent,
      { registry with db := cascadeRosterRow registry.db entry.id })

/-- The link `update_roster_player` leaves an entry with. -/
def linkedProfile (db : Database) (tournamentId : Int)
    (entry : TournamentPlayer) (profileId : Option Int) :
    Except Raised (Option Int) :=
  match profileId with
  | none => .ok entry.profileId
  | some profileId =>
      if entry.profileId.isSome then
        .error (httpException 422 "profile_id is immutable once linked"
          final_422)
      else if !inInt32 profileId then .error .unhandled
      else if profileTaken db tournamentId profileId then
        .error (httpException 409
          ("Player " ++ toString profileId ++ " already on the roster")
          final_409)
      else .ok (some profileId)

/-- Whether a JSON column is dirty: the ORM compares what is set on it with
`==`. -/
def documentChanged (loaded : List (String × Json)) :
    Option (List (String × Json)) → Bool
  | none => false
  | some asked => !(Json.obj loaded).pyEq (.obj asked)

/-- What the `UPDATE` leaves in a column that held `stored`: the value in
memory where the attribute is dirty. -/
def updatedColumn {A : Type} (dirty : Bool) (inMemory stored : A) : A :=
  if dirty then inMemory else stored

/-- The row the `UPDATE` of the dirty columns leaves of an entry. -/
def RosterPlayerUpdate.edited (payload : RosterPlayerUpdate)
    (entry : TournamentPlayer) (profileId : Option Int) : TournamentPlayer :=
  { entry with
    profileId := profileId
    presentation := updatedColumn
      (documentChanged entry.presentation payload.presentation)
      (payload.presentation.getD entry.presentation) entry.presentation }

/-- `update_roster_player`, once the owner gate let it through. -/
def updateRosterPlayer (tournament : Tournament) (tournamentPlayerId : Int)
    (payload : RosterPlayerUpdate) (registry : Registry) :
    Except Raised (Response × Registry) :=
  match rosterRowById registry.db tournament.id tournamentPlayerId with
  | none => .error
      (httpException 404 "Player not found in this tournament" final_404)
  | some entry => do
      let profileId ← linkedProfile registry.db tournament.id entry
        payload.profileId
      .ok (noContent, { registry with
        db := { registry.db with
          tournamentPlayers := registry.db.tournamentPlayers.overwrite
            (payload.edited entry profileId) } })

end LiveStandings
