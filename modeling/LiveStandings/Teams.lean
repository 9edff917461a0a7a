/-
The team routes: teams, their members and their captains.
-/
import LiveStandings.Roster

namespace LiveStandings

open KeyedTable PyJson

/-- `TeamCreate`, validated. -/
structure TeamCreate where
  name : String
  initials : String
  name_length : 1 ≤ name.length ∧ name.length ≤ 200
  initials_length : 1 ≤ initials.length ∧ initials.length ≤ 8

/-- `TeamUpdate`, validated; an absent field is `none`. -/
structure TeamUpdate where
  name : Option String
  initials : Option String
  name_length : ∀ text, name = some text → 1 ≤ text.length ∧ text.length ≤ 200
  initials_length : ∀ text, initials = some text →
    1 ≤ text.length ∧ text.length ≤ 8

/-- `TeamMemberCreate` and `TeamCaptainSet`, validated. -/
structure TeamMemberRef where
  tournamentPlayerId : Int
  positive : 0 < tournamentPlayerId

/-- The team of `get_owned_team`, once the owner gate let the caller
through. -/
def ownedTeam (db : Database) (tournament : Tournament) (teamId : Int) :
    Except Raised Team :=
  match (db.teams.find? teamId).filter (·.tournamentId = tournament.id) with
  | some team => .ok team
  | none => .error (httpException 404 "Team not found" final_404)

/-- The `TeamRead` document. -/
def teamRead (team : Team) : Json :=
  .obj [("id", .int team.id), ("tournament_id", .int team.tournamentId),
    ("name", .str team.name), ("initials", .str team.initials)]

theorem final_200 : 200 ≤ 200 := by decide

/-- `create_team`. -/
def createTeam (tournament : Tournament) (payload : TeamCreate)
    (registry : Registry) : Except Raised (Response × Registry) :=
  let team : Team :=
    { id := registry.lastTeamId + 1, tournamentId := tournament.id,
      name := payload.name, initials := payload.initials }
  .ok (jsonResponse 201 (teamRead team) final_201,
    { registry with
      lastTeamId := team.id
      db := { registry.db with
        teams := registry.db.teams.insertNew team } })

/-- `update_team`. -/
def updateTeam (team : Team) (payload : TeamUpdate) (registry : Registry) :
    Except Raised (Response × Registry) :=
  let edited := { team with
    name := payload.name.getD team.name
    initials := payload.initials.getD team.initials }
  .ok (jsonResponse 200 (teamRead edited) final_200,
    { registry with
      db := { registry.db with
        teams := registry.db.teams.overwrite edited } })

/-- `ON DELETE CASCADE` from a team. -/
def cascadeTeam (db : Database) (id : Int) : Database :=
  { db with
    teams := db.teams.keepWhere (·.id ≠ id)
    teamMembers := db.teamMembers.keepWhere (·.teamId ≠ id) }

/-- `delete_team`. -/
def deleteTeam (team : Team) (registry : Registry) :
    Except Raised (Response × Registry) :=
  .ok (noContent, { registry with db := cascadeTeam registry.db team.id })

/-- `_resolve_roster_row`. -/
def resolveRosterRow (db : Database) (tournamentId tournamentPlayerId : Int) :
    Except Raised TournamentPlayer :=
  match rosterRowById db tournamentId tournamentPlayerId with
  | some entry => .ok entry
  | none => .error
      (httpException 404 "Roster player not found in this tournament" final_404)

/-- `add_team_member`: only the team it is about is searched for the row. -/
def addTeamMember (team : Team) (payload : TeamMemberRef)
    (registry : Registry) : Except Raised (Response × Registry) := do
  let entry ← resolveRosterRow registry.db team.tournamentId
    payload.tournamentPlayerId
  if (registry.db.teamMembers.find? (team.id, entry.id)).isSome then
    .error (httpException 409 "Player already on the team" final_409)
  else
    .ok (noContent, { registry with
      db := { registry.db with
        teamMembers := registry.db.teamMembers.insertNew
          ⟨team.id, entry.id, false⟩ } })

/-- The member row of the member and captain routes. -/
def teamMember (db : Database) (team : Team) (tournamentPlayerId : Int) :
    Except Raised TeamMember :=
  match db.teamMembers.find? (team.id, tournamentPlayerId) with
  | some member => .ok member
  | none => .error
      (httpException 404 "Player not found on this team" final_404)

/-- `remove_team_member`. -/
def removeTeamMember (team : Team) (tournamentPlayerId : Int)
    (registry : Registry) : Except Raised (Response × Registry) := do
  let member ← teamMember registry.db team tournamentPlayerId
  .ok (noContent, { registry with
    db := { registry.db with
      teamMembers := registry.db.teamMembers.keepWhere
        (·.key ≠ member.key) } })

/-- The captain of a team; `scalar_one_or_none` raises on several. -/
def previousCaptain (db : Database) (team : Team) :
    Except Raised (Option Int) :=
  match db.teamMembers.rows.filter fun row =>
      row.teamId = team.id && row.isCaptain with
  | [] => .ok none
  | [captain] => .ok (some captain.tournamentPlayerId)
  | _ => .error .unhandled

/-- `UPDATE team_members SET is_captain = false` of a team's captain. -/
def withoutCaptain (db : Database) (teamId : Int) : Table TeamMember.key :=
  db.teamMembers.mapRows
    (fun row => if row.teamId = teamId && row.isCaptain then
      { row with isCaptain := false } else row)
    fun row => by
      simp only [apply_ite TeamMember.key]
      exact ite_self _

/-- `set_team_captain`: clear, then set. -/
def setTeamCaptain (team : Team) (payload : TeamMemberRef)
    (registry : Registry) : Except Raised (Response × Registry) := do
  let member ← teamMember registry.db team payload.tournamentPlayerId
  if member.isCaptain then .ok (noContent, registry)
  else
    let _ ← previousCaptain registry.db team
    .ok (noContent, { registry with
      db := { registry.db with
        teamMembers := (withoutCaptain registry.db team.id).overwrite
          { member with isCaptain := true } } })

/-- `clear_team_captain`. -/
def clearTeamCaptain (team : Team) (registry : Registry) :
    Except Raised (Response × Registry) := do
  match ← previousCaptain registry.db team with
  | none => .ok (noContent, registry)
  | some _ =>
      .ok (noContent, { registry with
        db := { registry.db with
          teamMembers := withoutCaptain registry.db team.id } })

end LiveStandings
