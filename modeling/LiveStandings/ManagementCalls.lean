/-
The management API as one machine: every write route behind its gate, its
payload check and its limit, and the runs of complete requests.
-/
import LiveStandings.Library.Runs
import LiveStandings.Owners
import LiveStandings.Teams
import LiveStandings.TournamentEdits

namespace LiveStandings

open KeyedTable PyJson Runs

universe u

/-- A write request, its path and body read.  A body that is not JSON or not
a valid payload is a `BodyError`. -/
inductive ManagementCall where
  | createTournament (payload : Except BodyError TournamentCreate)
  | updateTournament (slug : String)
      (payload : Except BodyError TournamentUpdate)
  | deleteTournament (slug : String)
  | grantTournamentOwner (slug : String)
      (payload : Except BodyError TournamentOwnerCreate)
  | revokeTournamentOwner (slug userId : String)
  | addRosterPlayer (slug : String)
      (payload : Except BodyError RosterPlayerCreate)
  | removeRosterPlayer (slug : String) (tournamentPlayerId : Int)
  | updateRosterPlayer (slug : String) (tournamentPlayerId : Int)
      (payload : Except BodyError RosterPlayerUpdate)
  | createTeam (slug : String) (payload : Except BodyError TeamCreate)
  | updateTeam (slug : String) (teamId : Int)
      (payload : Except BodyError TeamUpdate)
  | deleteTeam (slug : String) (teamId : Int)
  | addTeamMember (slug : String) (teamId : Int)
      (payload : Except BodyError TeamMemberRef)
  | removeTeamMember (slug : String) (teamId tournamentPlayerId : Int)
  | setTeamCaptain (slug : String) (teamId : Int)
      (payload : Except BodyError TeamMemberRef)
  | clearTeamCaptain (slug : String) (teamId : Int)

/-- A request with its cookie and its client. -/
structure ManagementRequest where
  http : Request
  call : ManagementCall

/-- What a handler is called with, or the answer given in its stead: the body
is decoded, the gate decides, the payload is validated, the request is
counted. -/
def admitted {G P : Type} (gate : Except Raised G) (scope : String)
    (bound : Nat) (payload : Except BodyError P) (http : Request)
    (registry : Registry) :
    Except (Except Unhandled Response) (G × P × Registry) :=
  let invalid (errors : Json) : Except Unhandled Response :=
    .ok (jsonResponse 422 (.obj [("detail", errors)]) final_422)
  match payload with
  | .error (.notJson errors) => .error (invalid errors)
  | parsed =>
      match gate with
      | .error raised => .error (httpExceptionHandler raised)
      | .ok gated =>
          match parsed with
          | .error (.notJson errors) => .error (invalid errors)
          | .error (.invalid errors) => .error (invalid errors)
          | .ok payload =>
              match limited scope bound http registry.toBackend with
              | .error response => .error (.ok response)
              | .ok counted =>
                  .ok (gated, payload, { registry with toBackend := counted })

/-- The answer of a route, and the state it leaves. -/
def routed {G P : Type}
    (admission : Except (Except Unhandled Response) (G × P × Registry))
    (handler : G → P → Registry → Except Raised (Response × Registry))
    (registry : Registry) : Except Unhandled Response × Registry :=
  match admission with
  | .error answer => (answer, registry)
  | .ok (gated, payload, counted) =>
      match handler gated payload counted with
      | .error raised => (httpExceptionHandler raised, counted)
      | .ok (response, committed) => (.ok response, committed)

/-- `create_tournament` over the whole management state. -/
def createTournamentRow (platform : Platform) (userId : String)
    (payload : TournamentCreate) (registry : Registry) :
    Except Raised (Response × Registry) :=
  (createTournament platform userId payload registry.toBackend).map
    fun (response, backend) => (response, { registry with toBackend := backend })

/-- `delete_tournament` over the whole management state. -/
def deleteTournamentRow (tournament : Tournament) (registry : Registry) :
    Except Raised (Response × Registry) :=
  let (response, backend) := deleteTournament tournament registry.toBackend
  .ok (response, { registry with toBackend := backend })

section Routes

variable (platform : Platform) (http : Request) (registry : Registry)

/-- `require_tournament_owner`. -/
def ownerGate (slug : String) : Except Raised Tournament :=
  requireTournamentOwner platform slug http registry.toBackend

/-- `get_owned_team`. -/
def getOwnedTeam (slug : String) (teamId : Int) : Except Raised Team := do
  let tournament ← ownerGate platform http registry slug
  ownedTeam registry.db tournament teamId

/-- The admission of an owner-gated route. -/
def ownerRoute {P : Type} (slug scope : String) (bound : Nat)
    (payload : Except BodyError P) :
    Except (Except Unhandled Response) (Tournament × P × Registry) :=
  admitted (ownerGate platform http registry slug) scope bound payload http
    registry

/-- The admission of a route about one team. -/
def teamRoute {P : Type} (slug : String) (teamId : Int) (scope : String)
    (bound : Nat) (payload : Except BodyError P) :
    Except (Except Unhandled Response) (Team × P × Registry) :=
  admitted (getOwnedTeam platform http registry slug teamId) scope bound
    payload http registry

/-- The route a request takes. -/
def ManagementCall.answer :
    ManagementCall → Except Unhandled Response × Registry
  | createTournament payload =>
      routed (admitted (getCurrentUserId platform http registry.toBackend)
          "create_tournament" 5 payload http registry)
        (createTournamentRow platform) registry
  | updateTournament slug payload =>
      routed (ownerRoute platform http registry slug "update_tournament" 20
        payload) (LiveStandings.updateTournament platform) registry
  | deleteTournament slug =>
      routed (ownerRoute platform http registry slug "delete_tournament" 3
        (.ok ())) (fun tournament _ => deleteTournamentRow tournament) registry
  | grantTournamentOwner slug payload =>
      routed (ownerRoute platform http registry slug "grant_tournament_owner" 5
        payload) LiveStandings.grantTournamentOwner registry
  | revokeTournamentOwner slug userId =>
      routed (ownerRoute platform http registry slug "revoke_tournament_owner"
          5 (.ok ()))
        (fun tournament _ =>
          LiveStandings.revokeTournamentOwner tournament userId) registry
  | addRosterPlayer slug payload =>
      routed (ownerRoute platform http registry slug "add_roster_player" 20
        payload) LiveStandings.addRosterPlayer registry
  | removeRosterPlayer slug tournamentPlayerId =>
      routed (ownerRoute platform http registry slug "remove_roster_player" 20
          (.ok ()))
        (fun tournament _ =>
          LiveStandings.removeRosterPlayer tournament tournamentPlayerId)
        registry
  | updateRosterPlayer slug tournamentPlayerId payload =>
      routed (ownerRoute platform http registry slug "update_roster_player" 20
          payload)
        (fun tournament =>
          LiveStandings.updateRosterPlayer tournament tournamentPlayerId)
        registry
  | createTeam slug payload =>
      routed (ownerRoute platform http registry slug "create_team" 10 payload)
        LiveStandings.createTeam registry
  | updateTeam slug teamId payload =>
      routed (teamRoute platform http registry slug teamId "update_team" 20
        payload) LiveStandings.updateTeam registry
  | deleteTeam slug teamId =>
      routed (teamRoute platform http registry slug teamId "delete_team" 10
        (.ok ())) (fun team _ => LiveStandings.deleteTeam team) registry
  | addTeamMember slug teamId payload =>
      routed (teamRoute platform http registry slug teamId "add_team_member" 20
        payload) LiveStandings.addTeamMember registry
  | removeTeamMember slug teamId tournamentPlayerId =>
      routed (teamRoute platform http registry slug teamId
          "remove_team_member" 20 (.ok ()))
        (fun team _ => LiveStandings.removeTeamMember team tournamentPlayerId)
        registry
  | setTeamCaptain slug teamId payload =>
      routed (teamRoute platform http registry slug teamId "set_team_captain"
        20 payload) LiveStandings.setTeamCaptain registry
  | clearTeamCaptain slug teamId =>
      routed (teamRoute platform http registry slug teamId
          "clear_team_captain" 20 (.ok ()))
        (fun team _ => LiveStandings.clearTeamCaptain team) registry

/-- An answer of the stack below the middleware, over the whole state. -/
def Registry.answered (answer : Except Unhandled Response × Backend) :
    Except Unhandled Response × Registry :=
  (answer.1, { registry with toBackend := answer.2 })

/-- The creation the stack of `managementApp` has is the one of the machine. -/
theorem answer_createTournament :
    (ManagementCall.createTournament (platform.parseCreate http.body)).answer
        platform http registry =
      registry.answered (postTournaments platform http registry.toBackend) := by
  simp only [ManagementCall.answer, routed, admitted, postTournaments,
    createTournamentRow]
  cases platform.parseCreate http.body with
  | error invalid =>
      cases invalid with
      | notJson errors => rfl
      | invalid errors =>
          cases getCurrentUserId platform http registry.toBackend <;> rfl
  | ok payload =>
      cases getCurrentUserId platform http registry.toBackend with
      | error raised => rfl
      | ok userId =>
          simp only
          cases limited "create_tournament" 5 http registry.toBackend with
          | error response => rfl
          | ok counted =>
              simp only
              cases createTournament platform userId payload counted <;> rfl

theorem answer_deleteTournament (slug : String) :
    (ManagementCall.deleteTournament slug).answer platform http registry =
      registry.answered
        (deleteTournaments platform slug http registry.toBackend) := by
  simp only [ManagementCall.answer, routed, ownerRoute, admitted, ownerGate,
    deleteTournaments, deleteTournamentRow]
  cases requireTournamentOwner platform slug http registry.toBackend with
  | error raised => rfl
  | ok tournament =>
      simp only
      cases limited "delete_tournament" 3 http registry.toBackend <;> rfl

end Routes

/-- What happens between requests: time passes, pollers write, the operator
approves creators.  The management tables and sequences stay. -/
structure SameManagement (registry registry' : Registry) : Prop where
  tournaments : registry'.db.tournaments = registry.db.tournaments
  roster : registry'.db.tournamentPlayers = registry.db.tournamentPlayers
  owners : registry'.db.tournamentOwners = registry.db.tournamentOwners
  teams : registry'.db.teams = registry.db.teams
  members : registry'.db.teamMembers = registry.db.teamMembers
  lastTournamentId : registry'.lastTournamentId = registry.lastTournamentId
  lastTournamentPlayerId :
    registry'.lastTournamentPlayerId = registry.lastTournamentPlayerId
  lastTeamId : registry'.lastTeamId = registry.lastTeamId

/-- A complete request, or what happens between two. -/
inductive ManagementAct where
  | request (request : ManagementRequest)
  | elapse

/-- The steps of the management API. -/
inductive ManagementStep (platform : Platform) :
    Registry → ManagementAct → Registry → Prop where
  | request (registry : Registry) (request : ManagementRequest) :
      ManagementStep platform registry (.request request)
        (request.call.answer platform request.http registry).2
  | elapse (registry registry' : Registry)
      (hsame : SameManagement registry registry') :
      ManagementStep platform registry .elapse registry'

end LiveStandings
