/-
The owner routes: granting and revoking ownership of a tournament.
-/
import LiveStandings.Roster

namespace LiveStandings

open KeyedTable PyJson

/-- `TournamentOwnerCreate`, validated: a UUID in either letter case. -/
structure TournamentOwnerCreate where
  userId : String
  pattern : uuidPattern userId = true

/-- `grant_tournament_owner`, once the owner gate let it through. -/
def grantTournamentOwner (tournament : Tournament)
    (payload : TournamentOwnerCreate) (registry : Registry) :
    Except Raised (Response × Registry) :=
  let db := registry.db
  if (db.tournamentOwners.find? (tournament.id, payload.userId)).isSome then
    .error (httpException 409 "User is already an owner" final_409)
  else
    .ok (noContent, { registry with
      db := { db with
        tournamentOwners := db.tournamentOwners.insertNew
          ⟨tournament.id, payload.userId, registry.now⟩ } })

/-- The number of owner rows of a tournament. -/
def ownerCount (db : Database) (tournamentId : Int) : Nat :=
  db.tournamentOwners.rows.countP (·.tournamentId = tournamentId)

/-- `revoke_tournament_owner`: the `DELETE` fires where more than one owner
row remains. -/
def revokeTournamentOwner (tournament : Tournament) (userId : String)
    (registry : Registry) : Except Raised (Response × Registry) :=
  let db := registry.db
  if (db.tournamentOwners.find? (tournament.id, userId)).isNone then
    .error (httpException 404 "User is not an owner" final_404)
  else if 1 < ownerCount db tournament.id then
    .ok (noContent, { registry with
      db := { db with
        tournamentOwners := db.tournamentOwners.keepWhere
          (·.key ≠ (tournament.id, userId)) } })
  else
    .error (httpException 422
      "Cannot revoke the last owner — the tournament would become uneditable"
      final_422)

end LiveStandings
