/-
Tournaments are apart.  All that belongs to a tournament is written through
its owner gate: whatever else the deployment does, it stays as it is until a
request of one of its owners.
-/
import LiveStandings.Deployment
import LiveStandings.Library.Slices

namespace LiveStandings

open KeyedTable Runs Fallible

/-- What belongs to one tournament. -/
structure TournamentData where
  tournament : Option Tournament
  roster : List TournamentPlayer
  owners : List TournamentOwner
  teams : List Team
  members : List TeamMember

/-- The ids of a tournament's teams. -/
def teamIdsOf (db : Database) (id : Int) : List Int :=
  (db.teams.slice (·.tournamentId = id)).map (·.id)

def tournamentData (db : Database) (id : Int) : TournamentData where
  tournament := db.tournaments.find? id
  roster := db.tournamentPlayers.slice (·.tournamentId = id)
  owners := db.tournamentOwners.slice (·.tournamentId = id)
  teams := db.teams.slice (·.tournamentId = id)
  members := db.teamMembers.slice fun row =>
    (teamIdsOf db id).contains row.teamId

/-- The caller of a request has no owner row for the tournament. -/
def Outsider (platform : Platform) (id : Int) (http : Request)
    (registry : Registry) : Prop :=
  ∀ userId, getCurrentUserId platform http registry.toBackend = .ok userId →
    registry.db.tournamentOwners.find? (id, userId) = none

/-- A transaction that is no request of an owner of the tournament. -/
def NotByOwner (platform : Platform) (id : Int) (registry : Registry) :
    Transaction → Prop
  | .request request => Outsider platform id request.http registry
  | _ => True

section Apart

variable {platform : Platform} {http : Request} {registry registry' : Registry}
  {response : Response} {id : Int}

theorem mem_teamIdsOf {db : Database} {teamId : Int} :
    teamId ∈ teamIdsOf db id ↔
      ∃ team ∈ db.teams.rows, team.tournamentId = id ∧ team.id = teamId := by
  simp [teamIdsOf, Table.slice, and_assoc]

theorem Outsider.gate_ne (houtsider : Outsider platform id http registry)
    {slug : String} {tournament : Tournament}
    (hgate : ownerGate platform http registry slug = .ok tournament) :
    tournament.id ≠ id := by
  rintro rfl
  obtain ⟨_, userId, huser, howner⟩ := ownerGate_eq_ok.mp hgate
  rw [houtsider userId huser] at howner
  cases howner

theorem Outsider.team_ne (houtsider : Outsider platform id http registry)
    {slug : String} {teamId : Int} {team : Team}
    (hgate : getOwnedTeam platform http registry slug teamId = .ok team) :
    team.tournamentId ≠ id := by
  obtain ⟨tournament, htournament, hteam⟩ := bind_eq_ok.mp hgate
  rw [(ownedTeam_ok hteam).2.2]
  exact houtsider.gate_ne htournament

theorem not_mem_teamIdsOf {db : Database} {team : Team}
    (hteam : team ∈ db.teams.rows) (hne : team.tournamentId ≠ id) :
    team.id ∉ teamIdsOf db id := by
  intro hmem
  obtain ⟨other, hother, htournament, hid⟩ := mem_teamIdsOf.mp hmem
  rw [db.teams.eq_of_key_eq hother hteam hid] at htournament
  exact hne htournament

theorem Managed.entry_of_member (hmanaged : Managed registry)
    {member : TeamMember} (hmember : member ∈ registry.db.teamMembers.rows)
    (hteam : member.teamId ∈ teamIdsOf registry.db id)
    {entry : TournamentPlayer}
    (hentry : entry ∈ registry.db.tournamentPlayers.rows)
    (hid : entry.id = member.tournamentPlayerId) : entry.tournamentId = id := by
  obtain ⟨team, hstored, rfl, hteamId⟩ := mem_teamIdsOf.mp hteam
  exact hmanaged.member_tournament member hmember team hstored entry hentry
    hteamId.symm hid.symm

theorem tournamentData_members {db : Database} {members : Table TeamMember.key}
    (hmembers : members.slice (fun row =>
        (teamIdsOf db id).contains row.teamId) =
      db.teamMembers.slice fun row => (teamIdsOf db id).contains row.teamId) :
    tournamentData { db with teamMembers := members } id =
      tournamentData db id := by
  simp only [tournamentData]
  exact congrArg (TournamentData.mk _ _ _ _) hmembers

/-- Writes to other teams, and to members of other teams. -/
theorem tournamentData_teams {db : Database} {teams : Table Team.id}
    {members : Table TeamMember.key}
    (hteams : teams.slice (·.tournamentId = id) =
      db.teams.slice (·.tournamentId = id))
    (hmembers : members.slice (fun row =>
        (teamIdsOf db id).contains row.teamId) =
      db.teamMembers.slice fun row => (teamIdsOf db id).contains row.teamId) :
    tournamentData { db with teams := teams, teamMembers := members } id =
      tournamentData db id := by
  have hids : teamIdsOf { db with teams := teams, teamMembers := members } id =
      teamIdsOf db id := by
    rw [teamIdsOf, hteams, teamIdsOf]
  simp only [tournamentData, hids]
  rw [hteams, hmembers]

/-- Writes to other roster rows, and to members that are none of the
tournament's. -/
theorem tournamentData_roster {db : Database}
    {entries : Table TournamentPlayer.id} {members : Table TeamMember.key}
    {liveStreams : Table LiveStream.key}
    (hentries : entries.slice (·.tournamentId = id) =
      db.tournamentPlayers.slice (·.tournamentId = id))
    (hmembers : members.slice (fun row =>
        (teamIdsOf db id).contains row.teamId) =
      db.teamMembers.slice fun row => (teamIdsOf db id).contains row.teamId) :
    tournamentData { db with
        tournamentPlayers := entries
        teamMembers := members
        liveStreams := liveStreams } id = tournamentData db id := by
  simp only [tournamentData]
  rw [hentries]
  exact congrArg (TournamentData.mk _ _ _ _) hmembers

/-- Writes to other tournaments and to their owners. -/
theorem tournamentData_owners {db : Database}
    {tournaments : Table Tournament.id} {owners : Table TournamentOwner.key}
    (htournament : tournaments.find? id = db.tournaments.find? id)
    (howners : owners.slice (·.tournamentId = id) =
      db.tournamentOwners.slice (·.tournamentId = id)) :
    tournamentData { db with
        tournaments := tournaments
        tournamentOwners := owners } id = tournamentData db id := by
  simp only [tournamentData]
  rw [htournament, howners]
  rfl

theorem tournamentData_cascadeTournament (hmanaged : Managed registry)
    {other : Int} (hne : other ≠ id) :
    tournamentData (cascadeTournament registry.db other) id =
      tournamentData registry.db id := by
  have hkeep : ∀ tournamentId : Int, decide (tournamentId = id) = true →
      decide (tournamentId ≠ other) = true := by
    intro tournamentId hid
    simpa [of_decide_eq_true hid] using hne.symm
  have hteams : ((registry.db.teams.keepWhere
      (·.tournamentId ≠ other)).slice (·.tournamentId = id)) =
        registry.db.teams.slice (·.tournamentId = id) :=
    Table.slice_keepWhere _ fun team _ => hkeep team.tournamentId
  have hids : teamIdsOf (cascadeTournament registry.db other) id =
      teamIdsOf registry.db id := congrArg (List.map Team.id) hteams
  -- a member of the tournament is on neither list of what is deleted
  have hmembers : ∀ row ∈ registry.db.teamMembers.rows,
      (teamIdsOf registry.db id).contains row.teamId = true →
        (!((registry.db.teams.rows.filter
            (·.tournamentId = other)).map (·.id)).contains row.teamId &&
          !((registry.db.tournamentPlayers.rows.filter
            (·.tournamentId = other)).map (·.id)).contains
              row.tournamentPlayerId) = true := by
    intro row hrow hteam
    have hmem := List.contains_iff_mem.mp hteam
    simp only [Bool.and_eq_true, Bool.not_eq_true', List.contains_eq_mem,
      decide_eq_false_iff_not, List.mem_map, List.mem_filter,
      decide_eq_true_eq]
    constructor
    · rintro ⟨team, ⟨hstored, htournament⟩, hid⟩
      exact not_mem_teamIdsOf hstored (fun h => hne (htournament.symm.trans h))
        (hid ▸ hmem)
    · rintro ⟨entry, ⟨hstored, htournament⟩, hid⟩
      exact hne (htournament.symm.trans
        (hmanaged.entry_of_member hrow hmem hstored hid))
  simp only [tournamentData, hids]
  congr 1
  · refine Table.find?_keepWhere _ fun t _ hid => ?_
    simpa [hid] using hne.symm
  · exact Table.slice_keepWhere _ fun entry _ => hkeep entry.tournamentId
  · exact Table.slice_keepWhere _ fun owner _ => hkeep owner.tournamentId
  · exact Table.slice_keepWhere _ hmembers

theorem tournamentData_createTournamentRow {userId : String}
    {payload : TournamentCreate} (hid : id ≤ registry.lastTournamentId)
    (hok : createTournamentRow platform userId payload registry =
      .ok (response, registry')) :
    tournamentData registry'.db id = tournamentData registry.db id := by
  obtain ⟨_, _, rfl⟩ := createTournamentRow_ok hok
  have hne : registry.lastTournamentId + 1 ≠ id := by omega
  apply tournamentData_owners
  · rw [Table.find?_insertNew]
    exact if_neg hne
  · exact Table.slice_insertNew _ (by simpa using hne)

theorem tournamentData_updateTournament {tournament : Tournament}
    {payload : TournamentUpdate} (hne : tournament.id ≠ id)
    (hok : updateTournament platform tournament payload registry =
      .ok (response, registry')) :
    tournamentData registry'.db id = tournamentData registry.db id := by
  obtain ⟨_, _, rfl | ⟨stored, hstored, rfl⟩⟩ := updateTournament_ok hok
  · rfl
  · apply tournamentData_owners
    · have hid : stored.id = tournament.id := Table.key_of_find? _ hstored
      rw [Table.find?_overwrite]
      exact if_neg (hid ▸ hne)
    · rfl

theorem tournamentData_grantTournamentOwner {tournament : Tournament}
    {payload : TournamentOwnerCreate} (hne : tournament.id ≠ id)
    (hok : grantTournamentOwner tournament payload registry =
      .ok (response, registry')) :
    tournamentData registry'.db id = tournamentData registry.db id := by
  obtain ⟨_, _, rfl⟩ := grantTournamentOwner_ok hok
  exact tournamentData_owners rfl
    (Table.slice_insertNew _ (by simpa using hne))

theorem tournamentData_revokeTournamentOwner {tournament : Tournament}
    {userId : String} (hne : tournament.id ≠ id)
    (hok : revokeTournamentOwner tournament userId registry =
      .ok (response, registry')) :
    tournamentData registry'.db id = tournamentData registry.db id := by
  obtain ⟨_, _, rfl⟩ := revokeTournamentOwner_ok hok
  refine tournamentData_owners rfl (Table.slice_keepWhere _ fun row _ hid => ?_)
  have hrow : row.tournamentId = id := of_decide_eq_true hid
  simp [TournamentOwner.key, hrow, hne.symm]

theorem tournamentData_insertRosterRow {tournament : Tournament}
    {payload : RosterPlayerCreate} (hne : tournament.id ≠ id)
    (hok : insertRosterRow registry tournament.id payload = .ok registry') :
    tournamentData registry'.db id = tournamentData registry.db id := by
  obtain ⟨_, _, rfl⟩ := insertRosterRow_ok hok
  exact tournamentData_roster
    (Table.slice_insertNew _ (decide_eq_false hne)) rfl

theorem tournamentData_updateRosterPlayer {tournament : Tournament}
    {entryId : Int} {payload : RosterPlayerUpdate} (hne : tournament.id ≠ id)
    (hok : updateRosterPlayer tournament entryId payload registry =
      .ok (response, registry')) :
    tournamentData registry'.db id = tournamentData registry.db id := by
  obtain ⟨_, entry, profileId, hfind, _, rfl⟩ := updateRosterPlayer_ok hok
  obtain ⟨hentry, _, htournament⟩ := rosterRowById_eq_some hfind
  have hout : entry.tournamentId ≠ id := htournament ▸ hne
  refine tournamentData_roster (Table.slice_overwrite _ ?_ ?_) rfl
  · exact decide_eq_false hout
  · intro old hold hid
    rw [registry.db.tournamentPlayers.eq_of_key_eq hold hentry hid]
    simpa using hout

theorem tournamentData_removeRosterPlayer (hmanaged : Managed registry)
    {tournament : Tournament} {entryId : Int} (hne : tournament.id ≠ id)
    (hok : removeRosterPlayer tournament entryId registry =
      .ok (response, registry')) :
    tournamentData registry'.db id = tournamentData registry.db id := by
  rw [removeRosterPlayer] at hok
  split at hok
  · cases hok
  · next entry hfind =>
      cases hok
      obtain ⟨hentry, _, htournament⟩ := rosterRowById_eq_some hfind
      have hout : entry.tournamentId ≠ id := htournament ▸ hne
      refine tournamentData_roster (Table.slice_keepWhere _ ?_)
        (Table.slice_keepWhere _ ?_)
      · intro row hrow hid
        have hsame : row.tournamentId = id := of_decide_eq_true hid
        refine decide_eq_true fun heq => hout ?_
        rw [← registry.db.tournamentPlayers.eq_of_key_eq hrow hentry heq]
        exact hsame
      · intro row hrow hteam
        refine decide_eq_true fun heq => hout ?_
        exact hmanaged.entry_of_member hrow (List.contains_iff_mem.mp hteam)
          hentry heq.symm

theorem outside_of_team {db : Database} {team : Team}
    (hteam : team ∈ db.teams.rows) (hne : team.tournamentId ≠ id)
    {member : TeamMember} (hmember : member.teamId = team.id) :
    (teamIdsOf db id).contains member.teamId = false := by
  rw [hmember, List.contains_eq_mem, decide_eq_false_iff_not]
  exact not_mem_teamIdsOf hteam hne

variable {team : Team} (hteam : team ∈ registry.db.teams.rows)
  (hne : team.tournamentId ≠ id)

include hteam hne

theorem tournamentData_updateTeam {payload : TeamUpdate}
    (hok : updateTeam team payload registry = .ok (response, registry')) :
    tournamentData registry'.db id = tournamentData registry.db id := by
  cases hok
  refine tournamentData_teams (Table.slice_overwrite _ ?_ ?_) rfl
  · simpa using hne
  · intro old hold hid
    rw [registry.db.teams.eq_of_key_eq hold hteam hid]
    simpa using hne

theorem tournamentData_deleteTeam
    (hok : deleteTeam team registry = .ok (response, registry')) :
    tournamentData registry'.db id = tournamentData registry.db id := by
  cases hok
  refine tournamentData_teams (Table.slice_keepWhere _ ?_)
    (Table.slice_keepWhere _ ?_)
  · intro other hother hid
    have hsame : other.tournamentId = id := of_decide_eq_true hid
    refine decide_eq_true fun heq => hne ?_
    rw [← registry.db.teams.eq_of_key_eq hother hteam heq]
    exact hsame
  · intro row _ hin
    refine decide_eq_true fun heq => ?_
    rw [outside_of_team hteam hne heq] at hin
    cases hin

theorem tournamentData_addTeamMember {payload : TeamMemberRef}
    (hok : addTeamMember team payload registry = .ok (response, registry')) :
    tournamentData registry'.db id = tournamentData registry.db id := by
  obtain ⟨_, entry, _, _, rfl⟩ := addTeamMember_ok hok
  exact tournamentData_members
    (Table.slice_insertNew _ (outside_of_team hteam hne rfl))

theorem tournamentData_removeTeamMember {entryId : Int}
    (hok : removeTeamMember team entryId registry =
      .ok (response, registry')) :
    tournamentData registry'.db id = tournamentData registry.db id := by
  unfold removeTeamMember at hok
  obtain ⟨member, hmember, hok⟩ := bind_eq_ok.mp hok
  cases hok
  refine tournamentData_members (Table.slice_keepWhere _ fun row _ hin => ?_)
  refine decide_eq_true fun heq => ?_
  have hsame : row.teamId = team.id :=
    (congrArg Prod.fst heq).trans (teamMember_ok hmember).2.1
  rw [outside_of_team hteam hne hsame] at hin
  cases hin

theorem slice_withoutCaptain :
    (withoutCaptain registry.db team.id).slice (fun row =>
        (teamIdsOf registry.db id).contains row.teamId) =
      registry.db.teamMembers.slice fun row =>
        (teamIdsOf registry.db id).contains row.teamId := by
  apply Table.slice_mapRows
  · intro row
    split <;> rfl
  · intro row _ hin
    apply if_neg
    intro hcaptain
    have hsame : row.teamId = team.id := by
      simp only [Bool.and_eq_true, decide_eq_true_eq] at hcaptain
      exact hcaptain.1
    rw [outside_of_team hteam hne hsame] at hin
    cases hin

theorem tournamentData_setTeamCaptain {payload : TeamMemberRef}
    (hok : setTeamCaptain team payload registry = .ok (response, registry')) :
    tournamentData registry'.db id = tournamentData registry.db id := by
  obtain ⟨_, member, hmember, ⟨_, rfl⟩ | rfl⟩ := setTeamCaptain_ok hok
  · rfl
  · have hmemberTeam := (teamMember_ok hmember).2.1
    refine tournamentData_members ?_
    rw [Table.slice_overwrite, slice_withoutCaptain hteam hne]
    · exact outside_of_team hteam hne hmemberTeam
    · intro old _ hkey
      exact outside_of_team hteam hne
        ((congrArg Prod.fst hkey).trans hmemberTeam)

theorem tournamentData_clearTeamCaptain
    (hok : clearTeamCaptain team registry = .ok (response, registry')) :
    tournamentData registry'.db id = tournamentData registry.db id := by
  obtain ⟨_, rfl | rfl⟩ := clearTeamCaptain_ok hok
  · rfl
  · exact tournamentData_members (slice_withoutCaptain hteam hne)

end Apart

section Steps

variable {codec : Codec} {platform : Platform} {http : Request}
  {registry registry' : Registry} {id : Int}

theorem routed_data {G P : Type} {gate : Except Raised G} {scope : String}
    {bound : Nat} {payload : Except BodyError P}
    {handler : G → P → Registry → Except Raised (Response × Registry)}
    (hmanaged : Managed registry)
    (hhandler : ∀ gated valid hits response registry', gate = .ok gated →
      Managed { registry with hits := hits } →
        handler gated valid { registry with hits := hits } =
          .ok (response, registry') →
        tournamentData registry'.db id =
          tournamentData ({ registry with hits := hits } : Registry).db id) :
    tournamentData (routed (admitted gate scope bound payload http registry)
        handler registry).2.db id = tournamentData registry.db id := by
  refine routed_invariant
    (fun after => tournamentData after.db id = tournamentData registry.db id)
    rfl (fun _ => rfl) ?_
  intro gated valid hits response registry' hadmitted hok
  exact hhandler gated valid hits response registry' (admitted_ok hadmitted).1
    (hmanaged.congr (sameManagement_hits registry hits)) hok

theorem ManagementCall.answer_outside (hmanaged : Managed registry)
    (hid : id ≤ registry.lastTournamentId)
    (houtsider : Outsider platform id http registry) (call : ManagementCall) :
    tournamentData (call.answer platform http registry).2.db id =
      tournamentData registry.db id := by
  cases call with
  | createTournament payload =>
      refine routed_data hmanaged fun _ _ _ _ _ _ _ hok => ?_
      exact tournamentData_createTournamentRow hid hok
  | updateTournament slug payload =>
      exact routed_data hmanaged fun _ _ _ _ _ hgate _ hok =>
        tournamentData_updateTournament (houtsider.gate_ne hgate) hok
  | deleteTournament slug =>
      refine routed_data hmanaged fun _ _ _ _ _ hgate hcounted hok => ?_
      cases hok
      exact tournamentData_cascadeTournament hcounted (houtsider.gate_ne hgate)
  | grantTournamentOwner slug payload =>
      exact routed_data hmanaged fun _ _ _ _ _ hgate _ hok =>
        tournamentData_grantTournamentOwner (houtsider.gate_ne hgate) hok
  | revokeTournamentOwner slug userId =>
      exact routed_data hmanaged fun _ _ _ _ _ hgate _ hok =>
        tournamentData_revokeTournamentOwner (houtsider.gate_ne hgate) hok
  | addRosterPlayer slug payload =>
      exact routed_data hmanaged fun _ _ _ _ _ hgate _ hok =>
        tournamentData_insertRosterRow (houtsider.gate_ne hgate)
          (addRosterPlayer_ok hok).2
  | removeRosterPlayer slug entryId =>
      exact routed_data hmanaged fun _ _ _ _ _ hgate hcounted hok =>
        tournamentData_removeRosterPlayer hcounted (houtsider.gate_ne hgate) hok
  | updateRosterPlayer slug entryId payload =>
      exact routed_data hmanaged fun _ _ _ _ _ hgate _ hok =>
        tournamentData_updateRosterPlayer (houtsider.gate_ne hgate) hok
  | createTeam slug payload =>
      refine routed_data hmanaged fun _ _ _ _ _ hgate _ hok => ?_
      cases hok
      exact tournamentData_teams
        (Table.slice_insertNew _ (decide_eq_false (houtsider.gate_ne hgate)))
        rfl
  | updateTeam slug teamId payload =>
      exact routed_data hmanaged fun _ _ _ _ _ hgate _ hok =>
        tournamentData_updateTeam (getOwnedTeam_ok hgate).1
          (houtsider.team_ne hgate) hok
  | deleteTeam slug teamId =>
      exact routed_data hmanaged fun _ _ _ _ _ hgate _ hok =>
        tournamentData_deleteTeam (getOwnedTeam_ok hgate).1
          (houtsider.team_ne hgate) hok
  | addTeamMember slug teamId payload =>
      exact routed_data hmanaged fun _ _ _ _ _ hgate _ hok =>
        tournamentData_addTeamMember (getOwnedTeam_ok hgate).1
          (houtsider.team_ne hgate) hok
  | removeTeamMember slug teamId entryId =>
      exact routed_data hmanaged fun _ _ _ _ _ hgate _ hok =>
        tournamentData_removeTeamMember (getOwnedTeam_ok hgate).1
          (houtsider.team_ne hgate) hok
  | setTeamCaptain slug teamId payload =>
      exact routed_data hmanaged fun _ _ _ _ _ hgate _ hok =>
        tournamentData_setTeamCaptain (getOwnedTeam_ok hgate).1
          (houtsider.team_ne hgate) hok
  | clearTeamCaptain slug teamId =>
      exact routed_data hmanaged fun _ _ _ _ _ hgate _ hok =>
        tournamentData_clearTeamCaptain (getOwnedTeam_ok hgate).1
          (houtsider.team_ne hgate) hok

theorem OutsideTick.tournamentData {before after : Database}
    (hsame : OutsideTick before after) :
    tournamentData after id = tournamentData before id := by
  simp only [LiveStandings.tournamentData, teamIdsOf, hsame.tournaments,
    hsame.roster, hsame.owners, hsame.teams, hsame.members]

/-- Every transaction that is no request of an owner leaves the tournament as
it is. -/
theorem Transaction.commit_outside (hmanaged : Managed registry)
    (hid : id ≤ registry.lastTournamentId) {transaction : Transaction}
    (hguard : NotByOwner platform id registry transaction) :
    tournamentData (transaction.commit codec platform registry).db id =
      tournamentData registry.db id := by
  cases transaction with
  | request request =>
      exact request.call.answer_outside hmanaged hid hguard
  | tick mapping tick =>
      exact (outsideTick_commit codec mapping tick registry.db).tournamentData
  | liveSets call =>
      rw [Transaction.commit]
      rcases liveSets_cases call registry.db with hkept | ⟨_, hwritten⟩
      · rw [hkept]
      · rw [hwritten]
        rfl
  | leaderboards now payload =>
      obtain ⟨_, _, hdb⟩ := loadLeaderboards_cases now payload registry.db
      rw [Transaction.commit, hdb]
      rfl
  | creators allowlist => rfl
  | elapse now hits => rfl

end Steps

/-- From any state of a deployment, a tournament stays exactly as it is, row
for row, through every run in which no request is made by one of its
owners. -/
theorem outsiders_change_nothing (codec : Codec) (platform : Platform)
    {fresh start registry : Registry} {earlier transactions : List Transaction}
    {id : Int} (hempty : fresh.db = .empty)
    (hreach : Run (DeploymentStep codec platform) fresh earlier start)
    (hexists : (start.db.tournaments.find? id).isSome = true)
    (hrun : Run (Guarded (NotByOwner platform id)
      (DeploymentStep codec platform)) start transactions registry) :
    tournamentData registry.db id = tournamentData start.db id := by
  have hinv : Sound registry ∧
      tournamentData registry.db id = tournamentData start.db id := by
    refine hrun.invariant (fun reached => Sound reached ∧
      tournamentData reached.db id = tournamentData start.db id)
      ⟨sound_of_run hempty hreach, rfl⟩ ?_
    rintro reached transaction next ⟨hsound, hsame⟩ ⟨hguard, hstep⟩
    -- the tournament is still there, so its id is not the next of the sequence
    have hfind : reached.db.tournaments.find? id =
        start.db.tournaments.find? id :=
      congrArg TournamentData.tournament hsame
    have hstored : (reached.db.tournaments.find? id).isSome = true := by
      rw [hfind]
      exact hexists
    obtain ⟨t, ht, rfl⟩ := find?_isSome_iff.mp hstored
    cases hstep with
    | commit =>
        exact ⟨hsound.commit transaction,
          (Transaction.commit_outside hsound.managed
            (hsound.managed.tournament_id t ht) hguard).trans hsame⟩
  exact hinv.2

namespace TenantWitness

open ManagementWitness ManagementRunWitness DeploymentWitness

/-- A token is taken for the id of its user. -/
def everyone : Platform := { platform with
  jwtDecode := fun _ token _ => .ok (some token) }

/-- A request of a user. -/
def requestOf (userId : String) (call : ManagementCall) : ManagementRequest :=
  ⟨createRequest (some userId), call⟩

/-- A tournament with one owner. -/
def owned : List Transaction :=
  [.creators (Table.empty.insertNew ⟨"owner", 0⟩), .leaderboards 0 ladders,
    .request (requestOf "owner" (.createTournament (.ok springCup)))]

def start : Registry :=
  afterTransactions BatchWitness.codec everyone owned fresh

/-- A stranger asks for its deletion. -/
def attempt : Transaction :=
  .request (requestOf "stranger" (.deleteTournament "spring-cup"))

theorem attempt_outside : NotByOwner everyone 1 start attempt := by
  intro userId huser
  have hid : userId = "stranger" := by
    have hcaller : getCurrentUserId everyone (createRequest (some "stranger"))
        start.toBackend = .ok "stranger" := rfl
    exact Except.ok.inj (huser.symm.trans hcaller)
  rw [hid]
  decide

end TenantWitness

open TenantWitness DeploymentWitness in
/-- The tournament is there, and is as it was after the stranger's request. -/
theorem outsiders_change_nothing_attempt :
    (start.db.tournaments.find? 1).isSome = true ∧
      tournamentData
          (attempt.commit BatchWitness.codec everyone start).db 1 =
        tournamentData start.db 1 :=
  ⟨by decide,
    outsiders_change_nothing BatchWitness.codec everyone rfl
      (run_afterTransactions _ _ owned fresh) (by decide)
      (Run.single ⟨attempt_outside, .commit start attempt⟩)⟩

end LiveStandings
