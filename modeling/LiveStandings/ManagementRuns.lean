/-
Runs of complete management requests.  What the handlers keep is kept by the
routes around them, by every step, and so in every reachable state; and a
request that is refused writes nothing.
-/
import LiveStandings.TeamInvariants

namespace LiveStandings

open KeyedTable PyJson Runs Fallible

section Routed

variable {G P : Type} {gate : Except Raised G} {scope : String} {bound : Nat}
  {payload : Except BodyError P} {http : Request} {registry : Registry}
  {handler : G → P → Registry → Except Raised (Response × Registry)}

theorem limited_ok {backend counted : Backend}
    (hok : limited scope bound http backend = .ok counted) :
    ∃ hits, counted = { backend with hits := hits } := by
  unfold limited at hok
  split at hok
  · cases hok
    exact ⟨_, rfl⟩
  · cases hok

/-- A handler is called with what the gate resolved and a valid payload. -/
theorem admitted_ok {gated : G} {valid : P} {counted : Registry}
    (hok : admitted gate scope bound payload http registry =
      .ok (gated, valid, counted)) :
    gate = .ok gated ∧ payload = .ok valid ∧
      ∃ hits, counted = { registry with hits := hits } := by
  unfold admitted at hok
  simp only at hok
  split at hok
  · cases hok
  · split at hok
    · cases hok
    · split at hok
      · cases hok
      · cases hok
      · split at hok
        · cases hok
        · next hcounted =>
            obtain ⟨hits, rfl⟩ := limited_ok hcounted
            cases hok
            exact ⟨rfl, rfl, hits, rfl⟩

theorem sameManagement_hits (registry : Registry)
    (hits : List (String × String)) :
    SameManagement registry { registry with hits := hits } :=
  ⟨rfl, rfl, rfl, rfl, rfl, rfl, rfl, rfl⟩

theorem routed_invariant (inv : Registry → Prop) (hstart : inv registry)
    (hcounted : ∀ hits, inv { registry with hits := hits })
    (hhandler : ∀ gated valid hits response registry',
      admitted gate scope bound payload http registry =
          .ok (gated, valid, { registry with hits := hits }) →
        handler gated valid { registry with hits := hits } =
          .ok (response, registry') → inv registry') :
    inv (routed (admitted gate scope bound payload http registry) handler
      registry).2 := by
  unfold routed
  split
  · exact hstart
  · next gated valid counted hadmitted =>
      obtain ⟨_, _, hits, rfl⟩ := admitted_ok hadmitted
      split
      · exact hcounted hits
      · next response committed hok =>
          exact hhandler gated valid hits response committed hadmitted hok

theorem routed_keeps (hmanaged : Managed registry)
    (hhandler : ∀ gated valid hits response registry', gate = .ok gated →
      Managed { registry with hits := hits } →
        handler gated valid { registry with hits := hits } =
          .ok (response, registry') →
        Keeps { registry with hits := hits } registry') :
    Keeps registry
      (routed (admitted gate scope bound payload http registry) handler
        registry).2 := by
  have hcounted := fun hits =>
    hmanaged.congr (sameManagement_hits registry hits)
  apply routed_invariant (Keeps registry)
  · exact ⟨hmanaged, .of_eq rfl⟩
  · exact fun hits => ⟨hcounted hits, .of_eq rfl⟩
  · intro gated valid hits response committed hadmitted hok
    have hkeeps := hhandler gated valid hits response committed
      (admitted_ok hadmitted).1 (hcounted hits) hok
    exact ⟨hkeeps.managed, hkeeps.links⟩

theorem routed_refused
    (hhandler : ∀ gated valid hits response registry',
      handler gated valid { registry with hits := hits } =
        .ok (response, registry') → response.status < 400)
    (hrefused : 400 ≤ statusOf (routed
      (admitted gate scope bound payload http registry) handler registry).1) :
    (routed (admitted gate scope bound payload http registry) handler
      registry).2.db = registry.db := by
  unfold routed at hrefused ⊢
  split
  · rfl
  · next gated valid counted hadmitted =>
      obtain ⟨_, _, hits, rfl⟩ := admitted_ok hadmitted
      rw [hadmitted] at hrefused
      split
      · rfl
      · next response committed hok =>
          simp only [hok] at hrefused
          exact absurd (hhandler gated valid hits response committed hok)
            (Nat.not_lt.mpr hrefused)

/-- Every error a computation raises is answered with 400 or above. -/
def Refuses {A : Type} (result : Except Raised A) : Prop :=
  ∀ raised, result = .error raised →
    400 ≤ statusOf (httpExceptionHandler raised)

/-- A request answered below 400 got through its gate and its handler. -/
theorem routed_succeeded (hgate : Refuses gate)
    (hhandler : ∀ gated valid registry, Refuses (handler gated valid registry))
    (hok : statusOf (routed (admitted gate scope bound payload http registry)
      handler registry).1 < 400) :
    ∃ gated valid hits response,
      admitted gate scope bound payload http registry =
          .ok (gated, valid, { registry with hits := hits }) ∧
        handler gated valid { registry with hits := hits } =
          .ok (response, (routed (admitted gate scope bound payload http
            registry) handler registry).2) := by
  have hinvalid : ∀ errors, ¬ statusOf (.ok (jsonResponse 422
      (.obj [("detail", errors)]) final_422)) < 400 :=
    fun errors => Nat.not_lt.mpr (show 400 ≤ 422 by decide)
  cases hadmitted : admitted gate scope bound payload http registry with
  | error answer =>
      -- no answer given in a handler's stead is below 400
      rw [hadmitted] at hok
      unfold admitted at hadmitted
      simp only at hadmitted
      split at hadmitted
      · cases hadmitted
        exact absurd hok (hinvalid _)
      · split at hadmitted
        · next raised =>
            cases hadmitted
            exact absurd hok (Nat.not_lt.mpr (hgate raised rfl))
        · split at hadmitted
          · cases hadmitted
            exact absurd hok (hinvalid _)
          · cases hadmitted
            exact absurd hok (hinvalid _)
          · split at hadmitted
            · next response hlimited =>
                cases hadmitted
                rw [limited] at hlimited
                split at hlimited
                · cases hlimited
                · cases hlimited
                  exact absurd hok (Nat.not_lt.mpr (show 400 ≤ 429 by decide))
            · cases hadmitted
  | ok gated =>
      obtain ⟨gated, valid, counted⟩ := gated
      obtain ⟨_, _, hits, rfl⟩ := admitted_ok hadmitted
      rw [hadmitted] at hok
      cases hresult : handler gated valid { registry with hits := hits } with
      | error raised =>
          simp only [routed, hresult] at hok
          exact absurd hok (Nat.not_lt.mpr (hhandler _ _ _ raised hresult))
      | ok result =>
          refine ⟨gated, valid, hits, result.1, rfl, ?_⟩
          simp only [routed, hresult]

end Routed

section Requests

variable {platform : Platform} {http : Request} {registry : Registry}

theorem getOwnedTeam_ok {slug : String} {teamId : Int} {team : Team}
    (hok : getOwnedTeam platform http registry slug teamId = .ok team) :
    team ∈ registry.db.teams.rows ∧ team.id = teamId := by
  obtain ⟨tournament, _, hteam⟩ := bind_eq_ok.mp hok
  obtain ⟨hmem, hid, _⟩ := ownedTeam_ok hteam
  exact ⟨hmem, hid⟩

theorem ManagementCall.answer_keeps (hmanaged : Managed registry)
    (call : ManagementCall) :
    Keeps registry (call.answer platform http registry).2 := by
  cases call with
  | createTournament payload =>
      exact routed_keeps hmanaged fun _ _ _ _ _ _ hcounted hok =>
        createTournamentRow_keeps hcounted hok
  | updateTournament slug payload =>
      exact routed_keeps hmanaged fun _ _ _ _ _ _ hcounted hok =>
        updateTournament_keeps hcounted hok
  | deleteTournament slug =>
      exact routed_keeps hmanaged fun _ _ _ _ _ _ hcounted hok =>
        deleteTournamentRow_keeps hcounted hok
  | grantTournamentOwner slug payload =>
      exact routed_keeps hmanaged fun _ _ _ _ _ _ hcounted hok =>
        grantTournamentOwner_keeps hcounted hok
  | revokeTournamentOwner slug userId =>
      exact routed_keeps hmanaged fun _ _ _ _ _ _ hcounted hok =>
        revokeTournamentOwner_keeps hcounted hok
  | addRosterPlayer slug payload =>
      exact routed_keeps hmanaged fun _ _ _ _ _ _ hcounted hok =>
        insertRosterRow_keeps hcounted (addRosterPlayer_ok hok).2
  | removeRosterPlayer slug id =>
      exact routed_keeps hmanaged fun _ _ _ _ _ _ hcounted hok =>
        removeRosterPlayer_keeps hcounted hok
  | updateRosterPlayer slug id payload =>
      exact routed_keeps hmanaged fun _ _ _ _ _ _ hcounted hok =>
        updateRosterPlayer_keeps hcounted hok
  | createTeam slug payload =>
      exact routed_keeps hmanaged fun _ _ _ _ _ _ hcounted hok =>
        createTeam_keeps hcounted hok
  | updateTeam slug teamId payload =>
      exact routed_keeps hmanaged fun _ _ _ _ _ hgate hcounted hok =>
        updateTeam_keeps hcounted (getOwnedTeam_ok hgate).1 hok
  | deleteTeam slug teamId =>
      exact routed_keeps hmanaged fun _ _ _ _ _ _ hcounted hok =>
        deleteTeam_keeps hcounted hok
  | addTeamMember slug teamId payload =>
      exact routed_keeps hmanaged fun _ _ _ _ _ hgate hcounted hok =>
        addTeamMember_keeps hcounted (getOwnedTeam_ok hgate).1 hok
  | removeTeamMember slug teamId id =>
      exact routed_keeps hmanaged fun _ _ _ _ _ _ hcounted hok =>
        removeTeamMember_keeps hcounted hok
  | setTeamCaptain slug teamId payload =>
      exact routed_keeps hmanaged fun _ _ _ _ _ _ hcounted hok =>
        setTeamCaptain_keeps hcounted hok
  | clearTeamCaptain slug teamId =>
      exact routed_keeps hmanaged fun _ _ _ _ _ _ hcounted hok =>
        clearTeamCaptain_keeps hcounted hok

/-- Whether a request is one to add a member to a team. -/
def ManagementCall.addsMember : ManagementCall → Bool
  | addTeamMember .. => true
  | _ => false

/-- Whether a request makes owner rows. -/
def ManagementCall.addsOwner : ManagementCall → Bool
  | createTournament .. => true
  | grantTournamentOwner .. => true
  | _ => false

/-- Whether a request writes tournament rows. -/
def ManagementCall.writesTournament : ManagementCall → Bool
  | createTournament .. => true
  | updateTournament .. => true
  | _ => false

/-- What a request that is not about them leaves of memberships, owners and
tournaments: at most what was there. -/
structure ManagementCall.Frame (call : ManagementCall)
    (before after : Database) : Prop where
  members : call.addsMember = false → KeepsMembers before after
  owners : call.addsOwner = false → ∀ row ∈ after.tournamentOwners.rows,
    row ∈ before.tournamentOwners.rows
  tournaments : call.writesTournament = false →
    ∀ t ∈ after.tournaments.rows, t ∈ before.tournaments.rows

theorem ManagementCall.Frame.refl (call : ManagementCall) (db : Database) :
    call.Frame db db :=
  ⟨fun _ => .refl db, fun _ _ hrow => hrow, fun _ _ ht => ht⟩

theorem routed_frame {G P : Type} {gate : Except Raised G} {scope : String}
    {bound : Nat} {payload : Except BodyError P}
    {handler : G → P → Registry → Except Raised (Response × Registry)}
    {call : ManagementCall}
    (hhandler : ∀ gated valid hits response registry',
      handler gated valid { registry with hits := hits } =
        .ok (response, registry') → call.Frame registry.db registry'.db) :
    call.Frame registry.db
      (routed (admitted gate scope bound payload http registry) handler
        registry).2.db :=
  routed_invariant (fun after => call.Frame registry.db after.db)
    (.refl call registry.db) (fun _ => .refl call registry.db)
    fun gated valid hits response registry' _ hok =>
      hhandler gated valid hits response registry' hok

theorem ManagementCall.answer_frame (call : ManagementCall) :
    call.Frame registry.db (call.answer platform http registry).2.db := by
  cases call with
  | createTournament payload =>
      refine routed_frame fun _ _ _ _ _ hok => ?_
      obtain ⟨_, _, rfl⟩ := createTournamentRow_ok hok
      exact ⟨fun _ => .refl _, nofun, nofun⟩
  | updateTournament slug payload =>
      refine routed_frame fun _ _ _ _ _ hok => ?_
      obtain ⟨_, _, rfl | ⟨_, _, rfl⟩⟩ := updateTournament_ok hok
      · exact .refl _ _
      · exact ⟨fun _ => .refl _, fun _ _ hrow => hrow, nofun⟩
  | deleteTournament slug =>
      refine routed_frame fun _ _ _ _ _ hok => ?_
      cases hok
      exact ⟨fun _ => .of_subset fun _ hrow => List.mem_of_mem_filter hrow,
        fun _ _ hrow => List.mem_of_mem_filter hrow,
        fun _ _ ht => List.mem_of_mem_filter ht⟩
  | grantTournamentOwner slug payload =>
      refine routed_frame fun _ _ _ _ _ hok => ?_
      obtain ⟨_, _, rfl⟩ := grantTournamentOwner_ok hok
      exact ⟨fun _ => .refl _, nofun, fun _ _ ht => ht⟩
  | revokeTournamentOwner slug userId =>
      refine routed_frame fun _ _ _ _ _ hok => ?_
      obtain ⟨_, _, rfl⟩ := revokeTournamentOwner_ok hok
      exact ⟨fun _ => .refl _, fun _ _ hrow => List.mem_of_mem_filter hrow,
        fun _ _ ht => ht⟩
  | addRosterPlayer slug payload =>
      refine routed_frame fun _ _ _ _ _ hok => ?_
      obtain ⟨_, _, rfl⟩ := insertRosterRow_ok (addRosterPlayer_ok hok).2
      exact ⟨fun _ => .refl _, fun _ _ hrow => hrow, fun _ _ ht => ht⟩
  | removeRosterPlayer slug id =>
      refine routed_frame fun _ _ _ _ _ hok => ?_
      obtain ⟨_, rfl⟩ := removeRosterPlayer_ok hok
      exact ⟨fun _ => .of_subset fun _ hrow => List.mem_of_mem_filter hrow,
        fun _ _ hrow => hrow, fun _ _ ht => ht⟩
  | updateRosterPlayer slug id payload =>
      refine routed_frame fun _ _ _ _ _ hok => ?_
      obtain ⟨_, _, _, _, _, rfl⟩ := updateRosterPlayer_ok hok
      exact ⟨fun _ => .refl _, fun _ _ hrow => hrow, fun _ _ ht => ht⟩
  | createTeam slug payload =>
      refine routed_frame fun _ _ _ _ _ hok => ?_
      cases hok
      exact ⟨fun _ => .refl _, fun _ _ hrow => hrow, fun _ _ ht => ht⟩
  | updateTeam slug teamId payload =>
      refine routed_frame fun _ _ _ _ _ hok => ?_
      cases hok
      exact ⟨fun _ => .refl _, fun _ _ hrow => hrow, fun _ _ ht => ht⟩
  | deleteTeam slug teamId =>
      refine routed_frame fun _ _ _ _ _ hok => ?_
      cases hok
      exact ⟨fun _ => .of_subset fun _ hrow => List.mem_of_mem_filter hrow,
        fun _ _ hrow => hrow, fun _ _ ht => ht⟩
  | addTeamMember slug teamId payload =>
      refine routed_frame fun _ _ _ _ _ hok => ?_
      obtain ⟨_, _, _, _, rfl⟩ := addTeamMember_ok hok
      exact ⟨nofun, fun _ _ hrow => hrow, fun _ _ ht => ht⟩
  | removeTeamMember slug teamId id =>
      refine routed_frame fun _ _ _ _ _ hok => ?_
      obtain ⟨_, _, hok⟩ := bind_eq_ok.mp hok
      cases hok
      exact ⟨fun _ => .of_subset fun _ hrow => List.mem_of_mem_filter hrow,
        fun _ _ hrow => hrow, fun _ _ ht => ht⟩
  | setTeamCaptain slug teamId payload =>
      refine routed_frame fun _ _ _ _ _ hok => ?_
      have hkeeps := setTeamCaptain_keepsMembers hok
      obtain ⟨_, _, _, ⟨_, rfl⟩ | rfl⟩ := setTeamCaptain_ok hok
      · exact .refl _ _
      · exact ⟨fun _ => hkeeps, fun _ _ hrow => hrow, fun _ _ ht => ht⟩
  | clearTeamCaptain slug teamId =>
      refine routed_frame fun _ _ _ _ _ hok => ?_
      have hkeeps := clearTeamCaptain_keepsMembers hok
      obtain ⟨_, rfl | rfl⟩ := clearTeamCaptain_ok hok
      · exact .refl _ _
      · exact ⟨fun _ => hkeeps, fun _ _ hrow => hrow, fun _ _ ht => ht⟩

theorem ManagementCall.answer_refused (call : ManagementCall)
    (hrefused : 400 ≤ statusOf (call.answer platform http registry).1) :
    (call.answer platform http registry).2.db = registry.db := by
  cases call with
  | createTournament payload =>
      refine routed_refused (fun _ _ _ _ _ hok => ?_) hrefused
      rw [(createTournamentRow_ok hok).1]
      decide
  | updateTournament slug payload =>
      refine routed_refused (fun _ _ _ _ _ hok => ?_) hrefused
      rw [(updateTournament_ok hok).1]
      decide
  | deleteTournament slug =>
      refine routed_refused (fun _ _ _ _ _ hok => ?_) hrefused
      cases hok
      change 204 < 400
      decide
  | grantTournamentOwner slug payload =>
      refine routed_refused (fun _ _ _ _ _ hok => ?_) hrefused
      rw [(grantTournamentOwner_ok hok).1]
      decide
  | revokeTournamentOwner slug userId =>
      refine routed_refused (fun _ _ _ _ _ hok => ?_) hrefused
      rw [(revokeTournamentOwner_ok hok).1]
      decide
  | addRosterPlayer slug payload =>
      refine routed_refused (fun _ _ _ _ _ hok => ?_) hrefused
      rw [(addRosterPlayer_ok hok).1]
      decide
  | removeRosterPlayer slug id =>
      refine routed_refused (fun _ _ _ _ _ hok => ?_) hrefused
      rw [(removeRosterPlayer_ok hok).1]
      decide
  | updateRosterPlayer slug id payload =>
      refine routed_refused (fun _ _ _ _ _ hok => ?_) hrefused
      rw [(updateRosterPlayer_ok hok).1]
      decide
  | createTeam slug payload =>
      refine routed_refused (fun _ _ _ _ _ hok => ?_) hrefused
      cases hok
      change 201 < 400
      decide
  | updateTeam slug teamId payload =>
      refine routed_refused (fun _ _ _ _ _ hok => ?_) hrefused
      cases hok
      change 200 < 400
      decide
  | deleteTeam slug teamId =>
      refine routed_refused (fun _ _ _ _ _ hok => ?_) hrefused
      cases hok
      change 204 < 400
      decide
  | addTeamMember slug teamId payload =>
      refine routed_refused (fun _ _ _ _ _ hok => ?_) hrefused
      rw [(addTeamMember_ok hok).1]
      decide
  | removeTeamMember slug teamId id =>
      refine routed_refused (fun _ _ _ _ _ hok => ?_) hrefused
      obtain ⟨_, _, hok⟩ := bind_eq_ok.mp hok
      cases hok
      change 204 < 400
      decide
  | setTeamCaptain slug teamId payload =>
      refine routed_refused (fun _ _ _ _ _ hok => ?_) hrefused
      rw [(setTeamCaptain_ok hok).1]
      decide
  | clearTeamCaptain slug teamId =>
      refine routed_refused (fun _ _ _ _ _ hok => ?_) hrefused
      rw [(clearTeamCaptain_ok hok).1]
      decide

theorem Refuses.bind {A B : Type} {first : Except Raised A}
    {next : A → Except Raised B} (hfirst : Refuses first)
    (hnext : ∀ value, Refuses (next value)) : Refuses (first >>= next) := by
  intro raised herror
  cases hresult : first with
  | error early =>
      rw [hresult] at herror
      cases herror
      exact hfirst raised hresult
  | ok value =>
      rw [hresult] at herror
      exact hnext value raised herror

theorem Refuses.ok {A : Type} (value : A) :
    Refuses (.ok value : Except Raised A) := by
  intro raised herror
  cases herror

theorem Refuses.error {A : Type} {statusCode : Nat} (detail : Json)
    (final : 200 ≤ statusCode) (hstatus : 400 ≤ statusCode) :
    Refuses (.error (.http statusCode detail final) : Except Raised A) := by
  intro raised herror
  cases herror
  exact hstatus

theorem ownerGate_refuses (slug : String) :
    Refuses (ownerGate platform http registry slug) := by
  apply Refuses.bind
  · rw [getCurrentUserId]
    split
    · exact .error _ _ (by decide)
    · simp only
      split
      · exact .error _ _ (by decide)
      · split
        · exact .error _ _ (by decide)
        · exact .ok _
  · intro userId
    split
    · exact .error _ _ (by decide)
    · split
      · exact .ok _
      · exact .error _ _ (by decide)

theorem getOwnedTeam_refuses (slug : String) (teamId : Int) :
    Refuses (getOwnedTeam platform http registry slug teamId) := by
  refine (ownerGate_refuses slug).bind fun tournament => ?_
  rw [ownedTeam]
  split
  · exact .ok _
  · exact .error _ _ (by decide)

theorem setTeamCaptain_refuses (team : Team) (payload : TeamMemberRef)
    (registry : Registry) :
    Refuses (setTeamCaptain team payload registry) := by
  apply Refuses.bind
  · rw [teamMember]
    split
    · exact .ok _
    · exact .error _ _ (by decide)
  · intro member
    split
    · exact .ok _
    · refine Refuses.bind ?_ fun _ => .ok _
      rw [previousCaptain]
      split
      · exact .ok _
      · exact .ok _
      · intro raised herror
        cases herror
        exact show 400 ≤ 500 by decide

/-- A successful `set_team_captain` leaves the requested member as the team's
captain. -/
theorem answer_setTeamCaptain (hmanaged : Managed registry) {slug : String}
    {teamId : Int} {payload : TeamMemberRef}
    (hok : statusOf ((ManagementCall.setTeamCaptain slug teamId
      (.ok payload)).answer platform http registry).1 < 400) :
    IsCaptain ((ManagementCall.setTeamCaptain slug teamId
      (.ok payload)).answer platform http registry).2.db teamId
        payload.tournamentPlayerId := by
  obtain ⟨team, valid, hits, response, hadmitted, hhandler⟩ :=
    routed_succeeded (getOwnedTeam_refuses slug teamId)
      setTeamCaptain_refuses hok
  obtain ⟨hgate, hvalid, _⟩ := admitted_ok hadmitted
  cases hvalid
  obtain ⟨_, rfl⟩ := getOwnedTeam_ok hgate
  exact setTeamCaptain_captain
    (hmanaged.congr (sameManagement_hits registry hits)) hhandler

end Requests

/-- No tournament, and so nothing that belongs to one. -/
structure NoTournaments (db : Database) : Prop where
  tournaments : db.tournaments.rows = []
  roster : db.tournamentPlayers.rows = []
  owners : db.tournamentOwners.rows = []
  teams : db.teams.rows = []
  members : db.teamMembers.rows = []

theorem NoTournaments.managed {registry : Registry}
    (hempty : NoTournaments registry.db) : Managed registry := by
  constructor
  · simp [hempty.tournaments]
  · simp [hempty.roster]
  · simp [hempty.teams]
  · simp [hempty.members]
  · simp [hempty.members]
  · simp [hempty.members]
  · simp [hempty.members]
  · simp [UniqueNames, hempty.roster]
  · simp [UniqueProfiles, hempty.roster]
  · simp [hempty.tournaments]

theorem ManagementStep.managed {platform : Platform}
    {registry registry' : Registry} {act : ManagementAct}
    (hmanaged : Managed registry)
    (hstep : ManagementStep platform registry act registry') :
    Managed registry' := by
  cases hstep with
  | request request => exact (request.call.answer_keeps hmanaged).managed
  | elapse _ hsame => exact hmanaged.congr hsame

theorem managed_of_run {platform : Platform} {start registry : Registry}
    {acts : List ManagementAct} (hempty : NoTournaments start.db)
    (hrun : Run (ManagementStep platform) start acts registry) :
    Managed registry :=
  hrun.invariant Managed hempty.managed fun _ _ _ hmanaged hstep =>
    hstep.managed hmanaged

/-- What one more request does to a state: links stay, a refusal writes
nothing, and a captain that was set is the captain. -/
structure CompleteRequest (platform : Platform) (registry : Registry)
    (request : ManagementRequest) : Prop where
  links : LinksKept registry.db
    (request.call.answer platform request.http registry).2.db
  refused : 400 ≤
      statusOf (request.call.answer platform request.http registry).1 →
    (request.call.answer platform request.http registry).2.db = registry.db
  captain : ∀ slug teamId payload,
    request.call = .setTeamCaptain slug teamId (.ok payload) →
      statusOf (request.call.answer platform request.http registry).1 < 400 →
        IsCaptain (request.call.answer platform request.http registry).2.db
          teamId payload.tournamentPlayerId

/-- In every state that requests lead to from no tournaments, the management
invariants hold and every further request respects them. -/
theorem management_invariants (platform : Platform)
    {start registry : Registry} {acts : List ManagementAct}
    (hempty : NoTournaments start.db)
    (hrun : Run (ManagementStep platform) start acts registry) :
    Managed registry ∧ ∀ request, CompleteRequest platform registry request := by
  have hmanaged := managed_of_run hempty hrun
  refine ⟨hmanaged, fun request => ?_⟩
  constructor
  · exact (request.call.answer_keeps hmanaged).links
  · exact request.call.answer_refused
  · intro slug teamId payload hcall hok
    rw [hcall] at hok ⊢
    exact answer_setTeamCaptain hmanaged hok

namespace ManagementRunWitness

open ManagementWitness

/-- An empty deployment whose test user may create tournaments. -/
def registry : Registry where
  toBackend := backend
  lastTournamentPlayerId := 0
  lastTeamId := 0

/-- A request of the test user. -/
def request (call : ManagementCall) : ManagementRequest :=
  ⟨createRequest (some "access-token"), call⟩

def teamA : TeamCreate where
  name := "Team A"
  initials := "A"
  name_length := by decide
  initials_length := by decide

def alice : RosterPlayerCreate where
  name := "Alice"
  profileId := none
  presentation := []
  name_length := by decide
  profile_positive := by simp

/-- The first entry of a roster. -/
def firstEntry : TeamMemberRef := ⟨1, by decide⟩

/-- A tournament with one entry, who becomes the captain of its team. -/
def requests : List ManagementRequest :=
  [request (.createTournament (.ok springCup)),
    request (.addRosterPlayer "spring-cup" (.ok alice)),
    request (.createTeam "spring-cup" (.ok teamA)),
    request (.addTeamMember "spring-cup" 1 (.ok firstEntry)),
    request (.setTeamCaptain "spring-cup" 1 (.ok firstEntry))]

/-- The state after some requests, one after the other. -/
def after (requests : List ManagementRequest) : Registry :=
  requests.foldl (fun registry request =>
    (request.call.answer platform request.http registry).2) registry

theorem noTournaments : NoTournaments registry.db :=
  ⟨rfl, rfl, rfl, rfl, rfl⟩

theorem step_after (requests : List ManagementRequest)
    (request : ManagementRequest) :
    ManagementStep platform (after requests) (.request request)
      (after (requests ++ [request])) := by
  have hafter : after (requests ++ [request]) =
      (request.call.answer platform request.http (after requests)).2 :=
    List.foldl_concat ..
  rw [hafter]
  exact .request _ request

theorem run_after (guard : Registry → ManagementAct → Prop)
    (requests : List ManagementRequest)
    (hguard : ∀ earlier request, earlier ++ [request] <+: requests →
      guard (after earlier) (.request request)) :
    Run (Guarded guard (ManagementStep platform)) registry
      (requests.map .request) (after requests) :=
  Run.foldl _ _ requests fun earlier request hearlier =>
    ⟨hguard earlier request hearlier, .request _ request⟩

end ManagementRunWitness

open ManagementWitness ManagementRunWitness in
/-- After these requests the entry leads the team, the invariants hold and
further requests respect them. -/
theorem management_invariants_requests :
    (after requests).db.teamMembers.rows = [⟨1, 1, true⟩] ∧
      Managed (after requests) ∧
      ∀ request, CompleteRequest platform (after requests) request :=
  ⟨by decide, management_invariants platform noTournaments
    (run_after (fun _ _ => True) requests fun _ _ _ => trivial).unguarded⟩

end LiveStandings
