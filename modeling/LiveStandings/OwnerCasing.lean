/-
Ownership by UUID.  A grant takes a user id in either letter case, but the
gate, the duplicate check and the last-owner guard compare spellings; they
agree as long as every stored id is the one a token carries.
-/
import LiveStandings.ManagementRuns

namespace LiveStandings

open KeyedTable PyJson Runs Fallible

/-- `user_id.lower()`: one spelling for each UUID. -/
def canonicalUserId (userId : String) : String :=
  String.ofList (userId.toList.map Char.toLower)

/-- A user id as access tokens carry it: a lower-case UUID. -/
structure Canonical (userId : String) : Prop where
  pattern : uuidPattern userId = true
  lower : canonicalUserId userId = userId

/-- Two spellings of one UUID. -/
def SameUser (left right : String) : Prop :=
  canonicalUserId left = canonicalUserId right

/-- Access tokens carry the canonical UUID as their `sub`. -/
def CanonicalTokens (platform : Platform) : Prop :=
  ∀ refreshed token backend userId,
    platform.jwtDecode refreshed token backend = .ok (some userId) →
      Canonical userId

/-- Every user can sign in. -/
def EveryoneSignsIn (platform : Platform) : Prop :=
  ∀ backend userId, uuidPattern userId = true →
    ∃ http, getCurrentUserId platform http backend =
      .ok (canonicalUserId userId)

section Requests

variable (platform : Platform) (registry : Registry)
  (request : ManagementRequest)

/-- Ownership by UUID, for one request: who is granted ownership is let
through, whoever has it is a duplicate in any spelling, and every tournament
is left with an owner that can sign in. -/
structure OwnedByUuid : Prop where
  granted : ∀ slug payload,
    request.call = .grantTournamentOwner slug (.ok payload) →
      statusOf (request.call.answer platform request.http registry).1 < 400 →
        ∀ http, getCurrentUserId platform http (request.call.answer platform
            request.http registry).2.toBackend =
              .ok (canonicalUserId payload.userId) →
          ∃ tournament, ownerGate platform http (request.call.answer platform
            request.http registry).2 slug = .ok tournament
  again : ∀ slug payload tournament counted,
    request.call = .grantTournamentOwner slug (.ok payload) →
      ownerRoute platform request.http registry slug "grant_tournament_owner"
          5 (.ok payload) = .ok (tournament, payload, counted) →
        (∃ owner ∈ registry.db.tournamentOwners.rows,
          owner.tournamentId = tournament.id ∧
            SameUser owner.userId payload.userId) →
          statusOf (request.call.answer platform request.http registry).1 = 409
  matched : ∀ t ∈ (request.call.answer platform request.http
      registry).2.db.tournaments.rows,
    ∃ owner ∈ (request.call.answer platform request.http
        registry).2.db.tournamentOwners.rows,
      owner.tournamentId = t.id ∧ Canonical owner.userId

/-- A grant that reaches its handler is of a lower-case id. -/
def LowerCaseGrant : ManagementAct → Prop
  | .request ⟨http, .grantTournamentOwner slug payload⟩ =>
      ∀ tournament valid counted,
        ownerRoute platform http registry slug "grant_tournament_owner" 5
            payload = .ok (tournament, valid, counted) →
          canonicalUserId valid.userId = valid.userId
  | _ => True

end Requests

/-- Every stored owner id is one that a token carries. -/
def CanonicalOwners (db : Database) : Prop :=
  ∀ owner ∈ db.tournamentOwners.rows, Canonical owner.userId

section Steps

variable {platform : Platform} {http : Request} {registry : Registry}

theorem getCurrentUserId_canonical {backend : Backend} {userId : String}
    (htokens : CanonicalTokens platform)
    (hok : getCurrentUserId platform http backend = .ok userId) :
    Canonical userId := by
  unfold getCurrentUserId at hok
  split at hok
  · cases hok
  · next token _ =>
      simp only at hok
      split at hok
      · cases hok
      · next sub hdecoded =>
          split at hok
          · cases hok
          · next found hfound =>
              cases hok
              obtain ⟨rfl, _⟩ := Option.filter_eq_some_iff.mp hfound
              split at hdecoded
              · exact htokens _ _ _ _ hdecoded
              · exact htokens _ _ _ _ hdecoded

/-- The owner gate: the slug names a tournament and the token's `sub` is the
spelling of one of its owner rows. -/
theorem ownerGate_eq_ok {slug : String} {tournament : Tournament} :
    ownerGate platform http registry slug = .ok tournament ↔
      registry.db.tournaments.rows.find? (·.slug = slug) = some tournament ∧
        ∃ userId, getCurrentUserId platform http registry.toBackend =
            .ok userId ∧
          (registry.db.tournamentOwners.find?
            (tournament.id, userId)).isSome := by
  unfold ownerGate requireTournamentOwner
  rw [bind_eq_ok]
  constructor
  · rintro ⟨userId, huser, hok⟩
    split at hok
    · cases hok
    · next found hfound =>
        split at hok
        · next hsome =>
            cases hok
            exact ⟨hfound, userId, huser, hsome⟩
        · cases hok
  · rintro ⟨hfind, userId, huser, hsome⟩
    refine ⟨userId, huser, ?_⟩
    rw [hfind]
    simp only
    rw [if_pos hsome]

/-- With canonical tokens and lower-case grants every owner row is
canonical. -/
theorem ManagementStep.canonicalOwners {registry' : Registry}
    {act : ManagementAct} (htokens : CanonicalTokens platform)
    (hcanonical : CanonicalOwners registry.db)
    (hguard : LowerCaseGrant platform registry act)
    (hstep : ManagementStep platform registry act registry') :
    CanonicalOwners registry'.db := by
  cases hstep with
  | elapse _ hsame =>
      unfold CanonicalOwners
      rw [hsame.owners]
      exact hcanonical
  | request request =>
      obtain ⟨http, call⟩ := request
      cases hcall : call.addsOwner with
      | false =>
          exact fun owner howner =>
            hcanonical owner (call.answer_frame.owners hcall owner howner)
      | true =>
          cases call with
          | createTournament payload =>
              apply routed_invariant (fun after => CanonicalOwners after.db)
                hcanonical
              · exact fun _ => hcanonical
              · intro userId valid hits response committed hadmitted hok owner
                  howner
                obtain ⟨_, _, rfl⟩ := createTournamentRow_ok hok
                rcases (Table.mem_insertNew _).mp howner with hold | ⟨rfl, _⟩
                · exact hcanonical owner hold
                · exact getCurrentUserId_canonical htokens
                    (admitted_ok hadmitted).1
          | grantTournamentOwner slug payload =>
              apply routed_invariant (fun after => CanonicalOwners after.db)
                hcanonical
              · exact fun _ => hcanonical
              · intro tournament valid hits response committed hadmitted hok
                  owner howner
                obtain ⟨_, _, rfl⟩ := grantTournamentOwner_ok hok
                rcases (Table.mem_insertNew _).mp howner with hold | ⟨rfl, _⟩
                · exact hcanonical owner hold
                · exact ⟨valid.pattern, hguard tournament valid _ hadmitted⟩
          | _ => cases hcall

theorem grantTournamentOwner_refuses (tournament : Tournament)
    (payload : TournamentOwnerCreate) (registry : Registry) :
    Refuses (grantTournamentOwner tournament payload registry) := by
  unfold grantTournamentOwner
  simp only
  split
  · exact .error _ _ (by decide)
  · exact .ok _

theorem find?_owner_of_mem {db : Database} {owner : TournamentOwner}
    (howner : owner ∈ db.tournamentOwners.rows) :
    (db.tournamentOwners.find? (owner.tournamentId, owner.userId)).isSome := by
  have hfind := db.tournamentOwners.find?_key howner
  rw [TournamentOwner.key] at hfind
  rw [hfind]
  rfl

/-- What a successful grant leaves: the tournament its gate resolved has the
owner row in the spelling of the payload. -/
theorem answer_grantTournamentOwner {slug : String}
    {payload : TournamentOwnerCreate}
    (hok : statusOf ((ManagementCall.grantTournamentOwner slug
      (.ok payload)).answer platform http registry).1 < 400) :
    ∃ tournament hits,
      ownerRoute platform http registry slug "grant_tournament_owner" 5
          (.ok payload) =
        .ok (tournament, payload, { registry with hits := hits }) ∧
      ((ManagementCall.grantTournamentOwner slug (.ok payload)).answer platform
          http registry).2 = { registry with
            hits := hits
            db := { registry.db with
              tournamentOwners := registry.db.tournamentOwners.insertNew
                ⟨tournament.id, payload.userId, registry.now⟩ } } := by
  obtain ⟨tournament, valid, hits, response, hadmitted, hhandler⟩ :=
    routed_succeeded (ownerGate_refuses slug) grantTournamentOwner_refuses hok
  obtain ⟨_, hvalid, _⟩ := admitted_ok hadmitted
  cases hvalid
  exact ⟨tournament, hits, hadmitted, (grantTournamentOwner_ok hhandler).2.2⟩

/-- A spelling that is stored already is a duplicate. -/
theorem answer_grant_taken {slug : String} {payload : TournamentOwnerCreate}
    {tournament : Tournament} {counted : Registry}
    (hroute : ownerRoute platform http registry slug "grant_tournament_owner" 5
      (.ok payload) = .ok (tournament, payload, counted))
    (htaken : (registry.db.tournamentOwners.find?
      (tournament.id, payload.userId)).isSome) :
    statusOf ((ManagementCall.grantTournamentOwner slug (.ok payload)).answer
      platform http registry).1 = 409 := by
  obtain ⟨_, _, hits, rfl⟩ := admitted_ok hroute
  have hrefused : grantTournamentOwner tournament payload
      { registry with hits := hits } =
        .error (httpException 409 "User is already an owner" final_409) :=
    if_pos htaken
  change statusOf (routed (ownerRoute platform http registry slug
    "grant_tournament_owner" 5 (.ok payload)) grantTournamentOwner
      registry).1 = 409
  rw [hroute, routed, hrefused]
  rfl

/-- A spelling that is not stored is added. -/
theorem answer_grant_free {slug : String} {payload : TournamentOwnerCreate}
    {tournament : Tournament} {counted : Registry}
    (hroute : ownerRoute platform http registry slug "grant_tournament_owner" 5
      (.ok payload) = .ok (tournament, payload, counted))
    (hfree : registry.db.tournamentOwners.find?
      (tournament.id, payload.userId) = none) :
    statusOf ((ManagementCall.grantTournamentOwner slug (.ok payload)).answer
      platform http registry).1 = 204 := by
  obtain ⟨_, _, hits, rfl⟩ := admitted_ok hroute
  have hgranted : grantTournamentOwner tournament payload
      { registry with hits := hits } = .ok (noContent, _) :=
    if_neg (by simp [hfree])
  change statusOf (routed (ownerRoute platform http registry slug
    "grant_tournament_owner" 5 (.ok payload)) grantTournamentOwner
      registry).1 = 204
  rw [hroute, routed, hgranted]
  rfl

/-- Who is in an owner row of the tournament a slug names passes its gate. -/
theorem ownerGate_of_owner {slug : String} {tournament : Tournament}
    {userId : String}
    (hfind : registry.db.tournaments.rows.find? (·.slug = slug) =
      some tournament)
    (huser : getCurrentUserId platform http registry.toBackend = .ok userId)
    (howner : (registry.db.tournamentOwners.find?
      (tournament.id, userId)).isSome) :
    ownerGate platform http registry slug = .ok tournament :=
  ownerGate_eq_ok.mpr ⟨hfind, userId, huser, howner⟩

theorem LowerCaseGrant.ownedByUuid {request : ManagementRequest}
    (htokens : CanonicalTokens platform) (hmanaged : Managed registry)
    (hcanonical : CanonicalOwners registry.db)
    (hguard : LowerCaseGrant platform registry (.request request)) :
    OwnedByUuid platform registry request := by
  have hstep : ManagementStep platform registry (.request request) _ :=
    .request registry request
  constructor
  · intro slug payload hcall hok next huser
    obtain ⟨http, call⟩ := request
    cases hcall
    obtain ⟨tournament, hits, hroute, hafter⟩ :=
      answer_grantTournamentOwner hok
    have hlower := hguard tournament payload _ hroute
    obtain ⟨hfind, _⟩ := ownerGate_eq_ok.mp (admitted_ok hroute).1
    rw [hlower] at huser
    refine ⟨tournament, ownerGate_of_owner ?_ huser ?_⟩
    · rw [hafter]
      exact hfind
    · rw [hafter]
      simp only
      rw [Table.find?_insertNew, TournamentOwner.key, if_pos rfl]
      rfl
  · intro slug payload tournament counted hcall hroute howner
    obtain ⟨http, call⟩ := request
    cases hcall
    obtain ⟨owner, hmem, hid, hsame⟩ := howner
    have hspelling : owner.userId = payload.userId := by
      rw [← (hcanonical owner hmem).lower, hsame,
        hguard tournament payload counted hroute]
    have htaken := find?_owner_of_mem hmem
    rw [hid, hspelling] at htaken
    exact answer_grant_taken hroute htaken
  · intro t ht
    obtain ⟨owner, howner, hid⟩ := (hstep.managed hmanaged).owned t ht
    exact ⟨owner, howner, hid,
      hstep.canonicalOwners htokens hcanonical hguard owner howner⟩

/-- A grant in another spelling is not: it grants nobody, or makes a second row
for an owner. -/
theorem OwnedByUuid.lowerCaseGrant {request : ManagementRequest}
    (hsignIn : EveryoneSignsIn platform)
    (hcanonical : CanonicalOwners registry.db)
    (howned : OwnedByUuid platform registry request) :
    LowerCaseGrant platform registry (.request request) := by
  obtain ⟨http, call⟩ := request
  cases call with
  | grantTournamentOwner slug payload =>
      intro tournament valid counted hroute
      obtain ⟨hgate, hpayload, _⟩ := admitted_ok hroute
      cases hpayload
      by_contra hspelling
      have hfree : registry.db.tournamentOwners.find?
          (tournament.id, valid.userId) = none := by
        rw [Option.eq_none_iff_forall_ne_some]
        intro owner hfind
        have hkey := congrArg Prod.snd (Table.key_of_find? _ hfind)
        have hlower := (hcanonical owner (Table.mem_of_find? _ hfind)).lower
        rw [show owner.userId = valid.userId from hkey] at hlower
        exact hspelling hlower
      have hstatus := answer_grant_free hroute hfree
      have hother : ∀ owner ∈ registry.db.tournamentOwners.rows,
          owner.tournamentId = tournament.id →
            ¬ SameUser owner.userId valid.userId := by
        intro owner hmem hid hsame
        have hagain := howned.again slug valid tournament counted rfl hroute
          ⟨owner, hmem, hid, hsame⟩
        exact absurd (hagain.symm.trans hstatus) (by decide)
      have hok : statusOf ((ManagementCall.grantTournamentOwner slug
          (.ok valid)).answer platform http registry).1 < 400 := by
        rw [hstatus]
        decide
      obtain ⟨next, huser⟩ := hsignIn ((ManagementCall.grantTournamentOwner slug
        (.ok valid)).answer platform http registry).2.toBackend valid.userId
          valid.pattern
      obtain ⟨granted, hpasses⟩ := howned.granted slug valid rfl hok next huser
      -- the row that lets the user through was there before
      obtain ⟨hfind, userId, huser', howner⟩ := ownerGate_eq_ok.mp hpasses
      obtain rfl : canonicalUserId valid.userId = userId :=
        Except.ok.inj (huser.symm.trans huser')
      obtain ⟨tournament', hits, hroute', hafter⟩ :=
        answer_grantTournamentOwner hok
      obtain rfl : tournament = tournament' :=
        congrArg Prod.fst (Except.ok.inj (hroute.symm.trans hroute'))
      rw [hafter] at hfind howner
      obtain rfl : tournament = granted :=
        Option.some.inj ((ownerGate_eq_ok.mp hgate).1.symm.trans hfind)
      rw [Table.find?_insertNew, if_neg] at howner
      · obtain ⟨owner, hstored⟩ := Option.isSome_iff_exists.mp howner
        have hmem := Table.mem_of_find? _ hstored
        have hkey := Table.key_of_find? _ hstored
        apply hother owner hmem (congrArg Prod.fst hkey)
        rw [SameUser, (hcanonical owner hmem).lower]
        exact congrArg Prod.snd hkey
      · exact fun hkey => hspelling (congrArg Prod.snd hkey).symm
  | _ => trivial

/-- Where every grant that reaches its handler is of a lower-case id, ownership
is by UUID. -/
theorem ownership_by_uuid (platform : Platform)
    (htokens : CanonicalTokens platform) {start registry : Registry}
    {acts : List ManagementAct} (hempty : NoTournaments start.db)
    (hrun : Run (Guarded (LowerCaseGrant platform) (ManagementStep platform))
      start acts registry) (request : ManagementRequest) :
    (LowerCaseGrant platform registry (.request request) →
      OwnedByUuid platform registry request) ∧
    (EveryoneSignsIn platform → OwnedByUuid platform registry request →
      LowerCaseGrant platform registry (.request request)) := by
  have hinv : Managed registry ∧ CanonicalOwners registry.db := by
    refine hrun.invariant
      (fun registry => Managed registry ∧ CanonicalOwners registry.db) ?_ ?_
    · refine ⟨hempty.managed, ?_⟩
      simp [CanonicalOwners, hempty.owners]
    · rintro before act after ⟨hmanaged, hcanonical⟩ ⟨hguard, hstep⟩
      exact ⟨hstep.managed hmanaged,
        hstep.canonicalOwners htokens hcanonical hguard⟩
  obtain ⟨hmanaged, hcanonical⟩ := hinv
  exact ⟨fun hguard => hguard.ownedByUuid htokens hmanaged hcanonical,
    fun hsignIn howned => howned.lowerCaseGrant hsignIn hcanonical⟩

end Steps

namespace OwnerCasingWitness

open ManagementWitness ManagementRunWitness

theorem canonicalTokens : CanonicalTokens platform := by
  intro refreshed token backend userId hdecoded
  simp only [platform] at hdecoded
  split at hdecoded
  · cases hdecoded
    exact ⟨by decide, by decide⟩
  · cases hdecoded

/-- The tournament of the test user. -/
def created : List ManagementRequest :=
  [request (.createTournament (.ok springCup))]

theorem guarded_created :
    Run (Guarded (LowerCaseGrant platform) (ManagementStep platform)) registry
      (created.map .request) (after created) := by
  have hcreated : ∀ request ∈ created, ∃ payload,
      request = ManagementRunWitness.request (.createTournament payload) := by
    intro request hmem
    exact ⟨_, List.mem_singleton.mp hmem⟩
  refine run_after _ created fun earlier request hearlier => ?_
  obtain ⟨payload, rfl⟩ :=
    hcreated request (hearlier.subset (by simp))
  trivial

/-- A grant to another user. -/
def grantOther : ManagementRequest :=
  request (.grantTournamentOwner "spring-cup"
    (.ok ⟨"00000000-0000-0000-0000-0000000000bb", by decide⟩))

/-- A grant to the test user, in upper case. -/
def grantUpper : ManagementRequest :=
  request (.grantTournamentOwner "spring-cup"
    (.ok ⟨"00000000-0000-0000-0000-0000000000AA", by decide⟩))

/-- The test user gives up the lower-case row. -/
def revokeLower : ManagementRequest :=
  request (.revokeTournamentOwner "spring-cup" defaultTestUserId)

theorem lowerCase_grantOther :
    LowerCaseGrant platform (after created) (.request grantOther) := by
  intro tournament valid counted hroute
  obtain ⟨_, hvalid, _⟩ := admitted_ok hroute
  cases hvalid
  decide

end OwnerCasingWitness

open ManagementWitness ManagementRunWitness OwnerCasingWitness in
/-- A lower-case grant to another user is by UUID. -/
theorem ownership_by_uuid_other :
    OwnedByUuid platform (after created) grantOther :=
  (ownership_by_uuid platform canonicalTokens noTournaments guarded_created
    grantOther).1 lowerCase_grantOther

open ManagementWitness ManagementRunWitness OwnerCasingWitness in
/-- An owner who was granted in upper case as well can revoke the one row that
lets them in. -/
theorem owner_locked_out :
    ¬ ∀ (platform : Platform) (start registry : Registry)
      (acts : List ManagementAct) (request : ManagementRequest),
        CanonicalTokens platform → NoTournaments start.db →
          Run (ManagementStep platform) start acts registry →
            OwnedByUuid platform registry request := by
  intro hclaim
  have howned := hclaim platform registry (after (created ++ [grantUpper])) _
    revokeLower canonicalTokens noTournaments
    (guarded_created.unguarded.snoc (step_after created grantUpper))
  have hids : (revokeLower.call.answer platform revokeLower.http
      (after (created ++ [grantUpper]))).2.db.tournaments.rows.map (·.id) =
        [1] := by decide
  have howners : (revokeLower.call.answer platform revokeLower.http
      (after (created ++ [grantUpper]))).2.db.tournamentOwners.rows.map
        (·.userId) = ["00000000-0000-0000-0000-0000000000AA"] := by decide
  obtain ⟨t, ht, _⟩ := List.mem_map.mp
    (hids ▸ List.mem_singleton_self 1)
  obtain ⟨owner, howner, _, hcanonical⟩ := howned.matched t ht
  have hupper : owner.userId = "00000000-0000-0000-0000-0000000000AA" :=
    List.mem_singleton.mp (howners ▸ List.mem_map_of_mem howner)
  rw [hupper] at hcanonical
  exact absurd hcanonical.lower (by decide)

end LiveStandings
