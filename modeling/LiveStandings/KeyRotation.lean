/-
Token verification across a rotation of the signing key.  The key is cached
for the whole process and the requests share it; each of them may fetch it
twice, and an answer of the JWKS endpoint can arrive long after it was given.
-/
import LiveStandings.Management
import LiveStandings.Library.Fallible
import LiveStandings.Library.Runs
import Mathlib.Logic.Function.Basic

namespace LiveStandings

open PyJson Runs Fallible

/-- What PyJWT and the key it is given decide. -/
structure TokenLibrary (K : Type) where
  /-- `RSAAlgorithm.from_jwk`: `none` is a key of another kind, an error a
  `PyJWTError`. -/
  fromJwk : Json → Except Unit (Option K)
  /-- The token has its three segments and is an RS256 one. -/
  wellFormed : String → Bool
  verifies : K → String → Bool
  /-- The checks of the other claims, and the `sub` claim. -/
  claims : String → Instant → Except Unit (Option String)

/-- What the JWKS endpoint answers; an error is a failed request. -/
abbrev JwksAnswer := Except Unit Json

/-- Why `get_public_key` raises: a `PyJWTError`, or anything else. -/
inductive LoadError where
  | jwt
  | other
deriving Repr, DecidableEq

/-- `value[0]`. -/
def firstItem : Json → Except PyError Json
  | .arr (first :: _) => .ok first
  | .str text =>
      match text.toList with
      | first :: _ => .ok (.str (String.singleton first))
      | [] => .error .valueError
  | .obj _ => .error (.keyError "0")
  | _ => .error .typeError

section Loading

variable {K : Type} (library : TokenLibrary K)

/-- `_load_public_key`, from the answer on. -/
def loadPublicKey (answer : JwksAnswer) : Except LoadError K := do
  let jwks ← answer.mapError fun _ => .other
  let keys ← (jwks.getD "keys" (.arr [])).mapError fun _ => .other
  if !keys.truthy then .error .other
  else
    let first ← (firstItem keys).mapError fun _ => .other
    match ← (library.fromJwk first).mapError fun _ => .jwt with
    | none => .error .other
    | some publicKey =>
        -- the line that logs `kid`
        let _ ← (first.get "kid").mapError fun _ => .other
        .ok publicKey

/-- `jwt.decode`: the signature is checked before the claims. -/
def decodeToken (key : K) (token : String) (now : Instant) :
    Except JwtError (Option String) :=
  if !library.wellFormed token then .error .invalidToken
  else if !library.verifies key token then .error .invalidSignature
  else (library.claims token now).mapError fun _ => .invalidToken

/-- The end of `get_current_user_id`. -/
def subjectOf (sub : Option String) : Except Raised String :=
  match sub.filter (· ≠ "") with
  | none => .error
      (httpException 401 "Invalid token: missing subject" final_401)
  | some userId => .ok userId

def invalidToken : Except Raised String :=
  .error (httpException 401 "Invalid token" final_401)

/-- Where a request stands in `get_current_user_id`. -/
inductive Verification where
  | idle
  | fetching (token : String) (forced : Bool)
  | responded (token : String) (forced : Bool) (answer : JwksAnswer)
  | done (result : Except Raised String)

/-- `jwt.decode` under the key `get_public_key` returned, and what its result
leads to. -/
def decodeUnder (forced : Bool) (key : K) (token : String) (now : Instant) :
    Verification :=
  match decodeToken library key token now with
  | .ok sub => .done (subjectOf sub)
  | .error .invalidSignature =>
      if forced then .done invalidToken else .fetching token true
  | .error .invalidToken => .done invalidToken

/-- The process with its cached key and its requests, and what the JWKS
endpoint serves. -/
structure Verifier (K : Type) where
  cached : Option K
  requests : Nat → Verification
  served : JwksAnswer
  now : Instant

variable {library}

def Verifier.set (σ : Verifier K) (i : Nat) (phase : Verification) :
    Verifier K :=
  { σ with requests := Function.update σ.requests i phase }

@[simp] theorem Verifier.set_requests_self (σ : Verifier K) (i : Nat)
    (phase : Verification) : (σ.set i phase).requests i = phase :=
  Function.update_self ..

@[simp] theorem Verifier.set_requests_of_ne (σ : Verifier K) {i j : Nat}
    (hne : j ≠ i) (phase : Verification) :
    (σ.set i phase).requests j = σ.requests j :=
  Function.update_of_ne hne ..

@[simp] theorem Verifier.set_served (σ : Verifier K) (i : Nat)
    (phase : Verification) : (σ.set i phase).served = σ.served := rfl

@[simp] theorem Verifier.set_now (σ : Verifier K) (i : Nat)
    (phase : Verification) : (σ.set i phase).now = σ.now := rfl

@[simp] theorem Verifier.set_cached (σ : Verifier K) (i : Nat)
    (phase : Verification) : (σ.set i phase).cached = σ.cached := rfl

/-- A step of a request, of the auth service, or of the clock. -/
inductive VerifierAct where
  | start (i : Nat) (accessToken : Option String)
  | respond (i : Nat)
  | receive (i : Nat)
  | serve (answer : JwksAnswer)
  | elapse (now : Instant)

variable (library)

/-- What a request does before its first suspension. -/
def startVerification (σ : Verifier K) (accessToken : Option String) :
    Verification :=
  match accessToken.filter (· ≠ "") with
  | none => .done (.error (httpException 401 "Not authenticated" final_401))
  | some token =>
      match σ.cached with
      | some key => decodeUnder library false key token σ.now
      | none => .fetching token false

/-- What a request does with an answer.  A load that raises leaves the cached
key. -/
def Verifier.receive (σ : Verifier K) (i : Nat) (token : String)
    (forced : Bool) (answer : JwksAnswer) : Verifier K :=
  match loadPublicKey library answer with
  | .error .jwt => σ.set i (.done invalidToken)
  | .error .other => σ.set i (.done (.error .unhandled))
  | .ok key =>
      { σ.set i (decodeUnder library forced key token σ.now) with
        cached := some key }

/-- The steps: an answer is what was served when it was given. -/
inductive VerifierStep : Verifier K → VerifierAct → Verifier K → Prop where
  | start {σ : Verifier K} {i : Nat} (accessToken : Option String)
      (hidle : σ.requests i = .idle) :
      VerifierStep σ (.start i accessToken)
        (σ.set i (startVerification library σ accessToken))
  | respond {σ : Verifier K} {i : Nat} {token : String} {forced : Bool}
      (hfetching : σ.requests i = .fetching token forced) :
      VerifierStep σ (.respond i) (σ.set i (.responded token forced σ.served))
  | receive {σ : Verifier K} {i : Nat} {token : String} {forced : Bool}
      {answer : JwksAnswer}
      (hresponded : σ.requests i = .responded token forced answer) :
      VerifierStep σ (.receive i) (σ.receive library i token forced answer)
  | serve (σ : Verifier K) (answer : JwksAnswer) :
      VerifierStep σ (.serve answer) { σ with served := answer }
  | elapse (σ : Verifier K) (now : Instant) :
      VerifierStep σ (.elapse now) { σ with now := now }

end Loading

/-- A token is one of the user under a key, at a time. -/
structure ValidToken {K : Type} (library : TokenLibrary K) (key : K)
    (token : String) (now : Instant) (userId : String) : Prop where
  wellFormed : library.wellFormed token = true
  verifies : library.verifies key token = true
  claims : library.claims token now = .ok (some userId)
  nonempty : userId ≠ ""

section Published

variable {K : Type} (library : TokenLibrary K) (start : Verifier K)
  (acts : List VerifierAct)

/-- What the endpoint served at some time of a run. -/
def Offered (answer : JwksAnswer) : Prop :=
  answer = start.served ∨ .serve answer ∈ acts

/-- The key of an answer that was served. -/
def Published (key : K) : Prop :=
  ∃ answer, Offered start acts answer ∧ loadPublicKey library answer = .ok key

/-- A time of the run. -/
def Elapsed (now : Instant) : Prop :=
  now = start.now ∨ .elapse now ∈ acts

/-- The request came with a token of the user that is valid under a published
key. -/
def AcceptedUnder (i : Nat) (userId : String) : Prop :=
  ∃ token key now, .start i (some token) ∈ acts ∧
    Published library start acts key ∧ Elapsed start acts now ∧
      ValidToken library key token now userId

/-- Where a request may stand. -/
def PhasePublished (i : Nat) : Verification → Prop
  | .idle => True
  | .fetching token _ => .start i (some token) ∈ acts
  | .responded token _ answer =>
      .start i (some token) ∈ acts ∧ Offered start acts answer
  | .done (.ok userId) => AcceptedUnder library start acts i userId
  | .done (.error _) => True

/-- Nothing but published keys is used in a run. -/
structure KeysPublished (σ : Verifier K) : Prop where
  served : Offered start acts σ.served
  clock : Elapsed start acts σ.now
  cached : ∀ key, σ.cached = some key → Published library start acts key
  phases : ∀ i, PhasePublished library start acts i (σ.requests i)

variable {library start acts}

theorem Offered.snoc {answer : JwksAnswer} (act : VerifierAct)
    (hoffered : Offered start acts answer) :
    Offered start (acts ++ [act]) answer :=
  hoffered.imp_right fun hmem => List.mem_append_left _ hmem

theorem Published.snoc {key : K} (act : VerifierAct)
    (hpublished : Published library start acts key) :
    Published library start (acts ++ [act]) key := by
  obtain ⟨answer, hoffered, hload⟩ := hpublished
  exact ⟨answer, hoffered.snoc act, hload⟩

theorem Elapsed.snoc {now : Instant} (act : VerifierAct)
    (helapsed : Elapsed start acts now) : Elapsed start (acts ++ [act]) now :=
  helapsed.imp_right fun hmem => List.mem_append_left _ hmem

theorem PhasePublished.snoc {i : Nat} {phase : Verification}
    (act : VerifierAct) (hphase : PhasePublished library start acts i phase) :
    PhasePublished library start (acts ++ [act]) i phase := by
  cases phase with
  | idle => trivial
  | fetching token forced => exact List.mem_append_left _ hphase
  | responded token forced answer =>
      exact ⟨List.mem_append_left _ hphase.1, hphase.2.snoc act⟩
  | done result =>
      cases result with
      | error raised => trivial
      | ok userId =>
          obtain ⟨token, key, now, hstart, hkey, hnow, hvalid⟩ := hphase
          exact ⟨token, key, now, List.mem_append_left _ hstart,
            hkey.snoc act, hnow.snoc act, hvalid⟩

theorem KeysPublished.snoc {σ : Verifier K} (act : VerifierAct)
    (hkeys : KeysPublished library start acts σ) :
    KeysPublished library start (acts ++ [act]) σ :=
  ⟨hkeys.served.snoc act, hkeys.clock.snoc act,
    fun key hcached => (hkeys.cached key hcached).snoc act,
    fun i => (hkeys.phases i).snoc act⟩

theorem KeysPublished.set {σ : Verifier K}
    (hkeys : KeysPublished library start acts σ) {i : Nat}
    {phase : Verification}
    (hphase : PhasePublished library start acts i phase) :
    KeysPublished library start acts (σ.set i phase) := by
  refine ⟨hkeys.served, hkeys.clock, hkeys.cached, fun j => ?_⟩
  by_cases hj : j = i
  · subst hj
    rw [Verifier.set_requests_self]
    exact hphase
  · rw [Verifier.set_requests_of_ne σ hj]
    exact hkeys.phases j

theorem decodeToken_eq_ok {key : K} {token : String} {now : Instant}
    {sub : Option String} :
    decodeToken library key token now = .ok sub ↔
      library.wellFormed token = true ∧ library.verifies key token = true ∧
        library.claims token now = .ok sub := by
  unfold decodeToken
  cases library.wellFormed token with
  | false => simp
  | true =>
      cases library.verifies key token with
      | false => simp
      | true =>
          cases library.claims token now with
          | error error => simp [Except.mapError]
          | ok found => simp [Except.mapError]

theorem subjectOf_eq_ok {sub : Option String} {userId : String} :
    subjectOf sub = .ok userId ↔ sub = some userId ∧ userId ≠ "" := by
  unfold subjectOf
  constructor
  · intro hok
    split at hok
    · cases hok
    · next found hfound =>
        cases hok
        obtain ⟨rfl, hne⟩ := Option.filter_eq_some_iff.mp hfound
        exact ⟨rfl, by simpa using hne⟩
  · rintro ⟨rfl, hne⟩
    have hkept : (some userId).filter (· ≠ "") = some userId :=
      Option.filter_eq_some_iff.mpr ⟨rfl, by simpa using hne⟩
    rw [hkept]

theorem decodeUnder_eq_done {forced : Bool} {key : K} {token : String}
    {now : Instant} {userId : String} :
    decodeUnder library forced key token now = .done (.ok userId) ↔
      ValidToken library key token now userId := by
  unfold decodeUnder
  constructor
  · intro hdone
    split at hdone
    · next sub hdecoded =>
        have hsubject : subjectOf sub = .ok userId := by
          simpa using hdone
        obtain ⟨rfl, hne⟩ := subjectOf_eq_ok.mp hsubject
        obtain ⟨hform, hverifies, hclaims⟩ := decodeToken_eq_ok.mp hdecoded
        exact ⟨hform, hverifies, hclaims, hne⟩
    · cases forced <;> simp [invalidToken] at hdone
    · simp [invalidToken] at hdone
  · rintro ⟨hform, hverifies, hclaims, hne⟩
    rw [decodeToken_eq_ok.mpr ⟨hform, hverifies, hclaims⟩]
    simp only
    rw [subjectOf_eq_ok.mpr ⟨rfl, hne⟩]

/-- A token is decoded, or it is not signed under the key and the key is
fetched anew. -/
theorem decodeUnder_cases (library : TokenLibrary K) (forced : Bool) (key : K)
    (token : String) (now : Instant) :
    (∃ result, decodeUnder library forced key token now = .done result) ∨
      forced = false ∧ library.verifies key token = false ∧
        decodeUnder library forced key token now = .fetching token true := by
  unfold decodeUnder
  cases hdecoded : decodeToken library key token now with
  | ok sub => exact Or.inl ⟨_, rfl⟩
  | error error =>
      cases error with
      | invalidToken => exact Or.inl ⟨_, rfl⟩
      | invalidSignature =>
          cases forced with
          | true => exact Or.inl ⟨_, rfl⟩
          | false =>
              refine Or.inr ⟨rfl, ?_, rfl⟩
              unfold decodeToken at hdecoded
              split at hdecoded
              · cases hdecoded
              · split at hdecoded
                · next hnot => simpa using hnot
                · cases hclaims : library.claims token now with
                  | error error => simp [hclaims, Except.mapError] at hdecoded
                  | ok sub => simp [hclaims, Except.mapError] at hdecoded

theorem decodeUnder_published {i : Nat} {forced : Bool} {key : K}
    {token : String} {now : Instant} (hstart : .start i (some token) ∈ acts)
    (hkey : Published library start acts key) (hnow : Elapsed start acts now) :
    PhasePublished library start acts i
      (decodeUnder library forced key token now) := by
  rcases decodeUnder_cases library forced key token now with
    ⟨result, hdone⟩ | ⟨_, _, hfetch⟩
  · cases result with
    | error raised =>
        rw [hdone]
        trivial
    | ok userId =>
        rw [hdone]
        exact ⟨token, key, now, hstart, hkey, hnow,
          decodeUnder_eq_done.mp hdone⟩
  · rw [hfetch]
    exact hstart

theorem KeysPublished.step {σ σ' : Verifier K} {act : VerifierAct}
    (hkeys : KeysPublished library start acts σ)
    (hstep : VerifierStep library σ act σ') :
    KeysPublished library start (acts ++ [act]) σ' := by
  have hlater := hkeys.snoc act
  have hlast : act ∈ acts ++ [act] := List.mem_append_right _ List.mem_cons_self
  cases hstep with
  | start accessToken hidle =>
      apply hlater.set
      unfold startVerification
      split
      · trivial
      · next token htoken =>
          obtain ⟨rfl, _⟩ := Option.filter_eq_some_iff.mp htoken
          split
          · next key hcached =>
              exact decodeUnder_published hlast (hlater.cached key hcached)
                hlater.clock
          · exact hlast
  | @respond i token forced hfetching =>
      have hphase := hlater.phases i
      rw [hfetching] at hphase
      exact hlater.set ⟨hphase, hlater.served⟩
  | @receive i token forced answer hresponded =>
      have hphase := hlater.phases i
      rw [hresponded] at hphase
      unfold Verifier.receive
      split
      · exact hlater.set trivial
      · exact hlater.set trivial
      · next key hload =>
          have hpublished : Published library start _ key :=
            ⟨answer, hphase.2, hload⟩
          have hdecoded : PhasePublished library start _ i
              (decodeUnder library forced key token σ.now) :=
            decodeUnder_published hphase.1 hpublished hlater.clock
          have hset := hlater.set hdecoded
          refine ⟨hset.served, hset.clock, ?_, hset.phases⟩
          rintro _ ⟨⟩
          exact hpublished
  | serve answer =>
      exact ⟨Or.inr hlast, hlater.clock, hlater.cached, hlater.phases⟩
  | elapse now =>
      exact ⟨hlater.served, Or.inr hlast, hlater.cached, hlater.phases⟩

end Published

/-- Whether an act is an answer to a request. -/
def VerifierAct.isRespond (i : Nat) : VerifierAct → Bool
  | .respond j => j = i
  | _ => false

/-- A process that has just started. -/
structure Verifier.Fresh {K : Type} (σ : Verifier K) : Prop where
  cached : σ.cached = none
  idle : ∀ i, σ.requests i = .idle

section Runs

variable {K : Type} {library : TokenLibrary K} {start σ σ' : Verifier K}
  {acts : List VerifierAct} {act : VerifierAct}

theorem Verifier.receive_requests_of_ne (σ : Verifier K) {i j : Nat}
    (hne : j ≠ i) (token : String) (forced : Bool) (answer : JwksAnswer) :
    (σ.receive library i token forced answer).requests j = σ.requests j := by
  unfold Verifier.receive
  split
  · exact σ.set_requests_of_ne hne _
  · exact σ.set_requests_of_ne hne _
  · exact σ.set_requests_of_ne hne _

/-- The answers a request may have been given where it stands. -/
def Verification.budget : Verification → Nat
  | .idle => 0
  | .fetching _ forced => if forced then 1 else 0
  | .responded _ forced _ => if forced then 2 else 1
  | .done _ => 2

theorem Verification.budget_le_two (phase : Verification) :
    phase.budget ≤ 2 := by
  cases phase with
  | idle => exact Nat.zero_le 2
  | fetching token forced =>
      cases forced with
      | false => exact Nat.zero_le 2
      | true => exact Nat.le_succ 1
  | responded token forced answer =>
      cases forced with
      | false => exact Nat.le_succ 1
      | true => exact Nat.le_refl 2
  | done result => exact Nat.le_refl 2

theorem budget_receive (σ : Verifier K) (i : Nat) (token : String)
    (forced : Bool) (answer : JwksAnswer) :
    (Verification.responded token forced answer).budget ≤
      ((σ.receive library i token forced answer).requests i).budget := by
  unfold Verifier.receive
  split
  · rw [Verifier.set_requests_self]
    exact Verification.budget_le_two _
  · rw [Verifier.set_requests_self]
    exact Verification.budget_le_two _
  · next key _ =>
      show _ ≤ ((σ.set i _).requests i).budget
      rw [Verifier.set_requests_self]
      rcases decodeUnder_cases library forced key token σ.now with
        ⟨result, hdone⟩ | ⟨rfl, _, hfetch⟩
      · rw [hdone]
        exact Verification.budget_le_two _
      · rw [hfetch]
        exact Nat.le_refl 1

/-- A request that never began has been given no answer, and none is given
more than two. -/
theorem VerifierStep.budget {i : Nat}
    (hbudget : acts.countP (·.isRespond i) ≤ (σ.requests i).budget)
    (hstep : VerifierStep library σ act σ') :
    (acts ++ [act]).countP (·.isRespond i) ≤ (σ'.requests i).budget := by
  rw [List.countP_append]
  cases hstep with
  | @start j accessToken hidle =>
      by_cases hj : i = j
      · subst hj
        rw [hidle] at hbudget
        exact Nat.le_trans hbudget (Nat.zero_le _)
      · rw [Verifier.set_requests_of_ne σ hj]
        exact hbudget
  | @respond j token forced hfetching =>
      by_cases hj : i = j
      · subst hj
        rw [hfetching] at hbudget
        rw [Verifier.set_requests_self]
        have hone : [VerifierAct.respond i].countP (·.isRespond i) = 1 := by
          simp [VerifierAct.isRespond]
        rw [hone]
        cases forced with
        | false => exact Nat.add_le_add_right hbudget 1
        | true => exact Nat.add_le_add_right hbudget 1
      · rw [Verifier.set_requests_of_ne σ hj]
        have hnone : [VerifierAct.respond j].countP (·.isRespond i) = 0 := by
          simp [VerifierAct.isRespond, Ne.symm hj]
        rw [hnone]
        exact hbudget
  | @receive j token forced answer hresponded =>
      by_cases hj : i = j
      · subst hj
        rw [hresponded] at hbudget
        exact Nat.le_trans hbudget (budget_receive σ i token forced answer)
      · rw [σ.receive_requests_of_ne hj]
        exact hbudget
  | serve answer => exact hbudget
  | elapse now => exact hbudget

end Runs

/-- Whatever requests overlap, keys rotate and answers arrive late: a request
is only accepted under a token of its user that is valid under a key the
endpoint published, the cached key is a published one, and no request asks for
the key more than twice. -/
theorem accepted_under_published_key {K : Type} (library : TokenLibrary K)
    {start σ : Verifier K} {acts : List VerifierAct} (hfresh : start.Fresh)
    (hrun : Run (VerifierStep library) start acts σ) :
    (∀ i userId, σ.requests i = .done (.ok userId) →
        AcceptedUnder library start acts i userId) ∧
      (∀ key, σ.cached = some key → Published library start acts key) ∧
      ∀ i, acts.countP (·.isRespond i) ≤ 2 := by
  have hkeys : KeysPublished library start acts σ := by
    refine hrun.labelled_invariant (KeysPublished library start) ?_
      fun _ _ _ _ hkeys hstep => hkeys.step hstep
    refine ⟨Or.inl rfl, Or.inl rfl, ?_, ?_⟩
    · simp [hfresh.cached]
    · intro i
      rw [hfresh.idle i]
      trivial
  refine ⟨fun i userId hdone => ?_, hkeys.cached, fun i => ?_⟩
  · have hphase := hkeys.phases i
    rw [hdone] at hphase
    exact hphase
  · have hbudget : acts.countP (·.isRespond i) ≤ (σ.requests i).budget := by
      refine hrun.labelled_invariant
        (fun acts σ => acts.countP (·.isRespond i) ≤ (σ.requests i).budget)
        (Nat.zero_le _) fun _ _ _ _ hbudget hstep => hstep.budget hbudget
    exact Nat.le_trans hbudget (Verification.budget_le_two _)

namespace RotationWitness

open ManagementWitness

/-- A key is known by its modulus, and a token is the modulus of the key it is
signed under. -/
def library : TokenLibrary String where
  fromJwk jwk :=
    match jwk.get "n" with
    | .ok (.str modulus) => .ok (some modulus)
    | _ => .error ()
  wellFormed token := token ≠ ""
  verifies key token := key = token
  claims _ now := if now < 900000000 then .ok (some defaultTestUserId)
    else .error ()

def jwks (modulus : String) : JwksAnswer :=
  .ok (.obj [("keys", .arr [.obj [("kty", .str "RSA"), ("n", .str modulus)]])])

/-- A process under a service that serves a key. -/
def verifier (cached : Option String) (served : String) : Verifier String where
  cached := cached
  requests _ := .idle
  served := jwks served
  now := 0

/-- A request with a token, once it has begun, been answered and received its
answer. -/
def began (token : String) (σ : Verifier String) : Verifier String :=
  σ.set 0 (startVerification library σ (some token))

def answered (token : String) (forced : Bool) (σ : Verifier String) :
    Verifier String :=
  σ.set 0 (.responded token forced σ.served)

def received (token : String) (forced : Bool) (σ : Verifier String) :
    Verifier String :=
  σ.receive library 0 token forced σ.served

end RotationWitness

open RotationWitness ManagementWitness in
/-- The first request of a process fetches the key and is accepted. -/
theorem accepted_under_published_key_first :
    AcceptedUnder library (verifier none "a")
      [.start 0 (some "a"), .respond 0, .receive 0] 0 defaultTestUserId :=
  (accepted_under_published_key library ⟨rfl, fun _ => rfl⟩
    (((Run.refl.snoc (.start (some "a") rfl)).snoc
      (.respond rfl)).snoc (.receive rfl))).1 0 defaultTestUserId rfl

section Accepting

variable {K : Type} {library : TokenLibrary K} {σ σ₁ σ' : Verifier K}
  {acts : List VerifierAct} {act : VerifierAct} {i : Nat} {key : K}
  {token userId : String}

/-- Where a request stands that came with a valid token, after so many
answers. -/
def PhaseAccepting (token userId : String) (answer : JwksAnswer)
    (answers : Nat) : Verification → Prop
  | .idle => False
  | .fetching token' _ => token' = token ∧ answers = 0
  | .responded token' _ answer' =>
      token' = token ∧ answer' = answer ∧ answers = 1
  | .done result => result = .ok userId ∧ answers ≤ 1

/-- A token that is valid under one key is accepted under another, or not
signed under it. -/
theorem decodeUnder_of_valid {now : Instant} (forced : Bool) (other : K)
    (hvalid : ValidToken library key token now userId) :
    decodeUnder library forced other token now = .done (.ok userId) ∨
      library.verifies other token = false ∧
        decodeUnder library forced other token now =
          if forced then .done invalidToken else .fetching token true := by
  cases hverifies : library.verifies other token with
  | true =>
      exact Or.inl (decodeUnder_eq_done.mpr
        { hvalid with verifies := hverifies })
  | false =>
      refine Or.inr ⟨rfl, ?_⟩
      simp [decodeUnder, decodeToken, hvalid.wellFormed, hverifies]

theorem startVerification_accepting (htoken : token ≠ "")
    (hvalid : ValidToken library key token σ.now userId)
    (answer : JwksAnswer) :
    PhaseAccepting token userId answer 0
      (startVerification library σ (some token)) := by
  have hkept : (some token).filter (· ≠ "") = some token :=
    Option.filter_eq_some_iff.mpr ⟨rfl, by simpa using htoken⟩
  unfold startVerification
  rw [hkept]
  simp only
  cases σ.cached with
  | none => exact ⟨rfl, rfl⟩
  | some cached =>
      simp only
      rcases decodeUnder_of_valid false cached hvalid with hdone | ⟨_, hfetch⟩
      · rw [hdone]
        exact ⟨rfl, Nat.zero_le 1⟩
      · rw [hfetch]
        exact ⟨rfl, rfl⟩

theorem receive_ok {forced : Bool} {answer : JwksAnswer}
    (hload : loadPublicKey library answer = .ok key) :
    σ.receive library i token forced answer =
      { σ.set i (decodeUnder library forced key token σ.now) with
        cached := some key } := by
  simp [Verifier.receive, hload]

theorem receive_accepting {forced : Bool} {answer : JwksAnswer}
    (hload : loadPublicKey library answer = .ok key)
    (hvalid : ValidToken library key token σ.now userId) :
    (σ.receive library i token forced answer).requests i =
      .done (.ok userId) := by
  have hdone : decodeUnder library forced key token σ.now =
      .done (.ok userId) := decodeUnder_eq_done.mpr hvalid
  rw [receive_ok hload, hdone]
  exact σ.set_requests_self i _

/-- No step of another request, and no time that passes, comes between. -/
theorem VerifierStep.accepting
    (hload : loadPublicKey library σ.served = .ok key)
    (hvalid : ValidToken library key token σ.now userId)
    (hserve : ∀ answer, act ≠ .serve answer)
    (haccepting : PhaseAccepting token userId σ.served
      (acts.countP (·.isRespond i)) (σ.requests i))
    (hstep : VerifierStep library σ act σ') :
    PhaseAccepting token userId σ.served
      ((acts ++ [act]).countP (·.isRespond i)) (σ'.requests i) := by
  rw [List.countP_append]
  cases hstep with
  | @start j accessToken hidle =>
      by_cases hj : i = j
      · subst hj
        rw [hidle] at haccepting
        exact haccepting.elim
      · rw [Verifier.set_requests_of_ne σ hj]
        exact haccepting
  | @respond j token' forced hfetching =>
      by_cases hj : i = j
      · subst hj
        rw [hfetching] at haccepting
        rw [Verifier.set_requests_self]
        refine ⟨haccepting.1, rfl, ?_⟩
        rw [haccepting.2]
        simp [VerifierAct.isRespond]
      · rw [Verifier.set_requests_of_ne σ hj]
        have hnone : [VerifierAct.respond j].countP (·.isRespond i) = 0 := by
          simp [VerifierAct.isRespond, Ne.symm hj]
        rw [hnone]
        exact haccepting
  | @receive j token' forced answer hresponded =>
      by_cases hj : i = j
      · subst hj
        rw [hresponded] at haccepting
        obtain ⟨rfl, rfl, hcount⟩ := haccepting
        rw [receive_accepting hload hvalid]
        exact ⟨rfl, Nat.le_of_eq hcount⟩
      · rw [σ.receive_requests_of_ne hj]
        exact haccepting
  | serve answer => exact absurd rfl (hserve answer)
  | elapse now => exact haccepting

theorem VerifierStep.served (hstep : VerifierStep library σ act σ')
    (hserve : ∀ answer, act ≠ .serve answer) : σ'.served = σ.served := by
  cases hstep with
  | start accessToken hidle => rfl
  | respond hfetching => rfl
  | receive hresponded =>
      unfold Verifier.receive
      split <;> rfl
  | serve answer => exact absurd rfl (hserve answer)
  | elapse now => rfl

theorem VerifierStep.now (hstep : VerifierStep library σ act σ') :
    σ'.now = σ.now ∨ act = .elapse σ'.now := by
  cases hstep with
  | start accessToken hidle => exact Or.inl rfl
  | respond hfetching => exact Or.inl rfl
  | receive hresponded =>
      left
      unfold Verifier.receive
      split <;> rfl
  | serve answer => exact Or.inl rfl
  | elapse now => exact Or.inr rfl

/-- From where it stands the request can go on to the end by itself. -/
theorem exists_accepted {answers : Nat}
    (hload : loadPublicKey library σ.served = .ok key)
    (hvalid : ValidToken library key token σ.now userId)
    (haccepting : PhaseAccepting token userId σ.served answers
      (σ.requests i)) :
    ∃ steps σ', Run (VerifierStep library) σ steps σ' ∧
      σ'.requests i = .done (.ok userId) := by
  have hreceive : ∀ (τ : Verifier K) (forced : Bool) (answer : JwksAnswer),
      τ.now = σ.now → answer = σ.served →
        τ.requests i = .responded token forced answer →
          ∃ σ', VerifierStep library τ (.receive i) σ' ∧
            σ'.requests i = .done (.ok userId) := by
    intro τ forced answer hnow hanswer hresponded
    rw [← hanswer] at hload
    rw [← hnow] at hvalid
    exact ⟨_, .receive hresponded, receive_accepting hload hvalid⟩
  cases hphase : σ.requests i with
  | idle =>
      rw [hphase] at haccepting
      exact haccepting.elim
  | done result =>
      rw [hphase] at haccepting
      exact ⟨[], σ, .refl, by rw [hphase, haccepting.1]⟩
  | responded token' forced answer =>
      rw [hphase] at haccepting
      obtain ⟨rfl, hanswer, _⟩ := haccepting
      obtain ⟨σ', hstep, hdone⟩ := hreceive σ forced answer rfl hanswer hphase
      exact ⟨_, σ', Run.single hstep, hdone⟩
  | fetching token' forced =>
      rw [hphase] at haccepting
      obtain ⟨rfl, _⟩ := haccepting
      obtain ⟨σ', hstep, hdone⟩ := hreceive
        (σ.set i (.responded token' forced σ.served)) forced σ.served rfl rfl
        (σ.set_requests_self i _)
      exact ⟨_, σ', (Run.single (.respond hphase)).snoc hstep, hdone⟩

theorem accepting_of_run (htoken : token ≠ "")
    (hload : loadPublicKey library σ.served = .ok key)
    (hstart : VerifierStep library σ (.start i (some token)) σ₁)
    (hrun : Run (VerifierStep library) σ₁ acts σ')
    (hrotation : ∀ answer, .serve answer ∉ acts)
    (hvalid : ∀ now, now = σ.now ∨ .elapse now ∈ acts →
      ValidToken library key token now userId) :
    σ'.served = σ.served ∧ (σ'.now = σ.now ∨ .elapse σ'.now ∈ acts) ∧
      PhaseAccepting token userId σ.served (acts.countP (·.isRespond i))
        (σ'.requests i) := by
  induction hrun with
  | refl =>
      cases hstart with
      | start _ hidle =>
          refine ⟨rfl, Or.inl rfl, ?_⟩
          rw [Verifier.set_requests_self]
          exact startVerification_accepting htoken (hvalid _ (Or.inl rfl)) _
  | @snoc acts reached next act _ hlast ih =>
      have hlater : ∀ other, other ∈ acts → other ∈ acts ++ [act] :=
        fun other hmem => List.mem_append_left _ hmem
      obtain ⟨hserved, hnow, haccepting⟩ := ih
        (fun answer hmem => hrotation answer (hlater _ hmem))
        fun now hmem => hvalid now (hmem.imp_right (hlater _))
      have hserve : ∀ answer, act ≠ .serve answer := by
        rintro answer rfl
        exact hrotation answer (List.mem_append_right _ List.mem_cons_self)
      rw [← hserved] at hload haccepting
      have hreached := hvalid _ (hnow.imp_right (hlater _))
      have hnext := hlast.accepting hload hreached hserve haccepting
      rw [hserved] at hnext
      refine ⟨(hlast.served hserve).trans hserved, ?_, hnext⟩
      rcases hlast.now with hkept | rfl
      · rw [hkept]
        exact hnow.imp_right (hlater _)
      · exact Or.inr (List.mem_append_right _ List.mem_cons_self)

end Accepting

/-- A token that is valid under the served key is accepted whatever key is
cached, if the service does not rotate in between: no step of other requests,
late answer or time that passes keeps it from the end, and it is given at most
one answer on its way. -/
theorem current_key_accepted {K : Type} (library : TokenLibrary K)
    {σ σ₁ σ' : Verifier K} {acts : List VerifierAct} {i : Nat} {key : K}
    {token userId : String} (htoken : token ≠ "")
    (hload : loadPublicKey library σ.served = .ok key)
    (hstart : VerifierStep library σ (.start i (some token)) σ₁)
    (hrun : Run (VerifierStep library) σ₁ acts σ')
    (hrotation : ∀ answer, .serve answer ∉ acts)
    (hvalid : ∀ now, now = σ.now ∨ .elapse now ∈ acts →
      ValidToken library key token now userId) :
    (∀ result, σ'.requests i = .done result → result = .ok userId) ∧
      acts.countP (·.isRespond i) ≤ 1 ∧
        ∃ steps σ'', Run (VerifierStep library) σ' steps σ'' ∧
          σ''.requests i = .done (.ok userId) := by
  have hinv := accepting_of_run htoken hload hstart hrun hrotation hvalid
  obtain ⟨hserved, hnow, haccepting⟩ := hinv
  refine ⟨fun result hdone => ?_, ?_, ?_⟩
  · rw [hdone] at haccepting
    exact haccepting.1
  · cases hphase : σ'.requests i with
    | idle =>
        rw [hphase] at haccepting
        exact haccepting.elim
    | fetching token' forced =>
        rw [hphase] at haccepting
        rw [haccepting.2]
        exact Nat.zero_le 1
    | responded token' forced answer =>
        rw [hphase] at haccepting
        exact Nat.le_of_eq haccepting.2.2
    | done result =>
        rw [hphase] at haccepting
        exact haccepting.2
  · rw [← hserved] at hload haccepting
    exact exists_accepted hload (hvalid _ hnow) haccepting

open RotationWitness ManagementWitness in
/-- A token of the new key is accepted while the old key is cached. -/
theorem current_key_accepted_rotated :
    (verifier (some "old") "new").cached = some "old" ∧
      ∃ steps σ, Run (VerifierStep library)
          (received "new" true (answered "new" true
            (began "new" (verifier (some "old") "new")))) steps σ ∧
        σ.requests 0 = .done (.ok defaultTestUserId) :=
  ⟨rfl, (current_key_accepted library (by decide) rfl
    (.start (some "new") rfl)
    ((Run.single (.respond rfl)).snoc (.receive rfl)) (by simp)
    fun now hnow => ⟨rfl, rfl, by
      have hzero : now = 0 := hnow.resolve_right (by simp)
      rw [hzero]
      rfl, by decide⟩).2.2⟩

section Alone

variable {K : Type} {library : TokenLibrary K} {σ : Verifier K} {i : Nat}
  {key : K} {token : String}

/-- What the last `jwt.decode` of a request leads to. -/
def decodedResult (decoded : Except JwtError (Option String)) :
    Except Raised String :=
  match decoded with
  | .error _ => invalidToken
  | .ok sub => subjectOf sub

/-- A platform whose `jwt.decode` is that of the library, under the cached key
first and the fetched one after it. -/
def DecodesUnder (platform : Platform) (library : TokenLibrary K)
    (cached fetched : K) : Prop :=
  ∀ refreshed token backend, platform.jwtDecode refreshed token backend =
    decodeToken library (if refreshed then fetched else cached) token
      backend.now

theorem decodeUnder_forced (now : Instant) :
    decodeUnder library true key token now =
      .done (decodedResult (decodeToken library key token now)) := by
  unfold decodeUnder decodedResult
  cases decodeToken library key token now with
  | ok sub => rfl
  | error error => cases error <;> rfl

theorem run_fetch {forced : Bool}
    (hload : loadPublicKey library σ.served = .ok key)
    (hfetching : σ.requests i = .fetching token forced) :
    ∃ steps σ', Run (VerifierStep library) σ steps σ' ∧
      σ'.requests i = decodeUnder library forced key token σ.now ∧
        σ'.served = σ.served ∧ σ'.now = σ.now := by
  have hrespond : VerifierStep library σ (.respond i)
      (σ.set i (.responded token forced σ.served)) := .respond hfetching
  have hreceive : VerifierStep library
      (σ.set i (.responded token forced σ.served)) (.receive i) _ :=
    .receive (σ.set_requests_self i _)
  rw [receive_ok hload] at hreceive
  exact ⟨_, _, (Run.single hrespond).snoc hreceive,
    Verifier.set_requests_self _ i _, rfl, rfl⟩

/-- The platform's `get_current_user_id` decodes under its two keys. -/
theorem getCurrentUserId_eq {platform : Platform} {cached fetched : K}
    (hplatform : DecodesUnder platform library cached fetched)
    {request : Request} {backend : Backend}
    (htoken : request.accessToken.filter (· ≠ "") = some token) :
    getCurrentUserId platform request backend =
      match decodeToken library cached token backend.now with
      | .error .invalidSignature =>
          decodedResult (decodeToken library fetched token backend.now)
      | first => decodedResult first := by
  unfold getCurrentUserId
  rw [htoken]
  simp only [hplatform _ token backend, Bool.false_eq_true, ↓reduceIte]
  cases decodeToken library cached token backend.now with
  | ok sub => rfl
  | error error =>
      cases error with
      | invalidToken => rfl
      | invalidSignature =>
          cases decodeToken library fetched token backend.now with
          | ok sub => rfl
          | error error => rfl

/-- A request that was decoded under its first key goes on to the end. -/
theorem run_decoded {platform : Platform} {cached : K} {request : Request}
    {backend : Backend}
    (hload : loadPublicKey library σ.served = .ok key)
    (hplatform : DecodesUnder platform library cached key)
    (hnow : backend.now = σ.now)
    (htoken : request.accessToken.filter (· ≠ "") = some token)
    (hdecoded : σ.requests i = decodeUnder library false cached token σ.now) :
    ∃ steps σ', Run (VerifierStep library) σ steps σ' ∧
      σ'.requests i = .done (getCurrentUserId platform request backend) := by
  rw [getCurrentUserId_eq hplatform htoken, hnow]
  unfold decodeUnder at hdecoded
  cases hfirst : decodeToken library cached token σ.now with
  | ok sub =>
      rw [hfirst] at hdecoded
      exact ⟨[], σ, .refl, hdecoded⟩
  | error error =>
      rw [hfirst] at hdecoded
      cases error with
      | invalidToken => exact ⟨[], σ, .refl, hdecoded⟩
      | invalidSignature =>
          obtain ⟨steps, σ', hrun, hphase, _, _⟩ := run_fetch hload hdecoded
          exact ⟨steps, σ', hrun, hphase.trans (decodeUnder_forced _)⟩

/-- A request that nothing overlaps ends in what the platform's
`get_current_user_id` answers. -/
theorem verification_refines {platform : Platform} {request : Request}
    {backend : Backend}
    (hload : loadPublicKey library σ.served = .ok key)
    (hplatform : DecodesUnder platform library (σ.cached.getD key) key)
    (hnow : backend.now = σ.now) (hidle : σ.requests i = .idle) :
    ∃ steps σ', Run (VerifierStep library) σ
        (.start i request.accessToken :: steps) σ' ∧
      σ'.requests i = .done (getCurrentUserId platform request backend) := by
  have hstart : VerifierStep library σ (.start i request.accessToken) _ :=
    .start request.accessToken hidle
  suffices hrest : ∃ steps σ', Run (VerifierStep library)
      (σ.set i (startVerification library σ request.accessToken)) steps σ' ∧
        σ'.requests i = .done (getCurrentUserId platform request backend) by
    obtain ⟨steps, σ', hrun, hdone⟩ := hrest
    exact ⟨steps, σ', Run.head hstart hrun, hdone⟩
  have hphase := σ.set_requests_self i
    (startVerification library σ request.accessToken)
  cases htoken : request.accessToken.filter (· ≠ "") with
  | none =>
      refine ⟨[], _, .refl, hphase.trans ?_⟩
      unfold startVerification getCurrentUserId
      rw [htoken]
  | some token =>
      cases hcached : σ.cached with
      | some cached =>
          have hdecoded : startVerification library σ request.accessToken =
              decodeUnder library false cached token σ.now := by
            unfold startVerification
            rw [htoken, hcached]
          rw [hcached] at hplatform
          exact run_decoded hload hplatform hnow htoken (hphase.trans hdecoded)
      | none =>
          have hfetching : startVerification library σ request.accessToken =
              .fetching token false := by
            unfold startVerification
            rw [htoken, hcached]
          rw [hcached] at hplatform
          -- nothing is cached, so both keys are the served one
          obtain ⟨steps, τ, hrun, hdecoded, hserved, hτ⟩ :=
            run_fetch (σ := σ.set i _) hload (hphase.trans hfetching)
          rw [Verifier.set_served] at hserved
          rw [Verifier.set_now] at hdecoded hτ
          rw [← hserved] at hload
          rw [← hτ] at hdecoded hnow
          obtain ⟨rest, σ', hrest, hdone⟩ :=
            run_decoded hload hplatform hnow htoken hdecoded
          exact ⟨steps ++ rest, σ', hrun.append hrest, hdone⟩

end Alone

end LiveStandings
