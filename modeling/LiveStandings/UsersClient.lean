/-
Who the owners are.  Identities are looked up at the auth API in batches and
cached for a minute, by all requests of the process at once; a call splits its
ids at the cache, asks for the rest, and stores what it is told.
-/
import LiveStandings.ManagementCalls
import LiveStandings.Library.Ranking
import LiveStandings.Library.TtlCache
import Mathlib.Logic.Function.Basic

namespace LiveStandings

open KeyedTable PyJson Ranking Runs TtlCache

/-- `UserIdentity`, with the fields as they were answered. -/
structure UserIdentity where
  userId : String
  email : Json
  displayName : Json
  avatarUrl : Json

/-- `_CACHE_TTL_SECONDS`, in microseconds. -/
def cacheTtl : Int := 60000000

/-- What `GET /users/lookup` answers; an error is a failed request. -/
abbrev LookupAnswer := Except Unit Json

/-- The end of `_lookup`; `str` is Python's. -/
def parseIdentities (str : Json → String) (payload : Json) :
    Except PyError (List UserIdentity) := do
  (← payload.iterate).mapM fun item => do
    .ok {
      userId := str (← item.item "id")
      email := ← item.get "email"
      displayName := ← item.get "display_name"
      avatarUrl := ← item.get "avatar_url" }

/-- What a call is told; every exception of the lookup is swallowed. -/
def identitiesOf (str : Json → String) (answer : LookupAnswer) :
    Option (List (String × UserIdentity)) :=
  match answer with
  | .error _ => none
  | .ok payload => (parseIdentities str payload).toOption.map
      (List.map fun identity => (identity.userId, identity))

/-- `list(dict.fromkeys(user_ids))`. -/
def uniqueIds (ids : List String) : List String := ids.eraseDups

theorem nodup_uniqueIds (ids : List String) : (uniqueIds ids).Nodup := by
  induction hlength : ids.length using Nat.strong_induction_on
    generalizing ids with
  | h length ih =>
      cases ids with
      | nil => exact List.nodup_nil
      | cons id ids =>
          rw [uniqueIds, List.eraseDups_cons]
          refine List.nodup_cons.mpr ⟨by simp, ih _ ?_ _ rfl⟩
          rw [← hlength, List.length_cons]
          exact Nat.lt_succ_of_le (List.length_filter_le _ _)

/-- The ids that are served from the cache. -/
def freshIdentities (cache : Cache String UserIdentity) (now : Instant)
    (ids : List String) : Dict String UserIdentity :=
  enter [] ((uniqueIds ids).filterMap fun id =>
    (cache.fresh? now id).map (id, ·))

/-- The ids that are not. -/
def missedIds (cache : Cache String UserIdentity) (now : Instant)
    (ids : List String) : List String :=
  (uniqueIds ids).filter fun id => (cache.fresh? now id).isNone

/-- Where a call of `fetch_identities` stands. -/
inductive IdentityCall where
  | idle
  | looking (found : Dict String UserIdentity) (misses : List String)
  | done (identities : Dict String UserIdentity)

/-- `fetch_identities` up to its lookup. -/
def beginIdentities (cache : Cache String UserIdentity) (now : Instant)
    (ids : List String) : IdentityCall :=
  if ids.isEmpty then .done []
  else
    let found := freshIdentities cache now ids
    let misses := missedIds cache now ids
    if misses.isEmpty then .done found else .looking found misses

/-- The identities it returns. -/
def endIdentities (str : Json → String) (found : Dict String UserIdentity)
    (answer : LookupAnswer) : Dict String UserIdentity :=
  match identitiesOf str answer with
  | none => found
  | some fetched => enter found fetched

/-- The cache it leaves. -/
def cacheIdentities (str : Json → String) (cache : Cache String UserIdentity)
    (now : Instant) (answer : LookupAnswer) : Cache String UserIdentity :=
  match identitiesOf str answer with
  | none => cache
  | some fetched => cache.store (now + cacheTtl) fetched

/-- The cache of the process, its clock, and its calls. -/
structure UsersClient where
  cache : Cache String UserIdentity
  now : Instant
  calls : Nat → IdentityCall

/-- A call begins, or is answered. -/
inductive IdentityAct where
  | call (i : Nat) (ids : List String) (now : Instant)
  | answer (i : Nat) (answer : LookupAnswer) (now : Instant)

/-- The steps.  Neither half of a call is suspended while it holds the lock. -/
inductive IdentityStep (str : Json → String) :
    UsersClient → IdentityAct → UsersClient → Prop where
  | call {σ : UsersClient} {i : Nat} {now : Instant} (ids : List String)
      (hnow : σ.now ≤ now) (hidle : σ.calls i = .idle) :
      IdentityStep str σ (.call i ids now)
        { σ with
          now := now
          calls := Function.update σ.calls i
            (beginIdentities σ.cache now ids) }
  | answer {σ : UsersClient} {i : Nat} {now : Instant}
      {found : Dict String UserIdentity} {misses : List String}
      (answer : LookupAnswer) (hnow : σ.now ≤ now)
      (hlooking : σ.calls i = .looking found misses) :
      IdentityStep str σ (.answer i answer now)
        { cache := cacheIdentities str σ.cache now answer
          now := now
          calls := Function.update σ.calls i
            (.done (endIdentities str found answer)) }

/-- A process that has just started. -/
structure UsersClient.Fresh (σ : UsersClient) : Prop where
  cache : σ.cache = []
  idle : ∀ i, σ.calls i = .idle

/-- The auth API told the identity in an answer. -/
def Told (str : Json → String) (answer : LookupAnswer) (id : String)
    (identity : UserIdentity) : Prop :=
  ∃ fetched, identitiesOf str answer = some fetched ∧ (id, identity) ∈ fetched

section Split

variable {str : Json → String} {cache : Cache String UserIdentity}
  {now : Instant} {ids : List String}

theorem Told.userId {answer : LookupAnswer} {id : String}
    {identity : UserIdentity} (htold : Told str answer id identity) :
    identity.userId = id := by
  obtain ⟨fetched, hfetched, hmem⟩ := htold
  unfold identitiesOf at hfetched
  split at hfetched
  · cases hfetched
  · obtain ⟨identities, _, rfl⟩ := Option.map_eq_some_iff.mp hfetched
    obtain ⟨other, _, hpair⟩ := List.mem_map.mp hmem
    cases hpair
    rfl

theorem get?_freshIdentities (id : String) :
    (freshIdentities cache now ids).get? id =
      if id ∈ ids then cache.fresh? now id else none := by
  rw [freshIdentities, enter_eq, List.append_nil]
  have hreverse : (uniqueIds ids).reverse.filterMap (fun id =>
      (cache.fresh? now id).map (id, ·)) =
        ((uniqueIds ids).filterMap fun id =>
          (cache.fresh? now id).map (id, ·)).reverse :=
    List.filterMap_reverse
  rw [← hreverse, Dict.get?_filterMap]
  simp [uniqueIds]

theorem mem_missedIds {id : String} :
    id ∈ missedIds cache now ids ↔
      id ∈ ids ∧ cache.fresh? now id = none := by
  simp [missedIds, uniqueIds]

end Split

section Recent

variable {str : Json → String} {σ σ' : UsersClient} {acts : List IdentityAct}
  {act : IdentityAct}

/-- What the auth API told in the run, and when. -/
def ToldAt (str : Json → String) (acts : List IdentityAct) (id : String)
    (identity : UserIdentity) (time : Instant) : Prop :=
  ∃ j answer, .answer j answer time ∈ acts ∧ Told str answer id identity

/-- A call has an identity from its own answer, or asked for it less than the
time to live after an earlier answer told it. -/
def Recent (str : Json → String) (acts : List IdentityAct) (i : Nat)
    (id : String) (identity : UserIdentity) : Prop :=
  (∃ answer time, .answer i answer time ∈ acts ∧
      Told str answer id identity) ∨
    ∃ ids called time, .call i ids called ∈ acts ∧ id ∈ ids ∧
      ToldAt str acts id identity time ∧ time ≤ called ∧
        called < time + cacheTtl

/-- All that a call holds is recent. -/
def CallRecent (str : Json → String) (acts : List IdentityAct) (i : Nat) :
    IdentityCall → Prop
  | .idle => True
  | .looking found _ => ∀ id identity, found.get? id = some identity →
      Recent str acts i id identity
  | .done identities => ∀ id identity, identities.get? id = some identity →
      Recent str acts i id identity

/-- The cache is backed by the answers of the run, none of which is of the
future, and the calls hold recent identities. -/
structure RecentClient (str : Json → String) (acts : List IdentityAct)
    (σ : UsersClient) : Prop where
  backed : Backed cacheTtl (ToldAt str acts) σ.cache
  past : ∀ id identity time, ToldAt str acts id identity time → time ≤ σ.now
  calls : ∀ i, CallRecent str acts i (σ.calls i)

theorem ToldAt.snoc {id : String} {identity : UserIdentity} {time : Instant}
    (htold : ToldAt str acts id identity time) (act : IdentityAct) :
    ToldAt str (acts ++ [act]) id identity time := by
  obtain ⟨j, answer, hmem, htold⟩ := htold
  exact ⟨j, answer, List.mem_append_left _ hmem, htold⟩

theorem Recent.snoc {i : Nat} {id : String} {identity : UserIdentity}
    (hrecent : Recent str acts i id identity) (act : IdentityAct) :
    Recent str (acts ++ [act]) i id identity := by
  rcases hrecent with ⟨answer, time, hmem, htold⟩ |
    ⟨ids, called, time, hmem, hid, htold, hpast, hlate⟩
  · exact Or.inl ⟨answer, time, List.mem_append_left _ hmem, htold⟩
  · exact Or.inr ⟨ids, called, time, List.mem_append_left _ hmem, hid,
      htold.snoc act, hpast, hlate⟩

theorem CallRecent.snoc {i : Nat} {call : IdentityCall}
    (hrecent : CallRecent str acts i call) (act : IdentityAct) :
    CallRecent str (acts ++ [act]) i call := by
  cases call with
  | idle => trivial
  | looking found misses =>
      exact fun id identity hget => (hrecent id identity hget).snoc act
  | done identities =>
      exact fun id identity hget => (hrecent id identity hget).snoc act

theorem callRecent_update {calls : Nat → IdentityCall} {i : Nat}
    {call : IdentityCall} (hcalls : ∀ j, CallRecent str acts j (calls j))
    (hcall : CallRecent str (acts ++ [act]) i call) (j : Nat) :
    CallRecent str (acts ++ [act]) j (Function.update calls i call j) := by
  by_cases hj : j = i
  · subst hj
    rw [Function.update_self]
    exact hcall
  · rw [Function.update_of_ne hj]
    exact (hcalls j).snoc act

theorem ToldAt.of_snoc_call {i : Nat} {ids : List String} {now : Instant}
    {id : String} {identity : UserIdentity} {time : Instant}
    (htold : ToldAt str (acts ++ [.call i ids now]) id identity time) :
    ToldAt str acts id identity time := by
  obtain ⟨j, answer, hmem, htold⟩ := htold
  rcases List.mem_append.mp hmem with hold | hlast
  · exact ⟨j, answer, hold, htold⟩
  · simp at hlast

theorem ToldAt.of_snoc_answer {i : Nat} {answer : LookupAnswer}
    {now : Instant} {id : String} {identity : UserIdentity} {time : Instant}
    (htold : ToldAt str (acts ++ [.answer i answer now]) id identity time) :
    ToldAt str acts id identity time ∨ time = now := by
  obtain ⟨j, told, hmem, htold⟩ := htold
  rcases List.mem_append.mp hmem with hold | hlast
  · exact Or.inl ⟨j, told, hold, htold⟩
  · rw [List.mem_singleton, IdentityAct.answer.injEq] at hlast
    exact Or.inr hlast.2.2

theorem begin_recent {i : Nat} {ids : List String} {now : Instant}
    (hclient : RecentClient str acts σ) (hnow : σ.now ≤ now) :
    CallRecent str (acts ++ [.call i ids now]) i
      (beginIdentities σ.cache now ids) := by
  have hfresh : ∀ id identity,
      (freshIdentities σ.cache now ids).get? id = some identity →
        Recent str (acts ++ [.call i ids now]) i id identity := by
    intro id identity hget
    rw [get?_freshIdentities] at hget
    split at hget
    · next hid =>
        obtain ⟨time, htold, hlate⟩ := hclient.backed.fresh? hget
        exact Or.inr ⟨ids, now, time,
          List.mem_append_right _ List.mem_cons_self, hid, htold.snoc _,
          (hclient.past id identity time htold).trans hnow, hlate⟩
    · cases hget
  unfold beginIdentities
  split
  · intro id identity hget
    cases hget
  · simp only
    split
    · exact hfresh
    · exact hfresh

theorem end_recent {i : Nat} {answer : LookupAnswer} {now : Instant}
    {found : Dict String UserIdentity}
    (hfound : ∀ id identity, found.get? id = some identity →
      Recent str acts i id identity) :
    CallRecent str (acts ++ [.answer i answer now]) i
      (.done (endIdentities str found answer)) := by
  intro id identity hget
  unfold endIdentities at hget
  split at hget
  · exact (hfound id identity hget).snoc _
  · next fetched hfetched =>
      rw [get?_enter] at hget
      rcases Option.or_eq_some_iff.mp hget with hlast | ⟨_, hget⟩
      · exact Or.inl ⟨answer, now,
          List.mem_append_right _ List.mem_cons_self, fetched, hfetched,
          mem_of_lastOf hlast⟩
      · exact (hfound id identity hget).snoc _

theorem RecentClient.step (hclient : RecentClient str acts σ)
    (hstep : IdentityStep str σ act σ') :
    RecentClient str (acts ++ [act]) σ' := by
  cases hstep with
  | call ids hnow hidle =>
      refine ⟨hclient.backed.mono fun _ _ _ htold => htold.snoc _, ?_,
        callRecent_update hclient.calls (begin_recent hclient hnow)⟩
      exact fun id identity time htold =>
        (hclient.past id identity time htold.of_snoc_call).trans hnow
  | @answer i now found misses answer hnow hlooking =>
      have hfound := hclient.calls i
      rw [hlooking] at hfound
      refine ⟨?_, ?_, callRecent_update hclient.calls (end_recent hfound)⟩
      · have hbacked := hclient.backed.mono fun _ _ _ htold =>
          htold.snoc (.answer i answer now)
        unfold cacheIdentities
        split
        · exact hbacked
        · next fetched hfetched =>
            exact hbacked.store fun item hitem =>
              ⟨i, answer, List.mem_append_right _ List.mem_cons_self, fetched,
                hfetched, hitem⟩
      · intro id identity time htold
        rcases htold.of_snoc_answer with hold | rfl
        · exact (hclient.past id identity time hold).trans hnow
        · exact le_rfl

end Recent

theorem recentClient_of_run {str : Json → String} {start σ : UsersClient}
    {acts : List IdentityAct} (hfresh : start.Fresh)
    (hrun : Run (IdentityStep str) start acts σ) : RecentClient str acts σ := by
  refine hrun.labelled_invariant (RecentClient str) ?_
    fun _ _ _ _ hclient hstep => hclient.step hstep
  refine ⟨?_, ?_, fun j => ?_⟩
  · rw [hfresh.cache]
    exact .empty
  · rintro id identity time ⟨_, _, hmem, _⟩
    cases hmem
  · rw [hfresh.idle j]
    trivial

theorem Recent.userId {str : Json → String} {acts : List IdentityAct} {i : Nat}
    {id : String} {identity : UserIdentity}
    (hrecent : Recent str acts i id identity) : identity.userId = id := by
  rcases hrecent with ⟨_, _, _, htold⟩ | ⟨_, _, _, _, _, ⟨_, _, _, htold⟩, _⟩
  · exact htold.userId
  · exact htold.userId

/-- However calls overlap, whatever fails and whatever else is answered: every
identity that a call returns is the one of its id, told by the auth API in the
call's own answer or in one less than a minute before the call asked. -/
theorem identities_recent (str : Json → String) {start σ : UsersClient}
    {acts : List IdentityAct} (hfresh : start.Fresh)
    (hrun : Run (IdentityStep str) start acts σ) {i : Nat}
    {identities : Dict String UserIdentity}
    (hdone : σ.calls i = .done identities) {id : String}
    {identity : UserIdentity} (hget : identities.get? id = some identity) :
    identity.userId = id ∧ Recent str acts i id identity := by
  have hcall := (recentClient_of_run hfresh hrun).calls i
  rw [hdone] at hcall
  have hrecent := hcall id identity hget
  exact ⟨hrecent.userId, hrecent⟩

namespace IdentityWitness

def text : Json → String
  | .str text => text
  | _ => ""

def reply : Json :=
  .arr [.obj [("id", .str "u"), ("display_name", .str "Viper")]]

def viper : UserIdentity where
  userId := "u"
  email := .null
  displayName := .str "Viper"
  avatarUrl := .null

def fresh : UsersClient where
  cache := []
  now := 0
  calls _ := .idle

/-- A call has begun. -/
def asked (i : Nat) (ids : List String) (now : Instant) (σ : UsersClient) :
    UsersClient :=
  { σ with
    now := now
    calls := Function.update σ.calls i (beginIdentities σ.cache now ids) }

/-- The first call has asked for an identity and was told it. -/
def known : UsersClient where
  cache := cacheIdentities text [] 1 (.ok reply)
  now := 1
  calls := Function.update (asked 0 ["u"] 0 fresh).calls 0
    (.done (endIdentities text [] (.ok reply)))

theorem run_known : Run (IdentityStep text) fresh
    [.call 0 ["u"] 0, .answer 0 (.ok reply) 1] known :=
  (Run.refl.snoc (@IdentityStep.call text fresh 0 0 ["u"] (by decide) rfl)).snoc
    (@IdentityStep.answer text _ 0 1 _ _ (.ok reply) (by decide) rfl)

end IdentityWitness

open IdentityWitness in
/-- The second call serves what the first was told. -/
theorem identities_recent_second :
    viper.userId = "u" ∧ Recent text [.call 0 ["u"] 0,
      .answer 0 (.ok reply) 1, .call 1 ["u"] 2] 1 "u" viper :=
  @identities_recent text fresh (asked 1 ["u"] 2 known) _ ⟨rfl, fun _ => rfl⟩
    (run_known.snoc (@IdentityStep.call text known 1 2 ["u"] (by decide) rfl))
    1 [("u", viper)] rfl "u" viper rfl

/-- The answers a call is given. -/
def answersTo (i : Nat) (acts : List IdentityAct) : List LookupAnswer :=
  acts.filterMap fun act =>
    match act with
    | .answer j answer _ => if j = i then some answer else none
    | .call .. => none

/-- What an answer tells of an id. -/
def toldOf (str : Json → String) (answer : LookupAnswer) (id : String) :
    Option UserIdentity :=
  (identitiesOf str answer).bind (lastOf · id)

/-- Where a call stands after these answers. -/
def CallServed (str : Json → String) (cache : Cache String UserIdentity)
    (now : Instant) (ids : List String) (call : IdentityCall) :
    List LookupAnswer → Prop
  | [] => call = beginIdentities cache now ids
  | [answer] => missedIds cache now ids ≠ [] ∧
      call = .done (endIdentities str (freshIdentities cache now ids) answer)
  | _ => False

section Served

variable {str : Json → String} {σ σ₁ σ' : UsersClient}
  {acts : List IdentityAct} {act : IdentityAct} {i : Nat} {ids : List String}
  {now : Instant}

theorem answersTo_snoc (acts : List IdentityAct) (act : IdentityAct) :
    answersTo i (acts ++ [act]) = answersTo i acts ++ answersTo i [act] :=
  List.filterMap_append

theorem CallServed.looking {cache : Cache String UserIdentity}
    {found : Dict String UserIdentity} {misses : List String}
    {answers : List LookupAnswer}
    (hserved : CallServed str cache now ids (.looking found misses) answers) :
    answers = [] ∧ found = freshIdentities cache now ids ∧
      misses = missedIds cache now ids ∧ misses ≠ [] := by
  match answers with
  | [] =>
      have hbegin : IdentityCall.looking found misses =
        beginIdentities cache now ids := hserved
      unfold beginIdentities at hbegin
      split at hbegin
      · cases hbegin
      · simp only at hbegin
        split at hbegin
        · cases hbegin
        · next hmisses =>
            cases hbegin
            exact ⟨rfl, rfl, rfl, by simpa using hmisses⟩
  | [answer] =>
      have hend : IdentityCall.looking found misses = .done _ := hserved.2
      cases hend
  | _ :: _ :: _ => exact hserved.elim

theorem CallServed.length_le {cache : Cache String UserIdentity}
    {call : IdentityCall} {answers : List LookupAnswer}
    (hserved : CallServed str cache now ids call answers) :
    answers.length ≤ 1 := by
  match answers with
  | [] => exact Nat.zero_le 1
  | [_] => exact Nat.le_refl 1
  | _ :: _ :: _ => exact hserved.elim

theorem missedIds_eq_nil {cache : Cache String UserIdentity} :
    missedIds cache now ids = [] ↔
      ∀ id ∈ ids, (cache.fresh? now id).isSome := by
  rw [List.eq_nil_iff_forall_not_mem]
  refine forall_congr' fun id => ?_
  rw [mem_missedIds, not_and, Option.isSome_iff_ne_none]

theorem begin_done {cache : Cache String UserIdentity}
    {identities : Dict String UserIdentity}
    (hdone : .done identities = beginIdentities cache now ids) :
    (∀ id ∈ ids, (cache.fresh? now id).isSome) ∧
      identities = freshIdentities cache now ids := by
  unfold beginIdentities at hdone
  split at hdone
  · next hempty =>
      obtain rfl := List.isEmpty_iff.mp hempty
      cases hdone
      exact ⟨fun id hid => absurd hid List.not_mem_nil, rfl⟩
  · simp only at hdone
    split at hdone
    · next hmisses =>
        cases hdone
        exact ⟨missedIds_eq_nil.mp (List.isEmpty_iff.mp hmisses), rfl⟩
    · cases hdone

theorem get?_endIdentities (found : Dict String UserIdentity)
    (answer : LookupAnswer) (id : String) :
    (endIdentities str found answer).get? id =
      (toldOf str answer id).or (found.get? id) := by
  unfold endIdentities toldOf
  cases identitiesOf str answer with
  | none => rfl
  | some fetched => exact get?_enter found fetched id

/-- How a call that is done was served. -/
theorem CallServed.done {cache : Cache String UserIdentity}
    {identities : Dict String UserIdentity} {answers : List LookupAnswer}
    (hserved : CallServed str cache now ids (.done identities) answers) :
    ((∀ id ∈ ids, (cache.fresh? now id).isSome) ↔ answers = []) ∧
      ∀ id, identities.get? id =
        (answers.head?.bind (toldOf str · id)).or
          (if id ∈ ids then cache.fresh? now id else none) := by
  match answers with
  | [] =>
      obtain ⟨hfresh, rfl⟩ := begin_done hserved
      exact ⟨iff_of_true hfresh rfl, get?_freshIdentities⟩
  | [answer] =>
      obtain ⟨hmisses, hend⟩ := hserved
      cases hend
      refine ⟨iff_of_false (fun hfresh => hmisses ?_) (List.cons_ne_nil _ _),
        fun id => ?_⟩
      · exact missedIds_eq_nil.mpr hfresh
      · rw [get?_endIdentities, get?_freshIdentities]
        rfl
  | _ :: _ :: _ => exact hserved.elim

theorem CallServed.step {cache : Cache String UserIdentity}
    (hserved : CallServed str cache now ids (σ.calls i) (answersTo i acts))
    (hbegun : σ.calls i ≠ .idle) (hstep : IdentityStep str σ act σ') :
    CallServed str cache now ids (σ'.calls i)
        (answersTo i (acts ++ [act])) ∧ σ'.calls i ≠ .idle := by
  rw [answersTo_snoc]
  cases hstep with
  | @call j later other hlater hidle =>
      have hne : i ≠ j := by
        rintro rfl
        exact hbegun hidle
      have hcall : Function.update σ.calls j
          (beginIdentities σ.cache later other) i = σ.calls i :=
        Function.update_of_ne hne _ _
      have hnone : answersTo i [.call j other later] = [] := rfl
      simp only [hcall, hnone, List.append_nil]
      exact ⟨hserved, hbegun⟩
  | @answer j later found misses answer hlater hlooking =>
      by_cases hj : i = j
      · subst hj
        rw [hlooking] at hserved
        obtain ⟨hnone, rfl, rfl, hmisses⟩ := hserved.looking
        have hone : answersTo i [.answer i answer later] = [answer] := by
          simp [answersTo]
        simp only [hnone, hone, Function.update_self]
        exact ⟨⟨hmisses, rfl⟩, by simp⟩
      · have hnone : answersTo i [.answer j answer later] = [] := by
          simp [answersTo, Ne.symm hj]
        have hcall : Function.update σ.calls j
            (.done (endIdentities str found answer)) i = σ.calls i :=
          Function.update_of_ne hj _ _
        simp only [hcall, hnone, List.append_nil]
        exact ⟨hserved, hbegun⟩

theorem beginIdentities_ne_idle (cache : Cache String UserIdentity) :
    beginIdentities cache now ids ≠ .idle := by
  unfold beginIdentities
  split
  · simp
  · simp only
    split <;> simp

theorem callServed_of_run
    (hstart : IdentityStep str σ (.call i ids now) σ₁)
    (hrun : Run (IdentityStep str) σ₁ acts σ') :
    CallServed str σ.cache now ids (σ'.calls i) (answersTo i acts) := by
  have hinv : CallServed str σ.cache now ids (σ'.calls i) (answersTo i acts) ∧
      σ'.calls i ≠ .idle := by
    refine hrun.labelled_invariant
      (fun acts σ' => CallServed str σ.cache now ids (σ'.calls i)
        (answersTo i acts) ∧ σ'.calls i ≠ .idle) ?_
      fun _ _ _ _ hserved hstep => hserved.1.step hserved.2 hstep
    cases hstart with
    | call _ hnow hidle =>
        simp only [Function.update_self]
        exact ⟨rfl, beginIdentities_ne_idle σ.cache⟩
  exact hinv.1

end Served

/-- From any state of the process, through any steps of other calls: a call
waits for one answer at most, to a request for exactly its distinct ids that
are not fresh, and none if there are none; it ends with what that answer tells,
and for the rest with what was fresh when it began, so a failed lookup costs
nothing that was known. -/
theorem identities_served (str : Json → String) {σ σ₁ σ' : UsersClient}
    {acts : List IdentityAct} {i : Nat} {ids : List String} {now : Instant}
    (hstart : IdentityStep str σ (.call i ids now) σ₁)
    (hrun : Run (IdentityStep str) σ₁ acts σ') :
    (answersTo i acts).length ≤ 1 ∧
      (∀ found misses, σ'.calls i = .looking found misses →
        misses ≠ [] ∧ misses.Nodup ∧ ∀ id, id ∈ misses ↔
          id ∈ ids ∧ σ.cache.fresh? now id = none) ∧
      ∀ identities, σ'.calls i = .done identities →
        ((∀ id ∈ ids, (σ.cache.fresh? now id).isSome) ↔
          answersTo i acts = []) ∧
        ∀ id, identities.get? id =
          ((answersTo i acts).head?.bind (toldOf str · id)).or
            (if id ∈ ids then σ.cache.fresh? now id else none) := by
  have hserved := callServed_of_run hstart hrun
  refine ⟨hserved.length_le, fun found misses hlooking => ?_,
    fun identities hdone => ?_⟩
  · rw [hlooking] at hserved
    obtain ⟨_, _, rfl, hmisses⟩ := hserved.looking
    exact ⟨hmisses, (nodup_uniqueIds ids).filter _, fun id =>
      mem_missedIds⟩
  · rw [hdone] at hserved
    exact hserved.done

open IdentityWitness in
/-- The lookup of the other id fails, and the known identity is served. -/
theorem identities_served_known :
    Dict.get? [("u", viper)] "u" =
      (none : Option UserIdentity).or
        (if "u" ∈ ["u", "v"] then known.cache.fresh? 2 "u" else none) :=
  ((@identities_served text known _ _ _ 1 ["u", "v"] 2
    (.call ["u", "v"] (by decide) rfl)
    (Run.refl.snoc (@IdentityStep.answer text _ 1 3 _ _ (.error ()) (by decide)
      rfl))).2.2 [("u", viper)] rfl).2 "u"

end LiveStandings
