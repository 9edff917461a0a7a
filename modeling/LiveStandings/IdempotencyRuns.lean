/-
Keyed writes in flight.  The lookup, the handler and the insert of one
attempt are separate commits, so any number of attempts interleave; the
primary key of the cache is what serializes them.
-/
import LiveStandings.Library.Runs
import LiveStandings.Management
import Mathlib.Logic.Function.Basic

namespace LiveStandings

open KeyedTable PyJson Runs

universe u v

/-- Where one attempt stands.  `ran` records that its own handler was run. -/
inductive Phase where
  | arrived
  | admitted (key : Option String)
  | handled (key : Option String) (outcome : Except Unhandled Response)
  | done (ran : Bool) (outcome : Except Unhandled Response)

variable {I : Type u} {W : Type v}

/-- The cache, the rest of the committed state, and every attempt. -/
structure InFlight (I : Type u) (W : Type v) where
  cache : IdempotencyCache
  world : W
  phase : I → Phase

/-- One step of one attempt, or of anybody else. -/
inductive Act (I : Type u) where
  | lookup (i : I)
  | handle (i : I)
  | settle (i : I)
  | fail (i : I)
  | other

/-- Where the lookup leaves an attempt. -/
def afterLookup : Admission → Phase
  | .passThrough => .admitted none
  | .answered response => .done false (.ok response)
  | .miss key => .admitted (some key)

/-- Where the insert leaves an attempt, and the cache. -/
def afterHandler (hash : Bytes) (key : Option String)
    (outcome : Except Unhandled Response) (cache : IdempotencyCache) :
    Phase × IdempotencyCache :=
  match key with
  | none => (.done true outcome, cache)
  | some key =>
      let (result, cache') := settle key hash outcome cache
      (.done true result, cache')

/-- Whether an attempt's handler has been run. -/
def Phase.ran : Phase → Bool
  | handled _ _ => true
  | done ran _ => ran
  | _ => false

/-- The steps.  An attempt can be lost at any point, its handler's commit
notwithstanding; anybody else may change the world and other keys' rows. -/
inductive Step [DecidableEq I] (app : App W) (requests : I → Request)
    (key : String) :
    InFlight I W → Act I → InFlight I W → Prop where
  | lookup (σ : InFlight I W) (i : I) (harrived : σ.phase i = .arrived) :
      Step app requests key σ (.lookup i)
        { σ with
          phase := Function.update σ.phase i
            (afterLookup (lookup app (requests i) σ.cache σ.world)) }
  | handle (σ : InFlight I W) (i : I) (under : Option String)
      (hadmitted : σ.phase i = .admitted under) :
      Step app requests key σ (.handle i)
        { σ with
          world := (app.callNext (requests i) σ.world).2
          phase := Function.update σ.phase i
            (.handled under (app.callNext (requests i) σ.world).1) }
  | settle (σ : InFlight I W) (i : I) (under : Option String)
      (outcome : Except Unhandled Response)
      (hhandled : σ.phase i = .handled under outcome) :
      Step app requests key σ (.settle i)
        { σ with
          cache := (afterHandler (fingerprint app (requests i)) under outcome
            σ.cache).2
          phase := Function.update σ.phase i
            (afterHandler (fingerprint app (requests i)) under outcome
              σ.cache).1 }
  | fail (σ : InFlight I W) (i : I)
      (hpending : ∀ ran outcome, σ.phase i ≠ .done ran outcome) :
      Step app requests key σ (.fail i)
        { σ with
          phase := Function.update σ.phase i
            (.done (σ.phase i).ran (.error .raised)) }
  | other (σ : InFlight I W) (cache : IdempotencyCache) (world : W)
      (hkey : cache.find? key = σ.cache.find? key) :
      Step app requests key σ .other { σ with cache := cache, world := world }

/-- An attempt the client saw succeed or be refused, and what it saw. -/
def Answered (σ : InFlight I W) (i : I) (ran : Bool)
    (outcome : Except Unhandled Response) : Prop :=
  σ.phase i = .done ran outcome ∧ statusOf outcome < 500

/-- What every interleaving keeps: pending attempts hold the shared key, the
row under it has the shared fingerprint, every answer below 500 is that row,
and only one of those answered ran its handler. -/
structure Serialized (key : String) (hash : Bytes) (σ : InFlight I W) :
    Prop where
  admitted_key : ∀ i under, σ.phase i = .admitted under → under = some key
  handled_key : ∀ i under outcome,
    σ.phase i = .handled under outcome → under = some key
  same_write : ∀ row, σ.cache.find? key = some row →
    row.requestFingerprint = hash
  answer_stored : ∀ i ran outcome, Answered σ i ran outcome →
    ∃ row, σ.cache.find? key = some row ∧
      answerOf outcome = (row.responseStatus, some row.responseBody)
  ran_once : ∀ i j outcome outcome', Answered σ i true outcome →
    Answered σ j true outcome' → i = j

/-- The attempts of one write: the same key, method, path and body. -/
structure Attempts (app : App W) (requests : I → Request) (key : String)
    (hash : Bytes) : Prop where
  keyed : ∀ i, KeyedWrite (requests i) key
  hashed : ∀ i, fingerprint app (requests i) = hash

section Serialization

variable {app : App W} {requests : I → Request} {key : String} {hash : Bytes}
  {σ σ' : InFlight I W}

theorem answered_lookup (hinv : Serialized key hash σ)
    (hattempts : Attempts app requests key hash) (i : I) :
    lookup app (requests i) σ.cache σ.world = .miss key ∨
      ∃ row, σ.cache.find? key = some row ∧
        lookup app (requests i) σ.cache σ.world = .answered row.replay := by
  cases hrow : σ.cache.find? key with
  | none => exact Or.inl (lookup_fresh app σ.world (hattempts.keyed i) hrow)
  | some row =>
      have hhash : row.requestFingerprint = fingerprint app (requests i) :=
        (hinv.same_write row hrow).trans (hattempts.hashed i).symm
      exact Or.inr ⟨row, rfl, lookup_hit (hattempts.keyed i) hrow hhash⟩

variable [DecidableEq I]

/-- Moving one attempt on keeps the invariant when the row under the key, if
any, stays, and an answer below 500 is the stored one; an attempt that ran its
handler is so answered only when nothing was stored before. -/
theorem Serialized.advance (hinv : Serialized key hash σ) (i : I)
    {phase : Phase} {cache : IdempotencyCache} {world : W}
    (hadmitted : ∀ under, phase = .admitted under → under = some key)
    (hhandled : ∀ under outcome,
      phase = .handled under outcome → under = some key)
    (hkeep : ∀ row, σ.cache.find? key = some row →
      cache.find? key = some row)
    (hhash : ∀ row, cache.find? key = some row →
      row.requestFingerprint = hash)
    (hstored : ∀ ran outcome, phase = .done ran outcome →
      statusOf outcome < 500 → ∃ row, cache.find? key = some row ∧
        answerOf outcome = (row.responseStatus, some row.responseBody))
    (hfirst : ∀ outcome, phase = .done true outcome →
      statusOf outcome < 500 → σ.cache.find? key = none) :
    Serialized key hash
      ⟨cache, world, Function.update σ.phase i phase⟩ := by
  have hsplit : ∀ j ran outcome,
      Answered ⟨cache, world, Function.update σ.phase i phase⟩ j ran outcome →
        (j = i ∧ phase = .done ran outcome ∧ statusOf outcome < 500) ∨
          (j ≠ i ∧ Answered σ j ran outcome) := by
    rintro j ran outcome ⟨hphase, hbelow⟩
    by_cases hj : j = i
    · subst hj
      exact Or.inl ⟨rfl, by simpa using hphase, hbelow⟩
    · exact Or.inr ⟨hj, by simpa [hj] using hphase, hbelow⟩
  have hunstored : σ.cache.find? key = none →
      ∀ j ran outcome, ¬ Answered σ j ran outcome := by
    intro hnone j ran outcome hanswered
    obtain ⟨row, hrow, _⟩ := hinv.answer_stored j ran outcome hanswered
    exact absurd (hnone.symm.trans hrow) (by simp)
  constructor
  · intro j under hphase
    by_cases hj : j = i
    · subst hj
      exact hadmitted under (by simpa using hphase)
    · exact hinv.admitted_key j under (by simpa [hj] using hphase)
  · intro j under outcome hphase
    by_cases hj : j = i
    · subst hj
      exact hhandled under outcome (by simpa using hphase)
    · exact hinv.handled_key j under outcome (by simpa [hj] using hphase)
  · exact hhash
  · intro j ran outcome hanswered
    rcases hsplit j ran outcome hanswered with ⟨_, hphase, hbelow⟩ | ⟨_, hold⟩
    · exact hstored ran outcome hphase hbelow
    · obtain ⟨row, hrow, heq⟩ := hinv.answer_stored j ran outcome hold
      exact ⟨row, hkeep row hrow, heq⟩
  · intro j k outcome outcome' hj hk
    rcases hsplit j true outcome hj with ⟨rfl, hphase, hbelow⟩ | ⟨_, hj'⟩
    · rcases hsplit k true outcome' hk with ⟨rfl, _⟩ | ⟨_, hk'⟩
      · rfl
      · exact absurd hk' (hunstored (hfirst outcome hphase hbelow) _ _ _)
    · rcases hsplit k true outcome' hk with ⟨rfl, hphase, hbelow⟩ | ⟨_, hk'⟩
      · exact absurd hj' (hunstored (hfirst outcome' hphase hbelow) _ _ _)
      · exact hinv.ran_once j k _ _ hj' hk'

theorem Serialized.refused (hinv : Serialized key hash σ) (i : I) (ran : Bool)
    {outcome : Except Unhandled Response} {world : W}
    (hstatus : 500 ≤ statusOf outcome) :
    Serialized key hash
      ⟨σ.cache, world, Function.update σ.phase i (.done ran outcome)⟩ := by
  have hnot : ∀ ran' outcome', Phase.done ran outcome = .done ran' outcome' →
      ¬ statusOf outcome' < 500 := by
    intro ran' outcome' hphase hbelow
    simp only [Phase.done.injEq] at hphase
    rw [← hphase.2] at hbelow
    omega
  refine hinv.advance i (by simp) (by simp) (fun _ h => h) hinv.same_write ?_ ?_
  · intro ran' outcome' hphase hbelow
    exact absurd hbelow (hnot ran' outcome' hphase)
  · intro outcome' hphase hbelow
    exact absurd hbelow (hnot true outcome' hphase)

theorem Serialized.step {act : Act I} (hinv : Serialized key hash σ)
    (hattempts : Attempts app requests key hash)
    (hstep : Step app requests key σ act σ') : Serialized key hash σ' := by
  cases hstep with
  | lookup i harrived =>
      rcases answered_lookup hinv hattempts i with hmiss | ⟨row, hrow, hhit⟩
      · rw [hmiss]
        exact hinv.advance i (by simp [afterLookup]) (by simp [afterLookup])
          (fun _ h => h) hinv.same_write (by simp [afterLookup])
          (by simp [afterLookup])
      · rw [hhit]
        refine hinv.advance i (by simp [afterLookup]) (by simp [afterLookup])
          (fun _ h => h) hinv.same_write ?_ (by simp [afterLookup])
        intro ran outcome hphase _
        simp only [afterLookup, Phase.done.injEq] at hphase
        exact ⟨row, hrow, by rw [← hphase.2]; rfl⟩
  | handle i under hadmitted =>
      have hunder := hinv.admitted_key i under hadmitted
      refine hinv.advance i (by simp) ?_ (fun _ h => h) hinv.same_write
        (by simp) (by simp)
      intro under' outcome hphase
      simp only [Phase.handled.injEq] at hphase
      exact hphase.1 ▸ hunder
  | settle i under outcome hhandled =>
      obtain rfl := hinv.handled_key i under outcome hhandled
      rcases hsettle : settle key (fingerprint app (requests i)) outcome
        σ.cache with ⟨result, cache'⟩
      simp only [afterHandler, hsettle]
      rcases settle_cases hsettle with
        ⟨hstatus, rfl⟩ | ⟨response, _, _, hfresh, rfl, rfl⟩
      · exact hinv.refused i true hstatus
      · have hrow : (σ.cache.insertNew (cachedRow key
            (fingerprint app (requests i)) response)).find? key =
              some (cachedRow key (fingerprint app (requests i)) response) := by
          simp [cachedRow, hfresh]
        refine hinv.advance i (by simp) (by simp) ?_ ?_ ?_ fun _ _ _ => hfresh
        · intro row hold
          exact absurd (hfresh.symm.trans hold) (by simp)
        · intro row hnew
          obtain rfl := Option.some.inj (hrow.symm.trans hnew)
          exact hattempts.hashed i
        · intro ran outcome' hphase _
          simp only [Phase.done.injEq] at hphase
          exact ⟨_, hrow, by rw [← hphase.2]; rfl⟩
  | fail i hpending => exact hinv.refused i _ (Nat.le_refl 500)
  | other cache world hkey =>
      exact ⟨hinv.admitted_key, hinv.handled_key,
        fun row hrow => hinv.same_write row (hkey ▸ hrow),
        fun j ran outcome hanswered => by
          obtain ⟨row, hrow, heq⟩ := hinv.answer_stored j ran outcome hanswered
          exact ⟨row, hkey.trans hrow, heq⟩,
        hinv.ran_once⟩

end Serialization

/-- Left alone, the steps of one attempt are `dispatch`. -/
theorem uninterrupted_attempt [DecidableEq I] {app : App W}
    {requests : I → Request} {key : String} (σ : InFlight I W) (i : I)
    (harrived : σ.phase i = .arrived) :
    ∃ acts σ', Run (Step app requests key) σ acts σ' ∧
      (∃ ran, σ'.phase i =
        .done ran (dispatch app (requests i) σ.cache σ.world).1) ∧
      (σ'.cache, σ'.world) =
        (dispatch app (requests i) σ.cache σ.world).2 := by
  have hlook : Step app requests key σ (.lookup i) _ := .lookup σ i harrived
  have hfirst := Run.refl.snoc hlook
  cases hlookup : lookup app (requests i) σ.cache σ.world with
  | answered response =>
      refine ⟨_, _, hfirst, ⟨false, ?_⟩, ?_⟩
      · simp [hlookup, afterLookup, dispatch_of_answered hlookup]
      · simp [dispatch_of_answered hlookup]
  | passThrough =>
      refine ⟨_, _, (hfirst.snoc (.handle _ i none ?_)).snoc
        (.settle _ i none (app.callNext (requests i) σ.world).1 ?_),
        ⟨true, ?_⟩, ?_⟩
      · simp [hlookup, afterLookup]
      · simp
      · simp [afterHandler, dispatch_of_passThrough hlookup]
      · simp [afterHandler, dispatch_of_passThrough hlookup]
  | miss under =>
      refine ⟨_, _, (hfirst.snoc (.handle _ i (some under) ?_)).snoc
        (.settle _ i (some under) (app.callNext (requests i) σ.world).1 ?_),
        ⟨true, ?_⟩, ?_⟩
      · simp [hlookup, afterLookup]
      · simp
      · simp [afterHandler, dispatch_of_miss hlookup]
      · simp [afterHandler, dispatch_of_miss hlookup]

/-- Any number of attempts at one keyed write, however their steps
interleave: at most one of those answered below 500 ran the handler, and all
of those answered below 500 saw the same status and body. -/
theorem keyed_write_at_most_once [DecidableEq I] {app : App W} {requests : I → Request}
    {key : String} {start σ : InFlight I W} {acts : List (Act I)}
    (hkeyed : ∀ i, KeyedWrite (requests i) key)
    (hsame : ∀ i j, SameWrite (requests i) (requests j))
    (hfirst : ∀ i row, start.cache.find? key = some row →
      row.requestFingerprint = fingerprint app (requests i))
    (hstart : ∀ i, start.phase i = .arrived)
    (hrun : Run (Step app requests key) start acts σ) :
    (∀ i j outcome outcome', Answered σ i true outcome →
      Answered σ j true outcome' → i = j) ∧
    ∀ i j ran ran' outcome outcome', Answered σ i ran outcome →
      Answered σ j ran' outcome' → answerOf outcome = answerOf outcome' := by
  have hserialized : ∀ i, Serialized key (fingerprint app (requests i)) σ := by
    intro i
    refine hrun.invariant (Serialized key (fingerprint app (requests i))) ?_
      fun s act s' hinv hstep => hinv.step
        ⟨hkeyed, fun j => (hsame j i).fingerprint_eq⟩ hstep
    constructor
    · intro j under hphase
      simp [hstart j] at hphase
    · intro j under outcome hphase
      simp [hstart j] at hphase
    · exact hfirst i
    · rintro j ran outcome ⟨hphase, _⟩
      simp [hstart j] at hphase
    · rintro j k outcome outcome' ⟨hphase, _⟩
      simp [hstart j] at hphase
  constructor
  · intro i j outcome outcome' hi hj
    exact (hserialized i).ran_once i j outcome outcome' hi hj
  · intro i j ran ran' outcome outcome' hi hj
    obtain ⟨row, hrow, heq⟩ := (hserialized i).answer_stored i ran outcome hi
    obtain ⟨row', hrow', heq'⟩ :=
      (hserialized i).answer_stored j ran' outcome' hj
    obtain rfl := Option.some.inj (hrow.symm.trans hrow')
    exact heq.trans heq'.symm

open ManagementWitness in
/-- Two attempts that both miss: the first is answered 201, the second finds
the slug taken and then the key, and is answered 500. -/
theorem keyed_write_at_most_once_race :
    ∃ (acts : List (Act Bool)) (σ : InFlight Bool Backend),
      Run (Step (managementApp platform)
        (fun _ => createRequest (some "access-token")) key)
        ⟨.empty, backend, fun _ => .arrived⟩ acts σ ∧
      (∃ response, response.status = 201 ∧
        σ.phase true = .done true (.ok response)) ∧
      σ.phase false = .done true (.error .integrityError) ∧
      (∀ i j outcome outcome', Answered σ i true outcome →
        Answered σ j true outcome' → i = j) ∧
      ∀ i j ran ran' outcome outcome', Answered σ i ran outcome →
        Answered σ j ran' outcome' → answerOf outcome = answerOf outcome' := by
  obtain ⟨acts, σ, hrun, hfirst, hsecond⟩ : ∃ acts σ,
      Run (Step (managementApp platform)
        (fun _ : Bool => createRequest (some "access-token")) key)
        ⟨.empty, backend, fun _ => .arrived⟩ acts σ ∧
      (∃ response, response.status = 201 ∧
        σ.phase true = .done true (.ok response)) ∧
      σ.phase false = .done true (.error .integrityError) :=
    ⟨_, _, ((((((Run.refl.snoc (.lookup _ true rfl)).snoc
      (.lookup _ false rfl)).snoc (.handle _ true _ rfl)).snoc
      (.handle _ false _ rfl)).snoc (.settle _ true _ _ rfl)).snoc
      (.settle _ false _ _ rfl)), ⟨_, rfl, rfl⟩, rfl⟩
  exact ⟨acts, σ, hrun, hfirst, hsecond,
    keyed_write_at_most_once (fun _ => ⟨by decide, by decide⟩)
      (fun _ _ => ⟨rfl, rfl, rfl, rfl⟩) (by simp) (fun _ => rfl) hrun⟩

end LiveStandings
