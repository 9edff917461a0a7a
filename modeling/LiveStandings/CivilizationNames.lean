/-
The shared map of civilization names.  Every request of a process reads it
through one cache, which a caller renews under a lock after checking twice
that it is stale; between the checks, and while the query runs, others go on.
-/
import LiveStandings.Models
import LiveStandings.Library.Runs
import Mathlib.Data.Int.Order.Basic
import Mathlib.Order.Lattice
import Mathlib.Logic.Function.Basic

namespace LiveStandings

open KeyedTable PyJson Runs

/-- `_CIVILIZATION_NAMES_TTL_SECONDS`, in microseconds. -/
def civilizationNamesTtl : Int := 300000000

/-- `dict(rows.all())`. -/
def namesOf (table : Table Civilization.civilizationId) : Dict Int String :=
  table.rows.map fun row => (row.civilizationId, row.name)

/-- Where a caller stands in `_civilization_names`. -/
inductive NamesCall where
  | idle
  | waiting
  | querying
  | answered (names : Dict Int String)
  | done (names : Dict Int String)
  | failed

/-- The caller is between its second check and the end of the `async with`. -/
def NamesCall.holds : NamesCall → Bool
  | .querying | .answered _ => true
  | _ => false

/-- The cache of a process with its lock, its callers, and the table. -/
structure NamesCache where
  cached : Option (Dict Int String)
  cachedAt : Int
  locked : Bool
  table : Table Civilization.civilizationId
  now : Int
  calls : Nat → NamesCall

/-- The check before the lock, and under it. -/
def NamesCache.fresh? (σ : NamesCache) (now : Int) :
    Option (Dict Int String) :=
  σ.cached.filter fun _ => now - σ.cachedAt < civilizationNamesTtl

def NamesCache.set (σ : NamesCache) (i : Nat) (call : NamesCall) : NamesCache :=
  { σ with calls := Function.update σ.calls i call }

/-- A step of a caller, or a write to the table. -/
inductive NamesAct where
  | hit (i : Nat) (now : Int)
  | wait (i : Nat) (now : Int)
  | share (i : Nat) (now : Int)
  | query (i : Nat) (now : Int)
  | answer (i : Nat)
  | store (i : Nat) (now : Int)
  | fail (i : Nat)
  | cancel (i : Nat)
  | write (table : Table Civilization.civilizationId)

def NamesAct.caller? : NamesAct → Option Nat
  | .hit i _ | .wait i _ | .share i _ | .query i _ | .store i _ => some i
  | .answer i | .fail i | .cancel i => some i
  | .write _ => none

/-- The steps.  A caller is suspended where it waits for the lock and where it
waits for the answer of its query, and nowhere else. -/
inductive NamesStep : NamesCache → NamesAct → NamesCache → Prop where
  | hit {σ : NamesCache} {i : Nat} {now : Int} {names : Dict Int String}
      (hnow : σ.now ≤ now) (hidle : σ.calls i = .idle)
      (hfresh : σ.fresh? now = some names) :
      NamesStep σ (.hit i now) { σ.set i (.done names) with now := now }
  | wait {σ : NamesCache} {i : Nat} {now : Int}
      (hnow : σ.now ≤ now) (hidle : σ.calls i = .idle)
      (hstale : σ.fresh? now = none) :
      NamesStep σ (.wait i now) { σ.set i .waiting with now := now }
  /-- Another caller has renewed the cache meanwhile. -/
  | share {σ : NamesCache} {i : Nat} {now : Int} {names : Dict Int String}
      (hnow : σ.now ≤ now) (hwaiting : σ.calls i = .waiting)
      (hfree : σ.locked = false) (hfresh : σ.fresh? now = some names) :
      NamesStep σ (.share i now) { σ.set i (.done names) with now := now }
  | query {σ : NamesCache} {i : Nat} {now : Int}
      (hnow : σ.now ≤ now) (hwaiting : σ.calls i = .waiting)
      (hfree : σ.locked = false) (hstale : σ.fresh? now = none) :
      NamesStep σ (.query i now)
        { σ.set i .querying with now := now, locked := true }
  /-- The database runs the query. -/
  | answer {σ : NamesCache} {i : Nat} (hquerying : σ.calls i = .querying) :
      NamesStep σ (.answer i) (σ.set i (.answered (namesOf σ.table)))
  | store {σ : NamesCache} {i : Nat} {now : Int} {names : Dict Int String}
      (hnow : σ.now ≤ now) (hanswered : σ.calls i = .answered names) :
      NamesStep σ (.store i now)
        { σ.set i (.done names) with
          now := now, cached := some names, cachedAt := now, locked := false }
  /-- The query raises, or the caller is cancelled while it runs. -/
  | fail {σ : NamesCache} {i : Nat} (hholds : (σ.calls i).holds) :
      NamesStep σ (.fail i) { σ.set i .failed with locked := false }
  | cancel {σ : NamesCache} {i : Nat} (hwaiting : σ.calls i = .waiting) :
      NamesStep σ (.cancel i) (σ.set i .failed)
  | write {σ : NamesCache} (table : Table Civilization.civilizationId) :
      NamesStep σ (.write table) { σ with table := table }

/-- A process that has just started. -/
structure NamesCache.Fresh (σ : NamesCache) : Prop where
  cached : σ.cached = none
  locked : σ.locked = false
  idle : ∀ i, σ.calls i = .idle

/-- How many queries were sent. -/
def queries (acts : List NamesAct) : Nat :=
  acts.countP fun act => match act with | .query .. => true | _ => false

/-- How many of them failed. -/
def failures (acts : List NamesAct) : Nat :=
  acts.countP fun act => match act with | .fail _ => true | _ => false

/-- How many of them were stored. -/
def stores (acts : List NamesAct) : Nat :=
  acts.countP fun act => match act with | .store .. => true | _ => false

section Lock

variable {σ σ' : NamesCache} {acts : List NamesAct} {act : NamesAct}

@[simp] theorem NamesCache.set_calls (σ : NamesCache) (i : Nat)
    (call : NamesCall) :
    (σ.set i call).calls = Function.update σ.calls i call := rfl

/-- The lock is held by the one caller between its check and its release. -/
structure LockHeld (σ : NamesCache) : Prop where
  unique : ∀ i j, (σ.calls i).holds → (σ.calls j).holds → i = j
  locked : ∀ i, (σ.calls i).holds → σ.locked = true

theorem LockHeld.of_update {calls : Nat → NamesCall} {i : Nat}
    {call : NamesCall} (hcall : call.holds = false) {j : Nat}
    (hholds : (Function.update calls i call j).holds) :
    j ≠ i ∧ (calls j).holds := by
  by_cases hj : j = i
  · subst hj
    rw [Function.update_self, hcall] at hholds
    cases hholds
  · rw [Function.update_of_ne hj] at hholds
    exact ⟨hj, hholds⟩

theorem LockHeld.pass (hheld : LockHeld σ) {i : Nat} {call : NamesCall}
    (hcall : call.holds = false)
    (hcalls : σ'.calls = Function.update σ.calls i call)
    (hlocked : σ'.locked = σ.locked) : LockHeld σ' := by
  constructor
  · intro j k hj hk
    rw [hcalls] at hj hk
    exact hheld.unique j k (LockHeld.of_update hcall hj).2
      (LockHeld.of_update hcall hk).2
  · intro j hj
    rw [hcalls] at hj
    rw [hlocked]
    exact hheld.locked j (LockHeld.of_update hcall hj).2

theorem LockHeld.release (hheld : LockHeld σ) {i : Nat} {call : NamesCall}
    (hholds : (σ.calls i).holds) (hcall : call.holds = false)
    (hcalls : σ'.calls = Function.update σ.calls i call) : LockHeld σ' := by
  have hnone (j : Nat) : ¬ (σ'.calls j).holds := by
    intro hj
    rw [hcalls] at hj
    obtain ⟨hne, hj⟩ := LockHeld.of_update hcall hj
    exact hne (hheld.unique j i hj hholds)
  exact ⟨fun j k hj => absurd hj (hnone j), fun j hj => absurd hj (hnone j)⟩

theorem LockHeld.step (hheld : LockHeld σ) (hstep : NamesStep σ act σ') :
    LockHeld σ' := by
  cases hstep with
  | hit hnow hidle hfresh => exact hheld.pass rfl rfl rfl
  | wait hnow hidle hstale => exact hheld.pass rfl rfl rfl
  | share hnow hwaiting hfree hfresh => exact hheld.pass rfl rfl rfl
  | @query i now hnow hwaiting hfree hstale =>
      have hnone (j : Nat) : ¬ (σ.calls j).holds := by
        intro hj
        have hlocked := hheld.locked j hj
        rw [hfree] at hlocked
        cases hlocked
      have honly (j : Nat)
          (hj : (Function.update σ.calls i .querying j).holds) : j = i := by
        by_contra hne
        rw [Function.update_of_ne hne] at hj
        exact hnone j hj
      exact ⟨fun j k hj hk => (honly j hj).trans (honly k hk).symm,
        fun _ _ => rfl⟩
  | @answer i hquerying =>
      have hold (j : Nat) (hj : (Function.update σ.calls i
          (.answered (namesOf σ.table)) j).holds) : (σ.calls j).holds := by
        by_cases hji : j = i
        · rw [hji, hquerying]
          rfl
        · rwa [Function.update_of_ne hji] at hj
      exact ⟨fun j k hj hk => hheld.unique j k (hold j hj) (hold k hk),
        fun j hj => hheld.locked j (hold j hj)⟩
  | store hnow hanswered =>
      exact hheld.release (by rw [hanswered]; rfl) rfl rfl
  | fail hholds => exact hheld.release hholds rfl rfl
  | cancel hwaiting => exact hheld.pass rfl rfl rfl
  | write table => exact ⟨hheld.unique, hheld.locked⟩

end Lock

section Spacing

variable {σ σ' : NamesCache} {acts : List NamesAct} {act : NamesAct}
  {start now : Int}

theorem fresh?_eq_none_iff :
    σ.fresh? now = none ↔
      σ.cached = none ∨ σ.cachedAt + civilizationNamesTtl ≤ now := by
  rw [NamesCache.fresh?, Option.filter_eq_none_iff]
  cases σ.cached with
  | none => simp
  | some names =>
      simp only [Option.some.injEq, forall_eq', decide_eq_true_eq,
        reduceCtorEq, false_or]
      omega

theorem fresh?_eq_some_iff {names : Dict Int String} :
    σ.fresh? now = some names ↔
      σ.cached = some names ∧ now < σ.cachedAt + civilizationNamesTtl := by
  rw [NamesCache.fresh?, Option.filter_eq_some_iff, decide_eq_true_eq]
  refine and_congr_right fun _ => ?_
  omega

/-- Each query was stored or failed, or is the one in flight; what is stored is
a time to live apart. -/
structure QueriesSpaced (start : Int) (acts : List NamesAct)
    (σ : NamesCache) : Prop where
  held : LockHeld σ
  sent : queries acts =
    stores acts + failures acts + if σ.locked then 1 else 0
  cached : σ.cached = none → stores acts = 0
  past : start ≤ σ.now
  spaced : 0 < stores acts →
    start + (stores acts - 1) * civilizationNamesTtl ≤ σ.cachedAt ∧
      σ.cachedAt ≤ σ.now
  flight : 0 < stores acts → σ.locked = true →
    σ.cachedAt + civilizationNamesTtl ≤ σ.now

theorem queries_snoc (acts : List NamesAct) (act : NamesAct) :
    queries (acts ++ [act]) = queries acts + queries [act] :=
  List.countP_append

theorem stores_snoc (acts : List NamesAct) (act : NamesAct) :
    stores (acts ++ [act]) = stores acts + stores [act] :=
  List.countP_append

theorem failures_snoc (acts : List NamesAct) (act : NamesAct) :
    failures (acts ++ [act]) = failures acts + failures [act] :=
  List.countP_append

theorem QueriesSpaced.pass (hspaced : QueriesSpaced start acts σ)
    (hheld : LockHeld σ') (hqueries : queries [act] = 0)
    (hstores : stores [act] = 0) (hfailures : failures [act] = 0)
    (hcached : σ'.cached = σ.cached) (hcachedAt : σ'.cachedAt = σ.cachedAt)
    (hlocked : σ'.locked = σ.locked) (hnow : σ.now ≤ σ'.now) :
    QueriesSpaced start (acts ++ [act]) σ' := by
  have hsent : queries (acts ++ [act]) = queries acts := by
    rw [queries_snoc, hqueries, Nat.add_zero]
  have hstored : stores (acts ++ [act]) = stores acts := by
    rw [stores_snoc, hstores, Nat.add_zero]
  have hfailed : failures (acts ++ [act]) = failures acts := by
    rw [failures_snoc, hfailures, Nat.add_zero]
  constructor
  · exact hheld
  · rw [hsent, hstored, hfailed, hlocked]
    exact hspaced.sent
  · rw [hcached, hstored]
    exact hspaced.cached
  · exact hspaced.past.trans hnow
  · rw [hstored, hcachedAt]
    exact fun hpos => ⟨(hspaced.spaced hpos).1,
      (hspaced.spaced hpos).2.trans hnow⟩
  · rw [hstored, hlocked, hcachedAt]
    exact fun hpos hheld => (hspaced.flight hpos hheld).trans hnow

theorem QueriesSpaced.outlived (hspaced : QueriesSpaced start acts σ)
    (hstale : σ.fresh? now = none) (hpos : 0 < stores acts) :
    σ.cachedAt + civilizationNamesTtl ≤ now := by
  rcases fresh?_eq_none_iff.mp hstale with hnone | hlate
  · exact absurd (hspaced.cached hnone) hpos.ne'
  · exact hlate

theorem QueriesSpaced.query (hspaced : QueriesSpaced start acts σ) {i : Nat}
    (hnow : σ.now ≤ now) (hfree : σ.locked = false)
    (hstale : σ.fresh? now = none)
    (hheld : LockHeld { σ.set i .querying with now := now, locked := true }) :
    QueriesSpaced start (acts ++ [.query i now])
      { σ.set i .querying with now := now, locked := true } := by
  have hsent : queries (acts ++ [.query i now]) = queries acts + 1 :=
    queries_snoc acts _
  have hstored : stores (acts ++ [.query i now]) = stores acts :=
    stores_snoc acts _
  have hfailed : failures (acts ++ [.query i now]) = failures acts :=
    failures_snoc acts _
  have hsettled : queries acts = stores acts + failures acts := by
    simpa [hfree] using hspaced.sent
  constructor
  · exact hheld
  · rw [hsent, hstored, hfailed, hsettled]
    rfl
  · rw [hstored]
    exact hspaced.cached
  · exact hspaced.past.trans hnow
  · rw [hstored]
    exact fun hpos => ⟨(hspaced.spaced hpos).1,
      (hspaced.spaced hpos).2.trans hnow⟩
  · rw [hstored]
    exact fun hpos _ => hspaced.outlived hstale hpos

theorem QueriesSpaced.inFlight (hspaced : QueriesSpaced start acts σ)
    (hlocked : σ.locked = true) :
    queries acts = stores acts + failures acts + 1 := by
  simpa [hlocked] using hspaced.sent

theorem QueriesSpaced.store (hspaced : QueriesSpaced start acts σ) {i : Nat}
    {names : Dict Int String} (hnow : σ.now ≤ now) (hlocked : σ.locked = true)
    (hheld : LockHeld { σ.set i (.done names) with
      now := now, cached := some names, cachedAt := now, locked := false }) :
    QueriesSpaced start (acts ++ [.store i now])
      { σ.set i (.done names) with
        now := now, cached := some names, cachedAt := now,
        locked := false } := by
  have hsent : queries (acts ++ [.store i now]) = queries acts :=
    queries_snoc acts _
  have hstored : stores (acts ++ [.store i now]) = stores acts + 1 :=
    stores_snoc acts _
  have hfailed : failures (acts ++ [.store i now]) = failures acts :=
    failures_snoc acts _
  have hpast := hspaced.past
  constructor
  · exact hheld
  · rw [hsent, hstored, hfailed, hspaced.inFlight hlocked]
    exact Nat.add_right_comm _ _ _
  · intro hnone
    cases hnone
  · exact hpast.trans hnow
  · intro _
    rw [hstored]
    refine ⟨?_, le_rfl⟩
    rcases Nat.eq_zero_or_pos (stores acts) with hzero | hpos
    · rw [hzero]
      simp only [civilizationNamesTtl]
      omega
    · have hfirst := (hspaced.spaced hpos).1
      have hflight := hspaced.flight hpos hlocked
      simp only [civilizationNamesTtl] at hfirst hflight ⊢
      omega
  · intro _ hlocked
    cases hlocked

theorem QueriesSpaced.fail (hspaced : QueriesSpaced start acts σ) {i : Nat}
    (hlocked : σ.locked = true)
    (hheld : LockHeld { σ.set i .failed with locked := false }) :
    QueriesSpaced start (acts ++ [.fail i])
      { σ.set i .failed with locked := false } := by
  have hsent : queries (acts ++ [.fail i]) = queries acts :=
    queries_snoc acts _
  have hstored : stores (acts ++ [.fail i]) = stores acts :=
    stores_snoc acts _
  have hfailed : failures (acts ++ [.fail i]) = failures acts + 1 :=
    failures_snoc acts _
  constructor
  · exact hheld
  · rw [hsent, hstored, hfailed]
    exact hspaced.inFlight hlocked
  · rw [hstored]
    exact hspaced.cached
  · exact hspaced.past
  · rw [hstored]
    exact hspaced.spaced
  · intro _ hlocked
    cases hlocked

theorem QueriesSpaced.step (hspaced : QueriesSpaced start acts σ)
    (hstep : NamesStep σ act σ') :
    QueriesSpaced start (acts ++ [act]) σ' := by
  have hheld := hspaced.held.step hstep
  cases hstep with
  | hit hnow hidle hfresh => exact hspaced.pass hheld rfl rfl rfl rfl rfl rfl hnow
  | wait hnow hidle hstale =>
      exact hspaced.pass hheld rfl rfl rfl rfl rfl rfl hnow
  | share hnow hwaiting hfree hfresh =>
      exact hspaced.pass hheld rfl rfl rfl rfl rfl rfl hnow
  | query hnow hwaiting hfree hstale =>
      exact hspaced.query hnow hfree hstale hheld
  | answer hquerying =>
      exact hspaced.pass hheld rfl rfl rfl rfl rfl rfl le_rfl
  | @store i now names hnow hanswered =>
      have hlocked := hspaced.held.locked i (by rw [hanswered]; rfl)
      exact hspaced.store hnow hlocked hheld
  | @fail i hholds =>
      exact hspaced.fail (hspaced.held.locked i hholds) hheld
  | cancel hwaiting => exact hspaced.pass hheld rfl rfl rfl rfl rfl rfl le_rfl
  | write table => exact hspaced.pass hheld rfl rfl rfl rfl rfl rfl le_rfl

theorem queriesSpaced_of_run {start : NamesCache} (hfresh : start.Fresh)
    (hrun : Run NamesStep start acts σ) :
    QueriesSpaced start.now acts σ := by
  refine hrun.labelled_invariant (QueriesSpaced start.now) ?_
    fun _ _ _ _ hspaced hstep => hspaced.step hstep
  have hnone (i : Nat) : ¬ (start.calls i).holds := by
    rw [hfresh.idle i]
    exact Bool.false_ne_true
  constructor
  · exact ⟨fun i _ hi => absurd hi (hnone i), fun i hi => absurd hi (hnone i)⟩
  · rw [hfresh.locked]
    rfl
  · exact fun _ => rfl
  · exact le_rfl
  · exact fun hpos => absurd hpos (Nat.lt_irrefl 0)
  · exact fun hpos => absurd hpos (Nat.lt_irrefl 0)

end Spacing

/-- However callers overlap and whatever fails: one of them at most is at the
table, and beside the first query and those that failed there is at most one
for each time to live that has passed. -/
theorem names_queries_spaced {start σ : NamesCache} {acts : List NamesAct}
    (hfresh : start.Fresh) (hrun : Run NamesStep start acts σ) :
    (∀ i j, (σ.calls i).holds → (σ.calls j).holds → i = j) ∧
      (queries acts : Int) * civilizationNamesTtl ≤
        (failures acts + 1) * civilizationNamesTtl + (σ.now - start.now) := by
  have hspaced := queriesSpaced_of_run hfresh hrun
  refine ⟨hspaced.held.unique, ?_⟩
  have hsent := hspaced.sent
  have hpast := hspaced.past
  have hflight := hspaced.flight
  have hstored := hspaced.spaced
  simp only [civilizationNamesTtl] at hflight hstored ⊢
  rcases Nat.eq_zero_or_pos (stores acts) with hzero | hpos
  · split at hsent
    · omega
    · omega
  · split at hsent
    · have hlate := hflight hpos ‹_›
      have hfirst := (hstored hpos).1
      omega
    · have hfirst := hstored hpos
      omega

namespace NamesWitness

def britons : Table Civilization.civilizationId :=
  ⟨[⟨5, "Britons", 0⟩], List.nodup_singleton _⟩

def fresh : NamesCache where
  cached := none
  cachedAt := 0
  locked := false
  table := britons
  now := 0
  calls _ := .idle

theorem start : fresh.Fresh := ⟨rfl, rfl, fun _ => rfl⟩

/-- Two callers wait, and the second shares what the first reads. -/
def acts : List NamesAct :=
  [.wait 0 0, .wait 1 0, .query 0 0, .answer 0, .store 0 1, .share 1 2]

theorem run : ∃ σ, Run NamesStep fresh acts σ ∧
    σ.calls 1 = .done [(5, "Britons")] ∧ σ.now = 2 :=
  ⟨_, ((((((Run.refl.snoc (.wait (i := 0) le_rfl rfl rfl)).snoc
    (.wait (i := 1) le_rfl rfl rfl)).snoc
    (.query (i := 0) le_rfl rfl rfl rfl)).snoc (.answer (i := 0) rfl)).snoc
    (.store (i := 0) (by decide) rfl)).snoc
    (.share (i := 1) (by decide) rfl rfl rfl)), rfl, rfl⟩

end NamesWitness

open NamesWitness in
theorem names_queries_spaced_shared :
    (queries acts : Int) * civilizationNamesTtl ≤
      (failures acts + 1) * civilizationNamesTtl + (2 - 0) :=
  let ⟨_, hrun, _, hnow⟩ := run
  hnow ▸ (names_queries_spaced start hrun).2

/-- The table after these steps. -/
def tableAfter (table : Table Civilization.civilizationId)
    (acts : List NamesAct) : Table Civilization.civilizationId :=
  acts.foldl (fun table act =>
    match act with
    | .write later => later
    | _ => table) table

/-- The last thing that befell the caller is that the database answered its
query, with what the table held then. -/
def NamesAnswered (table : Table Civilization.civilizationId)
    (acts : List NamesAct) (i : Nat) (names : Dict Int String) : Prop :=
  ∃ before after, acts = before ++ .answer i :: after ∧
    (∀ act ∈ after, act.caller? ≠ some i) ∧
      names = namesOf (tableAfter table before)

/-- A caller stored the answer of its query. -/
def Stored (table : Table Civilization.civilizationId) (acts : List NamesAct)
    (names : Dict Int String) (time : Int) : Prop :=
  ∃ before i after, acts = before ++ .store i time :: after ∧
    NamesAnswered table before i names

/-- The last thing that befell the caller is that it returned its own answer,
or one that was stored less than the time to live before. -/
def Returned (table : Table Civilization.civilizationId) (acts : List NamesAct)
    (i : Nat) (names : Dict Int String) : Prop :=
  ∃ before act after, acts = before ++ act :: after ∧
    (∀ act ∈ after, act.caller? ≠ some i) ∧
      ((∃ time, act = .store i time ∧ NamesAnswered table before i names) ∨
        ∃ time stored, (act = .hit i time ∨ act = .share i time) ∧
          Stored table before names stored ∧
            time < stored + civilizationNamesTtl)

section Recent

variable {table : Table Civilization.civilizationId} {σ σ' : NamesCache}
  {acts : List NamesAct} {act : NamesAct} {i : Nat} {names : Dict Int String}

theorem NamesAnswered.snoc (hanswered : NamesAnswered table acts i names)
    (hother : act.caller? ≠ some i) :
    NamesAnswered table (acts ++ [act]) i names := by
  obtain ⟨before, after, rfl, hafter, rfl⟩ := hanswered
  refine ⟨before, after ++ [act], by simp, fun other hmem => ?_, rfl⟩
  rcases List.mem_append.mp hmem with hold | hlast
  · exact hafter other hold
  · rwa [List.mem_singleton.mp hlast]

theorem Stored.snoc {time : Int} (hstored : Stored table acts names time)
    (act : NamesAct) : Stored table (acts ++ [act]) names time := by
  obtain ⟨before, j, after, rfl, hanswered⟩ := hstored
  exact ⟨before, j, after ++ [act], by simp, hanswered⟩

theorem Returned.snoc (hreturned : Returned table acts i names)
    (hother : act.caller? ≠ some i) :
    Returned table (acts ++ [act]) i names := by
  obtain ⟨before, last, after, rfl, hafter, hlast⟩ := hreturned
  refine ⟨before, last, after ++ [act], by simp, fun other hmem => ?_, hlast⟩
  rcases List.mem_append.mp hmem with hold | hlast
  · exact hafter other hold
  · rwa [List.mem_singleton.mp hlast]

/-- What a caller holds it was told. -/
def CallTold (table : Table Civilization.civilizationId)
    (acts : List NamesAct) (i : Nat) : NamesCall → Prop
  | .answered names => NamesAnswered table acts i names
  | .done names => Returned table acts i names
  | _ => True

theorem CallTold.snoc {call : NamesCall} (htold : CallTold table acts i call)
    (hother : act.caller? ≠ some i) :
    CallTold table (acts ++ [act]) i call := by
  cases call with
  | answered names => exact NamesAnswered.snoc htold hother
  | done names => exact Returned.snoc htold hother
  | _ => trivial

/-- The cache and the callers hold what the table held. -/
structure NamesTold (table : Table Civilization.civilizationId)
    (acts : List NamesAct) (σ : NamesCache) : Prop where
  current : σ.table = tableAfter table acts
  cached : ∀ names, σ.cached = some names →
    Stored table acts names σ.cachedAt
  calls : ∀ i, CallTold table acts i (σ.calls i)

theorem callTold_update {calls : Nat → NamesCall} {call : NamesCall}
    (hcalls : ∀ j, CallTold table acts j (calls j))
    (hcaller : act.caller? = some i)
    (hcall : CallTold table (acts ++ [act]) i call) (j : Nat) :
    CallTold table (acts ++ [act]) j (Function.update calls i call j) := by
  by_cases hj : j = i
  · subst hj
    rw [Function.update_self]
    exact hcall
  · rw [Function.update_of_ne hj]
    exact (hcalls j).snoc fun hsame =>
      hj (Option.some.inj (hsame.symm.trans hcaller))

theorem tableAfter_snoc (table : Table Civilization.civilizationId)
    (acts : List NamesAct) (act : NamesAct) :
    tableAfter table (acts ++ [act]) = tableAfter (tableAfter table acts) [act] :=
  List.foldl_append

theorem NamesTold.pass (htold : NamesTold table acts σ) (call : NamesCall)
    (hcaller : act.caller? = some i)
    (hcall : CallTold table (acts ++ [act]) i call)
    (hcalls : σ'.calls = Function.update σ.calls i call)
    (hcached : σ'.cached = σ.cached) (hcachedAt : σ'.cachedAt = σ.cachedAt)
    (htable : σ'.table = σ.table) : NamesTold table (acts ++ [act]) σ' := by
  constructor
  · rw [htable, htold.current, tableAfter_snoc]
    cases act with
    | write later => cases hcaller
    | _ => rfl
  · rw [hcached, hcachedAt]
    exact fun names hnames => (htold.cached names hnames).snoc act
  · rw [hcalls]
    exact callTold_update htold.calls hcaller hcall

/-- What the check finds fresh was stored less than a time to live ago. -/
theorem NamesTold.fresh (htold : NamesTold table acts σ) {now : Int}
    (hfresh : σ.fresh? now = some names)
    (hact : act = .hit i now ∨ act = .share i now) :
    Returned table (acts ++ [act]) i names := by
  obtain ⟨hcached, hlate⟩ := fresh?_eq_some_iff.mp hfresh
  exact ⟨acts, act, [], rfl, fun _ hmem => (List.not_mem_nil hmem).elim,
    Or.inr ⟨now, σ.cachedAt, hact, htold.cached names hcached, hlate⟩⟩

theorem NamesTold.step (htold : NamesTold table acts σ)
    (hstep : NamesStep σ act σ') : NamesTold table (acts ++ [act]) σ' := by
  cases hstep with
  | hit hnow hidle hfresh =>
      exact htold.pass (.done _) rfl (htold.fresh hfresh (Or.inl rfl))
        rfl rfl rfl rfl
  | wait hnow hidle hstale =>
      exact htold.pass .waiting rfl trivial rfl rfl rfl rfl
  | share hnow hwaiting hfree hfresh =>
      exact htold.pass (.done _) rfl (htold.fresh hfresh (Or.inr rfl))
        rfl rfl rfl rfl
  | query hnow hwaiting hfree hstale =>
      exact htold.pass .querying rfl trivial rfl rfl rfl rfl
  | @answer i hquerying =>
      have hanswered : NamesAnswered table (acts ++ [.answer i]) i
          (namesOf σ.table) :=
        ⟨acts, [], rfl, fun _ hmem => (List.not_mem_nil hmem).elim,
          congrArg namesOf htold.current⟩
      exact htold.pass (.answered _) rfl hanswered rfl rfl rfl rfl
  | @store i now names hnow hanswered =>
      have hcall := htold.calls i
      rw [hanswered] at hcall
      have hreturned : Returned table (acts ++ [.store i now]) i names :=
        ⟨acts, _, [], rfl, fun _ hmem => (List.not_mem_nil hmem).elim,
          Or.inl ⟨now, rfl, hcall⟩⟩
      constructor
      · rw [tableAfter_snoc, ← htold.current]
        rfl
      · intro stored hstored
        cases hstored
        exact ⟨acts, i, [], rfl, hcall⟩
      · exact callTold_update htold.calls rfl hreturned
  | fail hholds => exact htold.pass .failed rfl trivial rfl rfl rfl rfl
  | cancel hwaiting => exact htold.pass .failed rfl trivial rfl rfl rfl rfl
  | write later =>
      constructor
      · rw [tableAfter_snoc]
        rfl
      · exact fun names hnames => (htold.cached names hnames).snoc _
      · exact fun j => (htold.calls j).snoc fun hsame => nomatch hsame

end Recent

/-- Every map a caller returns is the whole table as it stood when a query read
it; unless the query was the caller's own, its answer was stored less than five
minutes before the caller's check. -/
theorem names_recent {start σ : NamesCache} {acts : List NamesAct}
    (hfresh : start.Fresh) (hrun : Run NamesStep start acts σ) {i : Nat}
    {names : Dict Int String} (hdone : σ.calls i = .done names) :
    Returned start.table acts i names := by
  have htold : NamesTold start.table acts σ := by
    refine hrun.labelled_invariant (NamesTold start.table) ?_
      fun _ _ _ _ htold hstep => htold.step hstep
    refine ⟨rfl, fun names hnames => ?_, fun j => ?_⟩
    · rw [hfresh.cached] at hnames
      cases hnames
    · rw [hfresh.idle j]
      trivial
  have hcall := htold.calls i
  rw [hdone] at hcall
  exact hcall

open NamesWitness in
theorem names_recent_shared :
    Returned britons acts 1 [(5, "Britons")] :=
  let ⟨_, hrun, hdone, _⟩ := run
  names_recent start hrun hdone

end LiveStandings
