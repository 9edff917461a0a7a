/-
A cache whose entries expire.  Each entry carries the instant up to which it
may be served; against a log of what was stored when, an entry that is served
is one that was stored less than the time to live ago.
-/
import LiveStandings.Library.PyJson
import Mathlib.Order.Lattice
import Mathlib.Data.Int.Order.Basic

namespace TtlCache

open PyJson

universe u v

variable {K : Type u} {V : Type v}

/-- Each value with the instant its entry expires at. -/
abbrev Cache (K : Type u) (V : Type v) := Dict K (V × Int)

/-- Entering pairs in a dict one after the other. -/
def enter (dict : Dict K V) (items : List (K × V)) : Dict K V :=
  items.foldl (fun dict item => dict.set item.1 item.2) dict

theorem enter_eq (dict : Dict K V) (items : List (K × V)) :
    enter dict items = items.reverse ++ dict := by
  induction items generalizing dict with
  | nil => rfl
  | cons item items ih =>
      rw [enter, List.foldl_cons, ← enter, ih, Dict.set, List.reverse_cons,
        List.append_assoc]
      rfl

variable [DecidableEq K]

/-- The value of an entry that has not expired. -/
def Cache.fresh? (cache : Cache K V) (now : Int) (k : K) : Option V :=
  (cache.get? k).bind fun entry => if now < entry.2 then some entry.1 else none

/-- Storing pairs one after the other, all with one expiry. -/
def Cache.store (cache : Cache K V) (expiresAt : Int) (items : List (K × V)) :
    Cache K V :=
  items.foldl (fun cache item => cache.set item.1 (item.2, expiresAt)) cache

/-- The last value entered under a key. -/
def lastOf (items : List (K × V)) (k : K) : Option V :=
  Dict.get? items.reverse k

/-- A later pair wins over an earlier one and over what was there. -/
theorem get?_enter (dict : Dict K V) (items : List (K × V)) (k : K) :
    (enter dict items).get? k = (lastOf items k).or (dict.get? k) := by
  rw [enter_eq]
  exact Dict.get?_update dict items.reverse k

theorem mem_of_lastOf {items : List (K × V)} {k : K} {value : V}
    (hlast : lastOf items k = some value) : (k, value) ∈ items :=
  List.mem_reverse.mp (Dict.mem_of_get? hlast)

theorem get?_store (cache : Cache K V) (expiresAt : Int)
    (items : List (K × V)) (k : K) :
    (cache.store expiresAt items).get? k =
      ((lastOf items k).map (·, expiresAt)).or (cache.get? k) := by
  induction items generalizing cache with
  | nil => rfl
  | cons item items ih =>
      have hstep : cache.store expiresAt (item :: items) =
          Cache.store (cache.set item.1 (item.2, expiresAt)) expiresAt items :=
        rfl
      have hlast : lastOf (item :: items) k =
          (lastOf items k).or (if k = item.1 then some item.2 else none) := by
        have happend := Dict.get?_update [item] items.reverse k
        rw [lastOf, List.reverse_cons]
        have hsingle := Dict.get?_set [] item.1 k item.2
        exact happend.trans (congrArg _ hsingle)
      rw [hstep, ih, hlast, Dict.get?_set]
      cases lastOf items k with
      | some value => rfl
      | none => split <;> rfl

/-- Every entry of a cache was stored a time to live before it expires. -/
def Backed (ttl : Int) (stored : K → V → Int → Prop) (cache : Cache K V) :
    Prop :=
  ∀ k value expiresAt, cache.get? k = some (value, expiresAt) →
    stored k value (expiresAt - ttl)

variable {ttl now : Int} {stored stored' : K → V → Int → Prop}
  {cache : Cache K V}

theorem Backed.empty : Backed ttl stored [] := by
  intro k value expiresAt hget
  cases hget

theorem Backed.mono (hbacked : Backed ttl stored cache)
    (hlog : ∀ k value time, stored k value time → stored' k value time) :
    Backed ttl stored' cache :=
  fun k value expiresAt hget => hlog _ _ _ (hbacked k value expiresAt hget)

theorem Backed.store (hbacked : Backed ttl stored cache)
    {items : List (K × V)} (hlog : ∀ item ∈ items, stored item.1 item.2 now) :
    Backed ttl stored (cache.store (now + ttl) items) := by
  intro k value expiresAt hget
  rw [get?_store] at hget
  cases hlast : lastOf items k with
  | none =>
      rw [hlast] at hget
      exact hbacked k value expiresAt hget
  | some last =>
      rw [hlast] at hget
      obtain ⟨rfl, rfl⟩ : last = value ∧ now + ttl = expiresAt := by
        simpa using hget
      rw [Int.add_sub_cancel]
      exact hlog _ (mem_of_lastOf hlast)

/-- What a backed cache serves was stored less than a time to live ago. -/
theorem Backed.fresh? (hbacked : Backed ttl stored cache) {k : K} {value : V}
    (hfresh : cache.fresh? now k = some value) :
    ∃ time, stored k value time ∧ now < time + ttl := by
  obtain ⟨⟨found, expiresAt⟩, hget, hlive⟩ := Option.bind_eq_some_iff.mp hfresh
  split at hlive
  · next hnow =>
      cases hlive
      refine ⟨expiresAt - ttl, hbacked k found expiresAt hget, ?_⟩
      have hexpiry : now < expiresAt := hnow
      omega
  · cases hlive

end TtlCache
