/-
Partial maps laid over each other.  A map that starts as a floor and takes in
each load laid over that floor has, under every key, the value of the last
load, else the floor's, else the latest one any load had; no key is lost.
-/
import Mathlib.Data.List.Basic
import Mathlib.Data.List.Induction

namespace Overlay

universe u v

variable {K : Type u} {V : Type v}

/-- The entries of `top`, and those of `bottom` under other keys. -/
def overlay (top bottom : K → Option V) : K → Option V :=
  fun k => (top k).or (bottom k)

/-- Take in a load laid over the floor. -/
def refresh (floor current load : K → Option V) : K → Option V :=
  overlay (overlay load floor) current

/-- What the last of the loads with this key has under it. -/
def latest (loads : List (K → Option V)) (k : K) : Option V :=
  loads.reverse.findSome? fun load => load k

theorem latest_snoc (loads : List (K → Option V)) (load : K → Option V)
    (k : K) :
    latest (loads ++ [load]) k = (load k).or (latest loads k) := by
  rw [latest, List.reverse_append, List.reverse_singleton,
    List.singleton_append, List.findSome?_cons]
  cases load k with
  | none => rfl
  | some value => rfl

/-- The value of the last load, else the floor's, else the latest of any. -/
def settled (floor : K → Option V) (loads : List (K → Option V)) (k : K) :
    Option V :=
  ((loads.getLast?.bind (· k)).or (floor k)).or (latest loads k)

/-- The last load is one of those the latest value is looked for in. -/
theorem last_or_latest (loads : List (K → Option V)) (k : K) :
    (loads.getLast?.bind (· k)).or (latest loads k) = latest loads k := by
  induction loads using List.reverseRecOn with
  | nil => rfl
  | append_singleton loads load _ =>
      rw [latest_snoc, List.getLast?_concat, Option.bind_some]
      cases load k with
      | none => rfl
      | some value => rfl

theorem foldl_refresh (floor : K → Option V) (loads : List (K → Option V))
    (k : K) :
    loads.foldl (refresh floor) floor k = settled floor loads k := by
  induction loads using List.reverseRecOn with
  | nil => simp [settled, latest]
  | append_singleton loads load ih =>
      rw [List.foldl_concat, refresh, overlay, overlay, ih, settled, settled,
        latest_snoc, List.getLast?_concat, Option.bind_some]
      cases load k with
      | some value => rfl
      | none =>
          cases floor k with
          | some value => rfl
          | none => simpa using last_or_latest loads k

/-- What is loaded later takes no key away. -/
theorem foldl_refresh_isSome (floor : K → Option V)
    (loads : List (K → Option V)) {current : K → Option V} {k : K}
    (hpresent : (current k).isSome) :
    (loads.foldl (refresh floor) current k).isSome := by
  induction loads generalizing current with
  | nil => exact hpresent
  | cons load loads ih =>
      apply ih
      rw [refresh, overlay, Option.isSome_or, hpresent, Bool.or_true]

/-- The keys of the map are the floor's and those of its loads. -/
theorem foldl_refresh_isSome_iff (floor : K → Option V)
    (loads : List (K → Option V)) (k : K) :
    (loads.foldl (refresh floor) floor k).isSome ↔
      (floor k).isSome ∨ ∃ load ∈ loads, (load k).isSome := by
  induction loads using List.reverseRecOn with
  | nil => simp
  | append_singleton loads load ih =>
      rw [List.foldl_concat, refresh, overlay, overlay, Option.isSome_or,
        Option.isSome_or, Bool.or_eq_true, Bool.or_eq_true, ih]
      simp only [List.mem_append, List.mem_singleton, or_and_right, exists_or,
        exists_eq_left]
      grind

/-- The values of the map are the floor's and those of its loads. -/
theorem foldl_refresh_values (P : V → Prop) {floor current : K → Option V}
    {loads : List (K → Option V)} (hfloor : ∀ k, ∀ value ∈ floor k, P value)
    (hcurrent : ∀ k, ∀ value ∈ current k, P value)
    (hloads : ∀ load ∈ loads, ∀ k, ∀ value ∈ load k, P value) :
    ∀ k, ∀ value ∈ loads.foldl (refresh floor) current k, P value := by
  induction loads generalizing current with
  | nil => exact hcurrent
  | cons load loads ih =>
      apply ih
      · intro k value hvalue
        rw [refresh, overlay, overlay, Option.mem_def, Option.or_eq_some_iff,
          Option.or_eq_some_iff] at hvalue
        rcases hvalue with (hload | ⟨_, hfloored⟩) | ⟨_, hold⟩
        · exact hloads load List.mem_cons_self k value hload
        · exact hfloor k value hfloored
        · exact hcurrent k value hold
      · intro other hother
        exact hloads other (List.mem_cons_of_mem _ hother)

end Overlay
