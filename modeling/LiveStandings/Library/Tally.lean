/-
Tables filled key by key, new keys going to the end, and the amounts added up
in them.  Grouping rows by a key loses none of them, so what the groups add up
to is what the rows add up to.
-/
import Mathlib.Data.List.Dedup
import Mathlib.Data.List.Induction
import Mathlib.Data.List.Perm.Basic
import Mathlib.Algebra.BigOperators.Group.List.Basic

namespace Tally

universe u v w

variable {K : Type u} {V : Type v} {R : Type w} [DecidableEq K]

/-- Change the entry of `k`. -/
def upsert (change : Option V → V) (k : K) : List (K × V) → List (K × V)
  | [] => [(k, change none)]
  | entry :: rest =>
      if entry.1 = k then (k, change (some entry.2)) :: rest
      else entry :: upsert change k rest

theorem lookup_upsert (change : Option V → V) (k k' : K)
    (entries : List (K × V)) :
    (upsert change k entries).lookup k' =
      if k' = k then some (change (entries.lookup k)) else entries.lookup k' := by
  induction entries with
  | nil =>
      rw [upsert, List.lookup_cons]
      by_cases hk : k' = k
      · simp [hk]
      · simp [hk, beq_false_of_ne hk]
  | cons entry rest ih =>
      rw [upsert]
      by_cases hentry : entry.1 = k
      · rw [if_pos hentry, List.lookup_cons, List.lookup_cons,
          List.lookup_cons, hentry]
        by_cases hk : k' = k
        · simp [hk]
        · simp [hk, beq_false_of_ne hk]
      · rw [if_neg hentry, List.lookup_cons, ih, List.lookup_cons,
          List.lookup_cons, beq_false_of_ne (Ne.symm hentry)]
        by_cases hk : k' = k
        · simp [hk, beq_false_of_ne (Ne.symm hentry)]
        · simp [hk]

theorem upsert_of_fresh (change : Option V → V) {k : K}
    {entries : List (K × V)} (hfresh : k ∉ entries.map (·.1)) :
    upsert change k entries = entries ++ [(k, change none)] := by
  induction entries with
  | nil => rfl
  | cons entry rest ih =>
      rw [List.map_cons, List.mem_cons, not_or] at hfresh
      rw [upsert, if_neg (Ne.symm hfresh.1), ih hfresh.2, List.cons_append]

theorem keys_upsert_of_mem (change : Option V → V) {k : K}
    {entries : List (K × V)} (hmem : k ∈ entries.map (·.1)) :
    (upsert change k entries).map (·.1) = entries.map (·.1) := by
  induction entries with
  | nil => simp at hmem
  | cons entry rest ih =>
      rw [upsert]
      by_cases hentry : entry.1 = k
      · rw [if_pos hentry, List.map_cons, List.map_cons, hentry]
      · have hrest := (List.mem_cons.mp hmem).resolve_left (Ne.symm hentry)
        rw [if_neg hentry, List.map_cons, List.map_cons, ih hrest]

theorem nodup_upsert (change : Option V → V) (k : K) {entries : List (K × V)}
    (hnodup : (entries.map (·.1)).Nodup) :
    ((upsert change k entries).map (·.1)).Nodup := by
  by_cases hmem : k ∈ entries.map (·.1)
  · rwa [keys_upsert_of_mem change hmem]
  · rw [upsert_of_fresh change hmem, List.map_append, List.map_singleton,
      ← List.concat_eq_append]
    exact hnodup.concat hmem

section Nested

variable {J : Type*} [DecidableEq J]

/-- `table.setdefault(k, {})[j] = value`. -/
def assign (table : List (K × List (J × V))) (row : K × J × V) :
    List (K × List (J × V)) :=
  upsert (fun inner => upsert (fun _ => row.2.2) row.2.1 (inner.getD []))
    row.1 table

end Nested

theorem mem_of_lookup {entries : List (K × V)} {k : K} {value : V}
    (hlookup : entries.lookup k = some value) : (k, value) ∈ entries := by
  obtain ⟨before, after, rfl, _⟩ := List.lookup_eq_some_iff.mp hlookup
  simp

/-- An entry of a table is what is found under its key. -/
theorem lookup_of_mem {entries : List (K × V)}
    (hnodup : (entries.map (·.1)).Nodup) {entry : K × V}
    (hentry : entry ∈ entries) : entries.lookup entry.1 = some entry.2 := by
  induction entries with
  | nil => simp at hentry
  | cons first rest ih =>
      rw [List.map_cons, List.nodup_cons] at hnodup
      rw [List.lookup_cons]
      rcases List.mem_cons.mp hentry with rfl | hrest
      · simp
      · have hne : entry.1 ≠ first.1 := fun heq =>
          hnodup.1 (heq ▸ List.mem_map_of_mem hrest)
        rw [beq_false_of_ne hne]
        exact ih hnodup.2 hrest

section Groups

variable (key : R → K)

/-- `GROUP BY`: each key with its rows. -/
def groupBy (rows : List R) : List (K × List R) :=
  (rows.map key).dedup.map fun k => (k, rows.filter (key · = k))

variable [AddCommMonoid V] (value : R → V)

end Groups

section Amounts

variable [AddCommMonoid V]

/-- Rows without a value add nothing. -/
theorem sum_filterMap (value : R → Option V) (rows : List R) :
    (rows.filterMap value).sum = (rows.map fun row => (value row).getD 0).sum := by
  induction rows with
  | nil => rfl
  | cons row rows ih =>
      rw [List.filterMap_cons, List.map_cons, List.sum_cons, ← ih]
      cases value row with
      | none => simp
      | some value => rw [Option.getD_some, List.sum_cons]

/-- `tally = counts.setdefault(k, zero)`, then `tally += value`. -/
def add (counts : List (K × V)) (entry : K × V) : List (K × V) :=
  upsert (fun tally => tally.getD 0 + entry.2) entry.1 counts

/-- Add up whole tables. -/
def merge (tables : List (List (K × V))) : List (K × V) :=
  tables.foldl (fun counts table => table.foldl add counts) []

end Amounts

section Collect

variable (push : Option V → R → V) (key : R → K)

/-- A dict loop: each row is pushed onto the entry of its key. -/
def collect (entries : List (K × V)) (rows : List R) : List (K × V) :=
  rows.foldl (fun entries row => upsert (push · row) (key row) entries) entries

/-- What is collected under a key are the rows of that key, in order. -/
theorem lookup_collect (entries : List (K × V)) (rows : List R) (k : K) :
    (collect push key entries rows).lookup k =
      (rows.filter (key · = k)).foldl (fun held row => some (push held row))
        (entries.lookup k) := by
  induction rows generalizing entries with
  | nil => rfl
  | cons row rows ih =>
      have hstep : collect push key entries (row :: rows) =
          collect push key (upsert (push · row) (key row) entries) rows := rfl
      rw [hstep, ih, lookup_upsert]
      by_cases hk : key row = k
      · subst hk
        simp
      · rw [if_neg (Ne.symm hk), List.filter_cons_of_neg (by simpa using hk)]

theorem nodup_collect {entries : List (K × V)} (rows : List R)
    (hnodup : (entries.map (·.1)).Nodup) :
    ((collect push key entries rows).map (·.1)).Nodup := by
  induction rows generalizing entries with
  | nil => exact hnodup
  | cons row rows ih => exact ih (nodup_upsert _ _ hnodup)

/-- Keys are met in the order of the rows. -/
theorem keys_collect_sublist (entries : List (K × V)) (rows : List R) :
    ((collect push key entries rows).map (·.1)).Sublist
      (entries.map (·.1) ++ rows.map key) := by
  induction rows generalizing entries with
  | nil => simp [collect]
  | cons row rows ih =>
      have hrest := ih (upsert (push · row) (key row) entries)
      refine hrest.trans ?_
      rw [List.map_cons]
      by_cases hmem : key row ∈ entries.map (·.1)
      · rw [keys_upsert_of_mem _ hmem]
        exact List.Sublist.append_left (List.sublist_cons_self ..) _
      · rw [upsert_of_fresh _ hmem, List.map_append, List.append_assoc]
        exact List.Sublist.refl _

end Collect

end Tally
