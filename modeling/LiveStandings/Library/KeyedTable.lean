/-
Rows under a primary key.  A table is a list of rows no two of which share
their key.  Its writes are the ones `INSERT ... ON CONFLICT` and
`DELETE ... WHERE` can make, so every table built here keeps its key unique.
-/
import Mathlib.Data.List.Nodup
import Mathlib.Data.List.Basic

namespace KeyedTable

universe u v

variable {R : Type u} {K : Type v}

/-- A list of rows together with the proof that `key` is a primary key. -/
@[ext] structure Table (key : R → K) where
  rows : List R
  keys_nodup : (rows.map key).Nodup

variable {key : R → K}

/-- The table without rows. -/
def Table.empty : Table key := ⟨[], List.nodup_nil⟩

@[simp] theorem Table.rows_empty : (Table.empty : Table key).rows = [] := rfl

instance [DecidableEq R] : DecidableEq (Table key) := fun left right =>
  decidable_of_iff (left.rows = right.rows) Table.ext_iff.symm

/-- Two rows of one table with the same key are the same row. -/
theorem Table.eq_of_key_eq (table : Table key) {left right : R}
    (hleft : left ∈ table.rows) (hright : right ∈ table.rows)
    (hkey : key left = key right) : left = right :=
  List.inj_on_of_nodup_map table.keys_nodup hleft hright hkey

/-- `DELETE ... WHERE NOT keep`. -/
def Table.keepWhere (table : Table key) (keep : R → Bool) : Table key where
  rows := table.rows.filter keep
  keys_nodup := (List.filter_sublist.map key).nodup table.keys_nodup

@[simp] theorem Table.rows_keepWhere (table : Table key) (keep : R → Bool) :
    (table.keepWhere keep).rows = table.rows.filter keep := rfl

/-- `UPDATE ... SET` of columns outside the key. -/
def Table.mapRows (table : Table key) (f : R → R)
    (hkeep : ∀ row, key (f row) = key row) : Table key where
  rows := table.rows.map f
  keys_nodup := by
    have hkeys : (table.rows.map f).map key = table.rows.map key := by
      rw [List.map_map]
      exact List.map_congr_left fun row _ => hkeep row
    exact hkeys ▸ table.keys_nodup

@[simp] theorem Table.rows_mapRows (table : Table key) (f : R → R)
    (hkeep : ∀ row, key (f row) = key row) :
    (table.mapRows f hkeep).rows = table.rows.map f := rfl

variable [DecidableEq K]

/-- The row stored under `k`. -/
def Table.find? (table : Table key) (k : K) : Option R :=
  table.rows.find? fun row => decide (key row = k)

theorem Table.mem_of_find? (table : Table key) {k : K} {row : R}
    (hfind : table.find? k = some row) : row ∈ table.rows :=
  List.mem_of_find?_eq_some hfind

theorem Table.key_of_find? (table : Table key) {k : K} {row : R}
    (hfind : table.find? k = some row) : key row = k := by
  rw [Table.find?] at hfind
  simpa using List.find?_some hfind

theorem Table.find?_eq_some_iff (table : Table key) {k : K} {row : R} :
    table.find? k = some row ↔ row ∈ table.rows ∧ key row = k := by
  constructor
  · intro hfind
    exact ⟨table.mem_of_find? hfind, table.key_of_find? hfind⟩
  · rintro ⟨hmem, rfl⟩
    cases hfind : table.find? (key row) with
    | none =>
        have hnot := List.find?_eq_none.mp hfind row hmem
        simp at hnot
    | some found =>
        rw [table.eq_of_key_eq (table.mem_of_find? hfind) hmem
          (table.key_of_find? hfind)]

theorem Table.find?_eq_none_iff (table : Table key) {k : K} :
    table.find? k = none ↔ ∀ row ∈ table.rows, key row ≠ k := by
  simp [Table.find?]

theorem Table.find?_key (table : Table key) {row : R}
    (hmem : row ∈ table.rows) : table.find? (key row) = some row :=
  table.find?_eq_some_iff.mpr ⟨hmem, rfl⟩

@[simp] theorem Table.find?_empty (k : K) :
    (Table.empty : Table key).find? k = none := rfl

/-- Under a unique key a filter finds at most the one row. -/
theorem filter_key_eq {rows : List R} (hnodup : (rows.map key).Nodup) (k : K) :
    (rows.filter fun row => decide (key row = k)) =
      (rows.find? fun row => decide (key row = k)).toList := by
  induction rows with
  | nil => rfl
  | cons row rows ih =>
      rw [List.map_cons, List.nodup_cons] at hnodup
      by_cases hkey : key row = k
      · have hnone : (rows.filter fun row => decide (key row = k)) = [] := by
          rw [List.filter_eq_nil_iff]
          intro other hother
          have hne : key other ≠ key row := fun heq =>
            hnodup.1 (List.mem_map.mpr ⟨other, hother, heq⟩)
          simpa [hkey] using hne
        simp [hkey, hnone]
      · simp [hkey, ih hnodup.2]

/-- Insert `row`, or apply `onConflict` to the row already under its key. -/
def writeRow (key : R → K) (row : R) (onConflict : R → R) : List R → List R
  | [] => [row]
  | head :: tail =>
      if key head = key row then onConflict head :: tail
      else head :: writeRow key row onConflict tail

theorem keys_writeRow (row : R) (onConflict : R → R)
    (hkeep : ∀ old, key old = key row → key (onConflict old) = key row)
    (rows : List R) :
    (writeRow key row onConflict rows).map key =
      if key row ∈ rows.map key then rows.map key
      else rows.map key ++ [key row] := by
  induction rows with
  | nil => simp [writeRow]
  | cons head tail ih =>
      by_cases hhead : key head = key row
      · simp [writeRow, hhead, hkeep head hhead]
      · have hne : key row ≠ key head := fun h => hhead h.symm
        simp only [writeRow, hhead, ↓reduceIte, List.map_cons, ih,
          List.mem_cons, hne, false_or]
        split <;> rfl

theorem nodup_keys_writeRow (row : R) (onConflict : R → R)
    (hkeep : ∀ old, key old = key row → key (onConflict old) = key row)
    {rows : List R} (hnodup : (rows.map key).Nodup) :
    ((writeRow key row onConflict rows).map key).Nodup := by
  rw [keys_writeRow row onConflict hkeep]
  split
  · exact hnodup
  · next hfresh =>
      exact hnodup.append (List.nodup_singleton _)
        (List.disjoint_singleton.mpr hfresh)

/-- `INSERT ... ON CONFLICT (key) DO UPDATE`: `onConflict` says what the
statement leaves in the row that was there. -/
def Table.upsert (table : Table key) (row : R) (onConflict : R → R)
    (hkeep : ∀ old, key old = key row → key (onConflict old) = key row) :
    Table key :=
  ⟨writeRow key row onConflict table.rows,
    nodup_keys_writeRow row onConflict hkeep table.keys_nodup⟩

/-- `DO UPDATE` over every column: the incoming row replaces the stored one. -/
def Table.overwrite (table : Table key) (row : R) : Table key :=
  table.upsert row (fun _ => row) fun _ _ => rfl

/-- `ON CONFLICT (key) DO NOTHING`. -/
def Table.insertNew (table : Table key) (row : R) : Table key :=
  table.upsert row id fun _ hold => hold

/-- What an upsert leaves under its key. -/
def written (row : R) (onConflict : R → R) : Option R → R
  | none => row
  | some old => onConflict old

theorem find?_writeRow (row : R) (onConflict : R → R)
    (hkeep : ∀ old, key old = key row → key (onConflict old) = key row)
    (rows : List R) (k : K) :
    (writeRow key row onConflict rows).find? (fun r => decide (key r = k)) =
      if key row = k then
        some (written row onConflict
          (rows.find? fun r => decide (key r = k)))
      else rows.find? fun r => decide (key r = k) := by
  induction rows with
  | nil => by_cases hk : key row = k <;> simp [writeRow, written, hk]
  | cons head tail ih =>
      by_cases hhead : key head = key row
      · have hconflict := hkeep head hhead
        by_cases hk : key row = k
        · simp [writeRow, hhead, hconflict, hk, written]
        · simp [writeRow, hhead, hconflict, hk]
      · by_cases hk : key row = k
        · have hheadk : key head ≠ k := fun h => hhead (h.trans hk.symm)
          simpa [writeRow, hhead, hheadk, hk] using ih
        · by_cases hheadk : key head = k
          · simp only [writeRow, hhead, ↓reduceIte, hk]
            simp [hheadk]
          · simpa [writeRow, hhead, hheadk, hk] using ih

theorem Table.find?_upsert (table : Table key) (row : R) (onConflict : R → R)
    (hkeep : ∀ old, key old = key row → key (onConflict old) = key row)
    (k : K) :
    (table.upsert row onConflict hkeep).find? k =
      if key row = k then some (written row onConflict (table.find? k))
      else table.find? k :=
  find?_writeRow row onConflict hkeep table.rows k

@[simp] theorem Table.find?_overwrite (table : Table key) (row : R) (k : K) :
    (table.overwrite row).find? k =
      if key row = k then some row else table.find? k := by
  rw [Table.overwrite, Table.find?_upsert]
  cases table.find? k <;> rfl

@[simp] theorem Table.find?_insertNew (table : Table key) (row : R) (k : K) :
    (table.insertNew row).find? k =
      if key row = k then some ((table.find? k).getD row)
      else table.find? k := by
  rw [Table.insertNew, Table.find?_upsert]
  cases table.find? k <;> rfl

/-- After an overwrite a table holds the new row, and the old ones under
other keys. -/
theorem Table.mem_overwrite (table : Table key) {row other : R} :
    other ∈ (table.overwrite row).rows ↔
      other = row ∨ (other ∈ table.rows ∧ key other ≠ key row) := by
  have hstored : ∀ (table : Table key) (row : R),
      row ∈ table.rows ↔ table.find? (key row) = some row :=
    fun table row => ⟨table.find?_key, table.mem_of_find?⟩
  rw [hstored (table.overwrite row), hstored table, Table.find?_overwrite]
  by_cases hkey : key row = key other
  · simp only [hkey, ↓reduceIte, Option.some.injEq, ne_eq, not_true_eq_false,
      and_false, or_false]
    exact eq_comm
  · have hne : other ≠ row := fun heq => hkey (heq ▸ rfl)
    simp [hkey, hne, Ne.symm hkey]

theorem writeRow_of_fresh {row : R} {onConflict : R → R} {rows : List R}
    (hfresh : key row ∉ rows.map key) :
    writeRow key row onConflict rows = rows ++ [row] := by
  induction rows with
  | nil => rfl
  | cons head tail ih =>
      simp only [List.map_cons, List.mem_cons, not_or] at hfresh
      have hhead : key head ≠ key row := fun h => hfresh.1 h.symm
      simp [writeRow, hhead, ih hfresh.2]

theorem writeRow_id_of_present {row : R} {rows : List R}
    (hpresent : key row ∈ rows.map key) :
    writeRow key row id rows = rows := by
  induction rows with
  | nil => simp at hpresent
  | cons head tail ih =>
      by_cases hhead : key head = key row
      · simp [writeRow, hhead]
      · have htail : key row ∈ tail.map key := by
          rcases List.mem_cons.mp hpresent with heq | htail
          · exact absurd heq.symm hhead
          · exact htail
        simp [writeRow, hhead, ih htail]

/-- Insert-or-skip appends its row or leaves the rows as they were. -/
theorem Table.rows_insertNew (table : Table key) (row : R) :
    (table.insertNew row).rows =
      if key row ∈ table.rows.map key then table.rows
      else table.rows ++ [row] := by
  split
  · next hpresent => exact writeRow_id_of_present hpresent
  · next hfresh => exact writeRow_of_fresh hfresh

/-- Insert-or-skip keeps every row, and adds its own if the key is free. -/
theorem Table.mem_insertNew (table : Table key) {row other : R} :
    other ∈ (table.insertNew row).rows ↔
      other ∈ table.rows ∨ (other = row ∧ key row ∉ table.rows.map key) := by
  rw [table.rows_insertNew]
  split
  · next hpresent => simp [hpresent]
  · next hfresh => simp [hfresh]

/-- What holds of every two rows still does if it holds of each with the new
row. -/
theorem Table.forall_pairs_insertNew (table : Table key) {row : R}
    {related : R → R → Prop}
    (hold : ∀ left ∈ table.rows, ∀ right ∈ table.rows, related left right)
    (hnew : ∀ other ∈ table.rows, related other row ∧ related row other)
    (hself : related row row) :
    ∀ left ∈ (table.insertNew row).rows, ∀ right ∈ (table.insertNew row).rows,
      related left right := by
  intro left hleft right hright
  rcases table.mem_insertNew.mp hleft with hl | ⟨rfl, _⟩ <;>
    rcases table.mem_insertNew.mp hright with hr | ⟨rfl, _⟩
  · exact hold left hl right hr
  · exact (hnew left hl).1
  · exact (hnew right hr).2
  · exact hself

/-- Rows whose keys are new are appended by a plain `INSERT`. -/
def Table.append (table : Table key) (fresh : List R)
    (hnodup : (fresh.map key).Nodup)
    (hfresh : ∀ row ∈ fresh, key row ∉ table.rows.map key) : Table key where
  rows := table.rows ++ fresh
  keys_nodup := by
    rw [List.map_append]
    refine table.keys_nodup.append hnodup ?_
    intro k hold hnew
    obtain ⟨row, hrow, rfl⟩ := List.mem_map.mp hnew
    exact hfresh row hrow hold

/-- A table of the same keys in the same places, with the same row under each,
is the same table. -/
theorem Table.eq_of_find?_eq {left right : Table key}
    (hkeys : left.rows.map key = right.rows.map key)
    (hfind : ∀ k, left.find? k = right.find? k) : left = right := by
  apply Table.ext
  apply List.ext_getElem?
  intro n
  have hkey : (left.rows[n]?).map key = (right.rows[n]?).map key := by
    rw [← List.getElem?_map, ← List.getElem?_map, hkeys]
  cases hleft : left.rows[n]? with
  | none =>
      rw [hleft] at hkey
      exact (Option.map_eq_none_iff.mp hkey.symm).symm
  | some row =>
      rw [hleft] at hkey
      obtain ⟨row', hright, hrow⟩ := Option.map_eq_some_iff.mp hkey.symm
      have hfound := left.find?_key (List.mem_of_getElem? hleft)
      rw [hfind, ← hrow, right.find?_key (List.mem_of_getElem? hright)] at hfound
      rw [hright, hfound]

/-- Overwriting with a list of rows, one statement after the other. -/
def Table.overwriteAll (table : Table key) (rows : List R) : Table key :=
  rows.foldl (fun table row => table.overwrite row) table

/-- Insert-or-skip of a list of rows, one statement after the other. -/
def Table.insertAll (table : Table key) (rows : List R) : Table key :=
  rows.foldl (fun table row => table.insertNew row) table

theorem Table.overwriteAll_append (table : Table key) (rows rows' : List R) :
    table.overwriteAll (rows ++ rows') =
      (table.overwriteAll rows).overwriteAll rows' :=
  List.foldl_append

theorem Table.insertAll_append (table : Table key) (rows rows' : List R) :
    table.insertAll (rows ++ rows') =
      (table.insertAll rows).insertAll rows' :=
  List.foldl_append

/-- The last of the rows under `k`. -/
def lastUnder (key : R → K) (k : K) (rows : List R) : Option R :=
  rows.reverse.find? fun row => decide (key row = k)

theorem lastUnder_eq_none_iff {k : K} {rows : List R} :
    lastUnder key k rows = none ↔ ∀ row ∈ rows, key row ≠ k := by
  simp [lastUnder]

theorem mem_of_lastUnder {k : K} {rows : List R} {row : R}
    (hlast : lastUnder key k rows = some row) : row ∈ rows ∧ key row = k := by
  have hmem := List.mem_of_find?_eq_some hlast
  have hkey := List.find?_some hlast
  exact ⟨List.mem_reverse.mp hmem, by simpa using hkey⟩

/-- The last write under a key wins. -/
theorem Table.find?_overwriteAll (table : Table key) (rows : List R) (k : K) :
    (table.overwriteAll rows).find? k =
      (lastUnder key k rows).or (table.find? k) := by
  induction rows generalizing table with
  | nil => rfl
  | cons row rows ih =>
      have hstep : (table.overwriteAll (row :: rows)).find? k =
          ((table.overwrite row).overwriteAll rows).find? k := rfl
      rw [hstep, ih, Table.find?_overwrite]
      by_cases hkey : key row = k
      · simp [lastUnder, List.find?_append, hkey]
      · simp [lastUnder, List.find?_append, hkey]

theorem Table.keys_overwrite (table : Table key) (row : R) :
    (table.overwrite row).rows.map key =
      if key row ∈ table.rows.map key then table.rows.map key
      else table.rows.map key ++ [key row] :=
  keys_writeRow row (fun _ => row) (fun _ _ => rfl) table.rows

theorem Table.mem_keys_iff (table : Table key) {k : K} :
    k ∈ table.rows.map key ↔ (table.find? k).isSome := by
  constructor
  · intro hmem
    obtain ⟨row, hrow, rfl⟩ := List.mem_map.mp hmem
    rw [table.find?_key hrow]
    rfl
  · intro hfound
    obtain ⟨row, hrow⟩ := Option.isSome_iff_exists.mp hfound
    exact List.mem_map.mpr ⟨row, table.mem_of_find? hrow, table.key_of_find? hrow⟩

theorem Table.keys_overwriteAll (table : Table key) (rows : List R)
    (hpresent : ∀ row ∈ rows, key row ∈ table.rows.map key) :
    (table.overwriteAll rows).rows.map key = table.rows.map key := by
  induction rows generalizing table with
  | nil => rfl
  | cons row rows ih =>
      have hkeys : (table.overwrite row).rows.map key = table.rows.map key := by
        rw [table.keys_overwrite, if_pos (hpresent row List.mem_cons_self)]
      have hrest := ih (table.overwrite row) fun row' hrow' =>
        hkeys ▸ hpresent row' (List.mem_cons_of_mem row hrow')
      exact hrest.trans hkeys

/-- Overwriting leaves a table as it was exactly when the last row it writes
under each key is the one that is stored. -/
theorem Table.overwriteAll_eq_self_iff (table : Table key) (rows : List R) :
    table.overwriteAll rows = table ↔
      ∀ k row, lastUnder key k rows = some row → table.find? k = some row := by
  constructor
  · intro hsame k row hlast
    have hfind := table.find?_overwriteAll rows k
    rw [hsame, hlast] at hfind
    exact hfind
  · intro hstored
    apply Table.eq_of_find?_eq
    · apply table.keys_overwriteAll
      intro row hrow
      rw [table.mem_keys_iff]
      cases hlast : lastUnder key (key row) rows with
      | none => exact absurd rfl (lastUnder_eq_none_iff.mp hlast row hrow)
      | some last => rw [hstored _ last hlast]; rfl
    · intro k
      rw [table.find?_overwriteAll]
      cases hlast : lastUnder key k rows with
      | none => rfl
      | some last => exact (hstored k last hlast).symm

/-- The first write under a key stays. -/
theorem Table.find?_insertAll (table : Table key) (rows : List R) (k : K) :
    (table.insertAll rows).find? k =
      (table.find? k).or (rows.find? fun row => decide (key row = k)) := by
  induction rows generalizing table with
  | nil => exact Option.or_none.symm
  | cons row rows ih =>
      have hstep : (table.insertAll (row :: rows)).find? k =
          ((table.insertNew row).insertAll rows).find? k := rfl
      rw [hstep, ih, Table.find?_insertNew]
      by_cases hkey : key row = k
      · cases table.find? k with
        | none => simp [hkey]
        | some stored => simp [hkey]
      · simp [hkey]

theorem Table.mem_keys_insertAll (table : Table key) (rows : List R) {k : K} :
    k ∈ (table.insertAll rows).rows.map key ↔
      k ∈ table.rows.map key ∨ k ∈ rows.map key := by
  induction rows generalizing table with
  | nil => simp [Table.insertAll]
  | cons row rows ih =>
      have hstep : table.insertAll (row :: rows) =
          (table.insertNew row).insertAll rows := rfl
      have hkeys : k ∈ (table.insertNew row).rows.map key ↔
          k ∈ table.rows.map key ∨ k = key row := by
        rw [Table.mem_keys_iff, Table.find?_insertNew]
        by_cases hkey : key row = k
        · simp [hkey]
        · simp only [hkey, ↓reduceIte, ← Table.mem_keys_iff]
          simp [Ne.symm hkey]
      rw [hstep, ih, hkeys, List.map_cons, List.mem_cons, or_assoc]

/-- Insert-or-skip appends some of its rows, under keys that were free. -/
theorem Table.rows_insertAll (table : Table key) (rows : List R) :
    ∃ appended, (table.insertAll rows).rows = table.rows ++ appended ∧
      ∀ row ∈ appended, row ∈ rows ∧ key row ∉ table.rows.map key := by
  induction rows generalizing table with
  | nil => exact ⟨[], by simp [Table.insertAll], by simp⟩
  | cons row rows ih =>
      obtain ⟨appended, hrows, hfresh⟩ := ih (table.insertNew row)
      have hstep : table.insertAll (row :: rows) =
          (table.insertNew row).insertAll rows := rfl
      rw [hstep, hrows, table.rows_insertNew]
      by_cases hpresent : key row ∈ table.rows.map key
      · refine ⟨appended, by rw [if_pos hpresent], fun r hr => ?_⟩
        obtain ⟨hmem, hkey⟩ := hfresh r hr
        rw [table.rows_insertNew, if_pos hpresent] at hkey
        exact ⟨List.mem_cons_of_mem row hmem, hkey⟩
      · refine ⟨row :: appended, by rw [if_neg hpresent]; simp, fun r hr => ?_⟩
        rcases List.mem_cons.mp hr with rfl | htail
        · exact ⟨List.mem_cons_self, hpresent⟩
        · obtain ⟨hmem, hkey⟩ := hfresh r htail
          rw [table.rows_insertNew, if_neg hpresent, List.map_append,
            List.mem_append, not_or] at hkey
          exact ⟨List.mem_cons_of_mem row hmem, hkey.1⟩

/-- Insert-or-skip leaves a table as it was exactly when every key is taken. -/
theorem Table.insertAll_eq_self_iff (table : Table key) (rows : List R) :
    table.insertAll rows = table ↔
      ∀ row ∈ rows, key row ∈ table.rows.map key := by
  constructor
  · intro hsame row hrow
    rw [← hsame, Table.mem_keys_insertAll]
    exact Or.inr (List.mem_map_of_mem hrow)
  · intro hpresent
    induction rows with
    | nil => rfl
    | cons row rows ih =>
        have hkept : table.insertNew row = table := by
          apply Table.ext
          rw [table.rows_insertNew, if_pos (hpresent row List.mem_cons_self)]
        have hstep : table.insertAll (row :: rows) =
            (table.insertNew row).insertAll rows := rfl
        rw [hstep, hkept]
        exact ih fun row' hrow' => hpresent row' (List.mem_cons_of_mem row hrow')

end KeyedTable
