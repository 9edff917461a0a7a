/-
A table shared by several writers.  The second part of the primary key says
whose a row is, and a writer replaces all of its own rows at once.
-/
import LiveStandings.Library.KeyedTable

namespace KeyedTable

universe u v w

variable {R : Type u} {K : Type v} {P : Type w} [DecidableEq P]
  {key : R → K × P}

/-- The rows of one writer. -/
def Table.part (table : Table key) (p : P) : List R :=
  table.rows.filter fun row => (key row).2 = p

theorem Table.mem_part {table : Table key} {p : P} {row : R} :
    row ∈ table.part p ↔ row ∈ table.rows ∧ (key row).2 = p := by
  simp [Table.part]

/-- A row is among those of its writer. -/
theorem Table.mem_rows_iff_part {table : Table key} {p : P} {row : R}
    (hown : (key row).2 = p) : row ∈ table.rows ↔ row ∈ table.part p :=
  ⟨fun hmem => Table.mem_part.mpr ⟨hmem, hown⟩,
    fun hmem => (Table.mem_part.mp hmem).1⟩

variable [DecidableEq K]

/-- `DELETE` of a writer's rows and `INSERT` of new ones. -/
def Table.replacePart (table : Table key) (p : P) (rows : List R) :
    Table key :=
  (table.keepWhere fun row => (key row).2 ≠ p).insertAll rows

/-- Rows under keys of their own that are free are all inserted. -/
theorem Table.rows_insertAll_of_fresh (table : Table key) {rows : List R}
    (hnodup : (rows.map key).Nodup)
    (hfresh : ∀ row ∈ rows, key row ∉ table.rows.map key) :
    (table.insertAll rows).rows = table.rows ++ rows := by
  induction rows generalizing table with
  | nil => simp [Table.insertAll]
  | cons row rows ih =>
      rw [List.map_cons, List.nodup_cons] at hnodup
      have hrow : (table.insertNew row).rows = table.rows ++ [row] := by
        rw [table.rows_insertNew, if_neg (hfresh row List.mem_cons_self)]
      have hstep : table.insertAll (row :: rows) =
          (table.insertNew row).insertAll rows := rfl
      rw [hstep, ih _ hnodup.2, hrow, List.append_assoc, List.singleton_append]
      intro other hother hmem
      rw [hrow, List.map_append, List.mem_append] at hmem
      rcases hmem with hold | hnew
      · exact hfresh other (List.mem_cons_of_mem row hother) hold
      · rw [List.map_singleton, List.mem_singleton] at hnew
        exact hnodup.1 (hnew ▸ List.mem_map_of_mem hother)

variable (table : Table key) {p : P} {rows : List R}

/-- A writer replaces its rows by the new ones. -/
theorem Table.rows_replacePart (hnodup : (rows.map key).Nodup)
    (hown : ∀ row ∈ rows, (key row).2 = p) :
    (table.replacePart p rows).rows =
      (table.rows.filter fun row => (key row).2 ≠ p) ++ rows := by
  refine Table.rows_insertAll_of_fresh _ hnodup fun row hrow hmem => ?_
  obtain ⟨other, hother, hkey⟩ := List.mem_map.mp hmem
  have hne : (key other).2 ≠ p := by
    simpa using (List.mem_filter.mp hother).2
  exact hne (hkey ▸ hown row hrow)

theorem Table.part_replacePart (hnodup : (rows.map key).Nodup)
    (hown : ∀ row ∈ rows, (key row).2 = p) :
    (table.replacePart p rows).part p = rows := by
  have hothers : (table.rows.filter fun row => (key row).2 ≠ p).filter
      (fun row => (key row).2 = p) = [] := by
    simp [List.filter_filter]
  rw [Table.part, table.rows_replacePart hnodup hown, List.filter_append,
    hothers, List.nil_append]
  exact List.filter_eq_self.mpr fun row hrow => by simpa using hown row hrow

/-- It leaves the rows of every other writer as they are. -/
theorem Table.part_replacePart_of_ne (hnodup : (rows.map key).Nodup)
    (hown : ∀ row ∈ rows, (key row).2 = p) {q : P} (hne : q ≠ p) :
    (table.replacePart p rows).part q = table.part q := by
  have hnew : rows.filter (fun row => (key row).2 = q) = [] := by
    refine List.filter_eq_nil_iff.mpr fun row hrow => ?_
    simpa [hown row hrow] using hne.symm
  rw [Table.part, table.rows_replacePart hnodup hown, List.filter_append, hnew,
    List.append_nil, List.filter_filter, Table.part]
  refine List.filter_congr fun row _ => ?_
  by_cases hq : (key row).2 = q <;> simp [hq, hne]

end KeyedTable
