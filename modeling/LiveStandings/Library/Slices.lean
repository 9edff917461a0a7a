/-
A slice of a keyed table: the rows of one region, in their order.  A write
that names no row of the region, before or after, leaves the slice.
-/
import LiveStandings.Library.KeyedTable

namespace KeyedTable

universe u v

variable {R : Type u} {K : Type v} {key : R → K}

/-- The rows of a region. -/
def Table.slice (table : Table key) (region : R → Bool) : List R :=
  table.rows.filter region

/-- A deletion outside the region. -/
theorem Table.slice_keepWhere (table : Table key) {region keep : R → Bool}
    (hkept : ∀ row ∈ table.rows, region row = true → keep row = true) :
    (table.keepWhere keep).slice region = table.slice region := by
  rw [Table.slice, Table.rows_keepWhere, List.filter_filter, Table.slice]
  apply List.filter_congr
  intro row hrow
  cases hregion : region row with
  | false => rfl
  | true => rw [hkept row hrow hregion]; rfl

/-- An update of rows outside the region, which stay outside. -/
theorem Table.slice_mapRows (table : Table key) {region : R → Bool} {f : R → R}
    (hkeep : ∀ row, key (f row) = key row)
    (hregion : ∀ row, region (f row) = region row)
    (hsame : ∀ row ∈ table.rows, region row = true → f row = row) :
    (table.mapRows f hkeep).slice region = table.slice region := by
  rw [Table.slice, Table.rows_mapRows, List.filter_map, Table.slice]
  have hfilter : table.rows.filter (region ∘ f) = table.rows.filter region :=
    List.filter_congr fun row _ => hregion row
  have hmap : (table.rows.filter region).map f =
      (table.rows.filter region).map id :=
    List.map_congr_left fun row hrow => hsame row (List.mem_of_mem_filter hrow)
      (List.mem_filter.mp hrow).2
  rw [hfilter, hmap, List.map_id]

variable [DecidableEq K]

theorem filter_writeRow {row : R} {onConflict : R → R} {region : R → Bool}
    {rows : List R} (hrow : region row = false)
    (hold : ∀ old ∈ rows, key old = key row →
      region old = region (onConflict old) ∧
        (region old = true → onConflict old = old)) :
    (writeRow key row onConflict rows).filter region = rows.filter region := by
  induction rows with
  | nil => simp [writeRow, hrow]
  | cons head tail ih =>
      by_cases hhead : key head = key row
      · obtain ⟨hregion, hsame⟩ := hold head List.mem_cons_self hhead
        simp only [writeRow, if_pos hhead, List.filter_cons, ← hregion]
        cases hin : region head with
        | false => rfl
        | true => simp [hsame hin]
      · have htail := ih fun old hmem => hold old (List.mem_cons_of_mem head hmem)
        simp only [writeRow, if_neg hhead, List.filter_cons, htail]

/-- An insertion outside the region. -/
theorem Table.slice_insertNew (table : Table key) {region : R → Bool} {row : R}
    (hrow : region row = false) :
    (table.insertNew row).slice region = table.slice region :=
  filter_writeRow hrow fun _ _ _ => ⟨rfl, fun _ => rfl⟩

/-- An overwrite of a row outside the region by another outside it. -/
theorem Table.slice_overwrite (table : Table key) {region : R → Bool} {row : R}
    (hrow : region row = false)
    (hold : ∀ old ∈ table.rows, key old = key row → region old = false) :
    (table.overwrite row).slice region = table.slice region := by
  apply filter_writeRow hrow
  intro old hmem hkey
  have hout := hold old hmem hkey
  exact ⟨hout.trans hrow.symm, fun hin => absurd hin (by simp [hout])⟩

/-- A row that a deletion keeps is found as before. -/
theorem Table.find?_keepWhere (table : Table key) {keep : R → Bool} {k : K}
    (hkept : ∀ row ∈ table.rows, key row = k → keep row = true) :
    (table.keepWhere keep).find? k = table.find? k := by
  cases hfind : table.find? k with
  | none =>
      rw [Table.find?_eq_none_iff] at hfind ⊢
      exact fun row hrow => hfind row (List.mem_of_mem_filter hrow)
  | some row =>
      rw [Table.find?_eq_some_iff] at hfind ⊢
      obtain ⟨hrow, hkey⟩ := hfind
      exact ⟨List.mem_filter.mpr ⟨hrow, hkept row hrow hkey⟩, hkey⟩

end KeyedTable
