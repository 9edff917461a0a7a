/-
The first rows of a ranking.  A page is what `ORDER BY ... LIMIT` selects: of
the rows it leaves out, none comes before one it has.  Rows that the key does
not tell apart come in an order that is the engine's own.
-/
import LiveStandings.Library.Ranking

namespace Pages

open Ranking

universe u v

variable {R : Type u} {K : Type v} [LinearOrder K]

/-- How an engine arranges the rows of a query before it sorts them. -/
structure TieOrder (R : Type u) where
  arrange : List R → List R
  perm : ∀ rows, (arrange rows).Perm rows

/-- As they are stored. -/
def TieOrder.stored : TieOrder R := ⟨id, fun _ => .refl _⟩

/-- `ORDER BY key LIMIT limit`. -/
def page (ties : TieOrder R) (key : R → K) (limit : Nat) (rows : List R) :
    List R :=
  (sortBy key (ties.arrange rows)).take limit

variable {ties ties' : TieOrder R} {key : R → K} {limit : Nat} {rows : List R}
  {row : R}

theorem mem_sortBy_arrange (ties : TieOrder R) (key : R → K) :
    row ∈ sortBy key (ties.arrange rows) ↔ row ∈ rows :=
  (mem_sortBy key).trans (ties.perm rows).mem_iff

theorem mem_of_mem_page (hmem : row ∈ page ties key limit rows) : row ∈ rows :=
  (mem_sortBy_arrange ties key).mp (List.mem_of_mem_take hmem)

/-- A row that is left out comes after a full page. -/
theorem mem_page_or_full (ties : TieOrder R) (key : R → K) (limit : Nat)
    (hmem : row ∈ rows) :
    row ∈ page ties key limit rows ∨
      (page ties key limit rows).length = limit ∧
        ∀ other ∈ page ties key limit rows, key other ≤ key row := by
  have hsorted := sortBy_pairwise key (ties.arrange rows)
  rw [← List.take_append_drop limit (sortBy key (ties.arrange rows)),
    List.pairwise_append] at hsorted
  have hrow := (mem_sortBy_arrange ties key).mpr hmem
  rw [← List.take_append_drop limit (sortBy key (ties.arrange rows))] at hrow
  rcases List.mem_append.mp hrow with hin | hout
  · exact Or.inl hin
  · refine Or.inr ⟨?_, fun other hother => hsorted.2.2 other hother row hout⟩
    have hlong : limit < (sortBy key (ties.arrange rows)).length := by
      by_contra hshort
      rw [List.drop_eq_nil_of_le (Nat.le_of_not_lt hshort)] at hout
      cases hout
    rw [page, List.length_take, Nat.min_eq_left hlong.le]

/-- Whatever the ties, the keys of a ranking are its sorted keys. -/
theorem map_key_sortBy {arranged : List R} (hperm : arranged.Perm rows) :
    (sortBy key arranged).map key = sortBy id (rows.map key) := by
  have hsorted := sortBy_map key id arranged
  have hsame : sortBy id (arranged.map key) = sortBy id (rows.map key) :=
    sortBy_congr id id (hperm.map key) (fun _ _ _ _ => Iff.rfl)
      fun _ _ _ _ heq => heq
  exact hsorted.symm.trans hsame

theorem map_key_page (ties : TieOrder R) (key : R → K) (limit : Nat)
    (rows : List R) :
    (page ties key limit rows).map key =
      (sortBy id (rows.map key)).take limit := by
  rw [page, List.map_take, map_key_sortBy (ties.perm rows)]

/-- The keys of a longer page begin with those of the shorter one. -/
theorem map_key_page_extends (ties ties' : TieOrder R) (key : R → K)
    {limit limit' : Nat} (hle : limit ≤ limit') (rows : List R) :
    (page ties key limit rows).map key <+:
      (page ties' key limit' rows).map key := by
  rw [map_key_page, map_key_page]
  exact List.take_prefix_take_left hle

theorem filter_take_extends (keep : R → Bool) (limit : Nat) (rows : List R) :
    (rows.take limit).filter keep <+: (rows.filter keep).take limit := by
  have hwithin : (rows.take limit).filter keep <+: rows.filter keep := by
    have hsplit := congrArg (List.filter keep)
      (List.take_append_drop limit rows)
    rw [List.filter_append] at hsplit
    exact ⟨_, hsplit⟩
  refine List.prefix_take_iff.mpr ⟨hwithin, ?_⟩
  exact (List.length_filter_le ..).trans (List.length_take_le ..)

/-- What a page keeps begins the ranking of what the rows keep, in the order
that the page has. -/
theorem filter_page_extends (ties : TieOrder R) (key : R → K) (keep : R → Bool)
    (limit : Nat) (rows : List R) :
    (page ties key limit rows).filter keep <+:
      (sortBy key ((ties.arrange rows).filter keep)).take limit := by
  rw [page, ← filter_sortBy]
  exact filter_take_extends keep limit _

/-- The keys of a page of fewer rows begin with those that the page keeps. -/
theorem map_key_filter_page_extends (ties ties' : TieOrder R) (key : R → K)
    (keep : R → Bool) (limit : Nat) (rows : List R) :
    ((page ties key limit rows).filter keep).map key <+:
      (page ties' key limit (rows.filter keep)).map key := by
  have hbegin := (filter_page_extends ties key keep limit rows).map key
  rwa [List.map_take, map_key_sortBy ((ties.perm rows).filter keep),
    ← map_key_page ties'] at hbegin

/-- Where the key tells the rows apart, there are no ties to order. -/
theorem page_of_injective (ties ties' : TieOrder R) (limit : Nat)
    (hinj : ∀ left ∈ rows, ∀ right ∈ rows, key left = key right →
      left = right) : page ties key limit rows = page ties' key limit rows := by
  have hperm := (ties.perm rows).trans (ties'.perm rows).symm
  rw [page, page, sortBy_congr key key hperm (fun _ _ _ _ => Iff.rfl)]
  intro left hleft right hright
  exact hinj left ((ties.perm rows).mem_iff.mp hleft) right
    ((ties.perm rows).mem_iff.mp hright)

/-- There, a longer page begins with the shorter one. -/
theorem page_extends (ties ties' : TieOrder R) {limit limit' : Nat}
    (hle : limit ≤ limit') (hinj : ∀ left ∈ rows, ∀ right ∈ rows,
      key left = key right → left = right) :
    page ties key limit rows <+: page ties' key limit' rows := by
  rw [page_of_injective ties ties' limit hinj]
  exact List.take_prefix_take_left hle

/-- And a page of fewer rows with those that the page keeps. -/
theorem filter_page_extends_of_injective (ties ties' : TieOrder R)
    (keep : R → Bool) (limit : Nat) (hinj : ∀ left ∈ rows, ∀ right ∈ rows,
      key left = key right → left = right) :
    (page ties key limit rows).filter keep <+:
      page ties' key limit (rows.filter keep) := by
  rw [page_of_injective ties .stored limit hinj]
  have hkept : page .stored key limit (rows.filter keep) =
      page ties' key limit (rows.filter keep) :=
    page_of_injective .stored ties' limit fun left hleft right hright =>
      hinj left (List.mem_of_mem_filter hleft) right
        (List.mem_of_mem_filter hright)
  rw [← hkept]
  exact filter_page_extends .stored key keep limit rows

end Pages
