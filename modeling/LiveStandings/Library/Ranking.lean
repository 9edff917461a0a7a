/-
Ranking rows by a key.  `sorted(rows, key=...)` is an insertion sort, which
the kernel can run and which is stable.  The order it produces is determined
by how the keys compare, so two rankings agree as soon as their keys compare
the rows alike.
-/
import Mathlib.Data.List.MinMax
import Mathlib.Data.List.Sort
import Mathlib.Data.Prod.Lex

namespace Ranking

universe u v w

variable {R : Type u} {K : Type v} {L : Type w} [LinearOrder K] [LinearOrder L]

/-- `sorted(rows, key=key)`. -/
def sortBy (key : R → K) (rows : List R) : List R :=
  rows.insertionSort fun left right => key left ≤ key right

theorem sortBy_perm (key : R → K) (rows : List R) :
    (sortBy key rows).Perm rows :=
  List.perm_insertionSort _ rows

@[simp] theorem mem_sortBy (key : R → K) {rows : List R} {row : R} :
    row ∈ sortBy key rows ↔ row ∈ rows :=
  (sortBy_perm key rows).mem_iff

theorem sortBy_pairwise (key : R → K) (rows : List R) :
    (sortBy key rows).Pairwise fun left right => key left ≤ key right := by
  have : Std.Total fun left right : R => key left ≤ key right :=
    ⟨fun left right => le_total (key left) (key right)⟩
  have : IsTrans R fun left right => key left ≤ key right :=
    ⟨fun _ _ _ => le_trans⟩
  exact List.pairwise_insertionSort _ rows

/-- A list that is already in key order is what sorting any rearrangement of
it gives, when no two of its rows share a key. -/
theorem sortBy_eq_of_pairwise (key : R → K) {rows ranked : List R}
    (hperm : ranked.Perm rows)
    (hranked : ranked.Pairwise fun left right => key left ≤ key right)
    (hinj : ∀ left ∈ rows, ∀ right ∈ rows, key left = key right → left = right) :
    sortBy key rows = ranked := by
  refine List.Perm.eq_of_pairwise ?_ (sortBy_pairwise key rows) hranked
    ((sortBy_perm key rows).trans hperm.symm)
  intro left right hleft hright hle hge
  exact hinj left ((mem_sortBy key).mp hleft) right
    (hperm.mem_iff.mp hright) (le_antisymm hle hge)

/-- Rows that are in key order stay as they are. -/
theorem sortBy_of_ordered (key : R → K) {rows : List R}
    (hordered : rows.Pairwise fun left right => key left ≤ key right) :
    sortBy key rows = rows := by
  have : Std.Total fun left right : R => key left ≤ key right :=
    ⟨fun left right => le_total (key left) (key right)⟩
  have : IsTrans R fun left right => key left ≤ key right :=
    ⟨fun _ _ _ => le_trans⟩
  exact hordered.insertionSort_eq

/-- Two keys that compare every pair of the rows alike rank them alike. -/
theorem sortBy_congr (key : R → K) (key' : R → L) {rows rows' : List R}
    (hperm : rows.Perm rows')
    (hagree : ∀ left ∈ rows, ∀ right ∈ rows,
      (key left ≤ key right ↔ key' left ≤ key' right))
    (hinj : ∀ left ∈ rows, ∀ right ∈ rows, key left = key right → left = right) :
    sortBy key rows = sortBy key' rows' := by
  refine sortBy_eq_of_pairwise key
    ((sortBy_perm key' rows').trans hperm.symm) ?_ hinj
  refine (sortBy_pairwise key' rows').imp_of_mem ?_
  intro left right hleft hright hle
  have hleft' := hperm.mem_iff.mpr ((mem_sortBy key').mp hleft)
  have hright' := hperm.mem_iff.mpr ((mem_sortBy key').mp hright)
  exact (hagree left hleft' right hright').mpr hle

/-- Keys that compare alike sort alike, ties included. -/
theorem sortBy_of_le_iff (key : R → K) (key' : R → L)
    (hagree : ∀ left right, key left ≤ key right ↔ key' left ≤ key' right)
    (rows : List R) : sortBy key rows = sortBy key' rows := by
  unfold sortBy
  simp only [hagree]

/-- Where one row stands before another, its key is the smaller one. -/
theorem key_le_of_sublist (key : R → K) {rows : List R} {left right : R}
    (hsub : [left, right].Sublist (sortBy key rows)) :
    key left ≤ key right := by
  have hpair := (sortBy_pairwise key rows).sublist hsub
  simpa using hpair

/-- Two different rows of a list stand in it one before the other. -/
theorem sublist_pair_total {rows : List R} {left right : R}
    (hleft : left ∈ rows) (hright : right ∈ rows) (hne : left ≠ right) :
    [left, right].Sublist rows ∨ [right, left].Sublist rows := by
  induction rows with
  | nil => simp at hleft
  | cons head tail ih =>
      rcases List.mem_cons.mp hleft with hfirst | hleftTail
      · rcases List.mem_cons.mp hright with hsecond | hrightTail
        · exact absurd (hfirst.trans hsecond.symm) hne
        · exact Or.inl (hfirst ▸
            (List.singleton_sublist.mpr hrightTail).cons_cons left)
      · rcases List.mem_cons.mp hright with hsecond | hrightTail
        · exact Or.inr (hsecond ▸
            (List.singleton_sublist.mpr hleftTail).cons_cons right)
        · rcases ih hleftTail hrightTail with h | h
          · exact Or.inl (h.cons head)
          · exact Or.inr (h.cons head)

/-- A row with the smaller key stands first. -/
theorem sublist_of_key_lt (key : R → K) {rows : List R} {left right : R}
    (hleft : left ∈ rows) (hright : right ∈ rows)
    (hlt : key left < key right) :
    [left, right].Sublist (sortBy key rows) := by
  have hne : left ≠ right := fun heq => absurd hlt (heq ▸ lt_irrefl _)
  rcases sublist_pair_total ((mem_sortBy key).mpr hleft)
    ((mem_sortBy key).mpr hright) hne with h | h
  · exact h
  · exact absurd (key_le_of_sublist key h) (not_le.mpr hlt)

/-- Sorting the images of rows is sorting the rows by the image's key. -/
theorem sortBy_map {Q : Type*} (f : Q → R) (key : R → K) (rows : List Q) :
    sortBy key (rows.map f) = (sortBy (fun row => key (f row)) rows).map f :=
  (List.map_insertionSort _ _ f rows fun _ _ _ _ => Iff.rfl).symm

/-- Keys that agree on the rows rank them alike, ties included. -/
theorem sortBy_congr_keys {key key' : R → K} {rows : List R}
    (hsame : ∀ row ∈ rows, key row = key' row) :
    sortBy key rows = sortBy key' rows := by
  -- each row carries its key along
  have htagged : rows.map (fun row => (key row, row)) =
      rows.map fun row => (key' row, row) :=
    List.map_congr_left fun row hrow => Prod.ext (hsame row hrow) rfl
  have hsorted := congrArg (sortBy Prod.fst) htagged
  rw [sortBy_map, sortBy_map] at hsorted
  simpa [List.map_map, Function.comp_def] using
    congrArg (List.map Prod.snd) hsorted

/-- Into a list whose rows all come later a row is put in front. -/
theorem orderedInsert_of_le (key : R → K) {row : R} {rows : List R}
    (hle : ∀ other ∈ rows, key row ≤ key other) :
    rows.orderedInsert (fun left right => key left ≤ key right) row =
      row :: rows := by
  cases rows with
  | nil => rfl
  | cons first rest =>
      exact List.orderedInsert_cons_of_le _ rest
        (hle first List.mem_cons_self)

/-- Inserting a row puts it where it stands among the kept ones. -/
theorem filter_orderedInsert (key : R → K) (keep : R → Bool) (row : R)
    {sorted : List R}
    (hsorted : sorted.Pairwise fun left right => key left ≤ key right) :
    (sorted.orderedInsert (fun left right => key left ≤ key right)
        row).filter keep =
      if keep row then
        (sorted.filter keep).orderedInsert
          (fun left right => key left ≤ key right) row
      else sorted.filter keep := by
  induction sorted with
  | nil => simp [List.filter_cons]
  | cons first rest ih =>
      obtain ⟨hfirst, hrest⟩ := List.pairwise_cons.mp hsorted
      by_cases hle : key row ≤ key first
      · have hbelow : ∀ other ∈ (first :: rest).filter keep,
            key row ≤ key other := by
          intro other hother
          rcases List.mem_cons.mp (List.mem_of_mem_filter hother) with
            rfl | hlater
          · exact hle
          · exact hle.trans (hfirst other hlater)
        rw [List.orderedInsert, if_pos hle, orderedInsert_of_le key hbelow,
          List.filter_cons]
      · rw [List.orderedInsert, if_neg hle, List.filter_cons, ih hrest,
          List.filter_cons]
        split
        · split
          · rw [List.orderedInsert, if_neg hle]
          · rfl
        · rfl

/-- Sorting is stable, so it commutes with dropping rows. -/
theorem filter_sortBy (key : R → K) (keep : R → Bool) (rows : List R) :
    (sortBy key rows).filter keep = sortBy key (rows.filter keep) := by
  induction rows with
  | nil => rfl
  | cons row rows ih =>
      have hstep := filter_orderedInsert key keep row (sortBy_pairwise key rows)
      rw [ih] at hstep
      rw [List.filter_cons]
      split
      · next hkeep => rw [if_pos hkeep] at hstep; exact hstep
      · next hdrop => rw [if_neg hdrop] at hstep; exact hstep

/-- Two rows of a list without repetitions do not stand in it both ways. -/
theorem not_sublist_pair_swap {rows : List R} (hnodup : rows.Nodup)
    {left right : R} (hfirst : [left, right].Sublist rows) :
    ¬[right, left].Sublist rows := by
  intro hsecond
  induction rows with
  | nil => simp at hfirst
  | cons head tail ih =>
      obtain ⟨hfresh, htail⟩ := List.nodup_cons.mp hnodup
      cases hfirst with
      | cons _ hfirst =>
          cases hsecond with
          | cons _ hsecond => exact ih htail hfirst hsecond
          | cons_cons _ hsecond =>
              exact hfresh (hfirst.subset (by simp))
      | cons_cons _ hfirst =>
          cases hsecond with
          | cons _ hsecond => exact hfresh (hsecond.subset (by simp))
          | cons_cons _ hsecond =>
              exact hfresh (hfirst.subset (by simp))

/-- Two keys rank the rows alike exactly when they compare every two of them
alike. -/
theorem sortBy_eq_sortBy_iff {key : R → K} {key' : R → L} {rows : List R}
    (hinj : ∀ left ∈ rows, ∀ right ∈ rows, key left = key right → left = right)
    (hinj' : ∀ left ∈ rows, ∀ right ∈ rows,
      key' left = key' right → left = right) :
    sortBy key rows = sortBy key' rows ↔
      ∀ left ∈ rows, ∀ right ∈ rows,
        (key left ≤ key right ↔ key' left ≤ key' right) := by
  constructor
  · intro heq left hleft right hright
    rcases eq_or_ne left right with rfl | hne
    · simp
    rcases sublist_pair_total ((mem_sortBy key).mpr hleft)
      ((mem_sortBy key).mpr hright) hne with hfirst | hfirst
    · exact iff_of_true (key_le_of_sublist key hfirst)
        (key_le_of_sublist key' (heq ▸ hfirst))
    · have hle := key_le_of_sublist key hfirst
      have hle' := key_le_of_sublist key' (heq ▸ hfirst)
      constructor
      · intro hge
        exact absurd (hinj left hleft right hright (le_antisymm hge hle)) hne
      · intro hge
        exact absurd (hinj' left hleft right hright (le_antisymm hge hle')) hne
  · intro hagree
    exact sortBy_congr key key' (List.Perm.refl rows) hagree hinj

/-- The last of ranked rows is the one with the greatest key. -/
theorem getLast?_sortBy_eq_some_iff {key : R → K} {rows : List R} {last : R}
    (hinj : ∀ left ∈ rows, ∀ right ∈ rows, key left = key right → left = right) :
    (sortBy key rows).getLast? = some last ↔
      last ∈ rows ∧ ∀ row ∈ rows, key row ≤ key last := by
  have hgreatest : ∀ found, (sortBy key rows).getLast? = some found →
      found ∈ rows ∧ ∀ row ∈ rows, key row ≤ key found := by
    intro found hfound
    refine ⟨(mem_sortBy key).mp (List.mem_of_getLast? hfound), ?_⟩
    intro row hrow
    obtain ⟨earlier, hsplit⟩ := List.getLast?_eq_some_iff.mp hfound
    have hranked := sortBy_pairwise key rows
    have hmem := (mem_sortBy key).mpr hrow
    rw [hsplit] at hranked hmem
    rcases List.mem_append.mp hmem with hearlier | hlast
    · exact (List.pairwise_append.mp hranked).2.2 row hearlier found (by simp)
    · exact le_of_eq (by rw [List.mem_singleton.mp hlast])
  constructor
  · exact hgreatest last
  · rintro ⟨hlast, hmax⟩
    cases hfound : (sortBy key rows).getLast? with
    | none =>
        rw [List.getLast?_eq_none_iff] at hfound
        have hmem := (mem_sortBy key).mpr hlast
        simp [hfound] at hmem
    | some found =>
        obtain ⟨hmem, hle⟩ := hgreatest found hfound
        rw [hinj found hmem last hlast
          (le_antisymm (hmax found hmem) (hle last hlast))]

/-- Rows are determined by an image that tells them apart. -/
theorem eq_of_map_eq {I : Type*} {entity : R → I} {rows rows' : List R}
    (hinj : ∀ row ∈ rows, ∀ row' ∈ rows', entity row = entity row' → row = row')
    (hmap : rows.map entity = rows'.map entity) : rows = rows' := by
  induction rows generalizing rows' with
  | nil => exact (List.map_eq_nil_iff.mp hmap.symm).symm
  | cons row rows ih =>
      cases rows' with
      | nil => simp at hmap
      | cons row' rows' =>
          obtain ⟨hfirst, hrest⟩ := List.cons_eq_cons.mp hmap
          rw [hinj row List.mem_cons_self row' List.mem_cons_self hfirst,
            ih (fun a ha b hb => hinj a (List.mem_cons_of_mem _ ha) b
              (List.mem_cons_of_mem _ hb)) hrest]

/-- The rank of an entity in an order, from 1 on. -/
def positionIn {I : Type*} [DecidableEq I] (order : List I) (id : I) : Nat :=
  order.idxOf id + 1

theorem positionIn_getElem {I : Type*} [DecidableEq I] {order : List I}
    (hnodup : order.Nodup) (i : Nat) (hi : i < order.length) :
    positionIn order order[i] = i + 1 := by
  rw [positionIn, hnodup.idxOf_getElem i hi]

/-- The positions of the entities are the numbers from 1 on. -/
theorem map_positionIn_perm {I : Type*} [DecidableEq I] {order ids : List I}
    (hperm : order.Perm ids) (hnodup : ids.Nodup) :
    (ids.map (positionIn order)).Perm (List.range' 1 ids.length) := by
  have horder : order.Nodup := hperm.nodup_iff.mpr hnodup
  have hpositions : order.map (positionIn order) =
      List.range' 1 order.length := by
    apply List.ext_getElem
    · simp
    · intro i hi _
      rw [List.length_map] at hi
      rw [List.getElem_map, positionIn_getElem horder i hi, List.getElem_range']
      omega
  rw [← hperm.length_eq, ← hpositions]
  exact hperm.symm.map _

section Positions

variable {I : Type*} [DecidableEq I] (entity : R → I) {rows : List R}

theorem positionIn_map_getElem (hnodup : (rows.map entity).Nodup) (k : Nat)
    (hk : k < rows.length) :
    positionIn (rows.map entity) (entity rows[k]) = k + 1 := by
  have hindex := positionIn_getElem hnodup k (by simpa using hk)
  rwa [List.getElem_map] at hindex

/-- A row with a better position has no greater key. -/
theorem key_le_of_positionIn_le (key : R → K)
    (hnodup : (rows.map entity).Nodup) {left right : R} (hleft : left ∈ rows)
    (hright : right ∈ rows)
    (hle : positionIn ((sortBy key rows).map entity) (entity left) ≤
      positionIn ((sortBy key rows).map entity) (entity right)) :
    key left ≤ key right := by
  have hranked : ((sortBy key rows).map entity).Nodup :=
    ((sortBy_perm key rows).map entity).nodup_iff.mpr hnodup
  obtain ⟨i, hi, rfl⟩ := List.getElem_of_mem ((mem_sortBy key).mpr hleft)
  obtain ⟨j, hj, rfl⟩ := List.getElem_of_mem ((mem_sortBy key).mpr hright)
  rw [positionIn_map_getElem entity hranked i hi,
    positionIn_map_getElem entity hranked j hj] at hle
  rcases Nat.lt_or_eq_of_le (Nat.le_of_succ_le_succ hle) with hlt | rfl
  · exact List.pairwise_iff_getElem.mp (sortBy_pairwise key rows) i j hi hj hlt
  · exact le_refl _

/-- Sorting by position restores the order. -/
theorem sortBy_positionIn {ranked : List R} (hperm : ranked.Perm rows)
    (hnodup : (rows.map entity).Nodup) :
    sortBy (fun row => positionIn (ranked.map entity) (entity row)) rows =
      ranked := by
  have hranked : (ranked.map entity).Nodup := (hperm.map entity).nodup_iff.mpr hnodup
  refine sortBy_eq_of_pairwise _ hperm ?_ ?_
  · rw [List.pairwise_iff_getElem]
    intro i j hi hj hlt
    rw [positionIn_map_getElem entity hranked i hi,
      positionIn_map_getElem entity hranked j hj]
    omega
  · intro left hleft right hright heq
    have hmem : entity left ∈ ranked.map entity :=
      List.mem_map_of_mem (hperm.mem_iff.mpr hleft)
    have hentity : entity left = entity right :=
      (List.idxOf_inj hmem).mp (Nat.succ.inj heq)
    exact List.inj_on_of_nodup_map hnodup hleft hright hentity

end Positions

/-- Lexicographic comparisons agree when the first components do, and the
second wherever the first tie. -/
theorem toLex_le_congr {A : Type*} [LinearOrder A] {a a' : A} {b b' : K}
    {c c' : L}
    (htie : a = a' → (b ≤ b' ↔ c ≤ c')) :
    toLex (a, b) ≤ toLex (a', b') ↔ toLex (a, c) ≤ toLex (a', c') := by
  rw [Prod.Lex.toLex_le_toLex, Prod.Lex.toLex_le_toLex]
  constructor
  · rintro (hlt | ⟨heq, hle⟩)
    · exact Or.inl hlt
    · exact Or.inr ⟨heq, (htie heq).mp hle⟩
  · rintro (hlt | ⟨heq, hle⟩)
    · exact Or.inl hlt
    · exact Or.inr ⟨heq, (htie heq).mpr hle⟩

theorem toLex_le_same {A : Type*} [LinearOrder A] {a : A} {b b' : K} :
    toLex (a, b) ≤ toLex (a, b') ↔ b ≤ b' := by
  simp [Prod.Lex.toLex_le_toLex]

/-- Keys in order are so in what they begin with. -/
theorem toLex_le_leading {A : Type*} [LinearOrder A] {a a' : A} {b b' : K}
    {c c' : L} (hle : toLex (a, toLex (b, c)) ≤ toLex (a', toLex (b', c'))) :
    toLex (a, b) ≤ toLex (a', b') := by
  rw [Prod.Lex.toLex_le_toLex] at hle ⊢
  rcases hle with hlt | ⟨heq, hle⟩
  · exact Or.inl hlt
  · exact Or.inr ⟨heq, Prod.Lex.monotone_fst _ _ hle⟩

/-- `max(rows, key=key, default=None)`: the first of the greatest. -/
def greatest (key : R → K) (rows : List R) : Option R :=
  rows.argmax key

theorem greatest_eq_none_iff {key : R → K} {rows : List R} :
    greatest key rows = none ↔ rows = [] :=
  List.argmax_eq_none

theorem greatest_eq_some {key : R → K} {rows : List R} {row : R}
    (hgreatest : greatest key rows = some row) :
    row ∈ rows ∧ ∀ other ∈ rows, key other ≤ key row :=
  ⟨List.argmax_mem hgreatest,
    fun _ hother => List.le_of_mem_argmax hother hgreatest⟩

/-- How many rows come before one: its `ROW_NUMBER()`, counted from zero. -/
def rank (key : R → K) (rows : List R) (row : R) : Nat :=
  rows.countP fun other => decide (key other < key row)

theorem countP_lt_countP {A : Type*} {p q : A → Bool} {items : List A}
    (himp : ∀ item ∈ items, p item → q item) {item : A} (hmem : item ∈ items)
    (hp : p item = false) (hq : q item = true) :
    items.countP p < items.countP q := by
  induction items with
  | nil => cases hmem
  | cons head tail ih =>
      have htail := List.countP_mono_left fun other hother =>
        himp other (List.mem_cons_of_mem head hother)
      rw [List.countP_cons, List.countP_cons]
      rcases List.mem_cons.mp hmem with rfl | hrest
      · rw [hp, hq]
        exact Nat.lt_of_le_of_lt htail (Nat.lt_succ_self _)
      · have hlt := ih (fun other hother =>
          himp other (List.mem_cons_of_mem head hother)) hrest
        have hhead := himp head List.mem_cons_self
        split <;> split <;> first | omega | simp_all

/-- Ranks follow the order of the keys. -/
theorem rank_lt (key : R → K) {rows : List R} {left right : R}
    (hleft : left ∈ rows) (hlt : key left < key right) :
    rank key rows left < rank key rows right := by
  refine countP_lt_countP (fun other _ hother => ?_) hleft ?_ ?_
  · exact decide_eq_true ((of_decide_eq_true hother).trans hlt)
  · exact decide_eq_false (lt_irrefl _)
  · exact decide_eq_true hlt

/-- Rows of one rank have one key. -/
theorem key_eq_of_rank (key : R → K) {rows : List R} {left right : R}
    (hleft : left ∈ rows) (hright : right ∈ rows)
    (hrank : rank key rows left = rank key rows right) :
    key left = key right := by
  rcases lt_trichotomy (key left) (key right) with hlt | heq | hgt
  · exact absurd hrank (rank_lt key hleft hlt).ne
  · exact heq
  · exact absurd hrank (rank_lt key hright hgt).ne'

end Ranking
