/-
The greatest of the values met so far.  Two collections have the same greatest
value when each value of one is matched by a value of the other; a cap on
every value is a cap on the greatest.
-/
import Mathlib.Data.List.Basic
import Mathlib.Order.MinMax
import Mathlib.Order.Std

namespace Highest

universe u

variable {K : Type u} [LinearOrder K]

/-- Raise the greatest value met so far. -/
def raise (peak : Option K) (value : K) : Option K :=
  match peak with
  | none => some value
  | some peak => some (max peak value)

theorem foldl_raise_some (peak : K) (values : List K) :
    values.foldl raise (some peak) = some (values.foldl max peak) := by
  induction values generalizing peak with
  | nil => rfl
  | cons value values ih => exact ih (max peak value)

theorem foldl_raise (values : List K) :
    values.foldl raise none = values.max? := by
  cases values with
  | nil => rfl
  | cons value values =>
      rw [List.max?_cons']
      exact foldl_raise_some value values

/-- Every value of the first is matched by one of the second. -/
def Matched (left right : List K) : Prop :=
  ∀ value ∈ left, ∃ other ∈ right, value ≤ other

theorem le_max?_of_mem {values : List K} {value peak : K}
    (hvalue : value ∈ values) (hpeak : values.max? = some peak) :
    value ≤ peak :=
  (List.max?_eq_some_iff.mp hpeak).2 value hvalue

theorem exists_max?_of_mem {values : List K} {value : K}
    (hvalue : value ∈ values) : ∃ peak, values.max? = some peak :=
  Option.isSome_iff_exists.mp (List.isSome_max?_of_mem hvalue)

theorem max?_eq_max?_iff {left right : List K} :
    left.max? = right.max? ↔ Matched left right ∧ Matched right left := by
  have hmatched : ∀ {left right : List K}, left.max? = right.max? →
      Matched left right := by
    intro left right heq value hvalue
    obtain ⟨peak, hpeak⟩ := exists_max?_of_mem hvalue
    exact ⟨peak, List.max?_mem (heq ▸ hpeak), le_max?_of_mem hvalue hpeak⟩
  constructor
  · intro heq
    exact ⟨hmatched heq, hmatched heq.symm⟩
  · rintro ⟨hleft, hright⟩
    cases hpeak : right.max? with
    | none =>
        rw [List.max?_eq_none_iff] at hpeak ⊢
        refine List.eq_nil_iff_forall_not_mem.mpr fun value hvalue => ?_
        obtain ⟨other, hother, _⟩ := hleft value hvalue
        simp [hpeak] at hother
    | some peak =>
        obtain ⟨other, hother, hle⟩ := hright peak (List.max?_mem hpeak)
        refine List.max?_eq_some_iff.mpr ⟨?_, ?_⟩
        · obtain ⟨back, hback, hge⟩ := hleft other hother
          have hother_le := hge.trans (le_max?_of_mem hback hpeak)
          exact le_antisymm hle hother_le ▸ hother
        · intro value hvalue
          obtain ⟨back, hback, hge⟩ := hleft value hvalue
          exact hge.trans (le_max?_of_mem hback hpeak)

theorem Matched.append {left left' right right' : List K}
    (hfirst : Matched left right) (hsecond : Matched left' right') :
    Matched (left ++ left') (right ++ right') := by
  intro value hvalue
  rcases List.mem_append.mp hvalue with hvalue | hvalue
  · obtain ⟨other, hother, hle⟩ := hfirst value hvalue
    exact ⟨other, List.mem_append_left _ hother, hle⟩
  · obtain ⟨other, hother, hle⟩ := hsecond value hvalue
    exact ⟨other, List.mem_append_right _ hother, hle⟩

/-- Of a part of the values only the greatest counts. -/
theorem max?_append_congr {left left' right right' : List K}
    (hleft : left.max? = left'.max?) (hright : right.max? = right'.max?) :
    (left ++ right).max? = (left' ++ right').max? := by
  obtain ⟨hle, hge⟩ := max?_eq_max?_iff.mp hleft
  obtain ⟨hle', hge'⟩ := max?_eq_max?_iff.mp hright
  exact max?_eq_max?_iff.mpr ⟨hle.append hle', hge.append hge'⟩

theorem max?_toList (values : List K) :
    values.max?.toList.max? = values.max? := by
  cases values.max? with
  | none => rfl
  | some peak => rfl

/-- A value that is there only rises; where there is none, any may follow. -/
def Rises (left right : Option K) : Prop :=
  ∀ value ∈ left, ∃ other ∈ right, value ≤ other

/-- Cut at `cap`, if there is one. -/
def cut (cap : Option K) (value : K) : K :=
  match cap with
  | none => value
  | some cap => min value cap

theorem cut_le (cap : Option K) (value : K) : cut cap value ≤ value := by
  cases cap with
  | none => exact le_refl value
  | some cap => exact min_le_left value cap

theorem cut_mono (cap : Option K) {value value' : K} (hle : value ≤ value') :
    cut cap value ≤ cut cap value' := by
  cases cap with
  | none => exact hle
  | some cap => exact min_le_min_right cap hle

theorem cut_le_cut_iff {cap : Option K} {value value' : K} :
    cut cap value ≤ cut cap value' ↔ cut cap value ≤ value' := by
  cases cap with
  | none => rfl
  | some cap => simp [cut]

/-- Cutting every value cuts the greatest. -/
theorem max?_map_cut (cap : Option K) (values : List K) :
    (values.map (cut cap)).max? = values.max?.map (cut cap) := by
  cases hpeak : values.max? with
  | none => simpa using hpeak
  | some peak =>
      refine List.max?_eq_some_iff.mpr
        ⟨List.mem_map_of_mem (List.max?_mem hpeak), ?_⟩
      intro value hvalue
      obtain ⟨uncut, huncut, rfl⟩ := List.mem_map.mp hvalue
      exact cut_mono cap (le_max?_of_mem huncut hpeak)

/-- The greatest value is the cap once a value has reached it. -/
theorem max?_map_cut_of_reached {cap value : K} {values : List K}
    (hvalue : value ∈ values) (hle : cap ≤ value) :
    values.max?.map (cut (some cap)) = some cap := by
  obtain ⟨peak, hpeak⟩ := exists_max?_of_mem hvalue
  have hreached := hle.trans (le_max?_of_mem hvalue hpeak)
  rw [hpeak, Option.map_some, cut, min_eq_right hreached]

/-- A cap above every value cuts nothing. -/
theorem max?_map_cut_of_le {cap : K} {values : List K}
    (hle : ∀ value ∈ values, value ≤ cap) :
    values.max?.map (cut (some cap)) = values.max? := by
  cases hpeak : values.max? with
  | none => rfl
  | some peak =>
      rw [Option.map_some, cut, min_eq_left (hle peak (List.max?_mem hpeak))]

/-- The cut greatest values agree when each cut value of one is matched by a
value of the other. -/
theorem cut_max?_eq_iff {cap : Option K} {left right : List K} :
    left.max?.map (cut cap) = right.max?.map (cut cap) ↔
      (∀ value ∈ left, ∃ other ∈ right, cut cap value ≤ other) ∧
        ∀ value ∈ right, ∃ other ∈ left, cut cap value ≤ other := by
  rw [← max?_map_cut, ← max?_map_cut, max?_eq_max?_iff]
  simp [Matched, cut_le_cut_iff]

/-! Greatest values of more and more. -/

/-- More values have a greater greatest one. -/
theorem max?_rises {values values' : List K} (hsub : values ⊆ values') :
    Rises values.max? values'.max? := by
  intro peak hpeak
  have hmem := hsub (List.max?_mem hpeak)
  obtain ⟨peak', hpeak'⟩ := exists_max?_of_mem hmem
  exact ⟨peak', hpeak', le_max?_of_mem hmem hpeak'⟩

theorem Rises.cut {left right : Option K} (hrises : Rises left right)
    (cap : Option K) : Rises (left.map (cut cap)) (right.map (cut cap)) := by
  intro value hvalue
  obtain ⟨uncut, huncut, rfl⟩ := Option.map_eq_some_iff.mp hvalue
  obtain ⟨other, hother, hle⟩ := hrises uncut huncut
  exact ⟨Highest.cut cap other, Option.mem_map_of_mem _ hother,
    cut_mono cap hle⟩

/-- A rising series is null at first and then a non-decreasing one. -/
theorem split_of_rises {series : List (Option K)}
    (hrises : series.Pairwise Rises) :
    ∃ (n : Nat) (values : List K),
      series = List.replicate n none ++ values.map some ∧
        values.Pairwise (· ≤ ·) := by
  induction series with
  | nil => exact ⟨0, [], rfl, List.Pairwise.nil⟩
  | cons head rest ih =>
      obtain ⟨hhead, hrest⟩ := List.pairwise_cons.mp hrises
      obtain ⟨n, values, hsplit, hsorted⟩ := ih hrest
      cases head with
      | none => exact ⟨n + 1, values, by rw [hsplit]; rfl, hsorted⟩
      | some value =>
          have hstart : n = 0 := by
            by_contra hn
            have hnone : none ∈ rest := by
              rw [hsplit]
              exact List.mem_append_left _ (List.mem_replicate.mpr ⟨hn, rfl⟩)
            obtain ⟨other, hother, _⟩ := hhead none hnone value rfl
            cases hother
          subst hstart
          refine ⟨0, value :: values, by rw [hsplit]; rfl, ?_⟩
          refine List.pairwise_cons.mpr ⟨fun later hlater => ?_, hsorted⟩
          have hmem : some later ∈ rest := by
            rw [hsplit]
            exact List.mem_append_right _ (List.mem_map_of_mem hlater)
          obtain ⟨other, hother, hle⟩ := hhead (some later) hmem value rfl
          cases hother
          exact hle

end Highest
