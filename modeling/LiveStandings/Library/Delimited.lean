/-
Fields written one after the other with a separator between them.  What was
written is read back only as far as the separator is not part of a field.
-/
import Mathlib.Data.List.Basic

namespace Delimited

universe u

variable {A : Type u} {separator : A} {first first' rest rest' : List A}

/-- Part of the second field of one pair, read as part of the other's first. -/
def Shifted (separator : A) (first rest first' rest' : List A) : Prop :=
  ∃ moved, first' = first ++ separator :: moved ∧
    rest = moved ++ separator :: rest'

theorem Shifted.join_eq (hshift : Shifted separator first rest first' rest') :
    first ++ separator :: rest = first' ++ separator :: rest' := by
  obtain ⟨moved, rfl, rfl⟩ := hshift
  simp

theorem Shifted.separator_mem
    (hshift : Shifted separator first rest first' rest') :
    separator ∈ first' := by
  obtain ⟨moved, rfl, _⟩ := hshift
  simp

/-- Two pairs are written alike when they are the same or one is the other
with its fields divided at another separator. -/
theorem join_eq_iff :
    first ++ separator :: rest = first' ++ separator :: rest' ↔
      (first = first' ∧ rest = rest') ∨
        Shifted separator first rest first' rest' ∨
        Shifted separator first' rest' first rest := by
  constructor
  · intro hjoin
    rcases List.append_eq_append_iff.mp hjoin with
      ⟨between, hfirst, hrest⟩ | ⟨between, hfirst, hrest⟩
    · cases between with
      | nil =>
          left
          simp at hfirst hrest
          exact ⟨hfirst.symm, hrest⟩
      | cons head moved =>
          obtain ⟨rfl, hmoved⟩ := List.cons.inj hrest
          exact Or.inr (Or.inl ⟨moved, hfirst, hmoved⟩)
    · cases between with
      | nil =>
          left
          simp at hfirst hrest
          exact ⟨hfirst, hrest.symm⟩
      | cons head moved =>
          obtain ⟨rfl, hmoved⟩ := List.cons.inj hrest
          exact Or.inr (Or.inr ⟨moved, hfirst, hmoved⟩)
  · rintro (⟨rfl, rfl⟩ | hshift | hshift)
    · rfl
    · exact hshift.join_eq
    · exact hshift.join_eq.symm

/-- A first field without the separator is read back. -/
theorem join_inj (hfirst : separator ∉ first) (hfirst' : separator ∉ first') :
    first ++ separator :: rest = first' ++ separator :: rest' ↔
      first = first' ∧ rest = rest' := by
  rw [join_eq_iff]
  constructor
  · rintro (hsame | hshift | hshift)
    · exact hsame
    · exact absurd hshift.separator_mem hfirst'
    · exact absurd hshift.separator_mem hfirst
  · exact Or.inl

end Delimited
