/-
Runs of a labelled transition relation.  A run is extended at its end, so an
induction over it meets the last step first; an invariant is a property of
one step, and a guarded run is one whose every step meets a condition.
-/
import Mathlib.Data.List.Basic
import Mathlib.Data.List.Induction

namespace Runs

universe u v w

variable {S : Type u} {A : Type v}

/-- `Run step s labels s'`: the steps with these labels lead from `s` to
`s'`. -/
inductive Run (step : S → A → S → Prop) (start : S) : List A → S → Prop where
  | refl : Run step start [] start
  | snoc {labels : List A} {s s' : S} {a : A} :
      Run step start labels s → step s a s' → Run step start (labels ++ [a]) s'

/-- The steps that are only taken where `guard` holds. -/
def Guarded (guard : S → A → Prop) (step : S → A → S → Prop) :
    S → A → S → Prop :=
  fun s a s' => guard s a ∧ step s a s'

variable {step : S → A → S → Prop} {start s : S} {labels : List A}

/-- What holds at the start and is kept by every step holds after every
run. -/
theorem Run.invariant (inv : S → Prop) (hrun : Run step start labels s)
    (hstart : inv start)
    (hstep : ∀ s a s', inv s → step s a s' → inv s') : inv s := by
  induction hrun with
  | refl => exact hstart
  | snoc _ hlast ih => exact hstep _ _ _ ih hlast

/-- An invariant may mention the labels met so far. -/
theorem Run.labelled_invariant (inv : List A → S → Prop)
    (hrun : Run step start labels s) (hstart : inv [] start)
    (hstep : ∀ labels s a s', inv labels s → step s a s' →
      inv (labels ++ [a]) s') : inv labels s := by
  induction hrun with
  | refl => exact hstart
  | snoc _ hlast ih => exact hstep _ _ _ _ ih hlast

/-- A label met in a longer run is its last one, or was met before. -/
theorem snoc_eq_append_cons {before after : List A} {a b : A}
    (hsplit : labels ++ [a] = before ++ b :: after) :
    (after = [] ∧ labels = before ∧ a = b) ∨
      ∃ after', after = after' ++ [a] ∧ labels = before ++ b :: after' := by
  rcases List.eq_nil_or_concat after with rfl | ⟨after', c, rfl⟩
  · obtain ⟨hlabels, hlast⟩ := List.append_inj' hsplit rfl
    exact Or.inl ⟨rfl, hlabels, List.singleton_inj.mp hlast⟩
  · have hsplit' : labels ++ [a] = (before ++ b :: after') ++ [c] := by
      simpa using hsplit
    obtain ⟨hlabels, hlast⟩ := List.append_inj' hsplit' rfl
    obtain rfl : a = c := List.singleton_inj.mp hlast
    exact Or.inr ⟨after', by simp, hlabels⟩

/-- A guarded run is a run. -/
theorem Run.unguarded {guard : S → A → Prop}
    (hrun : Run (Guarded guard step) start labels s) :
    Run step start labels s := by
  induction hrun with
  | refl => exact .refl
  | snoc _ hlast ih => exact ih.snoc hlast.2

/-- Taking one item after the other is a run, if every item is a step where
the earlier ones lead. -/
theorem Run.foldl {B : Type w} (label : B → A) (next : S → B → S)
    (items : List B)
    (hstep : ∀ earlier item, earlier ++ [item] <+: items →
      step (earlier.foldl next start) (label item)
        (next (earlier.foldl next start) item)) :
    Run step start (items.map label) (items.foldl next start) := by
  induction items using List.reverseRecOn with
  | nil => exact .refl
  | append_singleton items item ih =>
      rw [List.map_append, List.foldl_concat]
      apply Run.snoc
      · apply ih
        intro earlier next hearlier
        exact hstep earlier next (hearlier.trans (List.prefix_append ..))
      · exact hstep items item List.prefix_rfl

theorem Run.single {a : A} {s' : S} (hstep : step s a s') :
    Run step s [a] s' :=
  Run.snoc .refl hstep

/-- A run may also be extended at its start. -/
theorem Run.head {first s' : S} {a : A} (hstep : step start a first)
    (hrun : Run step first labels s') : Run step start (a :: labels) s' := by
  induction hrun with
  | refl => exact Run.single hstep
  | snoc _ hlast ih => exact ih.snoc hlast

/-- A run may be followed by another. -/
theorem Run.append {middle last : S} {later : List A}
    (hrun : Run step start labels middle) (hlater : Run step middle later last) :
    Run step start (labels ++ later) last := by
  induction hlater with
  | refl => rwa [List.append_nil]
  | snoc _ hlast ih =>
      rw [← List.append_assoc]
      exact ih.snoc hlast

/-- What no step of a loop writes is as it was after the loop. -/
theorem foldl_keeps {S : Type u} {A : Type v} {B : Type w} (read : S → B)
    (write : S → A → S) (hkeep : ∀ s a, read (write s a) = read s)
    (items : List A) (s : S) : read (items.foldl write s) = read s := by
  induction items generalizing s with
  | nil => rfl
  | cons item items ih => exact (ih (write s item)).trans (hkeep s item)

end Runs
