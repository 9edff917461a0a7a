/-
Trees of dicts, lists and scalars, and the redaction of what stands under the
keys a predicate hides.  A place in a tree is a path of keys and indices, so
what a redaction leaves alone is said path by path.
-/
import Mathlib.Data.List.Basic

namespace Redaction

universe u v

variable {K : Type u} {S : Type v}

/-- A nested document.  A dict's keys are read first match first. -/
inductive Tree (K : Type u) (S : Type v) where
  | scalar (value : S)
  | list (items : List (Tree K S))
  | dict (fields : List (K × Tree K S))

/-- One access into a document. -/
inductive Access (K : Type u) where
  | key (k : K)
  | index (i : Nat)

/-- What a document shows without looking inside it. -/
inductive Outline (K : Type u) (S : Type v) where
  | scalar (value : S)
  | list (length : Nat)
  | dict (keys : List K)
deriving DecidableEq

def Tree.outline : Tree K S → Outline K S
  | .scalar value => .scalar value
  | .list items => .list items.length
  | .dict fields => .dict (fields.map Prod.fst)

/-- What one access finds. -/
def Tree.child? [DecidableEq K] : Tree K S → Access K → Option (Tree K S)
  | .dict fields, .key k => fields.lookup k
  | .list items, .index i => items[i]?
  | _, _ => none

/-- What a path of accesses finds. -/
def Tree.at? [DecidableEq K] (tree : Tree K S) : List (Access K) → Option (Tree K S)
  | [] => some tree
  | access :: path => (tree.child? access).bind fun child => child.at? path

section Redact

variable (hidden : K → Bool) (mark : S)

mutual

/-- Every value under a hidden key replaced by `mark`; hidden values are not
looked into. -/
def Tree.redact : Tree K S → Tree K S
  | .scalar value => .scalar value
  | .list items => .list (redactItems items)
  | .dict fields => .dict (redactFields fields)

def redactItems : List (Tree K S) → List (Tree K S)
  | [] => []
  | item :: items => item.redact :: redactItems items

def redactFields : List (K × Tree K S) → List (K × Tree K S)
  | [] => []
  | (k, value) :: fields =>
      (k, if hidden k then .scalar mark else value.redact) ::
        redactFields fields

end

/-- What stands under a key after the redaction. -/
def redactUnder (k : K) (value : Tree K S) : Tree K S :=
  if hidden k then .scalar mark else value.redact hidden mark

theorem redactUnder_hidden {k : K} (hhidden : hidden k = true) :
    redactUnder (S := S) hidden mark k = fun _ => .scalar mark := by
  funext value
  rw [redactUnder, if_pos hhidden]

theorem redactUnder_shown {k : K} (hshown : hidden k = false) :
    redactUnder hidden mark k = Tree.redact (S := S) hidden mark := by
  funext value
  rw [redactUnder, if_neg (by simp [hshown])]

theorem redactItems_eq_map (items : List (Tree K S)) :
    redactItems hidden mark items = items.map (Tree.redact hidden mark) := by
  induction items with
  | nil => rfl
  | cons item items ih => rw [redactItems, ih, List.map_cons]

theorem redactFields_eq_map (fields : List (K × Tree K S)) :
    redactFields hidden mark fields =
      fields.map fun field =>
        (field.1, redactUnder hidden mark field.1 field.2) := by
  induction fields with
  | nil => rfl
  | cons field fields ih => rw [redactFields, ih, List.map_cons, redactUnder]

@[simp] theorem redact_scalar (value : S) :
    (Tree.scalar value : Tree K S).redact hidden mark = .scalar value := by
  rw [Tree.redact]

@[simp] theorem redact_list (items : List (Tree K S)) :
    (Tree.list items).redact hidden mark =
      .list (items.map (Tree.redact hidden mark)) := by
  rw [Tree.redact, redactItems_eq_map]

@[simp] theorem redact_dict (fields : List (K × Tree K S)) :
    (Tree.dict fields).redact hidden mark =
      .dict (fields.map fun field =>
        (field.1, redactUnder hidden mark field.1 field.2)) := by
  rw [Tree.redact, redactFields_eq_map]

/-- Keys, list lengths and scalars stay in place. -/
@[simp] theorem outline_redact (tree : Tree K S) :
    (tree.redact hidden mark).outline = tree.outline := by
  cases tree with
  | scalar value => simp [Tree.outline]
  | list items => simp [Tree.outline]
  | dict fields => simp [Tree.outline, Function.comp_def]

/-- Induction over a document and everything in it. -/
@[elab_as_elim]
theorem Tree.induct {motive : Tree K S → Prop}
    (scalar : ∀ value, motive (.scalar value))
    (list : ∀ items, (∀ item ∈ items, motive item) → motive (.list items))
    (dict : ∀ fields, (∀ field ∈ fields, motive field.2) →
      motive (.dict fields))
    (tree : Tree K S) : motive tree := by
  refine @Tree.rec K S motive (fun items => ∀ item ∈ items, motive item)
    (fun fields => ∀ field ∈ fields, motive field.2)
    (fun field => motive field.2) scalar list dict ?_ ?_ ?_ ?_ ?_ tree
  · intro item hitem
    cases hitem
  · intro item items hhead htail other hother
    rcases List.mem_cons.mp hother with rfl | hmem
    · exact hhead
    · exact htail other hmem
  · intro field hfield
    cases hfield
  · intro field fields hhead htail other hother
    rcases List.mem_cons.mp hother with rfl | hmem
    · exact hhead
    · exact htail other hmem
  · intro k value hvalue
    exact hvalue

/-- What is redacted has nothing left to redact. -/
theorem redact_redact (tree : Tree K S) :
    (tree.redact hidden mark).redact hidden mark = tree.redact hidden mark := by
  induction tree using Tree.induct with
  | scalar value => simp
  | list items ih => simpa using ih
  | dict fields ih =>
      simp only [redact_dict, List.map_map, Tree.dict.injEq]
      apply List.map_congr_left
      intro field hfield
      cases hhidden : hidden field.1 with
      | true => simp [redactUnder_hidden hidden mark hhidden]
      | false =>
          simp [redactUnder_shown hidden mark hhidden, ih field hfield]

section Paths

variable [DecidableEq K]

theorem lookup_map_values {V W : Type v} (f : K → V → W)
    (fields : List (K × V)) (k : K) :
    (fields.map fun field => (field.1, f field.1 field.2)).lookup k =
      (fields.lookup k).map (f k) := by
  induction fields with
  | nil => rfl
  | cons field fields ih =>
      rw [List.map_cons, List.lookup_cons, List.lookup_cons, ih]
      by_cases hk : k = field.1
      · subst hk
        simp
      · simp [beq_false_of_ne hk]

/-- A hidden key keeps its place and loses its value. -/
theorem child?_redact_hidden {k : K} (hhidden : hidden k = true)
    (tree : Tree K S) :
    (tree.redact hidden mark).child? (.key k) =
      (tree.child? (.key k)).map fun _ => .scalar mark := by
  cases tree with
  | scalar value => simp [Tree.child?]
  | list items => simp [Tree.child?]
  | dict fields =>
      rw [redact_dict, Tree.child?, Tree.child?,
        lookup_map_values (redactUnder hidden mark),
        redactUnder_hidden hidden mark hhidden]

/-- An access that a redaction follows. -/
def Access.Open : Access K → Prop
  | .key k => hidden k = false
  | .index _ => True

theorem child?_redact_open {access : Access K} (hopen : access.Open hidden)
    (tree : Tree K S) :
    (tree.redact hidden mark).child? access =
      (tree.child? access).map (Tree.redact hidden mark) := by
  cases tree with
  | scalar value => simp [Tree.child?]
  | list items =>
      cases access with
      | key k => simp [Tree.child?]
      | index i => simp [Tree.child?]
  | dict fields =>
      cases access with
      | index i => simp [Tree.child?]
      | key k =>
          have hshown : hidden k = false := hopen
          rw [redact_dict, Tree.child?, Tree.child?,
            lookup_map_values (redactUnder hidden mark),
            redactUnder_shown hidden mark hshown]

/-- Along open accesses a redaction finds what was there, redacted. -/
theorem at?_redact {path : List (Access K)}
    (hopen : ∀ access ∈ path, access.Open hidden) (tree : Tree K S) :
    (tree.redact hidden mark).at? path =
      (tree.at? path).map (Tree.redact hidden mark) := by
  induction path generalizing tree with
  | nil => rfl
  | cons access path ih =>
      rw [Tree.at?, Tree.at?,
        child?_redact_open hidden mark (hopen access List.mem_cons_self) tree]
      cases hchild : tree.child? access with
      | none => rfl
      | some child =>
          exact ih (fun other hother =>
            hopen other (List.mem_cons_of_mem _ hother)) child

/-- Nothing is below a mark. -/
theorem at?_scalar {path : List (Access K)} {value : S} {found : Tree K S}
    (hfound : (Tree.scalar value).at? path = some found) :
    path = [] ∧ found = .scalar value := by
  cases path with
  | nil => exact ⟨rfl, (Option.some.inj hfound).symm⟩
  | cons access path => simp [Tree.at?, Tree.child?] at hfound

/-- Whatever stands under a hidden key of the redacted document is the
mark, however deep the key is. -/
theorem at?_redact_hidden {path : List (Access K)} {k : K}
    (hhidden : hidden k = true) {tree found : Tree K S}
    (hfound : (tree.redact hidden mark).at? (path ++ [.key k]) = some found) :
    found = .scalar mark := by
  induction path generalizing tree with
  | nil =>
      rw [List.nil_append, Tree.at?,
        child?_redact_hidden hidden mark hhidden] at hfound
      obtain ⟨child, hchild, hat⟩ := Option.bind_eq_some_iff.mp hfound
      obtain ⟨_, _, rfl⟩ := Option.map_eq_some_iff.mp hchild
      exact (at?_scalar hat).2
  | cons access path ih =>
      rw [List.cons_append, Tree.at?] at hfound
      obtain ⟨child, hchild, hat⟩ := Option.bind_eq_some_iff.mp hfound
      by_cases hopen : access.Open hidden
      · rw [child?_redact_open hidden mark hopen] at hchild
        obtain ⟨value, _, rfl⟩ := Option.map_eq_some_iff.mp hchild
        exact ih hat
      · cases access with
        | index i => exact absurd trivial hopen
        | key other =>
            have hother : hidden other = true := by
              simpa [Access.Open] using hopen
            rw [child?_redact_hidden hidden mark hother] at hchild
            obtain ⟨_, _, rfl⟩ := Option.map_eq_some_iff.mp hchild
            have hnil := (at?_scalar hat).1
            simp at hnil

end Paths

end Redact

end Redaction
