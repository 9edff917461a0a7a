/-
Foreign keys between keyed tables.  A child table refers to a parent table if
the parent has a row under the key that each child row names; writes that take
no key away keep this, and so does a deletion that cascades.
-/
import LiveStandings.Library.KeyedTable

namespace KeyedTable

universe u v w

variable {P : Type u} {C : Type v} {K : Type w} {L : Type*}
variable {key : P → K} {childKey : C → L} [DecidableEq K]

/-- `FOREIGN KEY`: each child row names the key of a parent row. -/
def Refers (child : Table childKey) (ref : C → K) (parent : Table key) : Prop :=
  ∀ row ∈ child.rows, (parent.find? (ref row)).isSome = true

/-- Every key of one table is a key of the other. -/
def KeepsKeys (before after : Table key) : Prop :=
  ∀ k, (before.find? k).isSome = true → (after.find? k).isSome = true

variable {child child' : Table childKey} {ref : C → K}
  {parent parent' : Table key}

theorem find?_isSome_of_mem {row : P} (hrow : row ∈ parent.rows) :
    (parent.find? (key row)).isSome = true := by
  rw [parent.find?_key hrow]
  rfl

section Parent

theorem KeepsKeys.refl (table : Table key) : KeepsKeys table table :=
  fun _ hk => hk

theorem KeepsKeys.trans {before middle after : Table key}
    (hfirst : KeepsKeys before middle) (hsecond : KeepsKeys middle after) :
    KeepsKeys before after :=
  fun k hk => hsecond k (hfirst k hk)

theorem keepsKeys_upsert (table : Table key) (row : P) (onConflict : P → P)
    (hkey : ∀ stored, key stored = key row →
      key (onConflict stored) = key row) :
    KeepsKeys table (table.upsert row onConflict hkey) := by
  intro k hk
  rw [Table.find?_upsert]
  split
  · rfl
  · exact hk

theorem keepsKeys_overwrite (table : Table key) (row : P) :
    KeepsKeys table (table.overwrite row) :=
  keepsKeys_upsert table row _ _

theorem keepsKeys_insertNew (table : Table key) (row : P) :
    KeepsKeys table (table.insertNew row) :=
  keepsKeys_upsert table row _ _

/-- An inserted row is under its key, or another was. -/
theorem find?_insertNew_self (table : Table key) (row : P) :
    ((table.insertNew row).find? (key row)).isSome = true := by
  rw [Table.find?_insertNew, if_pos rfl]
  rfl

theorem keepsKeys_overwriteAll (table : Table key) (rows : List P) :
    KeepsKeys table (table.overwriteAll rows) := by
  induction rows generalizing table with
  | nil => exact .refl table
  | cons row rows ih =>
      exact (keepsKeys_overwrite table row).trans (ih (table.overwrite row))

/-- A parent that keeps its keys keeps its children. -/
theorem Refers.of_keepsKeys (hrefers : Refers child ref parent)
    (hkeys : KeepsKeys parent parent') : Refers child ref parent' :=
  fun row hrow => hkeys _ (hrefers row hrow)

end Parent

section Child

theorem Refers.of_subset (hrefers : Refers child ref parent)
    (hsubset : ∀ row ∈ child'.rows, row ∈ child.rows) :
    Refers child' ref parent :=
  fun row hrow => hrefers row (hsubset row hrow)

theorem Refers.empty : Refers (Table.empty : Table childKey) ref parent := by
  intro row hrow
  cases hrow

variable [DecidableEq L]

/-- A child row may be added under a parent row. -/
theorem Refers.insertNew (hrefers : Refers child ref parent) {row : C}
    (hrow : (parent.find? (ref row)).isSome = true) :
    Refers (child.insertNew row) ref parent := by
  intro other hother
  rcases (Table.mem_insertNew _).mp hother with hold | ⟨rfl, _⟩
  · exact hrefers other hold
  · exact hrow

theorem Refers.overwrite (hrefers : Refers child ref parent) {row : C}
    (hrow : (parent.find? (ref row)).isSome = true) :
    Refers (child.overwrite row) ref parent := by
  intro other hother
  rcases (Table.mem_overwrite _).mp hother with rfl | ⟨hold, _⟩
  · exact hrow
  · exact hrefers other hold

theorem Refers.overwriteAll (hrefers : Refers child ref parent)
    {rows : List C}
    (hrows : ∀ row ∈ rows, (parent.find? (ref row)).isSome = true) :
    Refers (child.overwriteAll rows) ref parent := by
  induction rows generalizing child with
  | nil => exact hrefers
  | cons row rows ih =>
      exact ih (hrefers.overwrite (hrows row List.mem_cons_self))
        fun other hother => hrows other (List.mem_cons_of_mem row hother)

theorem Refers.insertAll (hrefers : Refers child ref parent) {rows : List C}
    (hrows : ∀ row ∈ rows, (parent.find? (ref row)).isSome = true) :
    Refers (child.insertAll rows) ref parent := by
  induction rows generalizing child with
  | nil => exact hrefers
  | cons row rows ih =>
      exact ih (hrefers.insertNew (hrows row List.mem_cons_self))
        fun other hother => hrows other (List.mem_cons_of_mem row hother)

end Child

/-- `ON DELETE CASCADE`: a child row that is kept is one whose parent is. -/
theorem Refers.cascade (hrefers : Refers child ref parent)
    {keepChild : C → Bool} {keepParent : P → Bool}
    (hkept : ∀ row ∈ child.rows, keepChild row = true →
      ∀ owner ∈ parent.rows, key owner = ref row → keepParent owner = true) :
    Refers (child.keepWhere keepChild) ref (parent.keepWhere keepParent) := by
  intro row hrow
  obtain ⟨hold, hkeep⟩ := List.mem_filter.mp hrow
  obtain ⟨owner, hfound⟩ := Option.isSome_iff_exists.mp (hrefers row hold)
  have hmem := Table.mem_of_find? _ hfound
  have hkey := Table.key_of_find? _ hfound
  rw [← hkey]
  exact find?_isSome_of_mem
    (List.mem_filter.mpr ⟨hmem, hkept row hold hkeep owner hmem hkey⟩)

end KeyedTable
