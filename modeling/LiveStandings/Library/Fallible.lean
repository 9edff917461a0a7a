/-
Loops that can raise, over `Except`.  A loop that first computes each item
and then makes a write that cannot fail is a `mapM` followed by a plain fold,
so what it leaves is settled before its first write.
-/
import Mathlib.Data.List.Forall2

namespace Fallible

universe u v w x

variable {E : Type u} {A : Type v} {B : Type w} {S : Type x}

theorem bind_eq_ok {A : Type v} {B : Type v} {first : Except E A}
    {next : A → Except E B} {result : B} :
    (first >>= next) = .ok result ↔
      ∃ value, first = .ok value ∧ next value = .ok result := by
  cases first with
  | error error => simp [bind, Except.bind]
  | ok value => simp [bind, Except.bind]

theorem mapError_eq_ok {E' : Type*} {f : E → E'} {result : Except E A}
    {value : A} : result.mapError f = .ok value ↔ result = .ok value := by
  cases result with
  | error error => simp [Except.mapError]
  | ok stored => simp [Except.mapError]

/-- A loop that raises nowhere gives one result for each item. -/
theorem mapM_eq_ok {A : Type v} {B : Type v} {f : A → Except E B}
    {items : List A} {results : List B} :
    items.mapM f = .ok results ↔
      List.Forall₂ (fun item result => f item = .ok result) items results := by
  induction items generalizing results with
  | nil =>
      constructor
      · intro h
        cases h
        exact .nil
      · intro h
        cases h
        rfl
  | cons item items ih =>
      rw [List.mapM_cons]
      constructor
      · intro h
        obtain ⟨first, hfirst, hrest⟩ := bind_eq_ok.mp h
        obtain ⟨rest, hmap, hpure⟩ := bind_eq_ok.mp hrest
        cases hpure
        exact .cons hfirst (ih.mp hmap)
      · intro h
        cases h with
        | cons hfirst hrest =>
            exact bind_eq_ok.mpr
              ⟨_, hfirst, bind_eq_ok.mpr ⟨_, ih.mpr hrest, rfl⟩⟩

/-- Every result comes from an item. -/
theorem exists_of_mem_mapM {A : Type v} {B : Type v} {f : A → Except E B}
    {items : List A} {results : List B} (hmap : items.mapM f = .ok results)
    {result : B} (hresult : result ∈ results) :
    ∃ item ∈ items, f item = .ok result := by
  have hall := mapM_eq_ok.mp hmap
  induction hall with
  | nil => simp at hresult
  | cons hfirst hrest ih =>
      rcases List.mem_cons.mp hresult with rfl | hmem
      · exact ⟨_, List.mem_cons_self, hfirst⟩
      · obtain ⟨item, hitem, heq⟩ := ih (mapM_eq_ok.mpr hrest) hmem
        exact ⟨item, List.mem_cons_of_mem _ hitem, heq⟩

/-- Every item has its result. -/
theorem mem_of_mapM {A : Type v} {B : Type v} {f : A → Except E B}
    {items : List A} {results : List B} (hmap : items.mapM f = .ok results)
    {item : A} (hitem : item ∈ items) :
    ∃ result ∈ results, f item = .ok result := by
  have hall := mapM_eq_ok.mp hmap
  induction hall with
  | nil => simp at hitem
  | cons hfirst hrest ih =>
      rcases List.mem_cons.mp hitem with rfl | hmem
      · exact ⟨_, List.mem_cons_self, hfirst⟩
      · obtain ⟨result, hresult, heq⟩ := ih (mapM_eq_ok.mpr hrest) hmem
        exact ⟨result, List.mem_cons_of_mem _ hresult, heq⟩

theorem mapM_of_forall {A : Type v} {B : Type v} {f : A → Except E B}
    {g : A → B} {items : List A} (hall : ∀ item ∈ items, f item = .ok (g item)) :
    items.mapM f = .ok (items.map g) := by
  rw [mapM_eq_ok, List.forall₂_map_right_iff, List.forall₂_same]
  exact hall

theorem eq_map_of_mapM {A : Type v} {B : Type v} {f : A → Except E B}
    {g : A → B} {items : List A} {results : List B}
    (hmap : items.mapM f = .ok results)
    (hitem : ∀ item ∈ items, ∀ result, f item = .ok result → result = g item) :
    results = items.map g := by
  have hall := mapM_eq_ok.mp hmap
  clear hmap
  induction hall with
  | nil => rfl
  | cons hfirst hrest ih =>
      rw [List.map_cons, hitem _ List.mem_cons_self _ hfirst,
        ih fun item hmem => hitem item (List.mem_cons_of_mem _ hmem)]

/-- Two loops over the same items, one after the other. -/
theorem mapM_then {A : Type v} {B : Type v} {C : Type v} {f : A → Except E B}
    {g : B → Except E C} {items : List A} {middle : List B} {results : List C}
    (hfirst : items.mapM f = .ok middle) (hsecond : middle.mapM g = .ok results) :
    items.mapM (fun item => f item >>= g) = .ok results := by
  rw [mapM_eq_ok] at hfirst hsecond ⊢
  induction hfirst generalizing results with
  | nil =>
      cases hsecond
      exact .nil
  | cons hhead htail ih =>
      cases hsecond with
      | cons hhead' htail' =>
          exact .cons (bind_eq_ok.mpr ⟨_, hhead, hhead'⟩) (ih htail')

/-- A loop that yields a result for some items only: what is kept of each
result is read off its item. -/
theorem filterMap_of_mapM {A : Type v} {B : Type v} {C : Type w}
    {f : A → Except E (Option B)} {items : List A} {results : List (Option B)}
    (hmap : items.mapM f = .ok results) (keep : B → C) {g : A → Option C}
    (hitem : ∀ item ∈ items, ∀ result, f item = .ok result →
      result.map keep = g item) :
    (results.filterMap id).map keep = items.filterMap g := by
  have hall := mapM_eq_ok.mp hmap
  clear hmap
  induction hall with
  | nil => rfl
  | @cons item result items results hfirst hrest ih =>
      have htail := ih fun item hmem =>
        hitem item (List.mem_cons_of_mem _ hmem)
      have hhead := hitem item List.mem_cons_self result hfirst
      rw [List.filterMap_cons, List.filterMap_cons, ← hhead, ← htail]
      cases result <;> rfl

/-- A loop raises nowhere when no item raises. -/
theorem mapM_ok_iff {A : Type v} {B : Type v} {f : A → Except E B}
    {items : List A} :
    (∃ results, items.mapM f = .ok results) ↔
      ∀ item ∈ items, ∃ result, f item = .ok result := by
  constructor
  · rintro ⟨results, hmap⟩ item hitem
    obtain ⟨result, -, hresult⟩ := mem_of_mapM hmap hitem
    exact ⟨result, hresult⟩
  · intro hall
    induction items with
    | nil => exact ⟨[], rfl⟩
    | cons item items ih =>
        obtain ⟨result, hresult⟩ := hall item List.mem_cons_self
        obtain ⟨results, hresults⟩ := ih fun other hother =>
          hall other (List.mem_cons_of_mem _ hother)
        exact ⟨result :: results, mapM_eq_ok.mpr
          (.cons hresult (mapM_eq_ok.mp hresults))⟩

/-- What is read of each result can be read of its item. -/
theorem map_eq_map_of_mapM {A : Type v} {B : Type v} {C : Type w}
    {f : A → Except E B} {items : List A} {results : List B}
    (hmap : items.mapM f = .ok results) {g : A → C} {h : B → C}
    (hitem : ∀ item ∈ items, ∀ result, f item = .ok result →
      h result = g item) : results.map h = items.map g := by
  have hall := mapM_eq_ok.mp hmap
  clear hmap
  induction hall with
  | nil => rfl
  | cons hfirst hrest ih =>
      rw [List.map_cons, List.map_cons, hitem _ List.mem_cons_self _ hfirst,
        ih fun item hmem => hitem item (List.mem_cons_of_mem _ hmem)]

/-- A loop over what was picked, that undoes the picking. -/
theorem mapM_filterMap {A : Type v} {B : Type v} {f : B → Except E A}
    {pick : A → Option B} {items : List A}
    (hundo : ∀ item ∈ items, ∀ value, pick item = some value →
      f value = .ok item) :
    (items.filterMap pick).mapM f =
      .ok (items.filter fun item => (pick item).isSome) := by
  induction items with
  | nil => rfl
  | cons item items ih =>
      have hrest := ih fun other hother =>
        hundo other (List.mem_cons_of_mem _ hother)
      cases hpick : pick item with
      | none =>
          rw [List.filterMap_cons_none hpick, List.filter_cons_of_neg
            (by rw [hpick]; exact Bool.false_ne_true)]
          exact hrest
      | some value =>
          rw [List.filterMap_cons_some hpick, List.filter_cons_of_pos
            (by rw [hpick]; rfl), mapM_eq_ok]
          exact .cons (hundo item List.mem_cons_self value hpick)
            (mapM_eq_ok.mp hrest)

/-- What every step of a loop that raises nowhere keeps. -/
theorem foldlM_invariant {A : Type v} {S : Type v} (inv : S → Prop)
    {step : S → A → Except E S} {items : List A} {s s' : S}
    (hloop : items.foldlM step s = .ok s') (hstart : inv s)
    (hstep : ∀ s item s', item ∈ items → inv s → step s item = .ok s' →
      inv s') : inv s' := by
  induction items generalizing s with
  | nil =>
      cases hloop
      exact hstart
  | cons item items ih =>
      rw [List.foldlM_cons] at hloop
      obtain ⟨next, hfirst, hrest⟩ := bind_eq_ok.mp hloop
      apply ih hrest
      · exact hstep s item next List.mem_cons_self hstart hfirst
      · intro s item s' hitem
        exact hstep s item s' (List.mem_cons_of_mem _ hitem)

/-- A loop of checked writes whose checks always pass, on items computed just
before they are written. -/
theorem foldlM_checked {A : Type v} {B : Type v} {S : Type v}
    (compute : A → Except E B) (check : S → B → Except E S)
    (write : S → B → S) (inv : S → Prop) {items : List A}
    (hcheck : ∀ s item, inv s → item ∈ items → ∀ value,
      compute item = .ok value → check s value = .ok (write s value))
    (hinv : ∀ s value, inv s → inv (write s value)) {s : S} (hs : inv s) :
    items.foldlM (fun s item => compute item >>= check s) s =
      (items.mapM compute).map fun values => values.foldl write s := by
  induction items generalizing s with
  | nil => rfl
  | cons item items ih =>
      rw [List.foldlM_cons, List.mapM_cons]
      cases hcompute : compute item with
      | error error => rfl
      | ok value =>
          have hwrite := hcheck s item hs List.mem_cons_self value hcompute
          have htail := ih
            (fun s' item' hs' hmem => hcheck s' item' hs'
              (List.mem_cons_of_mem _ hmem)) (hinv s value hs)
          have hstep : (Except.ok value >>= check s : Except E S) =
              .ok (write s value) := hwrite
          rw [hstep]
          refine htail.trans ?_
          cases items.mapM compute <;> rfl

/-- A loop of writes that cannot fail. -/
theorem foldlM_total {A : Type v} {B : Type v} {S : Type v}
    (compute : A → Except E B) (write : S → B → S) (items : List A) (s : S) :
    items.foldlM (fun s item => compute item >>= fun value =>
      .ok (write s value)) s =
      (items.mapM compute).map fun values => values.foldl write s :=
  foldlM_checked compute (fun s value => .ok (write s value)) write
    (fun _ => True) (fun _ _ _ _ _ _ => rfl) (fun _ _ _ => trivial) trivial

end Fallible
