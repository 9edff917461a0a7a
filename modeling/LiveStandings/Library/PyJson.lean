/-
JSON documents as a Python program sees them after `json.loads`: which
accesses raise, what an iteration yields, and which values can key a dict.
Fractional numbers are left out; every number here is a Python `int`.
-/
import Mathlib.Data.List.Basic

namespace PyJson

/-- A parsed document.  An object is a dict: its keys are read first match
first. -/
inductive Json where
  | null
  | bool (b : Bool)
  | int (n : Int)
  | str (s : String)
  | arr (items : List Json)
  | obj (fields : List (String × Json))
deriving Repr, BEq, Inhabited

/-- The exceptions that reading a document and storing what was read can
raise. -/
inductive PyError where
  | keyError (field : String)
  | typeError
  | attributeError
  | valueError
  | dataError
  | integrityError
deriving Repr, DecidableEq

namespace Json

def isNull : Json → Bool
  | null => true
  | _ => false

/-- `bool(value)`. -/
def truthy : Json → Bool
  | null => false
  | bool b => b
  | int n => n != 0
  | str s => s != ""
  | arr items => !items.isEmpty
  | obj fields => !fields.isEmpty

/-- `value or other`. -/
def orElse (value other : Json) : Json :=
  if value.truthy then value else other

/-- `value[field]`. -/
def item (value : Json) (field : String) : Except PyError Json :=
  match value with
  | obj fields =>
      match fields.lookup field with
      | some found => .ok found
      | none => .error (.keyError field)
  | _ => .error .typeError

/-- `value.get(field, default)`.  A field that is present and null is null. -/
def getD (value : Json) (field : String) (default : Json) :
    Except PyError Json :=
  match value with
  | obj fields => .ok ((fields.lookup field).getD default)
  | _ => .error .attributeError

/-- `value.get(field)`. -/
def get (value : Json) (field : String) : Except PyError Json :=
  value.getD field null

/-- `for item in value`. -/
def iterate : Json → Except PyError (List Json)
  | arr items => .ok items
  | obj fields => .ok (fields.map fun entry => str entry.1)
  | str s => .ok (s.toList.map fun c => str (String.singleton c))
  | _ => .error .typeError

/-- The integer a value compares equal to, a `bool` being an `int`. -/
def asInt? : Json → Option Int
  | int n => some n
  | bool b => some (if b then 1 else 0)
  | _ => none

/-- `left == right` of two scalars. -/
def scalarEq (left right : Json) : Bool :=
  match left.asInt?, right.asInt? with
  | some m, some n => m == n
  | none, none =>
      match left, right with
      | null, null => true
      | str s, str t => s == t
      | _, _ => false
  | _, _ => false

mutual

/-- `left == right`: a `bool` equals an `int`, and dicts compare by key. -/
def pyEq : Json → Json → Bool
  | arr items, arr items' => pyEqItems items items'
  | obj fields, obj fields' =>
      fields.length == fields'.length && pyEqFields fields fields'
  | left, right => left.scalarEq right

def pyEqItems : List Json → List Json → Bool
  | [], [] => true
  | item :: items, item' :: items' => item.pyEq item' && pyEqItems items items'
  | _, _ => false

def pyEqFields : List (String × Json) → List (String × Json) → Bool
  | [], _ => true
  | (k, value) :: fields, fields' =>
      (match fields'.lookup k with
        | some value' => value.pyEq value'
        | none => false) && pyEqFields fields fields'

end

example : (obj [("a", int 1), ("b", null)]).pyEq
    (obj [("b", null), ("a", bool true)]) = true := by decide

/-- Two documents with one content: dicts compare by key, and `true` is not
`1`. -/
inductive Same : Json → Json → Prop where
  | refl (value : Json) : Same value value
  | arr {items items' : List Json} (hitems : List.Forall₂ Same items items') :
      Same (.arr items) (.arr items')
  | obj {fields fields' : List (String × Json)}
      (hfields : ∀ k,
        Option.Rel Same (fields.lookup k) (fields'.lookup k)) :
      Same (.obj fields) (.obj fields')

end Json

/-- A hashable value up to `==`. -/
inductive DictKey where
  | none
  | int (n : Int)
  | str (s : String)
deriving Repr, DecidableEq

/-- Using a value as a dict key; lists and dicts are unhashable. -/
def Json.dictKey : Json → Except PyError DictKey
  | .null => .ok .none
  | .bool b => .ok (.int (if b then 1 else 0))
  | .int n => .ok (.int n)
  | .str s => .ok (.str s)
  | .arr _ => .error .typeError
  | .obj _ => .error .typeError

section Dict

universe u v

variable {K : Type u} {V : Type v} [DecidableEq K]

/-- A dict filled by assignments, the latest one first. -/
abbrev Dict (K : Type u) (V : Type v) := List (K × V)

/-- `dict(pairs)`: a later pair overwrites an earlier one. -/
def Dict.ofPairs (pairs : List (K × V)) : Dict K V := pairs.reverse

/-- `dict[k] = value`. -/
def Dict.set (dict : Dict K V) (k : K) (value : V) : Dict K V :=
  (k, value) :: dict

/-- `dict.get(k)`. -/
def Dict.get? (dict : Dict K V) (k : K) : Option V := List.lookup k dict

@[simp] theorem Dict.get?_set (dict : Dict K V) (k k' : K) (value : V) :
    (dict.set k value).get? k' =
      if k' = k then some value else dict.get? k' := by
  by_cases hk : k' = k
  · simp [Dict.get?, Dict.set, hk]
  · have hbeq : (k' == k) = false := beq_false_of_ne hk
    simp [Dict.get?, Dict.set, List.lookup_cons, hk, hbeq]

/-- `{**dict, **other}`: the entries of `other` win. -/
def Dict.update (dict other : Dict K V) : Dict K V := other ++ dict

@[simp] theorem Dict.get?_update (dict other : Dict K V) (k : K) :
    (dict.update other).get? k = (other.get? k).or (dict.get? k) :=
  List.lookup_append

/-- Looking up a key of a dict comprehension. -/
theorem Dict.get?_ofPairs_map (f : K → V) {keys : List K} {k : K}
    (hmem : k ∈ keys) :
    (Dict.ofPairs (keys.map fun k => (k, f k))).get? k = some (f k) := by
  have hlookup : ∀ keys : List K, k ∈ keys →
      List.lookup k (keys.map fun k => (k, f k)) = some (f k) := by
    intro keys
    induction keys with
    | nil => simp
    | cons head tail ih =>
        intro hmem
        rw [List.map_cons, List.lookup_cons]
        by_cases hhead : k = head
        · subst hhead
          simp
        · have htail := (List.mem_cons.mp hmem).resolve_left hhead
          simp [beq_false_of_ne hhead, ih htail]
  have hreverse := hlookup keys.reverse (List.mem_reverse.mpr hmem)
  rwa [List.map_reverse] at hreverse

/-- Looking up a key of a dict comprehension that leaves keys out. -/
theorem Dict.get?_filterMap (f : K → Option V) (keys : List K) (k : K) :
    Dict.get? (keys.filterMap fun k => (f k).map fun value => (k, value)) k =
      if k ∈ keys then f k else none := by
  induction keys with
  | nil => rfl
  | cons key keys ih =>
      rw [Dict.get?] at ih ⊢
      rw [List.filterMap_cons]
      by_cases hkey : k = key
      · subst hkey
        cases hfound : f k with
        | some value => simp
        | none => simp [ih, hfound]
      · have hbeq : (k == key) = false := beq_false_of_ne hkey
        cases hfound : f key with
        | some value => simp [List.lookup_cons, ih, hkey, hbeq]
        | none => simp [ih, hkey]

/-- The last pair with a key is the one that is looked up. -/
theorem Dict.get?_ofPairs_last {before after : List (K × V)} {k : K} {value : V}
    (hafter : ∀ pair ∈ after, pair.1 ≠ k) :
    (Dict.ofPairs (before ++ (k, value) :: after)).get? k = some value := by
  refine List.lookup_eq_some_iff.mpr
    ⟨after.reverse, before.reverse, by simp [Dict.ofPairs], ?_⟩
  intro pair hpair
  simpa using (hafter pair (List.mem_reverse.mp hpair)).symm

theorem Dict.get?_ofPairs_absent {pairs : List (K × V)} {k : K}
    (habsent : ∀ pair ∈ pairs, pair.1 ≠ k) :
    (Dict.ofPairs pairs).get? k = none := by
  refine List.lookup_eq_none_iff.mpr fun pair hpair => ?_
  simpa using (habsent pair (List.mem_reverse.mp hpair)).symm

theorem Dict.mem_of_get? {dict : Dict K V} {k : K} {value : V}
    (hget : dict.get? k = some value) : (k, value) ∈ dict := by
  obtain ⟨before, after, hsplit, _⟩ := List.lookup_eq_some_iff.mp hget
  simp [hsplit]

end Dict

end PyJson
