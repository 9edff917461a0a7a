/-
Answers about shared references.  Keys list references, an index takes each
reference to the keys that list it, and the answers about references are
spread back over the keys, one after the other, so that of several answers
that reach a key the last one stays.
-/
import LiveStandings.Library.KeyedTable
import LiveStandings.Library.Ranking

namespace KeyedTable

universe u v

variable {R : Type u} {K : Type v} {key : R → K} [DecidableEq K]

theorem lastUnder_append (k : K) (rows rows' : List R) :
    lastUnder key k (rows ++ rows') =
      (lastUnder key k rows').or (lastUnder key k rows) := by
  simp [lastUnder, List.find?_append]

/-- In a table the last row under a key is the row under it. -/
theorem Table.lastUnder_rows (table : Table key) (k : K) :
    lastUnder key k table.rows = table.find? k := by
  cases hlast : lastUnder key k table.rows with
  | none =>
      exact (table.find?_eq_none_iff.mpr (lastUnder_eq_none_iff.mp hlast)).symm
  | some row =>
      exact (table.find?_eq_some_iff.mpr (mem_of_lastUnder hlast)).symm

/-- A new key goes to the end, a known one stays where it is. -/
def addKey (keys : List K) (k : K) : List K :=
  if k ∈ keys then keys else keys ++ [k]

theorem mem_addKey {keys : List K} {k other : K} :
    other ∈ addKey keys k ↔ other ∈ keys ∨ other = k := by
  rw [addKey]
  split
  · next hknown =>
      exact ⟨Or.inl, fun hother => hother.elim id fun heq => heq ▸ hknown⟩
  · simp

theorem mem_foldl_addKey {ks keys : List K} {k : K} :
    k ∈ ks.foldl addKey keys ↔ k ∈ keys ∨ k ∈ ks := by
  induction ks generalizing keys with
  | nil => simp
  | cons head tail ih =>
      rw [List.foldl_cons, ih, mem_addKey, List.mem_cons, or_assoc]

/-- Adding the keys of a list is adding each of them once. -/
theorem foldl_addKey_foldl (keys ks : List K) :
    (ks.foldl addKey []).foldl addKey keys = ks.foldl addKey keys := by
  induction ks using List.reverseRecOn with
  | nil => rfl
  | append_singleton ks k ih =>
      rw [List.foldl_concat, List.foldl_concat, addKey]
      split
      · next hknown =>
          have hmem : k ∈ ks.foldl addKey keys :=
            mem_foldl_addKey.mpr (Or.inr (by simpa [mem_foldl_addKey] using hknown))
          rw [ih, addKey, if_pos hmem]
      · rw [List.foldl_concat, ih]

theorem Table.keys_overwriteAll_eq (table : Table key) (rows : List R) :
    (table.overwriteAll rows).rows.map key =
      (rows.map key).foldl addKey (table.rows.map key) := by
  induction rows generalizing table with
  | nil => rfl
  | cons row rows ih =>
      have hstep : table.overwriteAll (row :: rows) =
          (table.overwrite row).overwriteAll rows := rfl
      rw [hstep, ih, table.keys_overwrite]
      rfl

/-- Writing the rows of a table that rows were written into is writing those
rows. -/
theorem Table.overwriteAll_rows_overwriteAll (table : Table key)
    (rows : List R) :
    table.overwriteAll ((Table.empty : Table key).overwriteAll rows).rows =
      table.overwriteAll rows := by
  apply Table.eq_of_find?_eq
  · rw [Table.keys_overwriteAll_eq, Table.keys_overwriteAll_eq,
      Table.keys_overwriteAll_eq]
    exact foldl_addKey_foldl _ _
  · intro k
    rw [Table.find?_overwriteAll, Table.find?_overwriteAll,
      Table.lastUnder_rows, Table.find?_overwriteAll]
    simp

theorem foldl_addKey_same (keys : List K) {ks : List K} {k : K}
    (hks : ∀ other ∈ ks, other = k) :
    (ks ++ [k]).foldl addKey keys = addKey keys k := by
  induction ks generalizing keys with
  | nil => rfl
  | cons head tail ih =>
      obtain rfl := hks head List.mem_cons_self
      have hknown : head ∈ addKey keys head := mem_addKey.mpr (Or.inr rfl)
      have hrest := ih (addKey keys head) fun other hother =>
        hks other (List.mem_cons_of_mem _ hother)
      rw [List.cons_append, List.foldl_cons, hrest]
      exact if_pos hknown

/-- Writes under one new key leave the last of them at the end. -/
theorem Table.rows_overwriteAll_concat (table : Table key) {rows : List R}
    {last : R} (hfresh : key last ∉ table.rows.map key)
    (hrows : ∀ row ∈ rows, key row = key last) :
    (table.overwriteAll (rows ++ [last])).rows = table.rows ++ [last] := by
  have hsame : table.overwriteAll (rows ++ [last]) = table.overwrite last := by
    apply Table.eq_of_find?_eq
    · rw [Table.keys_overwriteAll_eq, Table.keys_overwrite, List.map_append]
      exact foldl_addKey_same _ (by simpa using hrows)
    · intro k
      rw [Table.find?_overwriteAll, Table.find?_overwrite, lastUnder_append]
      by_cases hk : key last = k
      · simp [lastUnder, hk]
      · have hnone : lastUnder key k rows = none :=
          lastUnder_eq_none_iff.mpr fun row hrow => by rwa [hrows row hrow]
        have hself : lastUnder key k [last] = none :=
          lastUnder_eq_none_iff.mpr (by simpa using hk)
        rw [hnone, hself, if_neg hk]
        rfl
  rw [hsame]
  exact writeRow_of_fresh hfresh

end KeyedTable

namespace InvertedIndex

open KeyedTable

universe u v w

variable {K : Type u} {V : Type v} {R : Type w} [DecidableEq K]

/-- A dict that remembers its insertion order. -/
abbrev OrderedDict (K : Type u) (V : Type v) := Table (Prod.fst : K × V → K)

/-- The value under a key. -/
def get? (dict : OrderedDict K V) (k : K) : Option V :=
  (dict.find? k).map Prod.snd

def ofPairs (pairs : List (K × V)) : OrderedDict K V :=
  (Table.empty : OrderedDict K V).overwriteAll pairs

theorem get?_eq_some_iff {dict : OrderedDict K V} {k : K} {value : V} :
    get? dict k = some value ↔ (k, value) ∈ dict.rows := by
  rw [get?, Option.map_eq_some_iff]
  constructor
  · rintro ⟨⟨k', value'⟩, hfind, rfl⟩
    obtain ⟨hmem, rfl⟩ := dict.find?_eq_some_iff.mp hfind
    exact hmem
  · exact fun hmem => ⟨_, dict.find?_key hmem, rfl⟩

theorem get?_ofPairs (pairs : List (K × V)) (k : K) :
    get? (ofPairs pairs) k = (lastUnder Prod.fst k pairs).map Prod.snd := by
  rw [get?, ofPairs, Table.find?_overwriteAll]
  simp

theorem mem_of_get?_ofPairs {pairs : List (K × V)} {k : K} {value : V}
    (hget : get? (ofPairs pairs) k = some value) : (k, value) ∈ pairs := by
  rw [get?_ofPairs] at hget
  obtain ⟨⟨k', value'⟩, hlast, rfl⟩ := Option.map_eq_some_iff.mp hget
  obtain ⟨hmem, rfl⟩ := mem_of_lastUnder hlast
  exact hmem

theorem get?_ofPairs_isSome {pairs : List (K × V)} {k : K} {value : V}
    (hmem : (k, value) ∈ pairs) : ∃ last, get? (ofPairs pairs) k = some last := by
  rw [get?_ofPairs]
  cases hlast : lastUnder Prod.fst k pairs with
  | none => exact absurd rfl (lastUnder_eq_none_iff.mp hlast _ hmem)
  | some last => exact ⟨last.2, rfl⟩

/-- Where the pairs under a key agree, the dict holds what they say. -/
theorem get?_ofPairs_of_agree {pairs : List (K × V)} {k : K}
    (hagree : ∀ left right, (k, left) ∈ pairs → (k, right) ∈ pairs →
      left = right) {value : V} :
    get? (ofPairs pairs) k = some value ↔ (k, value) ∈ pairs := by
  constructor
  · exact mem_of_get?_ofPairs
  · intro hmem
    obtain ⟨last, hlast⟩ := get?_ofPairs_isSome hmem
    rw [hlast, hagree last value (mem_of_get?_ofPairs hlast) hmem]

theorem rows_perm {left right : OrderedDict K V}
    (hsame : ∀ k, get? left k = get? right k) :
    left.rows.Perm right.rows := by
  refine (List.perm_ext_iff_of_nodup (List.Nodup.of_map _ left.keys_nodup)
    (List.Nodup.of_map _ right.keys_nodup)).mpr fun ⟨k, value⟩ => ?_
  rw [← get?_eq_some_iff, ← get?_eq_some_iff, hsame]

/-- `==` of two dicts. -/
def same [DecidableEq V] (left right : OrderedDict K V) : Bool :=
  left.rows.length = right.rows.length &&
    left.rows.all fun item => get? right item.1 = some item.2

/-- Two dicts are equal when they hold the same values. -/
theorem same_iff [DecidableEq V] {left right : OrderedDict K V} :
    same left right = true ↔ ∀ k, get? left k = get? right k := by
  simp only [same, Bool.and_eq_true, decide_eq_true_eq, List.all_eq_true]
  constructor
  · rintro ⟨hlength, hitems⟩ k
    have hsubset : left.rows ⊆ right.rows := fun item hitem =>
      get?_eq_some_iff.mp (hitems item hitem)
    have hperm : left.rows.Perm right.rows :=
      (List.subperm_of_subset (List.Nodup.of_map _ left.keys_nodup)
        hsubset).perm_of_length_le hlength.ge
    refine Option.ext fun value => ?_
    rw [get?_eq_some_iff, get?_eq_some_iff]
    exact hperm.mem_iff
  · intro hsame
    refine ⟨(rows_perm hsame).length_eq, fun item hitem => ?_⟩
    rw [← hsame, get?_eq_some_iff]
    exact hitem

/-- Dicts that hold the same values have the same sorted items. -/
theorem sortBy_rows_eq {K : Type u} [LinearOrder K]
    {left right : OrderedDict K V} (hsame : ∀ k, get? left k = get? right k) :
    Ranking.sortBy Prod.fst left.rows = Ranking.sortBy Prod.fst right.rows :=
  Ranking.sortBy_congr _ _ (rows_perm hsame) (fun _ _ _ _ => Iff.rfl)
    fun _ hitem _ hother => left.eq_of_key_eq hitem hother

section Index

variable {U : Type*} [DecidableEq R]

/-- The keys that list a reference. -/
def keysOf (index : OrderedDict R (List K)) (ref : R) : List K :=
  (get? index ref).getD []

/-- `index.setdefault(ref, set()).add(k)`. -/
def addRef (index : OrderedDict R (List K)) (ref : R) (k : K) :
    OrderedDict R (List K) :=
  index.upsert (ref, [k]) (fun old => (old.1, addKey old.2 k)) fun _ h => h

/-- The references of one key. -/
def addRefs (refOf : U → Option R) (index : OrderedDict R (List K)) (k : K)
    (urls : List U) : OrderedDict R (List K) :=
  urls.foldl (fun index url =>
    match refOf url with
    | none => index
    | some ref => addRef index ref k) index

/-- Every reference with the keys that list it. -/
def invert (refOf : U → Option R) (urls : List (K × List U)) :
    OrderedDict R (List K) :=
  urls.foldl (fun index item => addRefs refOf index item.1 item.2) Table.empty

theorem mem_keysOf_addRef {index : OrderedDict R (List K)} {ref ref' : R}
    {k k' : K} :
    k ∈ keysOf (addRef index ref' k') ref ↔
      k ∈ keysOf index ref ∨ (ref' = ref ∧ k' = k) := by
  unfold keysOf get? addRef
  rw [Table.find?_upsert]
  by_cases href : ref' = ref
  · simp only [href, ↓reduceIte, true_and, Option.map_some, Option.getD_some]
    cases index.find? ref with
    | none => simp [written, eq_comm]
    | some old => simp [written, mem_addKey, eq_comm]
  · simp [href]

theorem mem_keysOf_addRefs {refOf : U → Option R}
    {index : OrderedDict R (List K)} {k k' : K} {urls : List U} {ref : R} :
    k ∈ keysOf (addRefs refOf index k' urls) ref ↔
      k ∈ keysOf index ref ∨ (k' = k ∧ ∃ url ∈ urls, refOf url = some ref) := by
  induction urls generalizing index with
  | nil => simp [addRefs]
  | cons url urls ih =>
      have hstep : addRefs refOf index k' (url :: urls) =
          addRefs refOf (match refOf url with
            | none => index
            | some ref => addRef index ref k') k' urls := rfl
      rw [hstep, ih]
      cases href : refOf url with
      | none => simp [href]
      | some found =>
          simp only [mem_keysOf_addRef, List.exists_mem_cons_iff, href,
            Option.some.injEq]
          tauto

/-- The keys of a reference are those with a URL of it. -/
theorem mem_keysOf_invert {refOf : U → Option R} {urls : List (K × List U)}
    {k : K} {ref : R} :
    k ∈ keysOf (invert refOf urls) ref ↔
      ∃ listed, (k, listed) ∈ urls ∧ ∃ url ∈ listed, refOf url = some ref := by
  have hfold : ∀ index : OrderedDict R (List K),
      k ∈ keysOf (urls.foldl (fun index item =>
          addRefs refOf index item.1 item.2) index) ref ↔
        k ∈ keysOf index ref ∨
          ∃ listed, (k, listed) ∈ urls ∧ ∃ url ∈ listed, refOf url = some ref := by
    induction urls with
    | nil => simp
    | cons item urls ih =>
        intro index
        obtain ⟨k', listed'⟩ := item
        rw [List.foldl_cons, ih, mem_keysOf_addRefs, or_assoc]
        refine or_congr_right ⟨?_, ?_⟩
        · rintro (⟨rfl, hurl⟩ | ⟨listed, hmem, hurl⟩)
          · exact ⟨listed', List.mem_cons_self, hurl⟩
          · exact ⟨listed, List.mem_cons_of_mem _ hmem, hurl⟩
        · rintro ⟨listed, hmem, hurl⟩
          rcases List.mem_cons.mp hmem with heq | hrest
          · cases heq
            exact Or.inl ⟨rfl, hurl⟩
          · exact Or.inr ⟨listed, hrest, hurl⟩
  rw [invert, hfold]
  simp [keysOf, get?]

omit [DecidableEq K] in
/-- A reference that some key lists is a key of the index. -/
theorem mem_refs_of_mem_keysOf {index : OrderedDict R (List K)} {ref : R}
    {k : K} (hk : k ∈ keysOf index ref) : ref ∈ index.rows.map Prod.fst := by
  rw [Table.mem_keys_iff]
  cases hfind : index.find? ref with
  | none => simp [keysOf, get?, hfind] at hk
  | some row => rfl

/-- Answers about references, spread over the keys that list them. -/
def spread (index : OrderedDict R (List K)) (answers : List (R × V)) :
    OrderedDict K V :=
  ofPairs (answers.flatMap fun answer =>
    (keysOf index answer.1).map (·, answer.2))

/-- The keys that some answer reaches. -/
def reached (index : OrderedDict R (List K)) (answers : List (R × V)) :
    List K :=
  answers.flatMap fun answer => keysOf index answer.1

/-- An answer with this value reaches the key. -/
def Reaches (index : OrderedDict R (List K)) (answers : List (R × V)) (k : K)
    (value : V) : Prop :=
  ∃ ref, (ref, value) ∈ answers ∧ k ∈ keysOf index ref

omit [DecidableEq K] in
theorem mem_reached {index : OrderedDict R (List K)} {answers : List (R × V)}
    {k : K} : k ∈ reached index answers ↔ ∃ value, Reaches index answers k value := by
  simp only [reached, List.mem_flatMap, Reaches]
  constructor
  · rintro ⟨⟨ref, value⟩, hmem, hk⟩
    exact ⟨value, ref, hmem, hk⟩
  · rintro ⟨value, ref, hmem, hk⟩
    exact ⟨(ref, value), hmem, hk⟩

omit [DecidableEq K] in
theorem mem_spread_pairs {index : OrderedDict R (List K)}
    {answers : List (R × V)} {k : K} {value : V} :
    (k, value) ∈ (answers.flatMap fun answer =>
        (keysOf index answer.1).map (·, answer.2)) ↔
      Reaches index answers k value := by
  simp only [List.mem_flatMap, List.mem_map, Prod.mk.injEq, Reaches]
  constructor
  · rintro ⟨⟨ref, _⟩, hmem, _, hk, rfl, rfl⟩
    exact ⟨ref, hmem, hk⟩
  · rintro ⟨ref, hmem, hk⟩
    exact ⟨(ref, value), hmem, k, hk, rfl, rfl⟩

/-- What a key is spread is the value of an answer that reaches it. -/
theorem reaches_of_get?_spread {index : OrderedDict R (List K)}
    {answers : List (R × V)} {k : K} {value : V}
    (hget : get? (spread index answers) k = some value) :
    Reaches index answers k value :=
  mem_spread_pairs.mp (mem_of_get?_ofPairs hget)

/-- A key that is reached is spread something. -/
theorem get?_spread_isSome {index : OrderedDict R (List K)}
    {answers : List (R × V)} {k : K} {value : V}
    (hreaches : Reaches index answers k value) :
    ∃ last, get? (spread index answers) k = some last :=
  get?_ofPairs_isSome (mem_spread_pairs.mpr hreaches)

/-- Where the answers that reach a key agree, it is spread what they say. -/
theorem get?_spread_of_agree {index : OrderedDict R (List K)}
    {answers : List (R × V)} {k : K}
    (hagree : ∀ left right, Reaches index answers k left →
      Reaches index answers k right → left = right) {value : V} :
    get? (spread index answers) k = some value ↔
      Reaches index answers k value := by
  rw [spread, get?_ofPairs_of_agree, mem_spread_pairs]
  intro left right hleft hright
  exact hagree left right (mem_spread_pairs.mp hleft)
    (mem_spread_pairs.mp hright)

/-- The last answer that reaches a key stays. -/
theorem get?_spread_concat {index : OrderedDict R (List K)}
    (answers : List (R × V)) {ref : R} {k : K} (value : V)
    (hk : k ∈ keysOf index ref) :
    get? (spread index (answers ++ [(ref, value)])) k = some value := by
  have hlast : get? (ofPairs ((keysOf index ref).map (·, value))) k =
      some value := by
    refine (get?_ofPairs_of_agree fun left right hleft hright => ?_).mpr
      (List.mem_map.mpr ⟨k, hk, rfl⟩)
    simp only [List.mem_map, Prod.mk.injEq] at hleft hright
    obtain ⟨_, _, _, rfl⟩ := hleft
    obtain ⟨_, _, _, rfl⟩ := hright
    rfl
  rw [get?_ofPairs] at hlast
  obtain ⟨item, hitem, hvalue⟩ := Option.map_eq_some_iff.mp hlast
  rw [spread, get?_ofPairs, List.flatMap_append, lastUnder_append]
  simp only [List.flatMap_singleton, hitem, Option.some_or, Option.map_some,
    hvalue]

omit [DecidableEq K] in
/-- A dict of answers holds answers that were given. -/
theorem Reaches.of_ofPairs {index : OrderedDict R (List K)}
    {pairs : List (R × V)} {k : K} {value : V}
    (hreaches : Reaches index (ofPairs pairs).rows k value) :
    Reaches index pairs k value := by
  obtain ⟨ref, hmem, hk⟩ := hreaches
  exact ⟨ref, mem_of_get?_ofPairs (get?_eq_some_iff.mpr hmem), hk⟩

omit [DecidableEq K] in
theorem Reaches.ofPairs {index : OrderedDict R (List K)} {pairs : List (R × V)}
    {k : K} {value : V} (hreaches : Reaches index pairs k value) :
    ∃ last, Reaches index (InvertedIndex.ofPairs pairs).rows k last := by
  obtain ⟨ref, hmem, hk⟩ := hreaches
  obtain ⟨last, hlast⟩ := get?_ofPairs_isSome hmem
  exact ⟨last, ref, get?_eq_some_iff.mp hlast, hk⟩

omit [DecidableEq K] in
/-- The keys a dict of answers reaches are those the answers reach. -/
theorem mem_reached_ofPairs {index : OrderedDict R (List K)}
    {pairs : List (R × V)} {k : K} :
    k ∈ reached index (ofPairs pairs).rows ↔
      ∃ value, Reaches index pairs k value := by
  rw [mem_reached]
  constructor
  · rintro ⟨value, hreaches⟩
    exact ⟨value, hreaches.of_ofPairs⟩
  · rintro ⟨value, hreaches⟩
    exact hreaches.ofPairs

/-- Where the answers that reach a key agree, the dict of them spreads it what
they say. -/
theorem get?_spread_ofPairs_of_agree {index : OrderedDict R (List K)}
    {pairs : List (R × V)} {k : K}
    (hagree : ∀ left right, Reaches index pairs k left →
      Reaches index pairs k right → left = right) {value : V} :
    get? (spread index (ofPairs pairs).rows) k = some value ↔
      Reaches index pairs k value := by
  rw [get?_spread_of_agree fun left right hleft hright =>
    hagree left right hleft.of_ofPairs hright.of_ofPairs]
  constructor
  · exact Reaches.of_ofPairs
  · intro hreaches
    obtain ⟨last, hlast⟩ := hreaches.ofPairs
    rwa [hagree value last hreaches hlast.of_ofPairs]

/-- Answers about one reference that come after all others leave the last of
them with every key of that reference. -/
theorem get?_spread_ofPairs_concat {index : OrderedDict R (List K)}
    {others sames : List (R × V)} {ref : R} (value : V)
    (hothers : ∀ answer ∈ others, answer.1 ≠ ref)
    (hsames : ∀ answer ∈ sames, answer.1 = ref) {k : K}
    (hk : k ∈ keysOf index ref) :
    get? (spread index (ofPairs (others ++ (sames ++ [(ref, value)]))).rows) k =
      some value := by
  have hfresh : ref ∉ (ofPairs others).rows.map Prod.fst := by
    rw [ofPairs, Table.keys_overwriteAll_eq, mem_foldl_addKey]
    rintro (hempty | hmem)
    · simp at hempty
    · obtain ⟨answer, hanswer, href⟩ := List.mem_map.mp hmem
      exact hothers answer hanswer href
  have hrows : (ofPairs (others ++ (sames ++ [(ref, value)]))).rows =
      (ofPairs others).rows ++ [(ref, value)] := by
    rw [ofPairs, Table.overwriteAll_append]
    exact Table.rows_overwriteAll_concat _ hfresh hsames
  rw [hrows]
  exact get?_spread_concat _ value hk

end Index

/-- The batches of at most `size` of a list, in its order. -/
def batches {A : Type u} (size : Nat) (items : List A) : List (List A) :=
  (List.range ((items.length + (size - 1)) / size)).map fun n =>
    (items.drop (size * n)).take size

/-- The batches together are the list. -/
theorem flatten_batches {A : Type u} (size : Nat) (hsize : 0 < size)
    (items : List A) : (batches size items).flatten = items := by
  have hprefix : ∀ count, ((List.range count).map fun n =>
      (items.drop (size * n)).take size).flatten = items.take (size * count) := by
    intro count
    induction count with
    | zero => simp
    | succ count ih =>
        rw [List.range_succ, List.map_append, List.flatten_append, ih,
          Nat.mul_succ, List.take_add]
        simp
  have hcover : items.length ≤ size * ((items.length + (size - 1)) / size) := by
    have hdiv := Nat.div_add_mod (items.length + (size - 1)) size
    have hmod := Nat.mod_lt (items.length + (size - 1)) hsize
    omega
  rw [batches, hprefix, List.take_of_length_le hcover]

/-- No batch is empty. -/
theorem ne_nil_of_mem_batches {A : Type u} {size : Nat} (hsize : 0 < size)
    {items batch : List A} (hmem : batch ∈ batches size items) :
    batch ≠ [] := by
  obtain ⟨n, hn, rfl⟩ := List.mem_map.mp hmem
  have hlt : size * n < items.length := by
    have hle : n * size + size ≤ items.length + (size - 1) := by
      rw [← Nat.succ_mul]
      exact (Nat.le_div_iff_mul_le hsize).mp (List.mem_range.mp hn)
    rw [Nat.mul_comm]
    omega
  rw [← List.length_pos_iff, List.length_take, List.length_drop]
  omega

/-- The batches of distinct items are distinct. -/
theorem nodup_batches {A : Type u} {size : Nat} (hsize : 0 < size)
    {items : List A} (hnodup : items.Nodup) : (batches size items).Nodup := by
  rw [← flatten_batches size hsize items, List.nodup_flatten] at hnodup
  refine hnodup.2.imp_of_mem fun hleft _ hdisjoint heq => ?_
  subst heq
  exact ne_nil_of_mem_batches hsize hleft
    (List.eq_nil_iff_forall_not_mem.mpr fun _ hitem => hdisjoint hitem hitem)

/-- Where parts end in an item they have nowhere else, one part has it and
nothing comes after that. -/
theorem exists_part_of_flatten {A : Type u} {parts : List (List A)}
    {init : List A} {last : A} (hflat : parts.flatten = init ++ [last])
    (hfresh : last ∉ init) :
    ∃ before part after, parts = before ++ part :: after ∧ last ∈ part ∧
      (∀ other ∈ before, last ∉ other) ∧ ∀ other ∈ after, other = [] := by
  induction parts generalizing init with
  | nil => simp at hflat
  | cons part rest ih =>
      rw [List.flatten_cons] at hflat
      rcases List.eq_nil_or_concat rest.flatten with hnil | ⟨tail, x, htail⟩
      · rw [hnil, List.append_nil] at hflat
        refine ⟨[], part, rest, rfl, by simp [hflat], by simp, ?_⟩
        exact List.flatten_eq_nil_iff.mp hnil
      · rw [htail, List.concat_eq_append, ← List.append_assoc] at hflat
        obtain ⟨hinit, hx⟩ := List.append_inj' hflat rfl
        obtain rfl := List.singleton_inj.mp hx
        rw [← hinit, List.mem_append, not_or] at hfresh
        rw [List.concat_eq_append] at htail
        obtain ⟨before, found, after, rfl, hmem, hbefore, hafter⟩ :=
          ih htail hfresh.2
        refine ⟨part :: before, found, after, rfl, hmem, ?_, hafter⟩
        intro other hother
        rcases List.mem_cons.mp hother with rfl | hrest
        · exact hfresh.1
        · exact hbefore other hrest

end InvertedIndex
