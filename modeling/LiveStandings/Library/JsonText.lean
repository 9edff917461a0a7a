/-
JSON documents as text.  The writer is `json.dumps` with its defaults: ASCII
only, one blank after each comma and colon, never a line break.  The reader
takes any spacing and gives back every document that is written.
-/
import LiveStandings.Library.PyJson
import Mathlib.Tactic.IntervalCases

namespace JsonText

open PyJson

universe u

/-- Induction over a document and everything in it. -/
@[elab_as_elim]
theorem induct {motive : Json → Prop} (null : motive .null)
    (bool : ∀ b, motive (.bool b)) (int : ∀ n, motive (.int n))
    (str : ∀ s, motive (.str s))
    (arr : ∀ items, (∀ item ∈ items, motive item) → motive (.arr items))
    (obj : ∀ fields, (∀ field ∈ fields, motive field.2) →
      motive (.obj fields))
    (json : Json) : motive json := by
  refine @Json.rec motive (fun items => ∀ item ∈ items, motive item)
    (fun fields => ∀ field ∈ fields, motive field.2)
    (fun field => motive field.2) null bool int str arr obj ?_ ?_ ?_ ?_ ?_ json
  · intro item hitem
    cases hitem
  · intro item items hhead htail other hother
    rcases List.mem_cons.mp hother with rfl | hmem
    · exact hhead
    · exact htail other hmem
  · intro field hfield
    cases hfield
  · intro field fields hhead htail other hother
    rcases List.mem_cons.mp hother with rfl | hmem
    · exact hhead
    · exact htail other hmem
  · intro name value hvalue
    exact hvalue

/-- Four hexadecimal digits. -/
def hex4 (n : Nat) : List Char :=
  [(n / 4096 % 16).digitChar, (n / 256 % 16).digitChar,
    (n / 16 % 16).digitChar, (n % 16).digitChar]

/-- `\uXXXX`. -/
def escapeUnit (n : Nat) : List Char := '\\' :: 'u' :: hex4 n

/-- The short escapes: the character, and the letter it is written with. -/
def shortEscapes : List (Char × Char) :=
  [('"', '"'), ('\\', '\\'), ('\n', 'n'), ('\r', 'r'), ('\t', 't'),
    ('\x0c', 'f'), ('\x08', 'b')]

/-- A character within a string; beyond the basic plane it takes a surrogate
pair. -/
def escapeChar (c : Char) : List Char :=
  match shortEscapes.lookup c with
  | some letter => ['\\', letter]
  | none =>
      if 0x20 ≤ c.toNat ∧ c.toNat ≤ 0x7e then [c]
      else if c.toNat < 0x10000 then escapeUnit c.toNat
      else escapeUnit (0xd800 + (c.toNat - 0x10000) / 0x400) ++
        escapeUnit (0xdc00 + (c.toNat - 0x10000) % 0x400)

def dumpsStr (text : String) : List Char :=
  '"' :: text.toList.flatMap escapeChar ++ ['"']

def dumpsInt (n : Int) : List Char :=
  if n < 0 then '-' :: Nat.toDigits 10 n.natAbs
  else Nat.toDigits 10 n.natAbs

/-- `", ".join(texts)`. -/
def joined : List (List Char) → List Char
  | [] => []
  | [text] => text
  | text :: texts => text ++ ',' :: ' ' :: joined texts

mutual

/-- `json.dumps`. -/
def dumps : Json → List Char
  | .null => ['n', 'u', 'l', 'l']
  | .bool true => ['t', 'r', 'u', 'e']
  | .bool false => ['f', 'a', 'l', 's', 'e']
  | .int n => dumpsInt n
  | .str s => dumpsStr s
  | .arr items => '[' :: joined (dumpsItems items) ++ [']']
  | .obj fields => '\x7b' :: joined (dumpsFields fields) ++ ['\x7d']

def dumpsItems : List Json → List (List Char)
  | [] => []
  | item :: items => dumps item :: dumpsItems items

def dumpsFields : List (String × Json) → List (List Char)
  | [] => []
  | (name, value) :: fields =>
      (dumpsStr name ++ ':' :: ' ' :: dumps value) :: dumpsFields fields

end

/-- A field of an object. -/
def dumpsField (field : String × Json) : List Char :=
  dumpsStr field.1 ++ ':' :: ' ' :: dumps field.2

theorem dumps_arr (items : List Json) :
    dumps (.arr items) = '[' :: joined (items.map dumps) ++ [']'] := by
  have hitems : dumpsItems items = items.map dumps := by
    induction items with
    | nil => rfl
    | cons item items ih => rw [dumpsItems, ih, List.map_cons]
  rw [dumps, hitems]

theorem dumps_obj (fields : List (String × Json)) :
    dumps (.obj fields) =
      '\x7b' :: joined (fields.map dumpsField) ++ ['\x7d'] := by
  have hfields : dumpsFields fields = fields.map dumpsField := by
    induction fields with
    | nil => rfl
    | cons field fields ih =>
        rw [dumpsFields, ih, List.map_cons, dumpsField]
  rw [dumps, hfields]

def isSpace (c : Char) : Bool :=
  c == ' ' || c == '\n' || c == '\r' || c == '\t'

def skipSpaces (text : List Char) : List Char := text.dropWhile isSpace

/-- What reads a value off the front of a text. -/
abbrev Reader (A : Type u) := List Char → Option (A × List Char)

def hexValue? (c : Char) : Option Nat :=
  if '0' ≤ c ∧ c ≤ '9' then some (c.toNat - 48)
  else if 'a' ≤ c ∧ c ≤ 'f' then some (c.toNat - 87)
  else if 'A' ≤ c ∧ c ≤ 'F' then some (c.toNat - 55)
  else none

def unit? : Reader Nat
  | a :: b :: c :: d :: rest => do
      some (((← hexValue? a) * 4096 + (← hexValue? b) * 256 +
        (← hexValue? c) * 16 + (← hexValue? d)), rest)
  | _ => none

/-- One character of a string; a lone surrogate is no character. -/
def char? : Reader Char
  | '\\' :: 'u' :: text =>
      (unit? text).bind fun (high, rest) =>
        if high < 0xd800 ∨ 0xe000 ≤ high then some (Char.ofNat high, rest)
        else match rest with
          | '\\' :: 'u' :: text =>
              (unit? text).map fun (low, rest) =>
                (Char.ofNat (0x10000 + (high - 0xd800) * 0x400 +
                  (low - 0xdc00)), rest)
          | _ => none
  | '\\' :: letter :: rest =>
      if letter = '/' then some ('/', rest)
      else (shortEscapes.find? (·.2 == letter)).map fun pair => (pair.1, rest)
  | c :: rest => if c.toNat < 0x20 then none else some (c, rest)
  | [] => none

/-- A string, after its opening quote. -/
def chars? : Nat → Reader (List Char)
  | 0, _ => none
  | _ + 1, '"' :: rest => some ([], rest)
  | fuel + 1, text =>
      (char? text).bind fun (c, rest) =>
        (chars? fuel rest).map fun (cs, rest) => (c :: cs, rest)

def str? : Reader String
  | '"' :: rest =>
      (chars? rest.length rest).map fun (cs, rest) => (String.ofList cs, rest)
  | _ => none

def natural? : Reader Nat := fun text =>
  let digits := text.takeWhile Char.isDigit
  if digits.isEmpty then none
  else some (Nat.ofDigitChars 10 digits 0, text.dropWhile Char.isDigit)

/-- An integer; its leading zeros are not refused. -/
def int? : Reader Int
  | '-' :: rest => (natural? rest).map fun (n, rest) => (-(n : Int), rest)
  | text => (natural? text).map fun (n, rest) => ((n : Int), rest)

section List

variable {A : Type u} (close : Char) (read : Reader A)

/-- The rest of a list, after an item of it. -/
def more? : Nat → Reader (List A)
  | 0, _ => none
  | fuel + 1, text =>
      match skipSpaces text with
      | [] => none
      | c :: rest =>
          if c = close then some ([], rest)
          else if c = ',' then
            (read (skipSpaces rest)).bind fun (item, rest) =>
              (more? fuel rest).map fun (items, rest) => (item :: items, rest)
          else none

/-- A list, after its opening bracket. -/
def list? (fuel : Nat) : Reader (List A) := fun text =>
  match skipSpaces text with
  | [] => none
  | c :: rest =>
      if c = close then some ([], rest)
      else (read (c :: rest)).bind fun (item, rest) =>
        (more? close read fuel rest).map fun (items, rest) =>
          (item :: items, rest)

end List

/-- A field of an object, its value read by `read`. -/
def field? (read : Reader Json) : Reader (String × Json) := fun text =>
  (str? text).bind fun (name, rest) =>
    match skipSpaces rest with
    | ':' :: rest =>
        (read (skipSpaces rest)).map fun (value, rest) => ((name, value), rest)
    | _ => none

/-- The rest of a literal. -/
def literal? (word : List Char) (value : Json) : Reader Json := fun text =>
  if word <+: text then some (value, text.drop word.length) else none

/-- A document whose numbers are integers, up to a depth. -/
def value? : Nat → Reader Json
  | 0, _ => none
  | _ + 1, [] => none
  | fuel + 1, c :: rest =>
      if c = '"' then
        (str? (c :: rest)).map fun (text, rest) => (.str text, rest)
      else if c = '[' then
        (list? ']' (value? fuel) fuel rest).map fun (items, rest) =>
          (.arr items, rest)
      else if c = '\x7b' then
        (list? '\x7d' (field? (value? fuel)) fuel rest).map
          fun (fields, rest) => (.obj fields, rest)
      else if c = 'n' then literal? ['u', 'l', 'l'] .null rest
      else if c = 't' then literal? ['r', 'u', 'e'] (.bool true) rest
      else if c = 'f' then literal? ['a', 'l', 's', 'e'] (.bool false) rest
      else (int? (c :: rest)).map fun (n, rest) => (.int n, rest)

/-- A text that is one document. -/
def loads (text : List Char) : Option Json :=
  (value? text.length (skipSpaces text)).bind fun (value, rest) =>
    if skipSpaces rest = [] then some value else none

/-! ### Characters and strings -/

theorem hexValue?_digitChar {d : Nat} (hd : d < 16) :
    hexValue? d.digitChar = some d := by
  interval_cases d <;> decide

theorem unit?_hex4 {n : Nat} (hn : n < 0x10000) (rest : List Char) :
    unit? (hex4 n ++ rest) = some (n, rest) := by
  have hdigit : ∀ m : Nat, hexValue? (m % 16).digitChar = some (m % 16) :=
    fun m => hexValue?_digitChar (Nat.mod_lt m (by decide))
  simp only [hex4, List.cons_append, List.nil_append, unit?, hdigit]
  simp only [Option.bind_eq_bind, Option.bind_some, Option.some.injEq,
    Prod.mk.injEq, and_true]
  omega

/-- A character from a surrogate pair. -/
theorem char?_pair {n : Nat} (hn : n < 0x100000) (rest : List Char) :
    char? (escapeUnit (0xd800 + n / 0x400) ++
        (escapeUnit (0xdc00 + n % 0x400) ++ rest)) =
      some (Char.ofNat (0x10000 + n), rest) := by
  have hhigh := unit?_hex4 (n := 0xd800 + n / 0x400) (by omega)
    (escapeUnit (0xdc00 + n % 0x400) ++ rest)
  have hlow := unit?_hex4 (n := 0xdc00 + n % 0x400) (by omega) rest
  have hsurrogate : ¬(0xd800 + n / 0x400 < 0xd800 ∨
      0xe000 ≤ 0xd800 + n / 0x400) := by omega
  simp only [escapeUnit, List.cons_append] at hhigh hlow ⊢
  have hvalue : 0x10000 + (0xd800 + n / 0x400 - 0xd800) * 0x400 +
      (0xdc00 + n % 0x400 - 0xdc00) = 0x10000 + n := by
    omega
  rw [char?, hhigh, Option.bind_some]
  simp only [if_neg hsurrogate, hlow, Option.map_some, hvalue]

theorem char?_unit {n : Nat} (hn : n < 0x10000)
    (hscalar : n < 0xd800 ∨ 0xe000 ≤ n) (rest : List Char) :
    char? (escapeUnit n ++ rest) = some (Char.ofNat n, rest) := by
  simp only [escapeUnit, List.cons_append, char?, unit?_hex4 hn,
    Option.bind_some, if_pos hscalar]

theorem char?_short {c letter : Char}
    (hletter : shortEscapes.lookup c = some letter) (rest : List Char) :
    char? ('\\' :: letter :: rest) = some (c, rest) := by
  have hmem := Dict.mem_of_get? hletter
  simp only [shortEscapes, List.mem_cons, Prod.mk.injEq, List.not_mem_nil,
    or_false] at hmem
  rcases hmem with h | h | h | h | h | h | h <;> obtain ⟨rfl, rfl⟩ := h <;> rfl

/-- A character is read back from what it is written as. -/
theorem char?_escapeChar (c : Char) (rest : List Char) :
    char? (escapeChar c ++ rest) = some (c, rest) := by
  have hvalid : c.toNat < 0xd800 ∨ 0xdfff < c.toNat ∧ c.toNat < 0x110000 :=
    c.valid
  unfold escapeChar
  split
  · next letter hletter => exact char?_short hletter rest
  · next hlong =>
      split
      · next hprintable =>
          have hplain : c ≠ '\\' := by
            rintro rfl
            cases hlong
          have hcontrol : ¬c.toNat < 0x20 := by omega
          rw [List.cons_append, List.nil_append, char?.eq_def]
          split <;> simp_all
      · split
        · next hbasic =>
            rw [char?_unit hbasic (by omega), Char.ofNat_toNat]
        · next hastral =>
            have hvalue : 0x10000 + (c.toNat - 0x10000) = c.toNat := by omega
            rw [List.append_assoc, char?_pair (by omega), hvalue,
              Char.ofNat_toNat]

/-- No character is written with a quote in front. -/
theorem escapeChar_cons (c : Char) :
    ∃ d ds, escapeChar c = d :: ds ∧ d ≠ '"' := by
  unfold escapeChar
  split
  · exact ⟨_, _, rfl, by decide⟩
  · next hlong =>
      split
      · refine ⟨c, [], rfl, ?_⟩
        rintro rfl
        cases hlong
      · split
        · exact ⟨_, _, rfl, by decide⟩
        · exact ⟨_, _, rfl, by decide⟩

theorem length_le_escaped (cs : List Char) :
    cs.length ≤ (cs.flatMap escapeChar).length := by
  induction cs with
  | nil => exact Nat.le_refl 0
  | cons c cs ih =>
      obtain ⟨d, ds, hescape, _⟩ := escapeChar_cons c
      simp only [List.flatMap_cons, hescape, List.length_append,
        List.length_cons]
      omega

/-- The characters of a string are read back. -/
theorem chars?_escaped {fuel : Nat} (cs rest : List Char)
    (hfuel : cs.length < fuel) :
    chars? fuel (cs.flatMap escapeChar ++ '"' :: rest) = some (cs, rest) := by
  induction cs generalizing fuel with
  | nil =>
      obtain ⟨fuel, rfl⟩ := Nat.exists_eq_succ_of_ne_zero
        (Nat.ne_zero_of_lt hfuel)
      rfl
  | cons c cs ih =>
      rw [List.length_cons] at hfuel
      obtain ⟨fuel, rfl⟩ := Nat.exists_eq_succ_of_ne_zero
        (Nat.ne_zero_of_lt hfuel)
      obtain ⟨d, ds, hescape, hquote⟩ := escapeChar_cons c
      have hchar := char?_escapeChar c (cs.flatMap escapeChar ++ '"' :: rest)
      have htail := ih (Nat.lt_of_succ_lt_succ hfuel)
      rw [List.flatMap_cons, List.append_assoc]
      rw [hescape, List.cons_append] at hchar ⊢
      rw [chars?]
      · simp only [hchar, Option.bind_some, htail, Option.map_some]
      · exact fun _ heq => hquote (List.cons.inj heq).1

theorem str?_dumpsStr (text : String) (rest : List Char) :
    str? (dumpsStr text ++ rest) = some (text, rest) := by
  have hlength := length_le_escaped text.toList
  have hfuel : text.toList.length <
      (text.toList.flatMap escapeChar ++ '"' :: rest).length := by
    simp only [List.length_append, List.length_cons]
    omega
  have hchars := chars?_escaped text.toList rest hfuel
  rw [dumpsStr, List.cons_append, List.cons_append, List.append_assoc,
    List.singleton_append, str?, hchars]
  simp only [Option.map_some, String.ofList_toList]

/-! ### Numbers -/

/-- A text that does not go on with a digit. -/
def Ends (rest : List Char) : Prop :=
  ∀ c ∈ rest.head?, c.isDigit = false

theorem natural?_toDigits (n : Nat) {rest : List Char} (hends : Ends rest) :
    natural? (Nat.toDigits 10 n ++ rest) = some (n, rest) := by
  have hdigits : ∀ c ∈ Nat.toDigits 10 n, c.isDigit = true := fun c hc =>
    Nat.isDigit_of_mem_toDigits (by decide) (by decide) hc
  have hstop : rest.takeWhile Char.isDigit = [] ∧
      rest.dropWhile Char.isDigit = rest := by
    cases rest with
    | nil => exact ⟨rfl, rfl⟩
    | cons c rest =>
        have hc : c.isDigit = false := hends c rfl
        simp [hc]
  rw [natural?, List.takeWhile_append_of_pos hdigits,
    List.dropWhile_append_of_pos hdigits, hstop.1, hstop.2, List.append_nil]
  simp [Nat.toDigits_ne_nil]

theorem dumpsInt_cons (n : Int) :
    ∃ c cs, dumpsInt n = c :: cs ∧ (c = '-' ∨ c.isDigit = true) := by
  unfold dumpsInt
  split
  · exact ⟨_, _, rfl, Or.inl rfl⟩
  · obtain ⟨c, cs, hdigits⟩ := List.exists_cons_of_ne_nil
      (Nat.toDigits_ne_nil (n := n.natAbs) (b := 10))
    refine ⟨c, cs, hdigits, Or.inr ?_⟩
    exact Nat.isDigit_of_mem_toDigits (by decide) (by decide)
      (hdigits ▸ List.mem_cons_self)

theorem int?_dumpsInt (n : Int) {rest : List Char} (hends : Ends rest) :
    int? (dumpsInt n ++ rest) = some (n, rest) := by
  have hnatural := natural?_toDigits n.natAbs hends
  unfold dumpsInt
  split
  · next hnegative =>
      have hvalue : -(n.natAbs : Int) = n := by omega
      simp only [List.cons_append, int?, hnatural, Option.map_some, hvalue]
  · next hnatural' =>
      have hvalue : (n.natAbs : Int) = n := by omega
      rw [int?.eq_def]
      split
      · next _ tail hminus =>
          have hmem : '-' ∈ Nat.toDigits 10 n.natAbs := by
            obtain ⟨c, cs, hdigits⟩ := List.exists_cons_of_ne_nil
              (Nat.toDigits_ne_nil (n := n.natAbs) (b := 10))
            rw [hdigits, List.cons_append] at hminus
            rw [hdigits, (List.cons.inj hminus).1]
            exact List.mem_cons_self
          exact absurd (Nat.isDigit_of_mem_toDigits (by decide) (by decide)
            hmem) (by decide)
      · simp only [hnatural, Option.map_some, hvalue]

/-! ### Lists -/

section Reads

variable {A : Type u}

/-- A text is read as a value wherever no digit follows it; it is not blank
and opens no bracket's end. -/
structure Reads (read : Reader A) (text : List Char) (value : A) : Prop where
  opens : ∃ c cs, text = c :: cs ∧ isSpace c = false ∧ c ≠ ']' ∧ c ≠ '\x7d'
  reads : ∀ rest, Ends rest → read (text ++ rest) = some (value, rest)

variable {read : Reader A} {text : List Char} {value : A} {close : Char}

theorem Reads.skipSpaces (hreads : Reads read text value) (rest : List Char) :
    skipSpaces (text ++ rest) = text ++ rest := by
  obtain ⟨c, cs, rfl, hspace, _⟩ := hreads.opens
  rw [JsonText.skipSpaces, List.cons_append, List.dropWhile_cons_of_neg]
  simp [hspace]

/-- The two closing brackets. -/
def Closes (close : Char) : Prop := close = ']' ∨ close = '\x7d'

theorem Closes.spec (hclose : Closes close) :
    isSpace close = false ∧ close ≠ ',' ∧ close.isDigit = false := by
  rcases hclose with rfl | rfl <;> decide

theorem skipSpaces_cons {c : Char} (hspace : isSpace c = false)
    (rest : List Char) : skipSpaces (c :: rest) = c :: rest := by
  rw [skipSpaces, List.dropWhile_cons_of_neg]
  simp [hspace]

theorem joined_cons (text : List Char) (texts : List (List Char)) :
    joined (text :: texts) =
      text ++ texts.flatMap fun text => ',' :: ' ' :: text := by
  induction texts generalizing text with
  | nil => simp [joined]
  | cons next texts ih =>
      rw [joined, ih, List.flatMap_cons]
      · rfl
      · exact List.cons_ne_nil next texts

variable {print : A → List Char}

/-- After an item comes a comma or the closing bracket. -/
theorem ends_tail (hclose : Closes close) (texts : List (List Char))
    (rest : List Char) :
    Ends ((texts.flatMap fun text => ',' :: ' ' :: text) ++ close :: rest) := by
  intro c hc
  cases texts with
  | nil =>
      cases hc
      exact hclose.spec.2.2
  | cons text texts =>
      cases hc
      rfl

/-- The rest of a list is read up to its closing bracket. -/
theorem more?_printed (hclose : Closes close) {fuel : Nat} (items : List A)
    (hitems : ∀ item ∈ items, Reads read (print item) item)
    (rest : List Char) (hfuel : items.length < fuel) :
    more? close read fuel
        ((items.map print).flatMap (fun text => ',' :: ' ' :: text) ++
          close :: rest) = some (items, rest) := by
  obtain ⟨hspace, hcomma, _⟩ := hclose.spec
  induction items generalizing fuel with
  | nil =>
      obtain ⟨fuel, rfl⟩ := Nat.exists_eq_succ_of_ne_zero
        (Nat.ne_zero_of_lt hfuel)
      simp [more?, skipSpaces_cons hspace]
  | cons item items ih =>
      rw [List.length_cons] at hfuel
      obtain ⟨fuel, rfl⟩ := Nat.exists_eq_succ_of_ne_zero
        (Nat.ne_zero_of_lt hfuel)
      have hitem := hitems item List.mem_cons_self
      have htail := ih (fun other hother =>
        hitems other (List.mem_cons_of_mem _ hother))
        (Nat.lt_of_succ_lt_succ hfuel)
      have hends := ends_tail hclose (items.map print) rest
      rw [List.map_cons, List.flatMap_cons, List.append_assoc]
      generalize (items.map print).flatMap
        (fun text => ',' :: ' ' :: text) ++ close :: rest = tail at *
      have hblank : skipSpaces (' ' :: (print item ++ tail)) =
          print item ++ tail := by
        rw [skipSpaces, List.dropWhile_cons_of_pos (by decide)]
        exact hitem.skipSpaces tail
      have hread := hitem.reads tail hends
      simp only [List.cons_append, more?, skipSpaces_cons (c := ',') rfl,
        if_neg (Ne.symm hcomma), if_pos, hblank, hread, Option.bind_some,
        htail, Option.map_some]

/-- A list is read from what its items are written as. -/
theorem list?_joined (hclose : Closes close) {fuel : Nat} (items : List A)
    (hitems : ∀ item ∈ items, Reads read (print item) item)
    (rest : List Char) (hfuel : items.length ≤ fuel) :
    list? close read fuel (joined (items.map print) ++ close :: rest) =
      some (items, rest) := by
  cases items with
  | nil => simp [list?, joined, skipSpaces_cons hclose.spec.1]
  | cons item items =>
      have hitem := hitems item List.mem_cons_self
      have htail := more?_printed hclose items (fun other hother =>
        hitems other (List.mem_cons_of_mem _ hother)) rest hfuel
      have hends := ends_tail hclose (items.map print) rest
      rw [List.map_cons, joined_cons, List.append_assoc]
      generalize (items.map print).flatMap
        (fun text => ',' :: ' ' :: text) ++ close :: rest = tail at *
      have hread := hitem.reads tail hends
      rw [list?, hitem.skipSpaces]
      obtain ⟨c, cs, hprint, _, hbracket, hbrace⟩ := hitem.opens
      have hopen : c ≠ close := by
        rcases hclose with rfl | rfl
        · exact hbracket
        · exact hbrace
      rw [hprint, List.cons_append] at hread ⊢
      simp only [if_neg hopen, hread, Option.bind_some, htail, Option.map_some]

end Reads

/-! ### Documents -/

theorem digit_opens {c : Char} (hc : c = '-' ∨ c.isDigit = true) :
    isSpace c = false ∧ c ≠ ']' ∧ c ≠ '\x7d' ∧
      c ∉ ['"', '[', '\x7b', 'n', 't', 'f'] := by
  refine ⟨?_, ?_, ?_, ?_⟩
  · rcases hc with rfl | hdigit
    · rfl
    · by_contra hspace
      simp only [isSpace, Bool.not_eq_false, Bool.or_eq_true, beq_iff_eq]
        at hspace
      rcases hspace with ((rfl | rfl) | rfl) | rfl <;> cases hdigit
  · rintro rfl
    revert hc
    decide
  · rintro rfl
    revert hc
    decide
  · intro hmem
    simp only [List.mem_cons, List.not_mem_nil, or_false] at hmem
    rcases hmem with rfl | rfl | rfl | rfl | rfl | rfl <;> revert hc <;> decide

theorem dumps_opens (json : Json) :
    ∃ c cs, dumps json = c :: cs ∧ isSpace c = false ∧ c ≠ ']' ∧
      c ≠ '\x7d' := by
  cases json with
  | null => exact ⟨_, _, rfl, by decide⟩
  | bool b => cases b <;> exact ⟨_, _, rfl, by decide⟩
  | int n =>
      obtain ⟨c, cs, hdumps, hc⟩ := dumpsInt_cons n
      obtain ⟨hspace, hbracket, hbrace, _⟩ := digit_opens hc
      exact ⟨c, cs, hdumps, hspace, hbracket, hbrace⟩
  | str s => exact ⟨_, _, rfl, by decide⟩
  | arr items => exact ⟨_, _, rfl, by decide⟩
  | obj fields => exact ⟨_, _, rfl, by decide⟩

theorem length_le_joined {text : List Char} {texts : List (List Char)}
    (hmem : text ∈ texts) : text.length ≤ (joined texts).length := by
  induction texts with
  | nil => cases hmem
  | cons head texts ih =>
      rw [joined_cons, List.length_append]
      rcases List.mem_cons.mp hmem with rfl | htail
      · omega
      · have hflat := (List.sublist_flatten_of_mem
          (List.mem_map_of_mem (f := fun text => ',' :: ' ' :: text)
            htail)).length_le
        rw [← List.flatMap_def] at hflat
        simp only [List.length_cons] at hflat
        omega

/-- There are no more items than characters. -/
theorem length_le_joined_all {texts : List (List Char)}
    (hne : ∀ text ∈ texts, text ≠ []) :
    texts.length ≤ (joined texts).length := by
  cases texts with
  | nil => exact Nat.le_refl 0
  | cons head texts =>
      have hhead := List.length_pos_of_ne_nil (hne head List.mem_cons_self)
      have htail : texts.length ≤
          (texts.flatMap fun text => ',' :: ' ' :: text).length := by
        clear hne
        induction texts with
        | nil => exact Nat.le_refl 0
        | cons text texts ih =>
            simp only [List.flatMap_cons, List.length_append, List.length_cons]
            omega
      rw [joined_cons, List.length_append, List.length_cons]
      omega

theorem field?_dumpsField {read : Reader Json} {field : String × Json}
    (hvalue : Reads read (dumps field.2) field.2) :
    Reads (field? read) (dumpsField field) field := by
  refine ⟨⟨_, _, rfl, by decide⟩, fun rest hends => ?_⟩
  have hstr := str?_dumpsStr field.1 (':' :: ' ' :: (dumps field.2 ++ rest))
  have hcolon : skipSpaces (':' :: ' ' :: (dumps field.2 ++ rest)) =
      ':' :: ' ' :: (dumps field.2 ++ rest) := rfl
  have hblank : skipSpaces (' ' :: (dumps field.2 ++ rest)) =
      dumps field.2 ++ rest := by
    rw [skipSpaces, List.dropWhile_cons_of_pos (by decide)]
    exact hvalue.skipSpaces rest
  rw [dumpsField, List.append_assoc, List.cons_append, List.cons_append, field?,
    hstr]
  simp only [Option.bind_some, hcolon, hblank, hvalue.reads rest hends,
    Option.map_some]

theorem reads_int (n : Int) (fuel : Nat) :
    Reads (value? (fuel + 1)) (dumps (.int n)) (.int n) := by
  refine ⟨dumps_opens _, fun rest hends => ?_⟩
  have hread := int?_dumpsInt n hends
  obtain ⟨c, cs, hprint, hc⟩ := dumpsInt_cons n
  obtain ⟨_, _, _, hother⟩ := digit_opens hc
  simp only [List.mem_cons, List.not_mem_nil, or_false, not_or] at hother
  obtain ⟨hquote, hbracket, hbrace, hn, ht, hf⟩ := hother
  rw [hprint, List.cons_append] at hread
  rw [dumps, hprint, List.cons_append, value?, if_neg hquote,
    if_neg hbracket, if_neg hbrace, if_neg hn, if_neg ht, if_neg hf, hread]
  rfl

theorem reads_str (text : String) (fuel : Nat) :
    Reads (value? (fuel + 1)) (dumps (.str text)) (.str text) := by
  refine ⟨dumps_opens _, fun rest _ => ?_⟩
  have hread := str?_dumpsStr text rest
  rw [dumps]
  rw [dumpsStr, List.cons_append, List.cons_append] at hread ⊢
  rw [value?, if_pos rfl, hread]
  rfl

theorem reads_arr {items : List Json} {fuel : Nat}
    (hitems : ∀ item ∈ items, Reads (value? fuel) (dumps item) item)
    (hfuel : items.length ≤ fuel) :
    Reads (value? (fuel + 1)) (dumps (.arr items)) (.arr items) := by
  refine ⟨dumps_opens _, fun rest _ => ?_⟩
  have hlist := list?_joined (Or.inl rfl) items hitems rest hfuel
  rw [dumps_arr, List.cons_append, List.cons_append, List.append_assoc,
    List.singleton_append, value?, if_neg (by decide), if_pos rfl, hlist]
  rfl

theorem reads_obj {fields : List (String × Json)} {fuel : Nat}
    (hfields : ∀ field ∈ fields,
      Reads (value? fuel) (dumps field.2) field.2)
    (hfuel : fields.length ≤ fuel) :
    Reads (value? (fuel + 1)) (dumps (.obj fields)) (.obj fields) := by
  refine ⟨dumps_opens _, fun rest _ => ?_⟩
  have hlist := list?_joined (Or.inr rfl) fields
    (fun field hfield => field?_dumpsField (hfields field hfield)) rest hfuel
  rw [dumps_obj, List.cons_append, List.cons_append, List.append_assoc,
    List.singleton_append, value?, if_neg (by decide), if_neg (by decide),
    if_pos rfl, hlist]
  rfl

theorem exists_fuel {json : Json} {fuel : Nat}
    (hfuel : (dumps json).length ≤ fuel) : ∃ less, fuel = less + 1 := by
  obtain ⟨c, cs, hdumps, _⟩ := dumps_opens json
  rw [hdumps, List.length_cons] at hfuel
  exact Nat.exists_eq_succ_of_ne_zero (by omega)

/-- Every document is read from what it is written as. -/
theorem reads_dumps (json : Json) {fuel : Nat}
    (hfuel : (dumps json).length ≤ fuel) :
    Reads (value? fuel) (dumps json) json := by
  obtain ⟨less, rfl⟩ := exists_fuel hfuel
  induction json using induct generalizing less with
  | null => exact ⟨dumps_opens _, fun _ _ => rfl⟩
  | bool b => exact ⟨dumps_opens _, fun _ _ => by cases b <;> rfl⟩
  | int n => exact reads_int n less
  | str s => exact reads_str s less
  | arr items ih =>
      have hjoined : (joined (items.map dumps)).length ≤ less := by
        simp only [dumps_arr, List.length_append, List.length_cons] at hfuel
        omega
      refine reads_arr (fun item hitem => ?_) ?_
      · have hle := (length_le_joined (List.mem_map_of_mem hitem)).trans hjoined
        obtain ⟨fewer, rfl⟩ := exists_fuel hle
        exact ih item hitem fewer hle
      · have hall := @length_le_joined_all (items.map dumps)
        simp only [List.length_map, List.forall_mem_map] at hall
        refine (hall fun item _ => ?_).trans hjoined
        obtain ⟨c, cs, hdumps, _⟩ := dumps_opens item
        rw [hdumps]
        exact List.cons_ne_nil c cs
  | obj fields ih =>
      have hjoined : (joined (fields.map dumpsField)).length ≤ less := by
        simp only [dumps_obj, List.length_append, List.length_cons] at hfuel
        omega
      refine reads_obj (fun field hfield => ?_) ?_
      · have hle := (length_le_joined
          (List.mem_map_of_mem (f := dumpsField) hfield)).trans hjoined
        have hvalue : (dumps field.2).length ≤ less := by
          simp only [dumpsField, List.length_append, List.length_cons] at hle
          omega
        obtain ⟨fewer, rfl⟩ := exists_fuel hvalue
        exact ih field hfield fewer hvalue
      · have hall := @length_le_joined_all (fields.map dumpsField)
        simp only [List.length_map, List.forall_mem_map] at hall
        refine (hall fun field _ => ?_).trans hjoined
        exact List.cons_ne_nil _ _

/-- A document survives being written and read. -/
theorem loads_dumps (json : Json) : loads (dumps json) = some json := by
  have hreads := reads_dumps json (Nat.le_refl _)
  have hskip := hreads.skipSpaces []
  have hread := hreads.reads [] (fun _ hc => nomatch hc)
  rw [List.append_nil] at hskip hread
  rw [loads, hskip, hread]
  rfl

/-! ### The text -/

/-- A printable ASCII character. -/
def Printable (c : Char) : Prop := 0x20 ≤ c.toNat ∧ c.toNat ≤ 0x7e

instance (c : Char) : Decidable (Printable c) :=
  inferInstanceAs (Decidable (_ ∧ _))

theorem printable_digitChar {d : Nat} (hd : d < 16) :
    Printable d.digitChar := by
  interval_cases d <;> decide

theorem printable_escapeUnit {n : Nat} :
    ∀ c ∈ escapeUnit n, Printable c := by
  have hdigit : ∀ m : Nat, Printable (m % 16).digitChar := fun m =>
    printable_digitChar (Nat.mod_lt m (by decide))
  intro c hc
  simp only [escapeUnit, hex4, List.mem_cons, List.not_mem_nil, or_false] at hc
  rcases hc with rfl | rfl | rfl | rfl | rfl | rfl
  · decide
  · decide
  all_goals exact hdigit _

theorem printable_escapeChar (c : Char) : ∀ d ∈ escapeChar c, Printable d := by
  intro d hd
  unfold escapeChar at hd
  split at hd
  · next letter hletter =>
      have hmem := Dict.mem_of_get? hletter
      have hshort : ∀ pair ∈ shortEscapes, Printable pair.2 := by decide
      simp only [List.mem_cons, List.not_mem_nil, or_false] at hd
      rcases hd with rfl | rfl
      · decide
      · exact hshort _ hmem
  · split at hd
    · next hprintable =>
        obtain rfl := List.mem_singleton.mp hd
        exact hprintable
    · split at hd
      · exact printable_escapeUnit d hd
      · rcases List.mem_append.mp hd with hhigh | hlow
        · exact printable_escapeUnit d hhigh
        · exact printable_escapeUnit d hlow

theorem printable_dumpsStr (text : String) :
    ∀ c ∈ dumpsStr text, Printable c := by
  intro c hc
  rw [dumpsStr, List.cons_append, List.mem_cons, List.mem_append] at hc
  rcases hc with rfl | hc | hc
  · decide
  · obtain ⟨d, _, hd⟩ := List.mem_flatMap.mp hc
    exact printable_escapeChar d c hd
  · obtain rfl := List.mem_singleton.mp hc
    decide

theorem printable_dumpsInt (n : Int) : ∀ c ∈ dumpsInt n, Printable c := by
  have hdigits : ∀ c ∈ Nat.toDigits 10 n.natAbs, Printable c := by
    intro c hc
    have hdigit := Nat.isDigit_of_mem_toDigits (by decide) (by decide) hc
    obtain ⟨hlow, hhigh⟩ : 48 ≤ c.toNat ∧ c.toNat ≤ 57 := by
      simpa [Char.isDigit, UInt32.le_iff_toNat_le] using hdigit
    exact ⟨by omega, by omega⟩
  intro c hc
  unfold dumpsInt at hc
  split at hc
  · rcases List.mem_cons.mp hc with rfl | hc
    · decide
    · exact hdigits c hc
  · exact hdigits c hc

theorem printable_joined {texts : List (List Char)}
    (htexts : ∀ text ∈ texts, ∀ c ∈ text, Printable c) :
    ∀ c ∈ joined texts, Printable c := by
  intro c hc
  cases texts with
  | nil => cases hc
  | cons head texts =>
      rw [joined_cons, List.mem_append] at hc
      rcases hc with hc | hc
      · exact htexts head List.mem_cons_self c hc
      · obtain ⟨text, htext, hc⟩ := List.mem_flatMap.mp hc
        rcases List.mem_cons.mp hc with rfl | hc
        · decide
        · rcases List.mem_cons.mp hc with rfl | hc
          · decide
          · exact htexts text (List.mem_cons_of_mem _ htext) c hc

/-- Of a text at hand it is checked character by character. -/
theorem printable_of_all {text : List Char}
    (hall : text.all (fun c => decide (Printable c)) = true) :
    ∀ c ∈ text, Printable c :=
  fun c hc => of_decide_eq_true (List.all_eq_true.mp hall c hc)

/-- No document is written with a line break, or outside ASCII. -/
theorem printable_dumps (json : Json) : ∀ c ∈ dumps json, Printable c := by
  induction json using induct with
  | null => exact printable_of_all (by decide)
  | bool b =>
      refine printable_of_all ?_
      cases b <;> decide
  | int n => exact printable_dumpsInt n
  | str s => exact printable_dumpsStr s
  | arr items ih =>
      intro c hc
      rw [dumps_arr, List.cons_append, List.mem_cons, List.mem_append,
        List.mem_singleton] at hc
      rcases hc with rfl | hc | rfl
      · decide
      · refine printable_joined ?_ c hc
        simpa only [List.forall_mem_map] using ih
      · decide
  | obj fields ih =>
      intro c hc
      rw [dumps_obj, List.cons_append, List.mem_cons, List.mem_append,
        List.mem_singleton] at hc
      rcases hc with rfl | hc | rfl
      · decide
      · refine printable_joined ?_ c hc
        rw [List.forall_mem_map]
        intro field hfield c hc
        rw [dumpsField, List.mem_append, List.mem_cons, List.mem_cons] at hc
        rcases hc with hc | rfl | rfl | hc
        · exact printable_dumpsStr field.1 c hc
        · decide
        · decide
        · exact ih field hfield c hc
      · decide

end JsonText
