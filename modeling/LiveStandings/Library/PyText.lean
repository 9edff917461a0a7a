/-
Python text functions: white space, `str.partition`, `int(text)`, and UTF-8.
The character tables are those of Unicode, as `str.isspace` and the decimal
digits see it.
-/
import Mathlib.Data.List.Basic

namespace PyText

/-- `str.isspace` of one character. -/
def isSpace (c : Char) : Bool :=
  [0x9, 0xa, 0xb, 0xc, 0xd, 0x1c, 0x1d, 0x1e, 0x1f, 0x20, 0x85, 0xa0, 0x1680,
    0x2000, 0x2001, 0x2002, 0x2003, 0x2004, 0x2005, 0x2006, 0x2007, 0x2008,
    0x2009, 0x200a, 0x2028, 0x2029, 0x202f, 0x205f, 0x3000].contains c.toNat

/-- Whether `text.strip()` is empty. -/
def isBlank (text : String) : Bool :=
  text.toList.all isSpace

/-- The white space `int` skips: the ASCII separators are not part of it. -/
def isIntSpace (c : Char) : Bool :=
  isSpace c && !(0x1c ≤ c.toNat && c.toNat ≤ 0x1f)

/-- The code points of the decimal zeros, each followed by its nine other
digits. -/
def decimalZeros : List Nat :=
  [0x30, 0x660, 0x6f0, 0x7c0, 0x966, 0x9e6, 0xa66, 0xae6, 0xb66, 0xbe6, 0xc66,
    0xce6, 0xd66, 0xde6, 0xe50, 0xed0, 0xf20, 0x1040, 0x1090, 0x17e0, 0x1810,
    0x1946, 0x19d0, 0x1a80, 0x1a90, 0x1b50, 0x1bb0, 0x1c40, 0x1c50, 0xa620,
    0xa8d0, 0xa900, 0xa9d0, 0xa9f0, 0xaa50, 0xabf0, 0xff10, 0x104a0, 0x10d30,
    0x11066, 0x110f0, 0x11136, 0x111d0, 0x112f0, 0x11450, 0x114d0, 0x11650,
    0x116c0, 0x11730, 0x118e0, 0x11950, 0x11c50, 0x11d50, 0x11da0, 0x16a60,
    0x16ac0, 0x16b50, 0x1d7ce, 0x1d7d8, 0x1d7e2, 0x1d7ec, 0x1d7f6, 0x1e140,
    0x1e2f0, 0x1e950, 0x1fbf0]

/-- The value of a decimal digit. -/
def decimal? (c : Char) : Option Nat :=
  (decimalZeros.find? fun first => first ≤ c.toNat && c.toNat < first + 10).map
    fun first => c.toNat - first

/-- Digits with single underscores between them, most significant first. -/
def digits? (value : Nat) : List Char → Option Nat
  | [] => some value
  | '_' :: c :: rest =>
      match decimal? c with
      | some digit => digits? (value * 10 + digit) rest
      | none => none
  | c :: rest =>
      match decimal? c with
      | some digit => digits? (value * 10 + digit) rest
      | none => none

/-- A non-empty run of digits. -/
def natural? : List Char → Option Nat
  | [] => none
  | '_' :: _ => none
  | cs => digits? 0 cs

/-- `int(text)`; `none` is the `ValueError`. -/
def int? (text : String) : Option Int :=
  let trimmed := ((text.toList.dropWhile isIntSpace).reverse.dropWhile
    isIntSpace).reverse
  match trimmed with
  | '+' :: rest => (natural? rest).map Int.ofNat
  | '-' :: rest => (natural? rest).map fun n => -Int.ofNat n
  | cs => (natural? cs).map Int.ofNat

/-- `text.partition(separator)` without the separator itself. -/
def partition (separator : Char) (text : String) : String × String :=
  let cs := text.toList
  (String.ofList (cs.takeWhile (· ≠ separator)),
    String.ofList ((cs.dropWhile (· ≠ separator)).drop 1))

/-- The first separator divides, so the part before it has none. -/
theorem partition_append {separator : Char} {key : String}
    (hkey : separator ∉ key.toList) (value : String) :
    partition separator (key ++ separator.toString ++ value) = (key, value) := by
  have hchars : (key ++ separator.toString ++ value).toList =
      key.toList ++ separator :: value.toList := by
    simp [Char.toString]
  have hall : ∀ c ∈ key.toList, decide (c ≠ separator) = true := by
    intro c hc
    exact decide_eq_true fun heq => hkey (heq ▸ hc)
  unfold partition
  simp only [hchars]
  rw [List.takeWhile_append_of_pos hall, List.dropWhile_append_of_pos hall]
  simp

/-- Whether a character matches a small ASCII literal under `re.IGNORECASE`.
The dotted and the dotless i, the long s and the Kelvin sign fold to ASCII. -/
def foldsTo (literal c : Char) : Bool :=
  c.toLower == literal ||
    [('i', 0x130), ('i', 0x131), ('s', 0x17f), ('k', 0x212a)].contains
      (literal, c.toNat)

/-- `re.match(literal, text, re.IGNORECASE)` of a plain literal. -/
def startsWithFolded : List Char → List Char → Bool
  | [], _ => true
  | _ :: _, [] => false
  | literal :: literals, c :: cs =>
      foldsTo literal c && startsWithFolded literals cs

/-- `re.search(literal, text, re.IGNORECASE)` of a plain literal. -/
def searchFolded (literals : List Char) : List Char → Bool
  | [] => literals.isEmpty
  | c :: cs =>
      startsWithFolded literals (c :: cs) || searchFolded literals cs

theorem toList_loop_eq (bytes : ByteArray) (i : Nat) (read : List UInt8) :
    ByteArray.toList.loop bytes i read =
      read.reverse ++ bytes.data.toList.drop i := by
  fun_induction ByteArray.toList.loop bytes i read with
  | case1 i read hlt ih =>
      have hlength : i < bytes.data.toList.length := by simpa using hlt
      have hsize : i < bytes.data.size := by simpa using hlt
      have hget : bytes.get! i = bytes.data.toList[i] := by
        rw [Array.getElem_toList]
        exact getElem!_pos bytes.data i hsize
      rw [ih, List.drop_eq_getElem_cons hlength, hget]
      simp
  | case2 i read hge =>
      have hlength : bytes.data.toList.length ≤ i := by simpa using hge
      simp [List.drop_eq_nil_of_le hlength]

theorem toList_eq (bytes : ByteArray) : bytes.toList = bytes.data.toList := by
  rw [ByteArray.toList, toList_loop_eq]
  rfl

theorem toUTF8_append (text text' : String) :
    (text ++ text').toUTF8.toList =
      text.toUTF8.toList ++ text'.toUTF8.toList := by
  simp [toList_eq, String.toByteArray_append]

theorem toUTF8_inj {text text' : String}
    (hbytes : text.toUTF8.toList = text'.toUTF8.toList) : text = text' := by
  rw [toList_eq, toList_eq] at hbytes
  exact String.toByteArray_inj.mp
    (ByteArray.ext (Array.toList_inj.mp hbytes))

/-- Bytes behind a text that together are a text are a text themselves. -/
theorem toUTF8_eq_append {long text : String} {bytes : List UInt8}
    (hbytes : long.toUTF8.toList = text.toUTF8.toList ++ bytes) :
    ∃ rest : String, long = text ++ rest ∧ bytes = rest.toUTF8.toList := by
  have hencode : text.toList.utf8Encode ++ bytes.toByteArray =
      long.toList.utf8Encode := by
    apply ByteArray.ext
    apply Array.toList_inj.mp
    simpa [toList_eq] using hbytes.symm
  obtain ⟨rest, hrest⟩ := List.isPrefix_of_utf8Encode_append_eq_utf8Encode _ hencode
  have hlong : long = text ++ String.ofList rest := by
    rw [← String.toList_inj]
    simp [hrest]
  refine ⟨String.ofList rest, hlong, ?_⟩
  rw [hlong, toUTF8_append] at hbytes
  exact (List.append_cancel_left hbytes).symm

/-- `bytes.decode("utf-8")`; `none` is the `UnicodeDecodeError`. -/
def decodeUtf8? (bytes : List UInt8) : Option String :=
  String.fromUTF8? bytes.toByteArray

theorem decodeUtf8?_toUTF8 (text : String) :
    decodeUtf8? text.toUTF8.toList = some text := by
  have hbytes : text.toUTF8.toList.toByteArray = text.toByteArray := by
    apply ByteArray.ext
    apply Array.toList_inj.mp
    simp [toList_eq]
  rw [decodeUtf8?, hbytes, String.fromUTF8?, dif_pos text.isValidUTF8]
  rfl

example : int? " +1_0875\n" = some 10875 := by decide
example : int? "-2" = some (-2) := by decide
example : int? "1__0" = none := by decide
example : partition ':' "10:a:b" = ("10", "a:b") := by decide
example : searchFolded "cookie".toList "Set-COO\u212aIE".toList = true := by decide

end PyText
