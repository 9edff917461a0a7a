/-
Base64.  Three bytes are four digits of six bits each; one or two bytes at the
end are padded.  Decoding inverts encoding.
-/
import Mathlib.Data.List.Basic

namespace Base64

def alphabet : List Char :=
  "ABCDEFGHIJKLMNOPQRSTUVWXYZabcdefghijklmnopqrstuvwxyz0123456789+/".toList

/-- The digit of six bits. -/
def digit (bits : Nat) : Char := alphabet.getD bits 'A'

/-- The six bits of a digit; the padding has none. -/
def bits? (c : Char) : Option Nat :=
  if alphabet.idxOf c < 64 then some (alphabet.idxOf c) else none

theorem bits?_digit {bits : Nat} (hbits : bits < 64) :
    bits? (digit bits) = some bits := by
  have hall : ∀ bits ∈ List.range 64, bits? (digit bits) = some bits := by
    decide
  exact hall bits (List.mem_range.mpr hbits)

theorem bits?_padding : bits? '=' = none := by decide

def encode : List UInt8 → List Char
  | [] => []
  | [a] => [digit (a.toNat / 4), digit (a.toNat % 4 * 16), '=', '=']
  | [a, b] =>
      [digit (a.toNat / 4), digit (a.toNat % 4 * 16 + b.toNat / 16),
        digit (b.toNat % 16 * 4), '=']
  | a :: b :: c :: rest =>
      digit (a.toNat / 4) :: digit (a.toNat % 4 * 16 + b.toNat / 16) ::
        digit (b.toNat % 16 * 4 + c.toNat / 64) :: digit (c.toNat % 64) ::
          encode rest

/-- The bytes of four digits. -/
def first (w x : Nat) : UInt8 := UInt8.ofNat (w * 4 + x / 16)
def second (x y : Nat) : UInt8 := UInt8.ofNat (x % 16 * 16 + y / 4)
def third (y z : Nat) : UInt8 := UInt8.ofNat (y % 4 * 64 + z)

def decode : List Char → Option (List UInt8)
  | [] => some []
  | w :: x :: y :: z :: rest =>
      match bits? w, bits? x, bits? y, bits? z with
      | some w, some x, some y, some z =>
          (decode rest).map (first w x :: second x y :: third y z :: ·)
      | some w, some x, some y, none =>
          if z = '=' ∧ rest = [] then some [first w x, second x y] else none
      | some w, some x, none, none =>
          if y = '=' ∧ z = '=' ∧ rest = [] then some [first w x] else none
      | _, _, _, _ => none
  | _ => none

theorem first_eq (a : UInt8) (n : Nat) (hn : n < 16) :
    first (a.toNat / 4) (a.toNat % 4 * 16 + n) = a := by
  have ha := a.toNat_lt
  rw [first, show a.toNat / 4 * 4 + (a.toNat % 4 * 16 + n) / 16 = a.toNat by
    omega]
  exact UInt8.ofNat_toNat

theorem second_eq (a b n : Nat) (byte : UInt8) (hb : b = byte.toNat / 16)
    (hn : n < 4) :
    second (a * 16 + b) (byte.toNat % 16 * 4 + n) = byte := by
  have hbyte := byte.toNat_lt
  rw [second, show (a * 16 + b) % 16 * 16 + (byte.toNat % 16 * 4 + n) / 4 =
    byte.toNat by omega]
  exact UInt8.ofNat_toNat

theorem third_eq (b : Nat) (byte : UInt8) :
    third (b * 4 + byte.toNat / 64) (byte.toNat % 64) = byte := by
  have hbyte := byte.toNat_lt
  rw [third, show (b * 4 + byte.toNat / 64) % 4 * 64 + byte.toNat % 64 =
    byte.toNat by omega]
  exact UInt8.ofNat_toNat

theorem decode_encode (bytes : List UInt8) :
    decode (encode bytes) = some bytes := by
  fun_induction encode bytes with
  | case1 => rfl
  | case2 a =>
      have ha := a.toNat_lt
      have hfirst := first_eq a 0 (by omega)
      simp only [decode]
      rw [bits?_digit (by omega), bits?_digit (by omega), bits?_padding]
      simp only [and_self, if_true, Option.some.injEq, List.cons.injEq]
      exact ⟨hfirst, trivial⟩
  | case3 a b =>
      have ha := a.toNat_lt
      have hb := b.toNat_lt
      have hfirst := first_eq a (b.toNat / 16) (by omega)
      have hsecond := second_eq (a.toNat % 4) _ 0 b rfl (by omega)
      simp only [decode]
      rw [bits?_digit (by omega), bits?_digit (by omega),
        bits?_digit (by omega), bits?_padding]
      simp only [and_self, if_true, Option.some.injEq, List.cons.injEq]
      exact ⟨hfirst, hsecond, trivial⟩
  | case4 a b c rest ih =>
      have ha := a.toNat_lt
      have hb := b.toNat_lt
      have hc := c.toNat_lt
      have hfirst := first_eq a (b.toNat / 16) (by omega)
      have hsecond := second_eq (a.toNat % 4) _ (c.toNat / 64) b rfl (by omega)
      have hthird := third_eq (b.toNat % 16) c
      simp only [decode]
      rw [bits?_digit (by omega), bits?_digit (by omega),
        bits?_digit (by omega), bits?_digit (by omega), ih]
      simp only [Option.map_some, hfirst, hsecond, hthird]

example : encode [77, 97] = "TWE=".toList := by decide

end Base64
