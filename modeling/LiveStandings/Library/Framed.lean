/-
Length-prefixed records.  A record is written behind its length, in four bytes
with the lowest first; records that follow one another are read back by their
lengths alone, and a frame that was cut short anywhere is refused.
-/
import Mathlib.Algebra.Group.Nat.Defs
import Mathlib.Data.List.Basic

namespace Framed

/-- A number below `2 ^ 32` in four bytes, the lowest first. -/
def pack (n : Nat) : List UInt8 :=
  [UInt8.ofNat n, UInt8.ofNat (n / 256), UInt8.ofNat (n / 65536),
    UInt8.ofNat (n / 16777216)]

/-- The number that bytes stand for, the lowest first. -/
def unpack (bytes : List UInt8) : Nat :=
  bytes.foldr (fun byte value => byte.toNat + 256 * value) 0

@[simp] theorem length_pack (n : Nat) : (pack n).length = 4 := rfl

theorem unpack_pack {n : Nat} (hn : n < 2 ^ 32) : unpack (pack n) = n := by
  simp only [unpack, pack, List.foldr_cons, List.foldr_nil, UInt8.toNat_ofNat']
  omega

/-- Records, each behind its length. -/
def frame (records : List (List UInt8)) : List UInt8 :=
  records.flatMap fun record => pack record.length ++ record

/-- Read a number of records off the front; what follows them is ignored. -/
def split : Nat → List UInt8 → Option (List (List UInt8))
  | 0, _ => some []
  | count + 1, rest =>
      if rest.length < 4 then none
      else
        let length := unpack (rest.take 4)
        let entries := rest.drop 4
        if entries.length < length then none
        else
          (split count (entries.drop length)).map (entries.take length :: ·)

theorem frame_cons (record : List UInt8) (records : List (List UInt8)) :
    frame (record :: records) =
      pack record.length ++ (record ++ frame records) := by
  rw [frame, List.flatMap_cons, List.append_assoc]
  rfl

/-- Behind a length, what is read is as many bytes as it says. -/
theorem split_pack {n : Nat} (hn : n < 2 ^ 32) (count : Nat)
    (entries : List UInt8) :
    split (count + 1) (pack n ++ entries) =
      if entries.length < n then none
      else (split count (entries.drop n)).map (entries.take n :: ·) := by
  have hlong : ¬(pack n ++ entries).length < 4 := by
    rw [List.length_append, length_pack]
    omega
  have htake : (pack n ++ entries).take 4 = pack n :=
    List.take_left' (length_pack n)
  have hdrop : (pack n ++ entries).drop 4 = entries :=
    List.drop_left' (length_pack n)
  rw [split, if_neg hlong, htake, hdrop]
  simp only
  rw [unpack_pack hn]

/-- A frame is read back record by record. -/
theorem split_frame {records : List (List UInt8)}
    (hshort : ∀ record ∈ records, record.length < 2 ^ 32)
    (rest : List UInt8) :
    split records.length (frame records ++ rest) = some records := by
  induction records with
  | nil => rfl
  | cons record records ih =>
      have htail := ih fun record hmem =>
        hshort record (List.mem_cons_of_mem _ hmem)
      have hlong : ¬(record ++ (frame records ++ rest)).length <
          record.length := by
        rw [List.length_append]
        omega
      rw [frame_cons, List.append_assoc, List.append_assoc, List.length_cons,
        split_pack (hshort record List.mem_cons_self), if_neg hlong,
        List.take_left, List.drop_left, htail]
      rfl

/-- A cut goes through the front, or leaves it whole. -/
theorem cut_cases {cut front back : List UInt8} (hcut : cut <+: front ++ back) :
    cut.length < front.length ∨ ∃ rest, cut = front ++ rest ∧ rest <+: back := by
  by_cases hlength : cut.length < front.length
  · exact Or.inl hlength
  · obtain ⟨rest, rfl⟩ := List.prefix_of_prefix_length_le
      (List.prefix_append front back) hcut (Nat.le_of_not_lt hlength)
    exact Or.inr ⟨rest, rfl, (List.prefix_append_right_inj front).mp hcut⟩

/-- Of a frame that was cut short not every record can be read. -/
theorem split_of_cut {records : List (List UInt8)}
    (hshort : ∀ record ∈ records, record.length < 2 ^ 32)
    {cut : List UInt8} (hcut : cut <+: frame records)
    (hproper : cut ≠ frame records) : split records.length cut = none := by
  induction records generalizing cut with
  | nil => exact absurd (List.prefix_nil.mp hcut) hproper
  | cons record records ih =>
      rw [frame_cons] at hcut hproper
      rw [List.length_cons]
      rcases cut_cases hcut with hlength | ⟨entries, rfl, hentries⟩
      · rw [length_pack] at hlength
        rw [split, if_pos hlength]
      · rw [split_pack (hshort record List.mem_cons_self)]
        rcases cut_cases hentries with hlength | ⟨rest, rfl, hrest⟩
        · rw [if_pos hlength]
        · have hlong : ¬(record ++ rest).length < record.length := by
            rw [List.length_append]
            omega
          have hcutRest : rest ≠ frame records := fun heq => hproper (heq ▸ rfl)
          have htail := ih
            (fun record hmem => hshort record (List.mem_cons_of_mem _ hmem))
            hrest hcutRest
          rw [if_neg hlong, List.drop_left, htail]
          rfl

end Framed
