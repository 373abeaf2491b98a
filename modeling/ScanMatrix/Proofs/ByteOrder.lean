import Mathlib

/-!
# The order of names

Names are compared character by character. That is the order of their bytes in UTF-8
(`utf8_le_utf8`), because the encoding of a character grows with the character and is never the
beginning of another one.
-/

namespace String

theorem utf8EncodeChar_lt {c d : Char} (h : c < d) (x y : List UInt8) :
    utf8EncodeChar c ++ x < utf8EncodeChar d ++ y := by
  have hcd : c.val.toNat < d.val.toNat := h
  have hd : d.val.toNat < 0x110000 := by
    have := d.valid
    unfold UInt32.isValidChar Nat.isValidChar at this; omega
  generalize hv : c.val.toNat = v at *
  generalize hw : d.val.toNat = w at *
  have hlow : ∀ n : Nat, (n % 64 + 128) % 256 = n % 64 + 128 := by omega
  have hvlead : (v / 262144 % 8 + 240) % 256 = v / 262144 + 240 := by omega
  have hwlead : (w / 262144 % 8 + 240) % 256 = w / 262144 + 240 := by omega
  -- the digits to base 64 decide, the highest one first
  have hdigits : v / 262144 < w / 262144 ∨ v / 262144 = w / 262144 ∧
      (v / 4096 % 64 < w / 4096 % 64 ∨ v / 4096 % 64 = w / 4096 % 64 ∧
        (v / 64 % 64 < w / 64 % 64 ∨ v / 64 % 64 = w / 64 % 64 ∧ v % 64 < w % 64)) := by omega
  unfold utf8EncodeChar
  simp only [hv, hw]
  split_ifs <;>
    simp only [List.cons_append, List.nil_append, List.cons_lt_cons_iff, UInt8.lt_iff_toNat_lt,
      ← UInt8.toNat_inj, UInt8.toNat_ofNat', Nat.reducePow, hlow, hvlead, hwlead] <;>
    omega

theorem flatMap_utf8EncodeChar_lt {cs ds : List Char} (h : cs < ds) :
    cs.flatMap utf8EncodeChar < ds.flatMap utf8EncodeChar := by
  induction h with
  | @nil d ds =>
    rw [List.flatMap_nil, List.flatMap_cons]
    cases hd : utf8EncodeChar d with
    | nil => exact absurd hd utf8EncodeChar_ne_nil
    | cons b bs => exact List.nil_lt_cons _ _
  | cons _ ih => exact List.append_left_lt ih
  | rel hcd => exact utf8EncodeChar_lt hcd _ _

end String

namespace ScanMatrix

/-- A text as it is stored. -/
def utf8 (s : String) : List UInt8 := s.toUTF8.data.toList

theorem utf8_eq_flatMap (s : String) : utf8 s = s.toList.flatMap String.utf8EncodeChar := by
  unfold utf8
  rw [String.toUTF8_eq_toByteArray, ← String.utf8Encode_toList]
  unfold List.utf8Encode
  rw [List.toList_data_toByteArray]

theorem utf8_lt_utf8 {a b : String} : utf8 a < utf8 b ↔ a < b := by
  rw [utf8_eq_flatMap, utf8_eq_flatMap, String.lt_iff_toList_lt]
  refine ⟨fun h => ?_, String.flatMap_utf8EncodeChar_lt⟩
  rcases lt_trichotomy a.toList b.toList with hlt | heq | hgt
  · exact hlt
  · rw [heq] at h; exact absurd h (List.lt_irrefl _)
  · exact absurd h (List.lt_asymm (String.flatMap_utf8EncodeChar_lt hgt))

theorem utf8_le_utf8 {a b : String} : utf8 a ≤ utf8 b ↔ a ≤ b := by
  rw [← List.not_lt, utf8_lt_utf8, String.not_lt]

end ScanMatrix
