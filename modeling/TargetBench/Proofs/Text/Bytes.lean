import Mathlib.Data.String.Basic
import TargetBench.Text.Utf8

/-!
# The order of bytes

Texts are ordered by the numbers of their characters, file systems order names by their bytes. The
two orders are one: an encoding keeps the order of characters, whatever follows them.

## Main results

* `Utf8.encodeChar_append_lt`: the first bytes that differ are in the order of the characters
* `Utf8.bytes_lt_iff`: the order of texts is that of their bytes
* `Utf8.toNat_of_mem_encodeChar`: a byte below 128 stands for itself only
-/

namespace TargetBench.Utf8

/-! ## Characters -/

theorem ofNat_lt_ofNat {m n : Nat} (hm : m < 256) (hn : n < 256) :
    UInt8.ofNat m < UInt8.ofNat n ↔ m < n := by
  rw [UInt8.lt_iff_toNat_lt, UInt8.toNat_ofNat', UInt8.toNat_ofNat', Nat.mod_eq_of_lt hm,
    Nat.mod_eq_of_lt hn]

theorem ofNat_inj {m n : Nat} (hm : m < 256) (hn : n < 256) :
    UInt8.ofNat m = UInt8.ofNat n ↔ m = n := by
  rw [← UInt8.toNat_inj, UInt8.toNat_ofNat', UInt8.toNat_ofNat', Nat.mod_eq_of_lt hm,
    Nat.mod_eq_of_lt hn]

/-- The encodings of two characters differ at a byte that both have, and there the smaller
character has the smaller byte. -/
theorem encodeChar_append_lt {c d : Char} (h : c < d) (xs ys : List UInt8) :
    String.utf8EncodeChar c ++ xs < String.utf8EncodeChar d ++ ys := by
  have hlt : c.val.toNat < d.val.toNat := h
  have hd : d.val.toNat < 0x110000 := by
    rcases d.valid with hd | hd
    · exact hd.trans (by decide)
    · exact hd.2
  -- all bytes are digits to the base 64, with a mark in front
  have two (k : Nat) : k / 4096 = k / 64 / 64 := (Nat.div_div_eq_div_mul k 64 64).symm
  have three (k : Nat) : k / 262144 = k / 64 / 64 / 64 := by
    rw [Nat.div_div_eq_div_mul, Nat.div_div_eq_div_mul]
  simp only [String.utf8EncodeChar, two, three]
  generalize c.val.toNat = m at *
  generalize d.val.toNat = n at *
  split_ifs <;> first
    | omega
    | simp (disch := omega) only [List.cons_append, List.nil_append, List.cons_lt_cons_iff,
        ofNat_lt_ofNat, ofNat_inj]
      omega

/-- Only characters below 128 have bytes below 128, and then the byte is the character. -/
theorem toNat_of_mem_encodeChar {c : Char} {b : UInt8} (hb : b ∈ String.utf8EncodeChar c)
    (h : b.toNat < 0x80) : b.toNat = c.toNat := by
  have hc : c.toNat = c.val.toNat := rfl
  rw [hc]
  revert hb
  fun_cases String.utf8EncodeChar c <;> intro hb <;>
    simp only [List.mem_cons, List.not_mem_nil, or_false] at hb <;>
    rcases hb with rfl | rfl | rfl | rfl <;> simp [UInt8.toNat_ofNat'] at h ⊢ <;> omega

theorem encodeChar_ne_nil (c : Char) : String.utf8EncodeChar c ≠ [] := by
  rw [← List.length_pos_iff, String.length_utf8EncodeChar]
  exact Char.utf8Size_pos c

/-! ## Texts -/

theorem encode_cons (c : Char) (cs : List Char) :
    encode (c :: cs) = String.utf8EncodeChar c ++ encode cs := List.flatMap_cons

theorem encode_lt_encode {xs ys : List Char} (h : xs < ys) : encode xs < encode ys := by
  induction h with
  | @nil y ys =>
    obtain ⟨b, bs, hb⟩ := List.exists_cons_of_ne_nil (encodeChar_ne_nil y)
    rw [encode_cons, hb]
    exact List.nil_lt_cons b _
  | @cons x xs ys _ ih =>
    rw [encode_cons, encode_cons]
    exact List.append_left_lt ih
  | @rel x xs y ys hxy =>
    rw [encode_cons, encode_cons]
    exact encodeChar_append_lt hxy _ _

/-- **The order of texts is the order of their bytes.** -/
theorem bytes_lt_iff {a b : String} : bytes a < bytes b ↔ a < b := by
  refine ⟨fun h => ?_, fun h => encode_lt_encode (String.lt_iff_toList_lt.mp h)⟩
  by_contra hab
  rcases (not_lt.mp hab).lt_or_eq with hba | rfl
  · exact List.lt_asymm h (encode_lt_encode (String.lt_iff_toList_lt.mp hba))
  · exact List.lt_irrefl _ h

end TargetBench.Utf8
