import Mathlib.Algebra.Order.Field.Power
import Mathlib.Algebra.Order.Field.Rat
import Mathlib.Data.List.TakeWhile
import Mathlib.Tactic.FieldSimp
import Mathlib.Tactic.Positivity
import Mathlib.Tactic.Ring
import TargetBench.Number.Layout
import TargetBench.Proofs.Number.Reading

/-!
# The number that a numeral stands for

A numeral stands for a rational number. However a layout distributes digits over the whole part, the
fraction and the power of ten, the number stays the same.

## Main definitions

* `Numeral.magnitude`: the number that a numeral stands for, its sign left out

## Main results

* `Decimal.value_append`: the number that two rows of digits spell together
* `Layout.magnitude_place`: the number that digits stand for in any layout
* `Layout.magnitude_place_digits`: the digits of a coefficient, laid out, stand for the coefficient
  times its power of ten
-/

namespace TargetBench

/-- The number that a numeral stands for, its sign left out. -/
def Numeral.magnitude (n : Numeral) : ℚ :=
  (n.whole + Decimal.value n.fraction / 10 ^ n.fraction.length) * 10 ^ (n.exponent.getD 0)

/-! ## Digits -/

namespace Decimal

@[simp] theorem value_nil : value [] = 0 := rfl

@[simp] theorem value_zero : value [.zero] = 0 := rfl

theorem foldl_value (ds : List Digit) (n : Nat) :
    ds.foldl (fun n d => 10 * n + d.val) n = n * 10 ^ ds.length + value ds := by
  induction ds generalizing n with
  | nil => simp [value]
  | cons d ds ih =>
    rw [value, List.foldl_cons, List.foldl_cons, ih, ih (10 * 0 + d.val), List.length_cons]
    ring

/-- The number that two rows of digits spell together. -/
theorem value_append (ds es : List Digit) :
    value (ds ++ es) = value ds * 10 ^ es.length + value es := by
  rw [value, List.foldl_append, foldl_value]
  rfl

@[simp] theorem value_replicate_zero (n : Nat) : value (List.replicate n .zero) = 0 := by
  induction n with
  | zero => rfl
  | succ n ih =>
    rw [List.replicate_succ', value_append, ih]
    rfl

theorem value_take_drop (ds : List Digit) (n : Nat) :
    value ds = value (ds.take n) * 10 ^ (ds.length - n) + value (ds.drop n) := by
  conv_lhs => rw [← List.take_append_drop n ds]
  rw [value_append, List.length_drop]

end Decimal

namespace Layout

open Decimal

/-- Only zeros are removed from the end of digits. -/
theorem trimZeros_append (ds : List Digit) :
    ∃ n, ds = trimZeros ds ++ List.replicate n .zero := by
  refine ⟨(ds.reverse.takeWhile (· = .zero)).length, ?_⟩
  have hzeros : ds.reverse.takeWhile (fun d => decide (d = .zero))
      = List.replicate (ds.reverse.takeWhile (· = .zero)).length .zero := by
    rw [List.eq_replicate_iff]
    exact ⟨rfl, fun d hd => by simpa using List.mem_takeWhile_imp hd⟩
  have hsplit : ds.reverse.takeWhile (· = .zero) ++ ds.reverse.dropWhile (· = .zero)
      = ds.reverse :=
    List.takeWhile_append_dropWhile
  rw [trimZeros, ← List.reverse_replicate, ← List.reverse_append, ← hzeros, hsplit,
    List.reverse_reverse]

/-- Each zero that is removed counts for a power of ten. -/
theorem value_trimZeros (ds : List Digit) :
    ∃ n, ds.length = (trimZeros ds).length + n ∧ value ds = value (trimZeros ds) * 10 ^ n := by
  obtain ⟨n, hn⟩ := trimZeros_append ds
  refine ⟨n, ?_, ?_⟩
  · conv_lhs => rw [hn]
    rw [List.length_append, List.length_replicate]
  · conv_lhs => rw [hn]
    rw [value_append, value_replicate_zero, List.length_replicate, Nat.add_zero]

/-- Digits of which the first `n` stand before the point. -/
theorem magnitude_split (negative : Bool) {ds : List Digit} {n : Nat} (hn : n ≤ ds.length)
    (exponent : Option Int) :
    (Numeral.mk negative (value (ds.take n)) (ds.drop n) exponent).magnitude =
      value ds * 10 ^ (exponent.getD 0 + n - ds.length) := by
  have hsplit := value_take_drop ds n
  have hexponent : exponent.getD 0 + n - ds.length
      = exponent.getD 0 + -((ds.length - n : Nat) : Int) := by omega
  rw [Numeral.magnitude, hsplit, hexponent, zpow_add₀ (by norm_num), zpow_neg, zpow_natCast,
    List.length_drop]
  push_cast
  field_simp

/-- A fraction of one zero counts for nothing. -/
theorem magnitude_fractionOf (negative : Bool) (whole : Nat) (ds : List Digit) :
    (Numeral.mk negative whole (fractionOf ds) none).magnitude =
      (Numeral.mk negative whole ds none).magnitude := by
  cases ds with
  | nil => simp [Numeral.magnitude, fractionOf]
  | cons d ds => rfl

/-- Digits stand for the same number in any layout: the first counts for `10 ^ e`. -/
theorem magnitude_place (layout : Layout) (negative : Bool) {ds : List Digit} (hds : ds ≠ [])
    (e : Int) :
    (layout.place negative ds e).magnitude = value ds * 10 ^ (e + 1 - ds.length) := by
  have hlength : 1 ≤ ds.length := List.length_pos_iff.mpr hds
  rw [place]
  split
  · split
    · -- all digits stand after the point, behind zeros
      have hexponent : e + 1 - ds.length = -(((-e - 1).toNat + ds.length : Nat) : Int) := by omega
      rw [hexponent, zpow_neg, zpow_natCast, Numeral.magnitude]
      simp only [value_append, value_replicate_zero, List.length_append, List.length_replicate,
        Option.getD_none, zpow_zero, Nat.zero_mul, Nat.cast_zero, zero_add, mul_one, div_eq_mul_inv]
    · rename_i he
      have hplaces : ((e.toNat + 1 : Nat) : Int) = e + 1 := by omega
      simp only [magnitude_fractionOf]
      by_cases hall : ds.length ≤ e.toNat + 1
      · -- all digits stand before the point, in front of zeros
        have hexponent : e + 1 - ds.length = ((e.toNat + 1 - ds.length : Nat) : Int) := by omega
        rw [hexponent, zpow_natCast, List.take_of_length_le hall, List.drop_of_length_le hall,
          Numeral.magnitude, value_append, value_replicate_zero, List.length_replicate]
        simp [value_nil]
      · -- the point stands between the digits
        have hmissing : e.toNat + 1 - ds.length = 0 := by omega
        rw [hmissing, List.replicate_zero, List.append_nil,
          magnitude_split negative (Nat.le_of_not_le hall), Option.getD_none, hplaces]
        ring_nf
  · -- the first digit stands before the point
    rw [magnitude_split negative hlength, Option.getD_some]
    rfl

/-- The digits of a coefficient stand, in any layout, for the coefficient times its power of
ten. -/
theorem magnitude_place_digits (layout : Layout) (negative : Bool) {coefficient : Nat}
    (h : 0 < coefficient) (k : Int) :
    (layout.place negative (trimZeros (digits coefficient))
        (k + (digits coefficient).length - 1)).magnitude = coefficient * 10 ^ k := by
  obtain ⟨n, hlength, hvalue⟩ := value_trimZeros (digits coefficient)
  rw [value_digits] at hvalue
  have hne : trimZeros (digits coefficient) ≠ [] := by
    intro hnil
    rw [hnil, value_nil, Nat.zero_mul] at hvalue
    omega
  have hexponent : k + (digits coefficient).length - 1 + 1 - (trimZeros (digits coefficient)).length
      = (n : Int) + k := by omega
  rw [magnitude_place layout negative hne, hexponent, zpow_add₀ (by norm_num), zpow_natCast,
    ← mul_assoc]
  congr 1
  exact_mod_cast hvalue.symm

end Layout

end TargetBench
