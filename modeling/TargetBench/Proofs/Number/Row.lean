import Mathlib.Order.Monotone.Basic
import Mathlib.Tactic.Linarith
import Mathlib.Tactic.Ring
import TargetBench.Number.Shortest

/-!
# The row of numbers of a binary format

The non-negative numbers of a format, in order. Counted in units, which are the distance between the
numbers next to zero, every number is a whole number, and the distance to the next one is a power of
two that doubles whenever the significand has run through its range.

## Main definitions

* `BinaryFormat.units`: the number at a place, in units
* `BinaryFormat.gap`: the distance from the number at a place to the next one, in units

## Main results

* `BinaryFormat.units_succ`, `BinaryFormat.units_strictMono`: the numbers stand in order
* `BinaryFormat.significand_mod_two`: neighbours have significands of different parity
* `BinaryFormat.gap_of_narrow`, `BinaryFormat.gap_of_not_narrow`: the distances below and above a
  number
-/

namespace TargetBench.BinaryFormat

variable (f : BinaryFormat)

/-- The distance from the number at a place to the next one, in units. -/
def gap (place : Nat) : Nat := 2 ^ (place / 2 ^ f.fractionBits - 1)

/-- The number at a place, in units. -/
def units (place : Nat) : Nat := f.significand place * f.gap place

theorem gap_pos (place : Nat) : 0 < f.gap place := Nat.two_pow_pos _

variable {f}

theorem gap_of_lt {place : Nat} (h : place < 2 ^ f.fractionBits) : f.gap place = 1 := by
  rw [gap, Nat.div_eq_of_lt h, Nat.zero_sub, Nat.pow_zero]

theorem units_of_lt {place : Nat} (h : place < 2 ^ f.fractionBits) : f.units place = place := by
  rw [units, significand, Nat.pow_eq, if_pos h, gap_of_lt h, Nat.mul_one]

theorem gap_add {q r : Nat} (hr : r < 2 ^ f.fractionBits) :
    f.gap ((q + 1) * 2 ^ f.fractionBits + r) = 2 ^ q := by
  rw [gap, Nat.mul_comm, Nat.mul_add_div (Nat.two_pow_pos _), Nat.div_eq_of_lt hr, Nat.add_zero,
    Nat.add_sub_cancel]

theorem units_add {q r : Nat} (hr : r < 2 ^ f.fractionBits) :
    f.units ((q + 1) * 2 ^ f.fractionBits + r) = (2 ^ f.fractionBits + r) * 2 ^ q := by
  have hle : 2 ^ f.fractionBits ≤ (q + 1) * 2 ^ f.fractionBits + r :=
    Nat.le_add_right_of_le (Nat.le_mul_of_pos_left _ (Nat.succ_pos q))
  rw [units, gap_add hr, significand, Nat.pow_eq, if_neg (Nat.not_lt.mpr hle),
    Nat.mul_comm (q + 1), Nat.mul_add_mod, Nat.mod_eq_of_lt hr]

/-- A place beyond the first range lies at some position of a later one. -/
theorem exists_eq_add {place : Nat} (h : 2 ^ f.fractionBits ≤ place) :
    ∃ q r, r < 2 ^ f.fractionBits ∧ place = (q + 1) * 2 ^ f.fractionBits + r := by
  have hpos : 0 < 2 ^ f.fractionBits := Nat.two_pow_pos _
  have hone : 1 ≤ place / 2 ^ f.fractionBits := (Nat.one_le_div_iff hpos).mpr h
  refine ⟨place / 2 ^ f.fractionBits - 1, place % 2 ^ f.fractionBits, Nat.mod_lt _ hpos, ?_⟩
  rw [Nat.sub_add_cancel hone, Nat.div_add_mod']

/-- The number after a place is one step further. -/
theorem units_succ (place : Nat) : f.units (place + 1) = f.units place + f.gap place := by
  have hpos : 0 < 2 ^ f.fractionBits := Nat.two_pow_pos _
  rcases Nat.lt_trichotomy (place + 1) (2 ^ f.fractionBits) with hlt | heq | hgt
  · have hplace : place < 2 ^ f.fractionBits := Nat.lt_of_succ_lt hlt
    rw [units_of_lt hlt, units_of_lt hplace, gap_of_lt hplace]
  · have hplace : place < 2 ^ f.fractionBits := heq ▸ Nat.lt_succ_self place
    have hfirst : place + 1 = (0 + 1) * 2 ^ f.fractionBits + 0 := by omega
    rw [units_of_lt hplace, gap_of_lt hplace, hfirst, units_add hpos]
    omega
  · obtain ⟨q, r, hr, rfl⟩ := exists_eq_add (Nat.le_of_lt_succ hgt)
    rw [units_add hr, gap_add hr]
    by_cases hnext : r + 1 < 2 ^ f.fractionBits
    · rw [Nat.add_assoc, units_add hnext]
      ring
    · -- the significand starts again, at twice the distance
      have hend : (q + 1) * 2 ^ f.fractionBits + r + 1 = (q + 1 + 1) * 2 ^ f.fractionBits + 0 := by
        rw [Nat.add_mul (q + 1)]
        omega
      have hr' : 2 ^ f.fractionBits = r + 1 := by omega
      rw [hend, units_add hpos, hr']
      ring

theorem units_strictMono : StrictMono f.units := by
  apply strictMono_nat_of_lt_succ
  intro place
  rw [units_succ]
  exact Nat.lt_add_of_pos_right (f.gap_pos place)

/-- At the start of a range the distance below is half the distance above. -/
theorem gap_of_narrow {place : Nat} (h : place % 2 ^ f.fractionBits = 0)
    (hlt : 2 ^ f.fractionBits < place) : f.gap place = 2 * f.gap (place - 1) := by
  have hpos : 0 < 2 ^ f.fractionBits := Nat.two_pow_pos _
  obtain ⟨q, r, hr, rfl⟩ := exists_eq_add hlt.le
  rw [Nat.mul_add_mod', Nat.mod_eq_of_lt hr] at h
  subst h
  obtain ⟨q, rfl⟩ : ∃ k, q = k + 1 := by
    refine ⟨q - 1, ?_⟩
    by_contra hq
    have hzero : q = 0 := by omega
    rw [hzero] at hlt
    omega
  have hbefore : (q + 1 + 1) * 2 ^ f.fractionBits + 0 - 1
      = (q + 1) * 2 ^ f.fractionBits + (2 ^ f.fractionBits - 1) := by
    rw [Nat.add_mul (q + 1)]
    omega
  rw [hbefore, gap_add hpos, gap_add (Nat.sub_lt hpos Nat.one_pos)]
  ring

/-- Elsewhere the distances below and above are the same. -/
theorem gap_of_not_narrow {place : Nat} (hpos : 0 < place)
    (h : ¬ (place % 2 ^ f.fractionBits = 0 ∧ 2 ^ f.fractionBits < place)) :
    f.gap place = f.gap (place - 1) := by
  have htwo : 0 < 2 ^ f.fractionBits := Nat.two_pow_pos _
  rcases Nat.lt_trichotomy place (2 ^ f.fractionBits) with hlt | heq | hgt
  · rw [gap_of_lt hlt, gap_of_lt (Nat.sub_lt_of_lt hlt)]
  · have hfirst : place = (0 + 1) * 2 ^ f.fractionBits + 0 := by omega
    rw [gap_of_lt (by omega : place - 1 < 2 ^ f.fractionBits), hfirst, gap_add htwo, Nat.pow_zero]
  · obtain ⟨q, r, hr, rfl⟩ := exists_eq_add hgt.le
    have hr' : 0 < r := by
      rw [Nat.mul_add_mod', Nat.mod_eq_of_lt hr] at h
      exact Nat.pos_of_ne_zero fun hzero => h ⟨hzero, hgt⟩
    have hbefore : (q + 1) * 2 ^ f.fractionBits + r - 1
        = (q + 1) * 2 ^ f.fractionBits + (r - 1) := Nat.add_sub_assoc hr' _
    rw [hbefore, gap_add hr, gap_add (by omega)]

/-- Neighbours have significands of different parity. -/
theorem significand_mod_two (hf : 0 < f.fractionBits) (place : Nat) :
    f.significand place % 2 = place % 2 := by
  have hdvd : 2 ∣ 2 ^ f.fractionBits := dvd_pow_self 2 hf.ne'
  rw [significand, Nat.pow_eq]
  split
  · rfl
  · rw [Nat.add_mod, Nat.mod_mod_of_dvd _ hdvd, Nat.mod_eq_zero_of_dvd hdvd, Nat.zero_add,
      Nat.mod_mod]

end TargetBench.BinaryFormat
