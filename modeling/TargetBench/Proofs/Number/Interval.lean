import Mathlib.Algebra.Order.Field.Power
import Mathlib.Algebra.Order.Field.Rat
import Mathlib.Tactic.FieldSimp
import Mathlib.Tactic.Linarith
import Mathlib.Tactic.Positivity
import TargetBench.Proofs.Number.Row

/-!
# Rounding intervals

The real numbers that are rounded to a binary number form an interval around it. The intervals of
different numbers of a format have no number in common, and the shortest decimal of a number lies in
its interval.

## Main definitions

* `Shortest.Target.Within`: the interval of a target

## Main results

* `Shortest.gridPoint?_within`, `Shortest.exists_gridPoint?`: what is taken from a grid lies in the
  interval, and a fine grid has a point to take
* `Shortest.search_within`: the search ends in the interval
* `Shortest.within_target_iff`: the interval reaches half way to both neighbours
* `Shortest.place_eq_of_within`: no number lies in the intervals of two places
-/

namespace TargetBench.Shortest

/-- The real numbers that are rounded to a target, when a quarter of the unit of its last place is
`quarter`. The ends belong to them if the significand is even. -/
def Target.Within (t : Target) (quarter x : ℚ) : Prop :=
  ((4 * t.significand - if t.narrowBelow then 1 else 2) * quarter < x ∨
      t.significand % 2 = 0 ∧ (4 * t.significand - if t.narrowBelow then 1 else 2) * quarter = x) ∧
    (x < (4 * t.significand + 2) * quarter ∨
      t.significand % 2 = 0 ∧ x = (4 * t.significand + 2) * quarter)

theorem Target.within_mul_iff {t : Target} {quarter x d : ℚ} (hd : 0 < d) :
    t.Within (quarter * d) (x * d) ↔ t.Within quarter x := by
  simp only [Within, ← mul_assoc, mul_lt_mul_iff_of_pos_right hd, mul_left_inj' hd.ne']

/-! ## Powers as ratios -/

theorem powerRatio_snd_pos {base : Nat} (hbase : 0 < base) (e : Int) :
    0 < (Binary.powerRatio base e).2 := Nat.pow_pos hbase

theorem powerRatio_eq {base : Nat} (hbase : 0 < base) (e : Int) :
    ((Binary.powerRatio base e).1 : ℚ) = (base : ℚ) ^ e * (Binary.powerRatio base e).2 := by
  have hbase' : (base : ℚ) ≠ 0 := by positivity
  have hsum : ((e.toNat : Nat) : Int) = e + ((-e).toNat : Nat) := by omega
  simp only [Binary.powerRatio, Nat.pow_eq, Nat.cast_pow]
  rw [← zpow_natCast, hsum, zpow_add₀ hbase', zpow_natCast]

/-! ## Points of a grid -/

/-- The grid `10 ^ k` and the quarter of the unit, both counted in a common measure. -/
theorem exists_measure (t : Target) (k : Int) : ∃ d : ℚ, 0 < d ∧
    (((Binary.powerRatio 2 (t.scale - 2)).1 * (Binary.powerRatio 10 k).2 : Nat) : ℚ)
      = 2 ^ (t.scale - 2) * d ∧
    (((Binary.powerRatio 10 k).1 * (Binary.powerRatio 2 (t.scale - 2)).2 : Nat) : ℚ)
      = 10 ^ k * d := by
  have htwo := powerRatio_eq (by decide : 0 < 2) (t.scale - 2)
  have hten := powerRatio_eq (by decide : 0 < 10) k
  have hd := powerRatio_snd_pos (by decide : 0 < 2) (t.scale - 2)
  have hd' := powerRatio_snd_pos (by decide : 0 < 10) k
  refine ⟨(Binary.powerRatio 2 (t.scale - 2)).2 * (Binary.powerRatio 10 k).2, by positivity, ?_, ?_⟩
  · rw [Nat.cast_mul, htwo]
    push_cast
    ring
  · rw [Nat.cast_mul, hten]
    push_cast
    ring

/-- A point of a grid that fits, counted in a common measure, lies in the interval. -/
theorem Target.within_of_measure {t : Target} (ht : 0 < t.significand) {k : Int} {d : ℚ}
    (hd : 0 < d) {quarter grid point : Nat} (hquarter : (quarter : ℚ) = 2 ^ (t.scale - 2) * d)
    (hgrid : (grid : ℚ) = 10 ^ k * d)
    (hlow : (4 * t.significand - if t.narrowBelow then 1 else 2) * quarter < point * grid ∨
      t.significand % 2 = 0 ∧
        (4 * t.significand - if t.narrowBelow then 1 else 2) * quarter = point * grid)
    (hhigh : point * grid < (4 * t.significand + 2) * quarter ∨
      t.significand % 2 = 0 ∧ point * grid = (4 * t.significand + 2) * quarter) :
    t.Within (2 ^ (t.scale - 2)) (point * 10 ^ k) := by
  have hcast : ((4 * t.significand - (if t.narrowBelow then 1 else 2) : Nat) : ℚ)
      = 4 * t.significand - if t.narrowBelow then 1 else 2 := by
    rw [Nat.cast_sub (by split <;> omega)]
    split <;> push_cast <;> rfl
  have hpoint : (point : ℚ) * 10 ^ k * d = ((point * grid : Nat) : ℚ) := by
    rw [Nat.cast_mul, hgrid, mul_assoc]
  rw [← within_mul_iff hd, hpoint, ← hquarter, Within, ← hcast]
  exact_mod_cast And.intro hlow hhigh

/-- How a target lies between its ends and the two points of a grid next to it. -/
theorem Target.between {t : Target} (ht : 0 < t.significand) {quarter grid : Nat}
    (hquarter : 0 < quarter) (hgrid : 0 < grid) :
    (4 * t.significand - if t.narrowBelow then 1 else 2) * quarter < 4 * t.significand * quarter ∧
      4 * t.significand * quarter < (4 * t.significand + 2) * quarter ∧
      4 * t.significand * quarter / grid * grid ≤ 4 * t.significand * quarter ∧
      4 * t.significand * quarter < 4 * t.significand * quarter / grid * grid + grid := by
  refine ⟨?_, ?_, Nat.div_mul_le_self _ _, Nat.lt_div_mul_add hgrid⟩
  · exact Nat.mul_lt_mul_of_pos_right (by split <;> omega) hquarter
  · exact Nat.mul_lt_mul_of_pos_right (by omega) hquarter

/-- What is taken from a grid lies in the interval. -/
theorem gridPoint?_within {tie : Tie} {t : Target} (ht : 0 < t.significand) {k : Int} {point : Nat}
    (h : gridPoint? tie t k = some point) : t.Within (2 ^ (t.scale - 2)) (point * 10 ^ k) := by
  obtain ⟨d, hd, hquarter, hgrid⟩ := exists_measure t k
  have hquarter' : (0 : ℚ) < 2 ^ (t.scale - 2) * d := by positivity
  have hgrid' : (0 : ℚ) < 10 ^ k * d := by positivity
  revert h
  simp only [gridPoint?]
  generalize (Binary.powerRatio 2 (t.scale - 2)).1 * (Binary.powerRatio 10 k).2 = quarter at *
  generalize (Binary.powerRatio 10 k).1 * (Binary.powerRatio 2 (t.scale - 2)).2 = grid at *
  rw [← hquarter, Nat.cast_pos] at hquarter'
  rw [← hgrid, Nat.cast_pos] at hgrid'
  obtain ⟨hlow, hhigh, hbelow, habove⟩ := Target.between ht hquarter' hgrid'
  generalize 4 * t.significand * quarter / grid = floor at *
  generalize hlowIs : (4 * t.significand - if t.narrowBelow then 1 else 2) * quarter = low at *
  generalize hhighIs : (4 * t.significand + 2) * quarter = high at *
  generalize 4 * t.significand * quarter = value at *
  have hfloor : low < floor * grid ∨ t.significand % 2 = 0 ∧ low = floor * grid →
      t.Within (2 ^ (t.scale - 2)) (floor * 10 ^ k) := by
    intro hfits
    refine Target.within_of_measure ht hd hquarter hgrid (hlowIs ▸ hfits) (.inl ?_)
    exact hhighIs ▸ Nat.lt_of_le_of_lt hbelow hhigh
  have hnext : floor * grid + grid < high ∨ t.significand % 2 = 0 ∧ floor * grid + grid = high →
      t.Within (2 ^ (t.scale - 2)) ((floor + 1 : Nat) * 10 ^ k) := by
    intro hfits
    rw [← Nat.succ_mul] at hfits habove
    refine Target.within_of_measure ht hd hquarter hgrid (.inl ?_) (hhighIs ▸ hfits)
    exact hlowIs ▸ Nat.lt_trans hlow habove
  intro h
  split at h
  · rename_i hfits _
    cases h
    exact hfloor (by simpa using hfits)
  · rename_i _ hfits
    cases h
    exact hnext (by simpa using hfits)
  · -- both points fit, and the distances or the rule for ties choose one of them
    rename_i hfits hfits'
    have hboth : point = floor ∨ point = floor + 1 := by
      split at h
      · cases h
        exact .inl rfl
      · split at h
        · cases h
          exact .inr rfl
        · cases tie with
          | toEven =>
            cases h
            omega
          | up =>
            cases h
            exact .inr rfl
    rcases hboth with rfl | rfl
    · exact hfloor (by simpa using hfits)
    · exact hnext (by simpa using hfits')
  · cases h

/-- A grid no coarser than half a unit has a point to take. -/
theorem exists_gridPoint? (tie : Tie) {t : Target} (ht : 0 < t.significand) {k : Int}
    (hk : (10 : ℚ) ^ k ≤ 2 ^ (t.scale - 1)) : ∃ point, gridPoint? tie t k = some point := by
  obtain ⟨d, hd, hquarter, hgrid⟩ := exists_measure t k
  have hquarter' : (0 : ℚ) < 2 ^ (t.scale - 2) * d := by positivity
  have hgrid' : (0 : ℚ) < 10 ^ k * d := by positivity
  have hfine : (10 : ℚ) ^ k * d ≤ 2 * (2 ^ (t.scale - 2) * d) := by
    have hscale : t.scale - 1 = 1 + (t.scale - 2) := by omega
    rw [hscale, zpow_add₀ (by norm_num), zpow_one] at hk
    rw [← mul_assoc]
    exact mul_le_mul_of_nonneg_right hk hd.le
  simp only [gridPoint?]
  generalize (Binary.powerRatio 2 (t.scale - 2)).1 * (Binary.powerRatio 10 k).2 = quarter at *
  generalize (Binary.powerRatio 10 k).1 * (Binary.powerRatio 2 (t.scale - 2)).2 = grid at *
  rw [← hquarter, Nat.cast_pos] at hquarter'
  rw [← hgrid, Nat.cast_pos] at hgrid'
  rw [← hquarter, ← hgrid] at hfine
  have hfine' : grid ≤ 2 * quarter := by exact_mod_cast hfine
  obtain ⟨hlow, hhigh, hbelow, habove⟩ := Target.between ht hquarter' hgrid'
  have hhighIs : (4 * t.significand + 2) * quarter = 4 * t.significand * quarter + 2 * quarter :=
    Nat.add_mul _ _ _
  generalize 4 * t.significand * quarter / grid = floor at *
  generalize (4 * t.significand - if t.narrowBelow then 1 else 2) * quarter = low at *
  generalize (4 * t.significand + 2) * quarter = high at *
  generalize 4 * t.significand * quarter = value at *
  -- the point above fits unless it is the upper end, and then the point below is the target itself
  have hfits : low < floor * grid ∨ floor * grid + grid < high := by omega
  split
  · exact ⟨_, rfl⟩
  · exact ⟨_, rfl⟩
  · split
    · exact ⟨_, rfl⟩
    · split
      · exact ⟨_, rfl⟩
      · cases tie <;> exact ⟨_, rfl⟩
  · rename_i hbelow' habove'
    simp only [Bool.or_eq_false_iff, decide_eq_false_iff_not] at hbelow' habove'
    exact (hfits.elim hbelow'.1 habove'.1).elim

/-! ## The search -/

/-- A search that comes to a grid no coarser than half a unit ends in the interval. -/
theorem search_within (tie : Tie) {t : Target} (ht : 0 < t.significand) {fuel : Nat} {k : Int}
    (h : ∃ n : Nat, n < fuel ∧ (10 : ℚ) ^ (k - n) ≤ 2 ^ (t.scale - 1)) :
    t.Within (2 ^ (t.scale - 2))
      ((search tie t fuel k).1 * 10 ^ (search tie t fuel k).2) := by
  obtain ⟨n, hn, hfine⟩ := h
  induction fuel generalizing k n with
  | zero => cases hn
  | succ fuel ih =>
    rw [search]
    cases hpoint : gridPoint? tie t k with
    | some point => exact gridPoint?_within ht hpoint
    | none =>
      cases n with
      | zero =>
        obtain ⟨point, hsome⟩ := exists_gridPoint? tie ht (k := k) (by simpa using hfine)
        cases hpoint.symm.trans hsome
      | succ n =>
        have hstep : k - ((n + 1 : Nat) : Int) = k - 1 - n := by omega
        exact ih n (Nat.lt_of_succ_lt_succ hn) (hstep ▸ hfine)

theorem ten_pow_le_two_pow {j m : Nat} (h : 10 * j ≤ 3 * m) : 10 ^ j ≤ 2 ^ m := by
  rw [← Nat.pow_le_pow_iff_left (by decide : 10 ≠ 0)]
  calc (10 ^ j) ^ 10 = 10 ^ (10 * j) := by rw [← pow_mul, Nat.mul_comm]
    _ ≤ 10 ^ (3 * m) := Nat.pow_le_pow_right (by decide) h
    _ = (10 ^ 3) ^ m := pow_mul 10 3 m
    _ ≤ (2 ^ 10) ^ m := Nat.pow_le_pow_left (by decide) m
    _ = (2 ^ m) ^ 10 := by rw [← pow_mul, ← pow_mul, Nat.mul_comm]

theorem two_pow_le_ten_pow {j m : Nat} (h : 28 * m ≤ 93 * j) : 2 ^ m ≤ 10 ^ j := by
  rw [← Nat.pow_le_pow_iff_left (by decide : 93 ≠ 0)]
  calc (2 ^ m) ^ 93 = (2 ^ 93) ^ m := by rw [← pow_mul, ← pow_mul, Nat.mul_comm]
    _ ≤ (10 ^ 28) ^ m := Nat.pow_le_pow_left (by decide) m
    _ = 10 ^ (28 * m) := (pow_mul 10 28 m).symm
    _ ≤ 10 ^ (93 * j) := Nat.pow_le_pow_right (by decide) h
    _ = (10 ^ j) ^ 93 := by rw [← pow_mul, Nat.mul_comm]

/-- For the scales of the usual formats, a bit counts for 30103 hundred thousandths of a digit
exactly enough. -/
theorem ten_zpow_le_two_zpow {s : Int} (hlow : -1074 ≤ s) (hhigh : s ≤ 971) :
    (10 : ℚ) ^ (s * 30103 / 100000 - 5) ≤ 2 ^ (s - 1) := by
  by_cases hs : 1 ≤ s
  · obtain ⟨m, hm⟩ : ∃ m : Nat, s - 1 = m := ⟨(s - 1).toNat, by omega⟩
    -- a power of ten with a negative exponent is below one
    obtain ⟨j, hj, hle⟩ : ∃ j : Nat, s * 30103 / 100000 - 5 ≤ j ∧ 10 * j ≤ 3 * m :=
      ⟨(s * 30103 / 100000 - 5).toNat, by omega, by omega⟩
    calc (10 : ℚ) ^ (s * 30103 / 100000 - 5) ≤ 10 ^ (j : Int) :=
          zpow_le_zpow_right₀ (by norm_num) hj
      _ = ((10 ^ j : Nat) : ℚ) := by push_cast; rw [zpow_natCast]
      _ ≤ ((2 ^ m : Nat) : ℚ) := by exact_mod_cast ten_pow_le_two_pow hle
      _ = 2 ^ (s - 1) := by rw [hm]; push_cast; rw [zpow_natCast]
  · obtain ⟨m, hm⟩ : ∃ m : Nat, s - 1 = -m := ⟨(1 - s).toNat, by omega⟩
    obtain ⟨j, hj⟩ : ∃ j : Nat, s * 30103 / 100000 - 5 = -j :=
      ⟨(5 - s * 30103 / 100000).toNat, by omega⟩
    have hle : (2 : ℚ) ^ m ≤ 10 ^ j := by
      exact_mod_cast two_pow_le_ten_pow (by omega : 28 * m ≤ 93 * j)
    rw [hm, hj, zpow_neg, zpow_neg, zpow_natCast, zpow_natCast]
    exact inv_anti₀ (by positivity) hle

/-- The shortest decimal of a target lies in its interval. -/
theorem decimal_within (tie : Tie) {t : Target} (ht : 0 < t.significand) (hlow : -1074 ≤ t.scale)
    (hhigh : t.scale ≤ 971) :
    t.Within (2 ^ (t.scale - 2)) ((decimal tie t).1 * 10 ^ (decimal tie t).2) := by
  apply search_within tie ht
  refine ⟨t.significand.log2 + 7, Nat.lt_succ_self _, ?_⟩
  refine le_trans ?_ (ten_zpow_le_two_zpow hlow hhigh)
  apply zpow_le_zpow_right₀ (by norm_num)
  rw [coarsest]
  omega

/-! ## Intervals of the numbers of a format -/

variable {f : BinaryFormat}

/-- A quarter of the unit of the last place, from the unit of the format. -/
theorem quarter_target (place : Nat) :
    (2 : ℚ) ^ ((target f place).scale - 2) = 2 ^ (f.unitExponent - 2) * f.gap place := by
  have hscale : (target f place).scale - 2
      = (f.unitExponent - 2) + ((place / 2 ^ f.fractionBits - 1 : Nat) : Int) := by
    simp only [target, BinaryFormat.scale, Nat.pow_eq]
    omega
  rw [hscale, zpow_add₀ (by norm_num), zpow_natCast, BinaryFormat.gap]
  push_cast
  rfl

theorem units_eq_add {place : Nat} (h : 0 < place) :
    f.units place = f.units (place - 1) + f.gap (place - 1) := by
  rw [← BinaryFormat.units_succ, Nat.sub_add_cancel h]

/-- The lower end of an interval lies half way to the number before. -/
theorem low_target {place : Nat} (h : 0 < place) :
    (4 * (f.significand place : ℚ) - if (target f place).narrowBelow then 1 else 2) * f.gap place
      = 2 * (f.units (place - 1) + f.units place) := by
  have hbefore : (f.units place : ℚ) = f.units (place - 1) + f.gap (place - 1) := by
    exact_mod_cast units_eq_add h
  have hunits : (f.units place : ℚ) = f.significand place * f.gap place := by
    rw [BinaryFormat.units, Nat.cast_mul]
  by_cases hnarrow : place % 2 ^ f.fractionBits = 0 ∧ 2 ^ f.fractionBits < place
  · have hgap : (f.gap place : ℚ) = 2 * f.gap (place - 1) := by
      exact_mod_cast BinaryFormat.gap_of_narrow hnarrow.1 hnarrow.2
    have htarget : (target f place).narrowBelow = true := by simp [target, hnarrow]
    rw [htarget, if_pos rfl]
    linarith
  · have hgap : (f.gap place : ℚ) = f.gap (place - 1) := by
      exact_mod_cast BinaryFormat.gap_of_not_narrow h hnarrow
    have htarget : (target f place).narrowBelow = false := by simpa [target] using hnarrow
    rw [htarget, if_neg Bool.false_ne_true]
    linarith

/-- The upper end of an interval lies half way to the number after. -/
theorem high_target (place : Nat) :
    (4 * (f.significand place : ℚ) + 2) * f.gap place
      = 2 * (f.units place + f.units (place + 1)) := by
  have hafter : (f.units (place + 1) : ℚ) = f.units place + f.gap place := by
    exact_mod_cast BinaryFormat.units_succ place
  have hunits : (f.units place : ℚ) = f.significand place * f.gap place := by
    rw [BinaryFormat.units, Nat.cast_mul]
  linarith

/-- The interval of a number reaches half way to its neighbours. -/
theorem within_target_iff {place : Nat} (h : 0 < place) {x : ℚ} :
    (target f place).Within (2 ^ ((target f place).scale - 2)) (x * 2 ^ (f.unitExponent - 2)) ↔
      (2 * (f.units (place - 1) + f.units place) < x ∨
          f.significand place % 2 = 0 ∧ 2 * (f.units (place - 1) + f.units place) = x) ∧
        (x < 2 * (f.units place + f.units (place + 1)) ∨
          f.significand place % 2 = 0 ∧ x = 2 * (f.units place + f.units (place + 1))) := by
  rw [quarter_target, mul_comm (2 ^ (f.unitExponent - 2)) (f.gap place : ℚ),
    Target.within_mul_iff (by positivity), Target.Within]
  simp only [← low_target h, ← high_target]
  rfl

/-- **Intervals have nothing in common.** A number that lies in the intervals of two places of a
format shows that the places are the same. -/
theorem place_eq_of_within (hf : 0 < f.fractionBits) {place place' : Nat} (h : 0 < place)
    (h' : 0 < place') {x : ℚ} (hx : (target f place).Within (2 ^ ((target f place).scale - 2)) x)
    (hx' : (target f place').Within (2 ^ ((target f place').scale - 2)) x) : place = place' := by
  by_contra hne
  wlog hlt : place < place' generalizing place place'
  · exact this h' h hx' hx (Ne.symm hne) (by omega)
  have hunit : (2 : ℚ) ^ (f.unitExponent - 2) ≠ 0 := by positivity
  rw [← div_mul_cancel₀ x hunit, within_target_iff h] at hx
  rw [← div_mul_cancel₀ x hunit, within_target_iff h'] at hx'
  generalize x / 2 ^ (f.unitExponent - 2) = y at hx hx'
  obtain ⟨-, hhigh⟩ := hx
  obtain ⟨hlow, -⟩ := hx'
  -- half way after the smaller number is at most half way before the greater one
  have hmono := (BinaryFormat.units_strictMono (f := f)).monotone
  have hbefore : (f.units place : ℚ) ≤ f.units (place' - 1) := by
    exact_mod_cast hmono (by omega)
  have hafter : (f.units (place + 1) : ℚ) ≤ f.units place' := by
    exact_mod_cast hmono hlt
  rcases hhigh with hhigh | ⟨heven, hhigh⟩
  · rcases hlow with hlow | ⟨-, hlow⟩ <;> linarith
  · rcases hlow with hlow | ⟨heven', hlow⟩
    · linarith
    · -- the ends meet only between neighbours, and these are not both even
      have hmeet : f.units (place + 1) = f.units place' := by
        have : (f.units (place + 1) : ℚ) = f.units place' := by linarith
        exact_mod_cast this
      have hnext : place + 1 = place' := BinaryFormat.units_strictMono.injective hmeet
      rw [BinaryFormat.significand_mod_two hf] at heven heven'
      omega

end TargetBench.Shortest
