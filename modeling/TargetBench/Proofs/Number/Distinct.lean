import TargetBench.Proofs.Number.Interval
import TargetBench.Proofs.Number.Magnitude

/-!
# Different numbers have different texts

The numeral of a number stands for a rational number in the rounding interval of that number, and no
rational number lies in two intervals. So the number can be told from its text.

## Main definitions

* `BinaryFormat.Moderate`: formats whose numbers are written with the digits they need

## Main results

* `Layout.exists_numeral?`: the numeral of a number stands for something in its interval
* `Layout.eq_of_numeral?`: two numbers do not have the same numeral
* `Binary.text_injective`: two numbers of the 32-bit format do not have the same text
-/

namespace TargetBench

/-- Formats with a fraction, whose scales are not beyond those of the 64-bit format. -/
structure BinaryFormat.Moderate (f : BinaryFormat) : Prop where
  fractionBits_pos : 0 < f.fractionBits
  scale_mem : ∀ place < f.finiteCount, -1074 ≤ f.scale place ∧ f.scale place ≤ 971

theorem BinaryFormat.moderate_single : BinaryFormat.single.Moderate := by
  refine ⟨by decide, fun place hplace => ?_⟩
  have hunit : BinaryFormat.single.unitExponent = -149 := by decide
  have hcount : place < 255 * 2 ^ 23 := hplace
  have hscale : BinaryFormat.single.scale place = -149 + (place / 2 ^ 23 - 1 : Nat) := by
    rw [BinaryFormat.scale, hunit, Nat.pow_eq, BinaryFormat.single]
  omega

variable {f : BinaryFormat}

theorem BinaryFormat.significand_pos {place : Nat} (h : 0 < place) : 0 < f.significand place := by
  rw [BinaryFormat.significand]
  split
  · exact h
  · exact Nat.add_pos_left (Nat.two_pow_pos _) _

/-- Numbers in the interval of a positive number are positive. -/
theorem Shortest.Target.Within.pos {t : Shortest.Target} {quarter x : ℚ} (ht : 0 < t.significand)
    (hquarter : 0 < quarter) (h : t.Within quarter x) : 0 < x := by
  have hone : (1 : ℚ) ≤ t.significand := by exact_mod_cast ht
  have hlow : 0 < (4 * (t.significand : ℚ) - if t.narrowBelow then 1 else 2) * quarter := by
    apply mul_pos _ hquarter
    split <;> linarith
  rcases h.1 with h | ⟨-, h⟩ <;> linarith

namespace Layout

variable (layout : Layout)

theorem negative_place (negative : Bool) (ds : List Decimal.Digit) (e : Int) :
    (layout.place negative ds e).negative = negative := by
  rw [place]
  split
  · split <;> rfl
  · rfl

/-- The shortest decimal of a number that is not zero is positive and lies in its interval. -/
theorem decimal_spec (tie : Tie) (hf : f.Moderate) {place : Nat} (h : 0 < place)
    (hlt : place < f.finiteCount) :
    0 < (Shortest.decimal tie (Shortest.target f place)).1 ∧
      (Shortest.target f place).Within (2 ^ ((Shortest.target f place).scale - 2))
        ((Shortest.decimal tie (Shortest.target f place)).1
          * 10 ^ (Shortest.decimal tie (Shortest.target f place)).2) := by
  obtain ⟨hlow, hhigh⟩ := hf.scale_mem place hlt
  have hsignificand : 0 < (Shortest.target f place).significand := BinaryFormat.significand_pos h
  have hwithin := Shortest.decimal_within tie hsignificand hlow hhigh
  refine ⟨?_, hwithin⟩
  have hpos := hwithin.pos hsignificand (by positivity)
  by_contra hzero
  rw [Nat.eq_zero_of_not_pos hzero, Nat.cast_zero, zero_mul] at hpos
  exact lt_irrefl 0 hpos

/-- The numeral of a finite number has its sign and stands for zero, if the number is zero, or for
something in its interval. -/
theorem exists_numeral? (hf : f.Moderate) (negative : Bool) (place : Fin f.finiteCount) :
    ∃ n, layout.numeral? (.finite negative place) = some n ∧ n.negative = negative ∧
      (place.val = 0 ∧ n.magnitude = 0 ∨ 0 < place.val ∧ 0 < n.magnitude ∧
        (Shortest.target f place).Within (2 ^ ((Shortest.target f place).scale - 2))
          n.magnitude) := by
  by_cases h : place.val = 0
  · refine ⟨⟨negative, 0, [.zero], none⟩, by rw [numeral?, if_pos h], rfl, .inl ⟨h, ?_⟩⟩
    simp [Numeral.magnitude]
  · have hpos := Nat.pos_of_ne_zero h
    obtain ⟨hcoefficient, hwithin⟩ := decimal_spec layout.tie hf hpos place.isLt
    refine ⟨_, by rw [numeral?, if_neg h], negative_place layout negative _ _, .inr ⟨hpos, ?_⟩⟩
    rw [magnitude_place_digits layout negative hcoefficient]
    exact ⟨by positivity, hwithin⟩

/-- Two numbers do not have the same numeral. -/
theorem eq_of_numeral? (hf : f.Moderate) {x y : Binary f} {n : Numeral}
    (hx : layout.numeral? x = some n) (hy : layout.numeral? y = some n) : x = y := by
  cases x with
  | finite s place =>
    cases y with
    | finite s' place' =>
      obtain ⟨m, hm, hsign, hplace⟩ := layout.exists_numeral? hf s place
      obtain ⟨m', hm', hsign', hplace'⟩ := layout.exists_numeral? hf s' place'
      cases hm.symm.trans hx
      cases hm'.symm.trans hy
      have hsame : place = place' := by
        apply Fin.ext
        rcases hplace with ⟨hzero, hn⟩ | ⟨hpos, hn, hwithin⟩ <;>
          rcases hplace' with ⟨hzero', hn'⟩ | ⟨hpos', hn', hwithin'⟩
        · rw [hzero, hzero']
        · exact absurd hn hn'.ne'
        · exact absurd hn' hn.ne'
        · exact Shortest.place_eq_of_within hf.fractionBits_pos hpos hpos' hwithin hwithin'
      rw [← hsign, ← hsign', hsame]
    | _ => cases hy
  | _ => cases hx

/-- Only what is not finite has no numeral. -/
theorem numeral?_eq_none_iff (hf : f.Moderate) {x : Binary f} :
    layout.numeral? x = none ↔ x = .nan ∨ x = .infinite false ∨ x = .infinite true := by
  cases x with
  | nan => simp [numeral?]
  | infinite negative => cases negative <;> simp [numeral?]
  | finite negative place =>
    obtain ⟨n, hn, -⟩ := layout.exists_numeral? hf negative place
    simp [hn]

end Layout

namespace Binary

/-- The text of a number spells its numeral; what has no numeral has no text that spells one. -/
theorem read_text (hf : f.Moderate) (x : Binary f) :
    Numeral.read x.text.toList = Layout.plain.numeral? x := by
  cases x with
  | nan =>
    have hspells : Numeral.read "NaN".toList = none := by decide
    exact hspells
  | infinite negative =>
    have hspells : Numeral.read "inf".toList = none ∧ Numeral.read "-inf".toList = none := by
      decide
    cases negative with
    | false => exact hspells.1
    | true => exact hspells.2
  | finite negative place =>
    obtain ⟨n, hn, -⟩ := Layout.plain.exists_numeral? hf negative place
    rw [text, hn, String.toList_ofList, Numeral.read_chars]
    all_goals simp

/-- What has no numeral can be told from its text. -/
theorem eq_of_numeral?_eq_none (hf : f.Moderate) {x : Binary f}
    (h : Layout.plain.numeral? x = none) :
    x = if x.text = "NaN" then .nan else .infinite (x.text = "-inf") := by
  rw [Layout.numeral?_eq_none_iff Layout.plain hf] at h
  rcases h with rfl | rfl | rfl <;> rfl

/-- **Two numbers of the 32-bit format do not have the same text.** -/
theorem text_injective : Function.Injective (Binary.text : Binary32 → String) := by
  intro x y h
  have hread : Layout.plain.numeral? x = Layout.plain.numeral? y := by
    rw [← read_text BinaryFormat.moderate_single, h, read_text BinaryFormat.moderate_single]
  cases hx : Layout.plain.numeral? x with
  | some n =>
    exact Layout.plain.eq_of_numeral? BinaryFormat.moderate_single hx (hread ▸ hx)
  | none =>
    have hy := hread.symm.trans hx
    rw [eq_of_numeral?_eq_none BinaryFormat.moderate_single hx,
      eq_of_numeral?_eq_none BinaryFormat.moderate_single hy, h]

end Binary

end TargetBench
