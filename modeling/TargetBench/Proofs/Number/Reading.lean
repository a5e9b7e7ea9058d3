import TargetBench.Number.Numeral

/-!
# Numerals are read as they are written

The characters of a numeral spell that numeral and no other one, so a number can be told from what
is written for it.

## Main results

* `Decimal.digits_of_lt`, `Decimal.digits_of_le`: the digits of a number from those of its tenth
* `Numeral.splitDigits_append`: digits are told from what follows them
* `Numeral.read_chars`: the characters of a numeral spell the numeral
-/

namespace TargetBench

namespace Decimal

/-! ## Digits -/

theorem prependDigits_append (fuel n : Nat) (ds es : List Digit) :
    prependDigits fuel n (ds ++ es) = prependDigits fuel n ds ++ es := by
  induction fuel generalizing n ds with
  | zero => rfl
  | succ fuel ih =>
    rw [prependDigits, prependDigits]
    split
    · rfl
    · exact ih (n / 10) (_ :: ds)

theorem prependDigits_eq_of_lt {fuel fuel' n : Nat} (h : n < fuel) (h' : n < fuel')
    (ds : List Digit) : prependDigits fuel n ds = prependDigits fuel' n ds := by
  induction fuel generalizing fuel' n ds with
  | zero => omega
  | succ fuel ih =>
    obtain ⟨fuel', rfl⟩ : ∃ k, fuel' = k + 1 := ⟨fuel' - 1, by omega⟩
    rw [prependDigits, prependDigits]
    split
    · rfl
    · exact ih (by omega) (by omega) _

/-- A number below ten is its only digit. -/
theorem digits_of_lt {n : Nat} (h : n < 10) : digits n = [⟨n, h⟩] := by
  rw [digits, prependDigits, if_pos h]
  simp only [Nat.mod_eq_of_lt h]

/-- The digits of a greater number are those of its tenth and its last one. -/
theorem digits_of_le {n : Nat} (h : 10 ≤ n) :
    digits n = digits (n / 10) ++ [⟨n % 10, Nat.mod_lt n (by decide)⟩] := by
  rw [digits, prependDigits, if_neg (by omega), digits]
  rw [prependDigits_eq_of_lt (by omega : n / 10 < n) (by omega : n / 10 < n / 10 + 1)]
  exact prependDigits_append (n / 10 + 1) (n / 10) [] _

theorem digits_ne_nil (n : Nat) : digits n ≠ [] := by
  by_cases h : n < 10
  · simp [digits_of_lt h]
  · simp [digits_of_le (Nat.le_of_not_lt h)]

/-- The first digit of a number that is not zero is not zero. -/
theorem head?_digits_ne_zero {n : Nat} (h : 0 < n) : (digits n).head? ≠ some .zero := by
  induction n using Nat.strongRecOn with
  | ind n ih =>
    by_cases hn : n < 10
    · rw [digits_of_lt hn, List.head?_cons, ne_eq, Option.some.injEq, Fin.ext_iff]
      exact Nat.ne_of_gt h
    · have htenth := ih (n / 10) (by omega) (by omega)
      obtain ⟨d, ds, hds⟩ := List.exists_cons_of_ne_nil (digits_ne_nil (n / 10))
      rw [digits_of_le (Nat.le_of_not_lt hn), hds, List.cons_append, List.head?_cons]
      rwa [hds, List.head?_cons] at htenth

theorem ne_zero_of_two_le_length {n : Nat} {d d' : Digit} {ds : List Digit}
    (h : digits n = d :: d' :: ds) : d ≠ .zero := by
  rintro rfl
  have hn : ¬ n < 10 := by
    intro hn
    rw [digits_of_lt hn] at h
    cases h
  exact head?_digits_ne_zero (by omega : 0 < n) (by rw [h, List.head?_cons])

end Decimal

/-! ## Numerals -/

namespace Numeral

/-- What may follow digits: nothing, or a character that is no digit. -/
def Ends (cs : List Char) : Prop := ∀ c ∈ cs.head?, Decimal.digit? c = none

/-- Digits are told from what follows them. -/
theorem splitDigits_append (ds : List Decimal.Digit) {rest : List Char} (h : Ends rest) :
    splitDigits (ds.map Decimal.Digit.char ++ rest) = (ds, rest) := by
  have hall : ∀ c ∈ ds.map Decimal.Digit.char, (Decimal.digit? c).isSome = true := by
    intro c hc
    obtain ⟨d, -, rfl⟩ := List.mem_map.mp hc
    rw [Decimal.digit?_char, Option.isSome_some]
  have htake : rest.takeWhile (fun c => (Decimal.digit? c).isSome) = [] := by
    cases rest with
    | nil => rfl
    | cons c cs => simp [h c rfl]
  have hdrop : rest.dropWhile (fun c => (Decimal.digit? c).isSome) = rest := by
    cases rest with
    | nil => rfl
    | cons c cs => simp [h c rfl]
  rw [splitDigits, List.takeWhile_append_of_pos hall, List.dropWhile_append_of_pos hall, htake,
    hdrop, List.append_nil, List.filterMap_map]
  congr 1
  simp only [Function.comp_def, Decimal.digit?_char, List.filterMap_some]

/-- The whole part is read up to what ends it. -/
theorem readWhole_append (n : Nat) {rest : List Char} (h : Ends rest) :
    readWhole (Decimal.chars n ++ rest) = some (n, rest) := by
  rw [readWhole, Decimal.chars, splitDigits_append _ h]
  have hvalue := Decimal.value_digits n
  cases hds : Decimal.digits n with
  | nil => exact absurd hds (Decimal.digits_ne_nil n)
  | cons d ds =>
    cases ds with
    | nil =>
      rw [hds] at hvalue
      simp_all [Decimal.value]
    | cons d' ds =>
      rw [hds] at hvalue
      simp only [Decimal.ne_zero_of_two_le_length hds, if_false, hvalue]

/-- The digits after a point are read up to what ends them. -/
theorem readFraction_append {ds : List Decimal.Digit} {rest : List Char} (h : Ends rest)
    (hpoint : rest.head? ≠ some '.') :
    readFraction ((if ds.isEmpty then [] else '.' :: ds.map Decimal.Digit.char) ++ rest) =
      some (ds, rest) := by
  cases ds with
  | nil =>
    simp only [List.isEmpty_nil, if_true, List.nil_append]
    unfold readFraction
    split
    · exact absurd rfl hpoint
    · rfl
  | cons d ds =>
    simp only [List.isEmpty_cons, Bool.false_eq_true, if_false, List.cons_append, readFraction]
    rw [splitDigits_append (d :: ds) h]

theorem exists_chars_eq_cons (n : Nat) :
    ∃ d cs, Decimal.chars n = Decimal.Digit.char d :: cs := by
  obtain ⟨d, ds, hds⟩ := List.exists_cons_of_ne_nil (Decimal.digits_ne_nil n)
  exact ⟨d, ds.map Decimal.Digit.char, by rw [Decimal.chars, hds, List.map_cons]⟩

theorem char_ne (d : Decimal.Digit) {c : Char} (hc : c.isDigit = false) : d.char ≠ c := by
  rintro rfl
  revert d
  decide

/-- A sign is told from the digits after it. -/
theorem splitMinus_append (negative : Bool) (n : Nat) (rest : List Char) :
    splitMinus ((if negative then ['-'] else []) ++ (Decimal.chars n ++ rest)) =
      (negative, Decimal.chars n ++ rest) := by
  cases negative with
  | true => rfl
  | false =>
    obtain ⟨d, cs, hcs⟩ := exists_chars_eq_cons n
    simp only [Bool.false_eq_true, if_false, List.nil_append, hcs, List.cons_append]
    unfold splitMinus
    split
    · rename_i hminus
      exact absurd (List.cons.inj hminus).1 (char_ne d rfl)
    · rfl

theorem splitDigits_chars (n : Nat) : splitDigits (Decimal.chars n) = (Decimal.digits n, []) := by
  rw [Decimal.chars, ← List.append_nil (List.map _ _)]
  exact splitDigits_append _ (by simp [Ends])

theorem readExponentValue_plus (n : Nat) :
    readExponentValue ('+' :: Decimal.chars n) = some (n : Int) := by
  obtain ⟨d, ds, hds⟩ := List.exists_cons_of_ne_nil (Decimal.digits_ne_nil n)
  have hvalue := Decimal.value_digits n
  unfold readExponentValue
  simp only [splitDigits_chars, hds] at hvalue ⊢
  simp only [hvalue, Bool.false_eq_true, if_false]

theorem append_chars_ne_plus (negative : Bool) (n : Nat) (rest : List Char) :
    (if negative then ['-'] else []) ++ Decimal.chars n ≠ '+' :: rest := by
  intro h
  obtain ⟨d, cs, hcs⟩ := exists_chars_eq_cons n
  cases negative with
  | true => cases (List.cons.inj h).1
  | false => exact char_ne d rfl (List.cons.inj (hcs ▸ h)).1

theorem readExponentValue_append (negative : Bool) (n : Nat) :
    readExponentValue ((if negative then ['-'] else []) ++ Decimal.chars n) =
      some (if negative then -(n : Int) else n) := by
  obtain ⟨d, ds, hds⟩ := List.exists_cons_of_ne_nil (Decimal.digits_ne_nil n)
  have hvalue := Decimal.value_digits n
  have hminus := splitMinus_append negative n []
  rw [List.append_nil] at hminus
  unfold readExponentValue
  split
  rename_i negative' unsigned hsign
  have hpair : (negative', unsigned) = (negative, Decimal.chars n) := by
    rw [← hsign, ← hminus]
    split
    · rename_i hplus
      exact absurd hplus (append_chars_ne_plus negative n _)
    · rfl
  cases hpair
  simp only [splitDigits_chars, hds] at hvalue ⊢
  simp only [hvalue]

/-- A power of ten is read with its sign. -/
theorem readExponentValue_chars (plus : Bool) (e : Int) :
    readExponentValue ((if e < 0 then ['-'] else if plus then ['+'] else [])
      ++ Decimal.chars e.natAbs) = some e := by
  by_cases he : e < 0
  · have h := readExponentValue_append true e.natAbs
    simp only [if_true] at h
    rw [if_pos he, h, Option.some.injEq]
    omega
  · rw [if_neg he]
    cases plus with
    | true =>
      have h := readExponentValue_plus e.natAbs
      simp only [if_true, List.cons_append, List.nil_append]
      rw [h, Option.some.injEq]
      omega
    | false =>
      have h := readExponentValue_append false e.natAbs
      simp only [Bool.false_eq_true, if_false] at h ⊢
      rw [h, Option.some.injEq]
      omega

/-- **Numerals are read as they are written**: the characters of a numeral spell it. -/
theorem read_chars (plus : Bool) (n : Numeral) : read (n.chars plus) = some n := by
  obtain ⟨negative, whole, fraction, exponent⟩ := n
  have hexponent : Ends ((exponent.map (exponentChars plus)).getD []) ∧
      ((exponent.map (exponentChars plus)).getD []).head? ≠ some '.' := by
    cases exponent with
    | none => simp [Ends]
    | some e => exact ⟨by rintro _ ⟨⟩; rfl, by simp [exponentChars]⟩
  have hfraction : Ends ((if fraction.isEmpty then [] else '.' :: fraction.map Decimal.Digit.char)
      ++ (exponent.map (exponentChars plus)).getD []) := by
    cases fraction with
    | nil => exact hexponent.1
    | cons d ds =>
      rintro _ ⟨⟩
      rfl
  have hread : readExponent ((exponent.map (exponentChars plus)).getD []) = some exponent := by
    cases exponent with
    | none => rfl
    | some e =>
      simp only [Option.map_some, Option.getD_some, exponentChars, List.cons_append]
      rw [readExponent, if_pos (.inl rfl), readExponentValue_chars, Option.map_some]
  rw [chars, read]
  simp only [List.append_assoc]
  rw [splitMinus_append]
  simp only [readWhole_append _ hfraction, readFraction_append hexponent.1 hexponent.2, hread,
    bind, Option.bind, pure]

end Numeral

end TargetBench
