import Mathlib.Data.List.Basic

/-!
# Lists whose elements may be refused

A list is read element by element, and one element that cannot be read refuses the list. A list that
is only checked is refused by the first element that does not pass.

## Main definitions

* `checkEach`: checks elements by their positions, up to the first that does not pass

## Main results

* `checkEach_eq_ok_iff`, `checkEach_eq_error_iff`: a list passes if all its elements do, and is
  refused by the first that does not
* `mapM_eq_some_iff`: what is read from a list is read from its elements
-/

namespace TargetBench

variable {α β : Type}

/-- What is read from a list is read from its elements. -/
theorem mapM_eq_some_iff {f : α → Option β} {xs : List α} {ys : List β} :
    xs.mapM f = some ys ↔ xs.map f = ys.map some := by
  induction xs generalizing ys with
  | nil => cases ys <;> simp
  | cons x xs ih =>
    rw [List.mapM_cons, List.map_cons]
    cases hx : f x with
    | none => cases ys <;> simp
    | some y =>
      cases ys with
      | nil => cases xs.mapM f <;> simp
      | cons z zs => cases hxs : xs.mapM f <;> simp [← ih, hxs, eq_comm]

/-- Checks the elements of a list, the first of which is at the given position, up to the first
element that does not pass. -/
def checkEach {ε : Type} (check : Nat → α → Except ε Unit) : Nat → List α → Except ε Unit
  | _, [] => .ok ()
  | position, x :: xs => do
    check position x
    checkEach check (position + 1) xs

section

variable {ε : Type} {check : Nat → α → Except ε Unit} {position : Nat} {xs : List α}

/-- A list passes if all its elements do. -/
theorem checkEach_eq_ok_iff :
    checkEach check position xs = .ok () ↔
      ∀ i x, xs[i]? = some x → check (position + i) x = .ok () := by
  -- the positions of the others are one more than their places among these
  induction xs generalizing position with
  | nil => exact iff_of_true rfl nofun
  | cons x xs ih =>
    cases hx : check position x with
    | error e =>
      rw [checkEach, hx]
      refine iff_of_false nofun ?_
      intro h
      cases hx.symm.trans (h 0 x rfl)
    | ok _ =>
      rw [checkEach, hx]
      show checkEach check (position + 1) xs = .ok () ↔ _
      rw [ih]
      simp only [Nat.add_right_comm position 1, Nat.add_assoc position]
      constructor
      · rintro h (_ | i) y hy
        · cases hy
          exact hx
        · exact h i y hy
      · intro h i
        exact h (i + 1)

/-- A list is refused by the first element that does not pass. -/
theorem checkEach_eq_error_iff {e : ε} :
    checkEach check position xs = .error e ↔
      ∃ i x, xs[i]? = some x ∧ check (position + i) x = .error e ∧
        ∀ j < i, ∀ y, xs[j]? = some y → check (position + j) y = .ok () := by
  induction xs generalizing position with
  | nil => exact iff_of_false nofun nofun
  | cons x xs ih =>
    cases hx : check position x with
    | error e' =>
      rw [checkEach, hx]
      constructor
      · rintro ⟨⟩
        exact ⟨0, x, rfl, hx, nofun⟩
      · rintro ⟨_ | i, y, hy, hfails, hbefore⟩
        · cases hy
          exact hx.symm.trans hfails
        · cases hx.symm.trans (hbefore 0 (Nat.succ_pos i) x rfl)
    | ok _ =>
      rw [checkEach, hx]
      show checkEach check (position + 1) xs = .error e ↔ _
      rw [ih]
      simp only [Nat.add_right_comm position 1, Nat.add_assoc position]
      constructor
      · -- what comes first among the others comes first after an element that passes
        rintro ⟨i, y, hy, hfails, hbefore⟩
        refine ⟨i + 1, y, hy, hfails, ?_⟩
        rintro (_ | j) hj z hz
        · cases hz
          exact hx
        · exact hbefore j (Nat.lt_of_succ_lt_succ hj) z hz
      · rintro ⟨_ | i, y, hy, hfails, hbefore⟩
        · cases hy
          cases hx.symm.trans hfails
        · refine ⟨i, y, hy, hfails, ?_⟩
          intro j hj
          exact hbefore (j + 1) (Nat.succ_lt_succ hj)

end

end TargetBench
