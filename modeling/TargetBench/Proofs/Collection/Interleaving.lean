import Mathlib.Data.List.Basic

/-!
# Interleavings

Parties join one after the other, and things happen to those that have joined, in any order. If
what happens to a party touches that party only, each of them is in the state that it would be in
without the others.

## Main definitions

* `Turn ι`: a party joins, or something happens to one
* `Turn.act`: the states of all parties after a turn
* `Turn.inputs`: what happens to a party from the time that it joins

## Main results

* `Turn.getElem?_foldl_act`: the state of a party after an interleaving
-/

namespace TargetBench

/-- What every input keeps is kept by all inputs. -/
theorem foldl_keeps {α σ ι : Type} (g : σ → α) {move : σ → ι → σ}
    (h : ∀ s i, g (move s i) = g s) (is : List ι) (s : σ) : g (is.foldl move s) = g s := by
  induction is generalizing s with
  | nil => rfl
  | cons i is ih => rw [List.foldl_cons, ih, h]

/-- What comes next: one more party joins, or something happens to the party of a place. -/
inductive Turn (ι : Type) where
  | joins
  | moves (place : Nat) (i : ι)

namespace Turn

variable {ι σ : Type}

/-- The states of all parties after one more turn. -/
def act (new : Nat → σ) (move : σ → ι → σ) (states : List σ) : Turn ι → List σ
  | joins => states ++ [new states.length]
  | moves place i => states.modify place fun s => move s i

/-- What happens to the party of a place, which has joined. -/
def inputsOf (place : Nat) (turns : List (Turn ι)) : List ι :=
  turns.filterMap fun
    | joins => none
    | moves place' i => if place' = place then some i else none

/-- The turns after the one with which the party of a place joins, if it does. -/
def since : Nat → List (Turn ι) → Option (List (Turn ι))
  | _, [] => none
  | 0, joins :: turns => some turns
  | place + 1, joins :: turns => since place turns
  | place, moves _ _ :: turns => since place turns

/-- What happens to the party of a place from the time that it joins, if it does. -/
def inputs (place : Nat) (turns : List (Turn ι)) : Option (List ι) :=
  (since place turns).map (inputsOf place)

variable {new : Nat → σ} {move : σ → ι → σ} {states : List σ} {place : Nat}

theorem getElem?_foldl_act_of_lt (h : place < states.length) (turns : List (Turn ι)) :
    (turns.foldl (act new move) states)[place]? =
      states[place]?.map fun s => (inputsOf place turns).foldl move s := by
  induction turns generalizing states with
  | nil => simp [inputsOf]
  | cons turn turns ih =>
    rw [List.foldl_cons]
    cases turn with
    | joins =>
      rw [ih (by simp [act]; omega), act, List.getElem?_append_left h]
      rfl
    | moves place' i =>
      rw [ih (by simpa [act] using h), act, List.getElem?_modify]
      by_cases hplace : place' = place
      · simp [inputsOf, hplace, Function.comp_def]
      · simp [inputsOf, hplace]

/-- A party that is yet to join is in the state that its inputs lead to from then on. -/
theorem getElem?_foldl_act_of_le (new : Nat → σ) (move : σ → ι → σ) (states : List σ)
    (turns : List (Turn ι)) (k : Nat) :
    (turns.foldl (act new move) states)[states.length + k]? =
      ((since k turns).map (inputsOf (states.length + k))).map fun inputs =>
        inputs.foldl move (new (states.length + k)) := by
  induction turns generalizing states k with
  | nil => simp [since]
  | cons turn turns ih =>
    rw [List.foldl_cons]
    cases turn with
    | moves place i =>
      have hlength : (act new move states (moves place i)).length = states.length := by simp [act]
      rw [← hlength, ih, since]
    | joins =>
      have hlength : (act new move states (joins : Turn ι)).length = states.length + 1 := by
        simp [act]
      cases k with
      | zero =>
        -- this is the party that joins
        rw [getElem?_foldl_act_of_lt (by omega)]
        simp [act, since]
      | succ k =>
        have hplace : states.length + (k + 1) =
            (act new move states (joins : Turn ι)).length + k := by omega
        rw [hplace, ih, since]

/-- **The state of a party after an interleaving** is the one that its own inputs lead to. -/
theorem getElem?_foldl_act (new : Nat → σ) (move : σ → ι → σ) (turns : List (Turn ι))
    (place : Nat) :
    (turns.foldl (act new move) [])[place]? =
      (inputs place turns).map fun inputs => inputs.foldl move (new place) := by
  have h := getElem?_foldl_act_of_le new move [] turns place
  simpa only [inputs, List.length_nil, Nat.zero_add] using h

end Turn

end TargetBench
