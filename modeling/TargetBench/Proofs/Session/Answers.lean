import TargetBench.Session.Server

/-!
# Answers to commands

What a session does with commands, apart from the frames that they arrive in: each command is
answered on the state that the one before it left. The service may change from one command to the
next, since files change and calls take their time, so it is given by the number of the command.

## Main definitions

* `Session.answers`: the answers to commands
* `Session.stateAfter`: the state that commands leave

## Main results

* `Session.answers_append`, `Session.stateAfter_append`: commands are answered one after the other
* `Session.getElem?_answers`: the answer at a place is given on the state of the commands before it
* `Session.stateAfter_induction`: what every answer keeps is kept by all commands
* `proceeds_dispatch_iff`: only the request to exit ends a session
-/

namespace TargetBench

variable {β : Type}

/-- An answer that is sent. -/
def Answer.exchange (a : Answer β) : Exchange := ⟨a.response, a.effects⟩

@[simp] theorem dispatch_exit (service : ComponentService β) (settings : SessionSettings) (b : β) :
    dispatch service settings b .exit = ⟨.success, false, b, []⟩ := rfl

/-- Only the request to exit ends a session. -/
theorem proceeds_dispatch_iff (service : ComponentService β) (settings : SessionSettings) (b : β)
    (c : Command) : (dispatch service settings b c).proceeds = true ↔ c ≠ .exit := by
  cases c with
  | exit => simp
  | load r =>
    simp only [dispatch, Dispatch.load, ne_eq, reduceCtorEq, not_false_eq_true, iff_true]
    cases (service.load b r).1 <;> rfl
  | status kind => simp [dispatch]
  | call description =>
    simp only [dispatch, Dispatch.call, ne_eq, reduceCtorEq, not_false_eq_true, iff_true]
    cases (decodeText description : Except CodecError Call) with
    | error e => rfl
    | ok call => cases h : (service.invoke b call).1 <;> simp [h]
  | list =>
    simp only [dispatch, Dispatch.list, ne_eq, reduceCtorEq, not_false_eq_true, iff_true]
    cases service.specification? b <;> rfl

namespace Session

variable (service : Nat → ComponentService β) (settings : SessionSettings)

/-- The answers to commands, the first of which has number `n`: each is given on the state that the
one before it left. -/
def answers : Nat → β → List Command → List (Answer β)
  | _, _, [] => []
  | n, b, c :: cs =>
    dispatch (service n) settings b c
      :: answers (n + 1) (dispatch (service n) settings b c).state cs

/-- The state that commands leave, the first of which has number `n`. -/
def stateAfter : Nat → β → List Command → β
  | _, b, [] => b
  | n, b, c :: cs => stateAfter (n + 1) (dispatch (service n) settings b c).state cs

variable {service settings}

@[simp] theorem length_answers (n : Nat) (b : β) (cs : List Command) :
    (answers service settings n b cs).length = cs.length := by
  induction cs generalizing n b with
  | nil => rfl
  | cons c cs ih => simp [answers, ih]

theorem answers_append (n : Nat) (b : β) (cs ds : List Command) :
    answers service settings n b (cs ++ ds) =
      answers service settings n b cs
        ++ answers service settings (n + cs.length) (stateAfter service settings n b cs) ds := by
  induction cs generalizing n b with
  | nil => rfl
  | cons c cs ih =>
    rw [List.cons_append, answers, answers, ih, List.length_cons, stateAfter]
    simp only [List.cons_append, Nat.add_comm, Nat.add_left_comm]

theorem stateAfter_append (n : Nat) (b : β) (cs ds : List Command) :
    stateAfter service settings n b (cs ++ ds) =
      stateAfter service settings (n + cs.length) (stateAfter service settings n b cs) ds := by
  induction cs generalizing n b with
  | nil => rfl
  | cons c cs ih =>
    rw [List.cons_append, stateAfter, stateAfter, ih, List.length_cons]
    simp only [Nat.add_comm, Nat.add_left_comm]

/-- The answer at a place is given on the state that the commands before it left. -/
theorem getElem?_answers (n : Nat) (b : β) (cs : List Command) (k : Nat) :
    (answers service settings n b cs)[k]? = cs[k]?.map fun c =>
      dispatch (service (n + k)) settings (stateAfter service settings n b (cs.take k)) c := by
  induction cs generalizing n b k with
  | nil => rfl
  | cons c cs ih =>
    cases k with
    | zero => rfl
    | succ k =>
      rw [answers, List.getElem?_cons_succ, ih, List.getElem?_cons_succ, List.take_succ_cons,
        stateAfter, Nat.add_assoc, Nat.add_comm 1 k]

/-- What every answer keeps is kept by all commands. -/
theorem stateAfter_induction {P : β → Prop}
    (step : ∀ n b c, P b → P (dispatch (service n) settings b c).state) {n : Nat} {b : β}
    (start : P b) (cs : List Command) : P (stateAfter service settings n b cs) := by
  induction cs generalizing n b with
  | nil => exact start
  | cons c cs ih => exact ih (step n b c start)

end Session

end TargetBench
