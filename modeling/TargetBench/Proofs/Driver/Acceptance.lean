import TargetBench.Driver.Table
import TargetBench.Proofs.Collection.Traversal

/-!
# Calls that a table accepts

Which calls a function table turns down, stated on the table and the call alone. A table is total if
its functions answer whatever fits their declarations; then turning down is the only way for a call
to fail.

## Main definitions

* `Signature.Fits`: arguments that fit a declaration
* `Signature.AnsweredBy`: functions that answer all arguments that fit
* `FunctionTable.Rejects`: calls that a table turns down
* `FunctionTable.Total`: tables whose functions all do so

## Main results

* `Signature.check_eq_ok_iff`: the check passes exactly what fits
* `Driver.readAttribute_eq_error_iff`: attributes can be read unless the read is turned down
-/

namespace TargetBench

/-- Arguments fit a declaration if there are as many as declared and each of them is acceptable at
its position. -/
def Signature.Fits (s : Signature) (args : List Value) : Prop :=
  s.args.length = args.length ∧
    ∀ (i : Nat) (d : Descriptor) (v : Value), s.args[i]? = some d → args[i]? = some v →
      d.admits v = true

/-- Compares an argument with its declared type. -/
def checkType (index : Nat) (pair : Descriptor × Value) : Except MarshalError Unit :=
  if pair.1.admits pair.2 then .ok () else .error (.mismatch index pair.1 pair.2)

theorem checkTypes_eq_checkEach (index : Nat) (ds : List Descriptor) (vs : List Value) :
    checkTypes index ds vs = checkEach checkType index (ds.zip vs) := by
  induction ds generalizing index vs with
  | nil => rfl
  | cons d ds ih =>
    cases vs with
    | nil => rfl
    | cons v vs =>
      rw [checkTypes, List.zip_cons_cons, checkEach, checkType, ih]
      split <;> rfl

theorem checkType_eq_ok_iff {index : Nat} {pair : Descriptor × Value} :
    checkType index pair = .ok () ↔ pair.1.admits pair.2 = true := by
  rw [checkType]
  split <;> simp [*]

theorem checkTypes_eq_ok_iff {index : Nat} {ds : List Descriptor} {vs : List Value} :
    checkTypes index ds vs = .ok () ↔
      ∀ (i : Nat) (d : Descriptor) (v : Value), ds[i]? = some d → vs[i]? = some v →
        d.admits v = true := by
  simp only [checkTypes_eq_checkEach, checkEach_eq_ok_iff, checkType_eq_ok_iff, Prod.forall,
    List.getElem?_zip_eq_some, and_imp]

/-- The check of arguments passes exactly those that fit. -/
theorem Signature.check_eq_ok_iff {s : Signature} {args : List Value} :
    s.check args = .ok () ↔ s.Fits args := by
  rw [Signature.check, Signature.Fits]
  by_cases h : s.args.length = args.length
  · rw [if_neg (not_not_intro h), checkTypes_eq_ok_iff]
    simp only [h, true_and]
  · rw [if_pos h]
    simp only [h, false_and, reduceCtorEq]

variable {δ : Type}

/-- A function answers all arguments that fit a declaration, with as many results as declared. -/
def Signature.AnsweredBy (signature : Signature) (handler : Handler δ) : Prop :=
  ∀ args, signature.Fits args → ∀ s channel, ∃ results,
    (handler s ⟨args⟩ channel).result = .ok results ∧ results.length = signature.returns.length

namespace FunctionTable

/-- Calls that a table turns down. -/
inductive Rejects (t : FunctionTable δ) (c : Call) : Prop where
  /-- The call reads an attribute that the table does not have. -/
  | noAttribute : c.target = .attribute → (∀ e ∈ t.attributes, e.declaration.name ≠ c.name) →
      Rejects t c
  /-- The call is of a function that the table does not have. -/
  | noFunction : c.target = .function → (∀ e ∈ t.functions, e.signature.name ≠ c.name) →
      Rejects t c
  /-- The arguments do not fit the declaration of the function. -/
  | unfit {entry : FunctionEntry δ} : c.target = .function → t.function? c.name = some entry →
      ¬ entry.signature.Fits c.args → Rejects t c

/-- Tables whose functions answer all arguments that fit. -/
def Total (t : FunctionTable δ) : Prop :=
  ∀ entry ∈ t.functions, entry.signature.AnsweredBy entry.handler

theorem total_empty (identity : Interface) : (empty identity : FunctionTable δ).Total := by
  intro entry hentry
  cases hentry

theorem Total.addFunction {t : FunctionTable δ} {signature : Signature} {handler : Handler δ}
    (ht : t.Total) (h : signature.AnsweredBy handler) (verifier : Option Verifier) :
    (t.addFunction signature handler verifier).Total := by
  intro entry hentry
  rcases List.mem_append.mp hentry with hold | hnew
  · exact ht entry (List.mem_filter.mp hold).1
  · cases List.mem_singleton.mp hnew
    exact h

theorem Total.addAttribute {t : FunctionTable δ} (ht : t.Total) (declaration : Attribute)
    (getter : δ → Value) : (t.addAttribute declaration getter).Total := ht

theorem function?_eq_none_iff {t : FunctionTable δ} {name : String} :
    t.function? name = none ↔ ∀ e ∈ t.functions, e.signature.name ≠ name := by
  simp [function?]

theorem attribute?_eq_none_iff {t : FunctionTable δ} {name : String} :
    t.attribute? name = none ↔ ∀ e ∈ t.attributes, e.declaration.name ≠ name := by
  simp [attribute?]

theorem mem_of_function? {t : FunctionTable δ} {name : String} {entry : FunctionEntry δ}
    (h : t.function? name = some entry) : entry ∈ t.functions :=
  List.mem_of_find?_eq_some h

end FunctionTable

namespace Driver

/-- An attribute can be read unless the read is turned down. -/
theorem readAttribute_eq_error_iff {d : Driver δ} {c : Call} (hc : c.target = .attribute) :
    (∃ e, d.readAttribute c.name = .error e) ↔ d.table.Rejects c := by
  rw [readAttribute]
  constructor
  · intro ⟨e, h⟩
    cases hattribute : d.table.attribute? c.name with
    | none => exact .noAttribute hc (FunctionTable.attribute?_eq_none_iff.mp hattribute)
    | some entry => simp [hattribute] at h
  · rintro (⟨-, hnone⟩ | ⟨hf, -⟩ | ⟨hf, -, -⟩)
    · rw [FunctionTable.attribute?_eq_none_iff.mpr hnone]
      exact ⟨_, rfl⟩
    · cases hc.symm.trans hf
    · cases hc.symm.trans hf

end Driver

end TargetBench
