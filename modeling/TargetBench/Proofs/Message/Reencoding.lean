import TargetBench.Proofs.Message.RoundTrip
import TargetBench.Proofs.Value.Rereading

/-!
# Records that are written again

Whatever a text was read as can be written, and the new text is read as the same record if the
numbers of the record survive. It is read as no equal record if one of them does not. A numeral that
stands for a number outside the range of a single makes an infinite one, and that is written as
null: a version that is null is a version that is left out.

## Main results

* `records_reread`: all records that were decoded are decoded again if and only if they survive
-/

namespace TargetBench

open Decoder (Requires Shallow exists_fields_of_record)

/-! ## Parts of records -/

theorem Value.requires_list (vs : List Value) :
    Requires (Decoder.list Wire.decode) (Value.arrayOf vs) vs (∀ v ∈ vs, v.Survives) :=
  .list fun v _ => v.requires

theorem Value.beq_self_list {vs : List Value} (h : ∀ v ∈ vs, v.Survives) : (vs == vs) = true :=
  Decoder.beq_self_of_forall fun v hv => Value.beq_self (h v hv)

theorem Value.lettered_arrayOf (vs : List Value) : (Value.arrayOf vs).Lettered :=
  .array (List.forall_mem_map.mpr fun v _ => v.lettered)

/-! ## Commands -/

namespace CommandRecord

/-- The version of a record that was decoded is read from its own field. -/
theorem exists_version_of_decode {budget : Nat} {doc : Json} {r : CommandRecord}
    (h : Wire.decode budget doc = some r) :
    ∃ f, Fields.of? fieldNames f.budget doc = some f ∧
      f.optional "target_version" Decoder.single = some r.version := by
  obtain ⟨f, -, hof, h⟩ := exists_fields_of_record h
  obtain ⟨_, -, h⟩ := Option.bind_eq_some_iff.mp h
  obtain ⟨_, -, h⟩ := Option.bind_eq_some_iff.mp h
  obtain ⟨_, -, h⟩ := Option.bind_eq_some_iff.mp h
  obtain ⟨_, -, h⟩ := Option.bind_eq_some_iff.mp h
  obtain ⟨version, hversion, h⟩ := Option.bind_eq_some_iff.mp h
  obtain ⟨_, -, h⟩ := Option.bind_eq_some_iff.mp h
  obtain ⟨_, -, h⟩ := Option.bind_eq_some_iff.mp h
  obtain ⟨_, -, h⟩ := Option.bind_eq_some_iff.mp h
  cases h
  exact ⟨f, hof, hversion⟩

theorem lettered (r : CommandRecord) : (Wire.toJson r).Lettered := by
  refine .record ?_
  simp only [List.forall_mem_append, List.forall_mem_singleton, Json.forall_mem_optionalMember_iff]
  refine ⟨⟨⟨⟨⟨⟨⟨.text _, ?_⟩, ?_⟩, ?_⟩, ?_⟩, ?_⟩, ?_⟩, ?_⟩
  · exact fun s _ => .text s
  · exact fun n _ => .number _
  · exact fun n _ => .number _
  · exact fun v _ => .ofBinary _ v
  · exact fun s _ => .text s
  · exact fun n _ => .number _
  · exact fun s _ => .text s

theorem beq_self {r : CommandRecord} (h : r.Survives) : (r == r) = true := by
  have hversion : (r.version == r.version) = true := by
    cases hr : r.version with
    | none => rfl
    | some v => exact Decoder.beq_self_of_survives rfl (h v hr)
  show (_ == _ && (_ == _ && (_ == _ && (_ == _ && (r.version == r.version && (_ == _ &&
    (_ == _ && _ == _))))))) = true
  simp [hversion]

/-- A load command that gives nothing but a version has the single that the numeral stands for. -/
theorem decode_load_version (n : Numeral) :
    (decodeDocument (.record [("command_type", Wire.toJson CommandKind.load),
      ("target_version", .number n)]) : Option CommandRecord) =
      n.single?.map fun v => { bare .load with version := some v } := by
  show (n.single?.map some).bind _ = _
  cases n.single? <;> rfl

/-- A command is decoded again only if its version survives. -/
theorem requires (r : CommandRecord) : Requires Wire.decode (Wire.toJson r) r r.Survives := by
  intro budget r' h hsame
  obtain ⟨f, hof, hversion⟩ := exists_version_of_decode h
  have hlookup : f.given.lookup "target_version" = r.version.map .ofSingle := by
    rw [Fields.lookup_of_record hof (by decide)]
    simp [List.lookup_append]
  obtain ⟨-, hsame⟩ := Bool.and_eq_true_iff.mp hsame
  obtain ⟨-, hsame⟩ := Bool.and_eq_true_iff.mp hsame
  obtain ⟨-, hsame⟩ := Bool.and_eq_true_iff.mp hsame
  obtain ⟨-, hsame⟩ := Bool.and_eq_true_iff.mp hsame
  obtain ⟨hsame, -⟩ := Bool.and_eq_true_iff.mp hsame
  exact Requires.optional (fun v _ => .single v) hlookup hversion hsame

theorem shallow : Shallow (Wire.decode : Decoder CommandRecord) Wire.toJson nestingLimit :=
  fun _ _ r hbudget _ => r.depth_le.trans hbudget

end CommandRecord

/-! ## Calls -/

namespace Call

/-- What a call that was decoded is read from. -/
theorem exists_fields_of_decode {budget : Nat} {doc : Json} {c : Call}
    (h : Wire.decode budget doc = some c) :
    ∃ f, budget = f.budget + 1 ∧
      Fields.of? ["name", "target", "args", "expected_results"] f.budget doc = some f ∧
      f.defaulted "args" (Decoder.list Wire.decode) [] = some c.args ∧
      f.optional "expected_results" (Decoder.list Wire.decode) = some c.expected := by
  obtain ⟨f, hbudget, hof, h⟩ := exists_fields_of_record h
  obtain ⟨_, -, h⟩ := Option.bind_eq_some_iff.mp h
  obtain ⟨_, -, h⟩ := Option.bind_eq_some_iff.mp h
  obtain ⟨args, hargs, h⟩ := Option.bind_eq_some_iff.mp h
  obtain ⟨expected, hexpected, h⟩ := Option.bind_eq_some_iff.mp h
  cases h
  exact ⟨f, hbudget, hof, hargs, hexpected⟩

theorem shallow : Shallow (Wire.decode : Decoder Call) Wire.toJson 2 := by
  intro budget doc c hbudget h
  obtain ⟨f, rfl, -, hargs, hexpected⟩ := exists_fields_of_decode h
  have hone : 1 ≤ f.budget := Nat.le_of_succ_le_succ hbudget
  have htarget : (Wire.toJson c.target).depth ≤ f.budget := by
    cases c.target <;> exact Nat.zero_le _
  refine Json.depth_record_le_iff.mpr ⟨f.budget, rfl, ?_⟩
  simp only [List.forall_mem_append, List.forall_mem_cons, Json.forall_mem_optionalMember_iff]
  exact ⟨⟨Nat.zero_le _, htarget, Value.shallow.defaulted_nil hone hargs, nofun⟩,
    Shallow.optional (.list Value.shallow) hone hexpected⟩

theorem lettered (c : Call) : (Wire.toJson c).Lettered := by
  have htarget : (Wire.toJson c.target).Lettered := by
    cases c.target <;> exact .text _
  refine .record ?_
  simp only [List.forall_mem_append, List.forall_mem_cons, Json.forall_mem_optionalMember_iff]
  exact ⟨⟨.text _, htarget, Value.lettered_arrayOf _, nofun⟩, fun vs _ => Value.lettered_arrayOf vs⟩

theorem beq_self {c : Call} (h : c.Survives) : (c == c) = true := by
  have hexpected : (c.expected == c.expected) = true := by
    cases hc : c.expected with
    | none => rfl
    | some vs => exact Value.beq_self_list (h.2 vs hc)
  show (_ == _ && (_ == _ && (c.args == c.args && c.expected == c.expected))) = true
  simp [hexpected, Value.beq_self_list h.1]

/-- A call is decoded again only if its values survive. -/
theorem requires (c : Call) : Requires Wire.decode (Wire.toJson c) c c.Survives := by
  intro budget c' h hsame
  obtain ⟨f, -, hof, hargs, hexpected⟩ := exists_fields_of_decode h
  have hargsLookup : f.given.lookup "args" = some (Value.arrayOf c.args) := by
    rw [Fields.lookup_of_record hof (by decide)]
    simp
  have hexpectedLookup : f.given.lookup "expected_results" = c.expected.map Value.arrayOf := by
    rw [Fields.lookup_of_record hof (by decide)]
    simp
  obtain ⟨-, hsame⟩ := Bool.and_eq_true_iff.mp hsame
  obtain ⟨-, hsame⟩ := Bool.and_eq_true_iff.mp hsame
  obtain ⟨hargsSame, hexpectedSame⟩ := Bool.and_eq_true_iff.mp hsame
  constructor
  · exact (Value.requires_list c.args).defaulted hargsLookup hargs hargsSame
  · exact Requires.optional (fun vs _ => Value.requires_list vs) hexpectedLookup hexpected
      hexpectedSame

end Call

namespace Expectation

/-- What an expectation that was decoded is read from. -/
theorem exists_fields_of_decode {budget : Nat} {doc : Json} {e : Expectation}
    (h : Wire.decode budget doc = some e) :
    ∃ f, budget = f.budget + 1 ∧ Fields.of? ["name", "expected"] f.budget doc = some f ∧
      f.required "expected" (Decoder.list Wire.decode) = some e.expected := by
  obtain ⟨f, hbudget, hof, h⟩ := exists_fields_of_record h
  obtain ⟨_, -, h⟩ := Option.bind_eq_some_iff.mp h
  obtain ⟨expected, hexpected, h⟩ := Option.bind_eq_some_iff.mp h
  cases h
  exact ⟨f, hbudget, hof, hexpected⟩

theorem shallow : Shallow (Wire.decode : Decoder Expectation) Wire.toJson 2 := by
  intro budget doc e hbudget h
  obtain ⟨f, rfl, -, hexpected⟩ := exists_fields_of_decode h
  have hvalues := Shallow.required (.list Value.shallow) (Nat.le_of_succ_le_succ hbudget) hexpected
  exact Json.depth_record_le_iff.mpr ⟨f.budget, rfl, List.forall_mem_cons.mpr
    ⟨Nat.zero_le _, List.forall_mem_singleton.mpr hvalues⟩⟩

theorem lettered (e : Expectation) : (Wire.toJson e).Lettered :=
  .record (List.forall_mem_cons.mpr
    ⟨.text _, List.forall_mem_singleton.mpr (Value.lettered_arrayOf _)⟩)

theorem beq_self {e : Expectation} (h : e.Survives) : (e == e) = true := by
  show (_ == _ && e.expected == e.expected) = true
  simp [Value.beq_self_list h]

/-- An expectation is decoded again only if its values survive. -/
theorem requires (e : Expectation) : Requires Wire.decode (Wire.toJson e) e e.Survives := by
  intro budget e' h hsame
  obtain ⟨f, -, hof, hexpected⟩ := exists_fields_of_decode h
  have hlookup : f.given.lookup "expected" = some (Value.arrayOf e.expected) := by
    rw [Fields.lookup_of_record hof (by decide)]
    simp
  exact (Value.requires_list e.expected).required hlookup hexpected
    (Bool.and_eq_true_iff.mp hsame).2

end Expectation

namespace CallResult

/-- What a result that was decoded is read from. -/
theorem exists_fields_of_decode {budget : Nat} {doc : Json} {r : CallResult}
    (h : Wire.decode budget doc = some r) :
    ∃ f, budget = f.budget + 1 ∧
      Fields.of? ["name", "results", "elapsed_ns", "verified"] f.budget doc = some f ∧
      f.required "results" (Decoder.list Wire.decode) = some r.results := by
  obtain ⟨f, hbudget, hof, h⟩ := exists_fields_of_record h
  obtain ⟨_, -, h⟩ := Option.bind_eq_some_iff.mp h
  obtain ⟨results, hresults, h⟩ := Option.bind_eq_some_iff.mp h
  obtain ⟨_, -, h⟩ := Option.bind_eq_some_iff.mp h
  obtain ⟨_, -, h⟩ := Option.bind_eq_some_iff.mp h
  cases h
  exact ⟨f, hbudget, hof, hresults⟩

theorem shallow : Shallow (Wire.decode : Decoder CallResult) Wire.toJson 2 := by
  intro budget doc r hbudget h
  obtain ⟨f, rfl, -, hresults⟩ := exists_fields_of_decode h
  have hvalues := Shallow.required (.list Value.shallow) (Nat.le_of_succ_le_succ hbudget) hresults
  refine Json.depth_record_le_iff.mpr ⟨f.budget, rfl, ?_⟩
  simp only [List.forall_mem_append, List.forall_mem_cons, Json.forall_mem_optionalMember_iff]
  exact ⟨⟨Nat.zero_le _, hvalues, Nat.zero_le _, nofun⟩, fun _ _ => Nat.zero_le _⟩

theorem lettered (r : CallResult) : (Wire.toJson r).Lettered := by
  refine .record ?_
  simp only [List.forall_mem_append, List.forall_mem_cons, Json.forall_mem_optionalMember_iff]
  exact ⟨⟨.text _, Value.lettered_arrayOf _, .number _, nofun⟩, fun b _ => .bool b⟩

theorem beq_self {r : CallResult} (h : r.Survives) : (r == r) = true := by
  show (_ == _ && (r.results == r.results && (_ == _ && _ == _))) = true
  simp [Value.beq_self_list h]

/-- A result is decoded again only if its values survive. -/
theorem requires (r : CallResult) : Requires Wire.decode (Wire.toJson r) r r.Survives := by
  intro budget r' h hsame
  obtain ⟨f, -, hof, hresults⟩ := exists_fields_of_decode h
  have hlookup : f.given.lookup "results" = some (Value.arrayOf r.results) := by
    rw [Fields.lookup_of_record hof (by decide)]
    simp
  obtain ⟨-, hsame⟩ := Bool.and_eq_true_iff.mp hsame
  exact (Value.requires_list r.results).required hlookup hresults (Bool.and_eq_true_iff.mp hsame).1

end CallResult

namespace Notification

/-- What a notification that was decoded is read from. -/
theorem exists_fields_of_decode {budget : Nat} {doc : Json} {n : Notification}
    (h : Wire.decode budget doc = some n) :
    ∃ f, budget = f.budget + 1 ∧ Fields.of? ["id", "name", "args"] f.budget doc = some f ∧
      f.defaulted "args" (Decoder.list Wire.decode) [] = some n.args := by
  obtain ⟨f, hbudget, hof, h⟩ := exists_fields_of_record h
  obtain ⟨_, -, h⟩ := Option.bind_eq_some_iff.mp h
  obtain ⟨_, -, h⟩ := Option.bind_eq_some_iff.mp h
  obtain ⟨args, hargs, h⟩ := Option.bind_eq_some_iff.mp h
  cases h
  exact ⟨f, hbudget, hof, hargs⟩

theorem shallow : Shallow (Wire.decode : Decoder Notification) Wire.toJson 2 := by
  intro budget doc n hbudget h
  obtain ⟨f, rfl, -, hargs⟩ := exists_fields_of_decode h
  have hvalues := Value.shallow.defaulted_nil (Nat.lt_of_succ_lt_succ hbudget) hargs
  exact Json.depth_record_le_iff.mpr ⟨f.budget, rfl, List.forall_mem_cons.mpr ⟨Nat.zero_le _,
    List.forall_mem_cons.mpr ⟨Nat.zero_le _, List.forall_mem_singleton.mpr hvalues⟩⟩⟩

theorem lettered (n : Notification) : (Wire.toJson n).Lettered :=
  .record (List.forall_mem_cons.mpr ⟨.text _, List.forall_mem_cons.mpr
    ⟨.text _, List.forall_mem_singleton.mpr (Value.lettered_arrayOf _)⟩⟩)

theorem beq_self {n : Notification} (h : n.Survives) : (n == n) = true := by
  show (_ == _ && (_ == _ && n.args == n.args)) = true
  simp [Value.beq_self_list h]

/-- A notification is decoded again only if its values survive. -/
theorem requires (n : Notification) : Requires Wire.decode (Wire.toJson n) n n.Survives := by
  intro budget n' h hsame
  obtain ⟨f, -, hof, hargs⟩ := exists_fields_of_decode h
  have hlookup : f.given.lookup "args" = some (Value.arrayOf n.args) := by
    rw [Fields.lookup_of_record hof (by decide)]
    simp
  obtain ⟨-, hsame⟩ := Bool.and_eq_true_iff.mp hsame
  exact (Value.requires_list n.args).defaulted hlookup hargs (Bool.and_eq_true_iff.mp hsame).2

end Notification

/-! ## Interfaces -/

theorem Attribute.shallow : Shallow (Wire.decode : Decoder Attribute) Wire.toJson 1 := by
  intro budget doc a _ h
  obtain ⟨f, rfl, -, h⟩ := exists_fields_of_record h
  obtain ⟨name, -, h⟩ := Option.bind_eq_some_iff.mp h
  obtain ⟨type, htype, h⟩ := Option.bind_eq_some_iff.mp h
  cases h
  exact Json.depth_record_le_iff.mpr ⟨f.budget, rfl, List.forall_mem_cons.mpr ⟨Nat.zero_le _,
    List.forall_mem_singleton.mpr (Descriptor.shallow.required (Nat.zero_le _) htype)⟩⟩

theorem Signature.shallow : Shallow (Wire.decode : Decoder Signature) Wire.toJson 2 := by
  intro budget doc s hbudget h
  obtain ⟨f, rfl, -, h⟩ := exists_fields_of_record h
  obtain ⟨name, -, h⟩ := Option.bind_eq_some_iff.mp h
  obtain ⟨args, hargs, h⟩ := Option.bind_eq_some_iff.mp h
  obtain ⟨returns, hreturns, h⟩ := Option.bind_eq_some_iff.mp h
  cases h
  have hpos : 0 < f.budget := Nat.lt_of_succ_lt_succ hbudget
  exact Json.depth_record_le_iff.mpr ⟨f.budget, rfl, List.forall_mem_cons.mpr ⟨Nat.zero_le _,
    List.forall_mem_cons.mpr ⟨Descriptor.shallow.defaulted_nil hpos hargs,
      List.forall_mem_singleton.mpr (Descriptor.shallow.defaulted_nil hpos hreturns)⟩⟩⟩

namespace Interface

/-- What the nested parts and the version of an interface that was decoded are read from. -/
theorem exists_fields_of_decode {budget : Nat} {doc : Json} {i : Interface}
    (h : Wire.decode budget doc = some i) :
    ∃ f, budget = f.budget + 1 ∧ Fields.of? fieldNames f.budget doc = some f ∧
      f.required "component_type_version" Decoder.single = some i.version ∧
      f.defaulted "functions" (Decoder.list Wire.decode) [] = some i.functions ∧
      f.defaulted "attributes" (Decoder.list Wire.decode) [] = some i.attributes := by
  obtain ⟨f, hbudget, hof, h⟩ := exists_fields_of_record h
  obtain ⟨_, -, h⟩ := Option.bind_eq_some_iff.mp h
  obtain ⟨_, -, h⟩ := Option.bind_eq_some_iff.mp h
  obtain ⟨version, hversion, h⟩ := Option.bind_eq_some_iff.mp h
  obtain ⟨_, -, h⟩ := Option.bind_eq_some_iff.mp h
  obtain ⟨_, -, h⟩ := Option.bind_eq_some_iff.mp h
  obtain ⟨functions, hfunctions, h⟩ := Option.bind_eq_some_iff.mp h
  obtain ⟨attributes, hattributes, h⟩ := Option.bind_eq_some_iff.mp h
  cases h
  exact ⟨f, hbudget, hof, hversion, hfunctions, hattributes⟩

theorem shallow : Shallow (Wire.decode : Decoder Interface) Wire.toJson 4 := by
  intro budget doc i hbudget h
  obtain ⟨f, rfl, -, -, hfunctions, hattributes⟩ := exists_fields_of_decode h
  have hthree : 3 ≤ f.budget := Nat.le_of_succ_le_succ hbudget
  have hversion : (Json.ofSingle i.version).depth ≤ f.budget :=
    (Json.depth_ofBinary _ _).trans_le (Nat.zero_le _)
  refine Json.depth_record_le_iff.mpr ⟨f.budget, rfl, ?_⟩
  simp only [List.forall_mem_append, List.forall_mem_cons, Json.forall_mem_optionalMember_iff]
  exact ⟨⟨⟨Nat.zero_le _, Nat.zero_le _, hversion, nofun⟩, fun _ _ => Nat.zero_le _⟩,
    Nat.zero_le _, Signature.shallow.defaulted_nil hthree hfunctions,
    Attribute.shallow.defaulted_nil (Nat.le_of_succ_le hthree) hattributes, nofun⟩

theorem lettered (i : Interface) : (Wire.toJson i).Lettered := by
  have hfunctions : (Json.array (i.functions.map Signature.toJson)).Lettered :=
    .array (List.forall_mem_map.mpr fun s _ => s.restores.legible.lettered)
  have hattributes : (Json.array (i.attributes.map Attribute.toJson)).Lettered :=
    .array (List.forall_mem_map.mpr fun a _ => a.restores.legible.lettered)
  refine .record ?_
  simp only [List.forall_mem_append, List.forall_mem_cons, Json.forall_mem_optionalMember_iff]
  exact ⟨⟨⟨.number _, .number _, .ofBinary _ i.version, nofun⟩, fun s _ => .text s⟩,
    .text _, hfunctions, hattributes, nofun⟩

theorem beq_self {i : Interface} (h : i.Survives) : (i == i) = true := by
  have hversion : (i.version == i.version) = true := Decoder.beq_self_of_survives rfl h
  show (_ == _ && (_ == _ && (i.version == i.version && (_ == _ && (_ == _ && (_ == _ &&
    _ == _)))))) = true
  simp [hversion]

/-- An interface is decoded again only if its version survives. -/
theorem requires (i : Interface) : Requires Wire.decode (Wire.toJson i) i i.Survives := by
  intro budget i' h hsame
  obtain ⟨f, -, hof, hversion, -, -⟩ := exists_fields_of_decode h
  have hlookup : f.given.lookup "component_type_version" = some (.ofSingle i.version) := by
    rw [Fields.lookup_of_record hof (by decide)]
    simp
  obtain ⟨-, hsame⟩ := Bool.and_eq_true_iff.mp hsame
  obtain ⟨-, hsame⟩ := Bool.and_eq_true_iff.mp hsame
  exact (Requires.single i.version).required hlookup hversion (Bool.and_eq_true_iff.mp hsame).1

end Interface

/-! ## Texts -/

/-- **What was decoded is decoded again if and only if it survives.** Whatever a text is decoded as,
the text of this value is accepted and gives an equal value exactly if the numbers of the value
survive being written and read; and then it gives the value itself. However deep the value nests,
its text is not too deep. An infinite single, which is what a numeral out of the range of singles
stands for, does not survive. -/
theorem records_reread (s : String) :
    Rereads CommandRecord CommandRecord.Survives s ∧
    Rereads CommandKind (fun _ => True) s ∧
    Rereads Response (fun _ => True) s ∧
    Rereads ResponseCode (fun _ => True) s ∧
    Rereads Call Call.Survives s ∧
    Rereads Expectation Expectation.Survives s ∧
    Rereads CallResult CallResult.Survives s ∧
    Rereads CallTarget (fun _ => True) s ∧
    Rereads Notification Notification.Survives s ∧
    Rereads Interface Interface.Survives s ∧
    Rereads Signature (fun _ => True) s ∧
    Rereads Attribute (fun _ => True) s ∧
    Rereads Descriptor (fun _ => True) s ∧
    Rereads ComponentClass (fun _ => True) s ∧
    Rereads ScalarKind (fun _ => True) s ∧
    Rereads Scalar Scalar.Survives s ∧
    Rereads Value Value.Survives s ∧
    ∀ negative, ¬Json.Survives Decoder.single (.ofSingle (.infinite negative))
      (.infinite negative) := by
  -- records without numbers of a binary format always survive
  have hcommandKind : Rereads CommandKind (fun _ => True) s :=
    .of_restores (.of_depth_eq_zero fun _ => rfl) CommandKind.restores s
  have hresponse : Rereads Response (fun _ => True) s :=
    .of_restores (fun _ _ r hbudget _ => r.depth_le.trans hbudget) Response.restores s
  have hcode : Rereads ResponseCode (fun _ => True) s :=
    .of_restores (.of_depth_eq_zero fun c => by cases c <;> rfl) ResponseCode.restores s
  have htarget : Rereads CallTarget (fun _ => True) s :=
    .of_restores (.of_depth_eq_zero fun t => by cases t <;> rfl) CallTarget.restores s
  have hsignature : Rereads Signature (fun _ => True) s :=
    .of_restores (Signature.shallow.mono (by decide)) Signature.restores s
  have hattribute : Rereads Attribute (fun _ => True) s :=
    .of_restores (Attribute.shallow.mono (by decide)) Attribute.restores s
  have hdescriptor : Rereads Descriptor (fun _ => True) s :=
    .of_restores (Descriptor.shallow.mono (by decide)) Descriptor.restores s
  have hclass : Rereads ComponentClass (fun _ => True) s :=
    .of_restores (.of_depth_eq_zero fun _ => rfl) ComponentClass.restores s
  have hscalarKind : Rereads ScalarKind (fun _ => True) s :=
    .of_restores (.of_depth_eq_zero fun _ => rfl) (fun k => .enumeration k.lookup_name) s
  refine ⟨?_, hcommandKind, hresponse, hcode, ?_, ?_, ?_, htarget, ?_, ?_, hsignature, hattribute,
    hdescriptor, hclass, hscalarKind, ?_, ?_, fun _ => Json.not_survives_of_numeral? rfl rfl⟩
  · exact .of_requires CommandRecord.shallow (fun _ => CommandRecord.restores)
      (fun _ => CommandRecord.beq_self) CommandRecord.lettered CommandRecord.requires s
  · exact .of_requires (Call.shallow.mono (by decide)) (fun _ => Call.restores)
      (fun _ => Call.beq_self) Call.lettered Call.requires s
  · exact .of_requires (Expectation.shallow.mono (by decide)) (fun _ => Expectation.restores)
      (fun _ => Expectation.beq_self) Expectation.lettered Expectation.requires s
  · exact .of_requires (CallResult.shallow.mono (by decide)) (fun _ => CallResult.restores)
      (fun _ => CallResult.beq_self) CallResult.lettered CallResult.requires s
  · exact .of_requires (Notification.shallow.mono (by decide)) (fun _ => Notification.restores)
      (fun _ => Notification.beq_self) Notification.lettered Notification.requires s
  · exact .of_requires (Interface.shallow.mono (by decide)) (fun _ => Interface.restores)
      (fun _ => Interface.beq_self) Interface.lettered Interface.requires s
  · exact .of_requires (Scalar.shallow.mono (by decide)) (fun _ => Scalar.restores)
      (fun _ => Scalar.beq_self) Scalar.lettered Scalar.requires s
  · exact .of_requires (Value.shallow.mono (by decide)) (fun _ => Value.restores)
      (fun _ => Value.beq_self) Value.lettered Value.requires s

/-- A load command whose version is a numeral out of the range of singles is accepted with an
infinite version. Its text has null in the place of the version and is accepted as a command without
one, which is not equal to the command that was written. -/
theorem records_reread_infinite :
    ∃ r : CommandRecord,
      decodeText "\x7b\"command_type\":\"LOAD_HAL\",\"target_version\":1e39\x7d" = .ok r ∧
      r.version = some (.infinite false) ∧
      encodeText r = "\x7b\"command_type\":\"LOAD_HAL\",\"target_version\":null\x7d" ∧
      decodeText (encodeText r) = .ok { r with version := none } ∧
      ∀ r', decodeText (encodeText r) = .ok r' → (r' == r) = false := by
  have hread : Json.readText (Text.trim
      "\x7b\"command_type\":\"LOAD_HAL\",\"target_version\":1e39\x7d") =
      some (.record [("command_type", Wire.toJson CommandKind.load),
        ("target_version", .number ⟨false, 1, [], some 39⟩)]) := rfl
  have hinfinite : Numeral.single? ⟨false, 1, [], some 39⟩ = some (.infinite false) :=
    Decoder.eq_infinite_of_any_same (by decide +kernel)
  have haccepted : decodeText "\x7b\"command_type\":\"LOAD_HAL\",\"target_version\":1e39\x7d" =
      .ok { CommandRecord.bare .load with version := some (.infinite false) } := by
    rw [decodeText_of_readText hread, CommandRecord.decode_load_version, hinfinite]
    rfl
  refine ⟨_, haccepted, rfl, rfl, rfl, fun r' hr' => ?_⟩
  rw [Bool.eq_false_iff]
  intro hsame
  obtain ⟨hcommand, -⟩ := records_reread _
  have hsurvives := (hcommand _ haccepted).1.mp ⟨r', hr', hsame⟩
  exact Json.not_survives_of_numeral? rfl rfl (hsurvives _ rfl)

end TargetBench
