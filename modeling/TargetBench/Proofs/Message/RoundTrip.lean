import TargetBench.Component.Interface
import TargetBench.Message.Command
import TargetBench.Message.Notification
import TargetBench.Message.Response
import TargetBench.Proofs.Value.Restoring

/-!
# Records in texts

Every record that is sent or stored is restored from its text, field by field. A record may carry
another one as a text of its own, and both are restored.

## Main definitions

* `CommandRecord.Survives`, `Call.Survives`, …: records whose numbers survive being written and read
* `RoundTrips`: values that are restored from their texts
* `Carries`: records from which a text gives back what was put into them

## Main results

* `records_round_trip`: all records are restored from their texts, and so is what they carry
-/

namespace TargetBench

open Decoder (Restores)
open Json (Members)

/-! ## Parts of records -/

theorem CommandKind.restores (k : CommandKind) : Restores Wire.decode (Wire.toJson k) k :=
  .enumeration (by cases k <;> decide)

theorem ResponseCode.restores (c : ResponseCode) : Restores Wire.decode (Wire.toJson c) c := by
  cases c <;> exact .enumeration (by decide)

theorem CallTarget.restores (t : CallTarget) : Restores Wire.decode (Wire.toJson t) t := by
  cases t <;> exact .enumeration (by decide)

theorem ComponentClass.restores (c : ComponentClass) : Restores Wire.decode (Wire.toJson c) c := by
  have hid := Restores.integer (by decide) (by decide) c.id
  refine ⟨hid.legible, fun {budget} hdepth => ?_⟩
  have hdecode : Decoder.integer budget (Wire.toJson c) = some c.id := hid.decode_eq hdepth
  show (Decoder.integer budget (Wire.toJson c)).bind ofId? = some c
  rw [hdecode, Option.bind_some, ofId?_id]

/-- Values are restored from documents of which each spells one of them. -/
theorem Value.restores_parts {parts : List (Value × Json)} (hparts : ∀ p ∈ parts, p.1.Spelled p.2)
    (h : ∀ v ∈ parts.map Prod.fst, v.Survives) :
    Restores (Decoder.list Wire.decode) (.array (parts.map Prod.snd)) (parts.map Prod.fst) :=
  .array fun p hp => ((hparts p hp).restores (h p.1 (List.mem_map_of_mem hp)) false).held

theorem Value.restores_list {vs : List Value} (h : ∀ v ∈ vs, v.Survives) :
    Restores (Decoder.list Wire.decode) (Value.arrayOf vs) vs :=
  .list fun _ hv => Value.restores (h _ hv)

theorem Descriptor.restores_list (ts : List Descriptor) :
    Restores (Decoder.list Wire.decode) (.array (ts.map Descriptor.toJson)) ts :=
  .list fun t _ => t.restores

theorem restores_word (n : Signed 32) : Restores Decoder.integer (.ofInt n.val) n :=
  .integer (by decide) (by decide) n

/-! ## Commands and responses -/

namespace CommandRecord

/-- The version of a record survives being written and read, if it has one. -/
def Survives (r : CommandRecord) : Prop :=
  ∀ v ∈ r.version, Json.Survives Decoder.single (.ofSingle v) v

theorem restores {r : CommandRecord} (h : r.Survives) : Restores Wire.decode (Wire.toJson r) r := by
  have hkind := r.kind.restores
  have hversion : ∀ v ∈ r.version, Restores Decoder.single (.ofSingle v) v :=
    fun v hv => .single (h v hv)
  have htext (o : Option String) : ∀ s ∈ o, Restores Decoder.text (.ofText s) s :=
    fun s _ => .text s
  have hword (o : Option (Signed 32)) : ∀ n ∈ o, Restores Decoder.integer (.ofInt n.val) n :=
    fun n _ => restores_word n
  -- the members as they are written: what the command does not need is left out
  have hmembers := (((((((Members.nil.cons "command_type" hkind).append
    (.optional "file_path" (htext r.path))).append
    (.optional "target_class" (hword r.componentClass))).append
    (.optional "target_type" (hword r.componentType))).append
    (.optional "target_version" hversion)).append
    (.optional "module_name" (htext r.moduleName))).append
    (.optional "status_type" (hword r.status))).append
    (.optional "arg" (htext r.description))
  refine .record hmembers (by decide) fun b hfit => ?_
  simp only [Option.bind_eq_bind, Option.bind_some,
    hfit.required_eq "command_type" (by simp) hkind,
    hfit.optional_eq "file_path" (by simp [List.lookup_append]) (htext r.path) rfl,
    hfit.optional_eq "target_class" (by simp [List.lookup_append]) (hword r.componentClass) rfl,
    hfit.optional_eq "target_type" (by simp [List.lookup_append]) (hword r.componentType) rfl,
    hfit.optional_eq "target_version" (by simp [List.lookup_append]) hversion rfl,
    hfit.optional_eq "module_name" (by simp [List.lookup_append]) (htext r.moduleName) rfl,
    hfit.optional_eq "status_type" (by simp [List.lookup_append]) (hword r.status) rfl,
    hfit.optional_eq "arg" (by simp [List.lookup_append]) (htext r.description) rfl]
  rfl

end CommandRecord

theorem Response.restores (r : Response) : Restores Wire.decode (Wire.toJson r) r := by
  have hcode := r.code.restores
  have hvalue : ∀ n ∈ r.value, Restores Decoder.integer (.ofInt n.val) n :=
    fun n _ => restores_word n
  have hmessage : ∀ s ∈ r.message, Restores Decoder.text (.ofText s) s := fun s _ => .text s
  have hmembers := ((Members.nil.cons "response_code" hcode).append
    (.optional "return_value" hvalue)).append (.optional "return_message" hmessage)
  refine .record hmembers (by decide) fun b hfit => ?_
  simp only [Option.bind_eq_bind, Option.bind_some,
    hfit.required_eq "response_code" (by simp) hcode,
    hfit.optional_eq "return_value" (by simp [List.lookup_append]) hvalue rfl,
    hfit.optional_eq "return_message" (by simp [List.lookup_append]) hmessage rfl]
  rfl

/-! ## Calls -/

namespace Call

/-- The arguments and the results that are expected survive being written and read. -/
def Survives (c : Call) : Prop :=
  (∀ v ∈ c.args, v.Survives) ∧ ∀ vs ∈ c.expected, ∀ v ∈ vs, v.Survives

/-- Documents that spell a call: they give its fields, with the arguments and the results that are
expected each spelled in a way of its own. -/
inductive Spelled : Call → Json → Prop
  | intro {name : String} {target : CallTarget} {args : List (Value × Json)}
      {expected : Option (List (Value × Json))} {doc : Json}
      (hargs : ∀ p ∈ args, p.1.Spelled p.2) (hexpected : ∀ ps ∈ expected, ∀ p ∈ ps, p.1.Spelled p.2)
      (h : Json.Gives ["name", "target", "args", "expected_results"]
        ([("name", .ofText name), ("target", Wire.toJson target),
          ("args", .array (args.map Prod.snd))] ++
          Json.optionalMember "expected_results" (fun ps => .array (ps.map Prod.snd)) expected)
        doc) :
      Spelled ⟨name, target, args.map Prod.fst, expected.map (List.map Prod.fst)⟩ doc

/-- A call is restored from every document that spells it. -/
theorem Spelled.restores {c : Call} {doc : Json} (hdoc : c.Spelled doc) (hc : c.Survives) :
    Restores Wire.decode doc c := by
  obtain @⟨name, target, args, expected, doc, hargs, hexpected, h⟩ := hdoc
  have hname := Restores.text name
  have htarget := target.restores
  have hvalues := Value.restores_parts hargs hc.1
  have hresults : ∀ ps ∈ expected, Restores (Decoder.list Wire.decode) (.array (ps.map Prod.snd))
      (ps.map Prod.fst) := fun ps hps =>
    Value.restores_parts (hexpected ps hps) (hc.2 _ (Option.mem_map_of_mem _ hps))
  have hfront := ((Members.nil.cons "args" hvalues).cons "target" htarget).cons "name" hname
  have hmembers := hfront.append (.optional "expected_results" hresults)
  refine .given h hmembers (by decide) fun b given hlookup hfit => ?_
  simp only [Option.bind_eq_bind, Option.bind_some,
    hfit.required_eq "name" (by simp [hlookup]) hname,
    hfit.defaulted_eq "target" (by simp [hlookup]) htarget,
    hfit.defaulted_eq "args" (by simp [hlookup]) hvalues,
    hfit.optional_map_eq "expected_results" (by simp [hlookup]) hresults rfl]
  rfl

/-- The document of a call spells it. -/
theorem spelled_toJson {c : Call} (h : c.Survives) : c.Spelled (Wire.toJson c) := by
  obtain ⟨name, target, args, expected⟩ := c
  have hspelled {vs : List Value} (hvs : ∀ v ∈ vs, v.Survives) :
      ∀ p ∈ vs.map fun v => (v, v.toJson), p.1.Spelled p.2 :=
    List.forall_mem_map.mpr fun v hv => Value.spelled_toJson (hvs v hv)
  have hresults : ∀ ps ∈ expected.map (List.map fun v => (v, v.toJson)), ∀ p ∈ ps,
      p.1.Spelled p.2 := by
    intro ps hps
    obtain ⟨vs, hvs, rfl⟩ := Option.map_eq_some_iff.mp hps
    exact hspelled (h.2 vs hvs)
  have hdoc := @Spelled.intro name target _ _ _ (hspelled h.1) hresults (.record _ _)
  show Spelled _ (toJson _)
  cases expected <;>
    simpa [toJson, Value.arrayOf, Json.optionalMember, Function.comp_def] using hdoc

theorem restores {c : Call} (h : c.Survives) : Restores Wire.decode (Wire.toJson c) c :=
  (spelled_toJson h).restores h

end Call

namespace Expectation

/-- The results that are expected survive being written and read. -/
def Survives (e : Expectation) : Prop := ∀ v ∈ e.expected, v.Survives

theorem restores {e : Expectation} (h : e.Survives) : Restores Wire.decode (Wire.toJson e) e := by
  have hname := Restores.text e.name
  have hexpected := Value.restores_list h
  refine .record ((Members.nil.cons "expected" hexpected).cons "name" hname) (by decide)
    fun b hfit => ?_
  simp only [Option.bind_eq_bind, Option.bind_some, hfit.required_eq "name" (by simp) hname,
    hfit.required_eq "expected" (by simp) hexpected]
  rfl

end Expectation

namespace CallResult

/-- The results survive being written and read. -/
def Survives (r : CallResult) : Prop := ∀ v ∈ r.results, v.Survives

theorem restores {r : CallResult} (h : r.Survives) : Restores Wire.decode (Wire.toJson r) r := by
  have hname := Restores.text r.name
  have hresults := Value.restores_list h
  have helapsed := Restores.integer (by decide) (by decide) r.elapsed
  have hverified : ∀ b ∈ r.verified, Restores Decoder.bool (.bool b) b := fun b _ => .bool b
  have hmembers := (((Members.nil.cons "elapsed_ns" helapsed).cons "results" hresults).cons
    "name" hname).append (.optional "verified" hverified)
  refine .record hmembers (by decide) fun b hfit => ?_
  simp only [Option.bind_eq_bind, Option.bind_some,
    hfit.required_eq "name" (by simp) hname,
    hfit.required_eq "results" (by simp) hresults,
    hfit.required_eq "elapsed_ns" (by simp) helapsed,
    hfit.optional_eq "verified" (by simp) hverified rfl]
  rfl

end CallResult

namespace Notification

/-- The arguments survive being written and read. -/
def Survives (n : Notification) : Prop := ∀ v ∈ n.args, v.Survives

theorem restores {n : Notification} (h : n.Survives) : Restores Wire.decode (Wire.toJson n) n := by
  have hid := Restores.text n.id
  have hname := Restores.text n.name
  have hargs := Value.restores_list h
  refine .record (((Members.nil.cons "args" hargs).cons "name" hname).cons "id" hid) (by decide)
    fun b hfit => ?_
  simp only [Option.bind_eq_bind, Option.bind_some, hfit.required_eq "id" (by simp) hid,
    hfit.required_eq "name" (by simp) hname, hfit.defaulted_eq "args" (by simp) hargs]
  rfl

end Notification

/-! ## Interfaces -/

theorem Signature.restores (s : Signature) : Restores Wire.decode (Wire.toJson s) s := by
  have hname := Restores.text s.name
  have hargs := Descriptor.restores_list s.args
  have hreturns := Descriptor.restores_list s.returns
  refine .record (((Members.nil.cons "returns" hreturns).cons "args" hargs).cons "name" hname)
    (by decide) fun b hfit => ?_
  simp only [Option.bind_eq_bind, Option.bind_some, hfit.required_eq "name" (by simp) hname,
    hfit.defaulted_eq "args" (by simp) hargs, hfit.defaulted_eq "returns" (by simp) hreturns]
  rfl

theorem Attribute.restores (a : Attribute) : Restores Wire.decode (Wire.toJson a) a := by
  have hname := Restores.text a.name
  have htype : Restores Wire.decode a.type.toJson a.type := a.type.restores
  refine .record ((Members.nil.cons "type" htype).cons "name" hname) (by decide) fun b hfit => ?_
  simp only [Option.bind_eq_bind, Option.bind_some, hfit.required_eq "name" (by simp) hname,
    hfit.required_eq "type" (by simp) htype]
  rfl

namespace Interface

/-- The version survives being written and read. -/
def Survives (i : Interface) : Prop := Json.Survives Decoder.single (.ofSingle i.version) i.version

theorem restores {i : Interface} (h : i.Survives) : Restores Wire.decode (Wire.toJson i) i := by
  have hclass := i.componentClass.restores
  have htype := restores_word i.componentType
  have hversion := Restores.single h
  have hpackage : ∀ s ∈ i.package, Restores Decoder.text (.ofText s) s := fun s _ => .text s
  have hname := Restores.text i.name
  have hfunctions : Restores (Decoder.list Wire.decode) (.array (i.functions.map Signature.toJson))
      i.functions := .list fun s _ => s.restores
  have hattributes : Restores (Decoder.list Wire.decode)
      (.array (i.attributes.map Attribute.toJson)) i.attributes := .list fun a _ => a.restores
  have hbefore := ((Members.nil.cons "component_type_version" hversion).cons
    "component_type" htype).cons "component_class" hclass
  have hafter := ((Members.nil.cons "attributes" hattributes).cons "functions" hfunctions).cons
    "component_name" hname
  refine .record ((hbefore.append (.optional "package" hpackage)).append hafter) (by decide)
    fun b hfit => ?_
  simp only [Option.bind_eq_bind, Option.bind_some,
    hfit.required_eq "component_class" (by simp) hclass,
    hfit.defaulted_eq "component_type" (by simp) htype,
    hfit.required_eq "component_type_version" (by simp) hversion,
    hfit.optional_eq "package" (by simp [List.lookup_append]) hpackage rfl,
    hfit.defaulted_eq "component_name" (by simp [List.lookup_append]) hname,
    hfit.defaulted_eq "functions" (by simp [List.lookup_append]) hfunctions,
    hfit.defaulted_eq "attributes" (by simp [List.lookup_append]) hattributes]
  rfl

end Interface

/-! ## Texts -/

/-- Values that are restored from their texts, as long as the texts nest no deeper than a reader is
ready to follow. -/
def RoundTrips (α : Type) [Wire α] (survives : α → Prop) : Prop :=
  ∀ x : α, survives x → (Wire.toJson x).depth ≤ nestingLimit → decodeText (encodeText x) = .ok x

/-- A record that carries a value as a text comes back with it: what is read is the record, and the
text that is then taken out of it gives the value. -/
def Returns {α β : Type} [Wire α] [Wire β] (carry : String → α) (carried : α → Option String)
    (y : β) : Prop :=
  ∃ x, decodeText (encodeText (carry (encodeText y))) = .ok x ∧ x = carry (encodeText y) ∧
    (carried x).map decodeText = some (.ok y)

/-- A command opens no brackets inside others, whatever texts it carries. -/
theorem CommandRecord.depth_le (r : CommandRecord) : (Wire.toJson r).depth ≤ nestingLimit := by
  have htext (o : Option String) : ∀ s ∈ o, (Json.ofText s).depth ≤ 126 :=
    fun _ _ => Nat.zero_le _
  have hword (o : Option (Signed 32)) : ∀ n ∈ o, (Json.ofInt n.val).depth ≤ 126 :=
    fun _ _ => Nat.zero_le _
  have hversion : ∀ v ∈ r.version, (Json.ofSingle v).depth ≤ 126 :=
    fun v _ => (Json.depth_ofBinary _ v).trans_le (Nat.zero_le _)
  refine Json.depth_record_le_iff.mpr ⟨126, rfl, ?_⟩
  simp only [List.forall_mem_append, List.forall_mem_singleton, Json.forall_mem_optionalMember_iff]
  exact ⟨⟨⟨⟨⟨⟨⟨Nat.zero_le _, htext _⟩, hword _⟩, hword _⟩, hversion⟩, htext _⟩, hword _⟩, htext _⟩

/-- A response opens no brackets inside others, whatever text it carries. -/
theorem Response.depth_le (r : Response) : (Wire.toJson r).depth ≤ nestingLimit := by
  have hcode : (Wire.toJson r.code).depth ≤ 126 := by
    cases r.code <;> exact Nat.zero_le _
  refine Json.depth_record_le_iff.mpr ⟨126, rfl, ?_⟩
  simp only [List.forall_mem_append, List.forall_mem_singleton, Json.forall_mem_optionalMember_iff]
  exact ⟨⟨hcode, fun _ _ => Nat.zero_le _⟩, fun _ _ => Nat.zero_le _⟩

theorem CommandRecord.decodeText_encodeText {r : CommandRecord} (h : r.Survives) :
    decodeText (encodeText r) = .ok r :=
  TargetBench.decodeText_encodeText (restores h) r.depth_le

theorem Response.decodeText_encodeText (r : Response) : decodeText (encodeText r) = .ok r :=
  TargetBench.decodeText_encodeText r.restores r.depth_le

theorem Call.roundTrips : RoundTrips Call Call.Survives := fun _ h =>
  TargetBench.decodeText_encodeText (restores h)

theorem CallResult.roundTrips : RoundTrips CallResult CallResult.Survives := fun _ h =>
  TargetBench.decodeText_encodeText (restores h)

theorem Interface.roundTrips : RoundTrips Interface Interface.Survives := fun _ h =>
  TargetBench.decodeText_encodeText (restores h)

/-- **Every record is restored from its text**, if the text nests no deeper than a reader is ready
to follow and each of its numbers survives being written and read. A call that a command carries,
and a result or an interface that a response carries, are restored through both texts. -/
theorem records_round_trip :
    RoundTrips CommandRecord CommandRecord.Survives ∧
    RoundTrips Response (fun _ => True) ∧
    RoundTrips Call Call.Survives ∧
    RoundTrips Expectation Expectation.Survives ∧
    RoundTrips CallResult CallResult.Survives ∧
    RoundTrips Notification Notification.Survives ∧
    RoundTrips Interface Interface.Survives ∧
    RoundTrips Signature (fun _ => True) ∧
    RoundTrips Attribute (fun _ => True) ∧
    RoundTrips Value Value.Survives ∧
    RoundTrips Descriptor (fun _ => True) ∧
    (∀ (r : CommandRecord) (c : Call), r.Survives → c.Survives →
      (Wire.toJson c).depth ≤ nestingLimit →
        Returns (fun s => { r with description := some s }) CommandRecord.description c) ∧
    (∀ (r : Response) (result : CallResult), result.Survives →
      (Wire.toJson result).depth ≤ nestingLimit →
        Returns (fun s => { r with message := some s }) Response.message result) ∧
    (∀ (r : Response) (i : Interface), i.Survives → (Wire.toJson i).depth ≤ nestingLimit →
      Returns (fun s => { r with message := some s }) Response.message i) := by
  refine ⟨fun r h _ => CommandRecord.decodeText_encodeText h,
    fun r _ _ => r.decodeText_encodeText, Call.roundTrips,
    fun e h => decodeText_encodeText (Expectation.restores h), CallResult.roundTrips,
    fun n h => decodeText_encodeText (Notification.restores h), Interface.roundTrips,
    fun s _ => decodeText_encodeText s.restores,
    fun a _ => decodeText_encodeText a.restores,
    fun v h => decodeText_encodeText (Value.restores h),
    fun t _ => decodeText_encodeText t.restores,
    fun r c hr hc hdepth => ?_, fun r result h hdepth => ?_, fun r i h hdepth => ?_⟩
  · exact ⟨_, CommandRecord.decodeText_encodeText hr, rfl,
      congrArg some (Call.roundTrips c hc hdepth)⟩
  · exact ⟨_, Response.decodeText_encodeText _, rfl,
      congrArg some (CallResult.roundTrips result h hdepth)⟩
  · exact ⟨_, Response.decodeText_encodeText _, rfl,
      congrArg some (Interface.roundTrips i h hdepth)⟩

/-- A tenth, a negative discriminant and a text with characters of every kind come back out of a
call within a command. -/
theorem records_round_trip_sequence :
    Returns (fun s => { CommandRecord.bare .call with description := some s })
      CommandRecord.description
      (Call.ofFunction "écrire" [.vector [.scalar ⟨.double, .ofRatio false 1 10⟩,
        .enumerated "Status" ⟨.int8, ⟨-1, by decide, by decide⟩⟩], .text "a\n\x01\"\\😀"]) := by
  have htenth : Value.Survives (.scalar ⟨.double, .ofRatio false 1 10⟩) := .scalar rfl
  have hargs : ∀ v ∈ [Value.vector [.scalar ⟨.double, .ofRatio false 1 10⟩,
      .enumerated "Status" ⟨.int8, ⟨-1, by decide, by decide⟩⟩], .text "a\n\x01\"\\😀"],
      v.Survives :=
    List.forall_mem_cons.mpr ⟨.vector (List.forall_mem_cons.mpr
      ⟨htenth, List.forall_mem_singleton.mpr (.enumerated trivial)⟩),
      List.forall_mem_singleton.mpr (.text _)⟩
  obtain ⟨-, -, -, -, -, -, -, -, -, -, -, hcall, -, -⟩ := records_round_trip
  exact hcall (.bare .call) _ nofun ⟨hargs, nofun⟩ (by decide)

end TargetBench
