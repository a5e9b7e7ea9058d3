import TargetBench.Proofs.Collection.Keyed
import TargetBench.Proofs.Json.Spelling
import TargetBench.Proofs.Message.RoundTrip
import TargetBench.Proofs.Session.Order

/-!
# Records that say more than their command

An agent may send a record with fields that belong to other commands, with members that no record
has, and with all of them in any order. Only the fields that the kind of the command owns count, so
the session does what it does on the record of the command alone.

## Main definitions

* `CommandKind.fields`: the fields that a kind of commands owns
* `CommandRecord.optionalFields`, `FieldKind.Takes`: the fields of a record, and what they take
* `Command.MadeOf`: the members of an object that stands for a command

## Main results

* `Command.MadeOf.decode`: such an object is a record that stands for the command
* `Command.extended_frames`: a session does the same on every frame that holds such an object
-/

namespace TargetBench

open Decoder (Restores)

/-! ## The fields of a record -/

/-- What a field may hold. -/
inductive FieldKind where
  | text
  | word
  | version

/-- A document that a field of a kind takes: a text, an integer of 32 bits, or a number. -/
def FieldKind.Takes : FieldKind → Json → Prop
  | text, doc => ∃ s, doc = .ofText s
  | word, doc => ∃ n : Signed 32, doc = .ofInt n.val
  | version, doc => ∃ n, doc = .number n ∧ n.single?.isSome

/-- The fields that a kind of commands owns, its name apart. -/
def CommandKind.fields : CommandKind → List String
  | exit => []
  | load => ["file_path", "target_class", "target_type", "target_version", "module_name"]
  | status => ["status_type"]
  | call => ["arg"]
  | list => []

/-- The optional fields of a record, each with what it may hold. -/
def CommandRecord.optionalFields : List (String × FieldKind) :=
  [("file_path", .text), ("target_class", .word), ("target_type", .word),
    ("target_version", .version), ("module_name", .text), ("status_type", .word), ("arg", .text)]

/-- A further field for a record of a kind: one that the kind does not own, with null or what the
field takes. -/
def CommandKind.Admits (kind : CommandKind) (m : String × Json) : Prop :=
  m.1 ∉ kind.fields ∧
    ∃ k, CommandRecord.optionalFields.lookup m.1 = some k ∧ (m.2 = .null ∨ k.Takes m.2)

/-- The members of an object that stands for a command: those of its record, further fields that its
kind does not own, each at most once, and members that no record has, in any order. -/
inductive Command.MadeOf (c : Command) (members : List (String × Json)) : Prop where
  | intro {own foreign unknown : List (String × Json)}
      (hown : Wire.toJson c.record = Json.record own)
      (hforeign : ∀ m ∈ foreign, c.record.kind.Admits m)
      (hdistinct : (foreign.map Prod.fst).Nodup)
      (hunknown : ∀ m ∈ unknown, m.1 ∉ CommandRecord.fieldNames)
      (hperm : members.Perm (own ++ foreign ++ unknown)) : MadeOf c members

/-- The members of the record of a command. -/
def Command.members : Command → List (String × Json)
  | exit => [("command_type", .ofText "EXIT")]
  | load r => [("command_type", .ofText "LOAD_HAL"), ("file_path", .ofText r.path),
      ("target_class", .ofInt r.componentClass.val), ("target_type", .ofInt r.componentType.val),
      ("target_version", .ofSingle r.version), ("module_name", .ofText r.moduleName)]
  | status kind => [("command_type", .ofText "GET_STATUS"), ("status_type", .ofInt kind.val)]
  | call description => [("command_type", .ofText "CALL_FUNCTION"), ("arg", .ofText description)]
  | list => [("command_type", .ofText "LIST_FUNCTIONS")]

namespace Command

theorem toJson_record (c : Command) : Wire.toJson c.record = Json.record c.members := by
  cases c <;> rfl

/-- The record of a command has the fields that its kind owns, and no others. -/
theorem names_members (c : Command) :
    c.members.map Prod.fst = "command_type" :: c.record.kind.fields := by
  cases c <;> rfl

theorem fields_subset (kind : CommandKind) :
    ("command_type" :: kind.fields).Sublist CommandRecord.fieldNames := by
  cases kind <;> decide

end Command

namespace CommandKind

variable {kind : CommandKind} {m : String × Json}

theorem Admits.mem_fieldNames (h : kind.Admits m) : m.1 ∈ CommandRecord.fieldNames := by
  obtain ⟨-, k, hk, -⟩ := h
  obtain ⟨before, after, hfields, -⟩ := List.lookup_eq_some_iff.mp hk
  have hmem : m.1 ∈ CommandRecord.optionalFields.map Prod.fst := by
    rw [hfields]
    simp
  exact List.mem_cons_of_mem "command_type" hmem

theorem Admits.not_mem (h : kind.Admits m) : m.1 ∉ "command_type" :: kind.fields := by
  obtain ⟨howned, k, hk, -⟩ := h
  rw [List.mem_cons, not_or]
  refine ⟨fun hkind => ?_, howned⟩
  rw [hkind] at hk
  cases hk

theorem Admits.depth_eq (h : kind.Admits m) : m.2.depth = 0 := by
  obtain ⟨-, k, -, hnull | htakes⟩ := h
  · rw [hnull]
    rfl
  · cases k with
    | text =>
      obtain ⟨s, hs⟩ := htakes
      rw [hs]
      rfl
    | word =>
      obtain ⟨n, hn⟩ := htakes
      rw [hn]
      rfl
    | version =>
      obtain ⟨n, hn, -⟩ := htakes
      rw [hn]
      rfl

end CommandKind

/-! ## The record of an object -/

namespace Command

/-- What stands in the fields that count: what the record of the command has there, and elsewhere
what was added. -/
structure Given (c : Command) (foreign : List (String × Json)) (f : Fields) : Prop where
  fit : f.Fit
  admits : ∀ m ∈ foreign, c.record.kind.Admits m
  lookup_eq : ∀ name, f.given.lookup name = (c.members.lookup name).or (foreign.lookup name)

/-- The members of an object that stands for a command, those with names of fields. -/
theorem MadeOf.exists_given {c : Command} {members : List (String × Json)}
    (h : c.MadeOf members) :
    ∃ foreign f, c.Given foreign f ∧
      Fields.of? CommandRecord.fieldNames 126 (Json.record members) = some f := by
  obtain ⟨hown, hforeign, hdistinct, hunknown, hperm⟩ := h
  rename_i own foreign unknown
  obtain rfl : own = c.members := Json.record_injective (hown.symm.trans c.toJson_record)
  -- the members of the record and the further fields stay, the others go
  have hstay : ∀ m ∈ c.members ++ foreign, CommandRecord.fieldNames.contains m.1 = true := by
    intro m hm
    rw [List.contains_iff_mem]
    rcases List.mem_append.mp hm with hm | hm
    · apply (fields_subset c.record.kind).subset
      rw [← c.names_members]
      exact List.mem_map_of_mem hm
    · exact (hforeign m hm).mem_fieldNames
  have hgo : ∀ m ∈ unknown, ¬ CommandRecord.fieldNames.contains m.1 = true := by
    intro m hm hcontains
    exact hunknown m hm (List.contains_iff_mem.mp hcontains)
  have hknown : (members.filter fun m => CommandRecord.fieldNames.contains m.1).Perm
      (c.members ++ foreign) := by
    refine (hperm.filter _).trans (.of_eq ?_)
    rw [List.filter_append, List.filter_eq_self.mpr hstay, List.filter_eq_nil_iff.mpr hgo,
      List.append_nil]
  have hnames : ((c.members ++ foreign).map Prod.fst).Nodup := by
    rw [List.map_append, c.names_members]
    refine List.Nodup.append ?_ hdistinct ?_
    · exact (fields_subset c.record.kind).nodup (by decide)
    · intro name hown' hname
      obtain ⟨m, hm, rfl⟩ := List.mem_map.mp hname
      exact (hforeign m hm).not_mem hown'
  have hnames' := (hknown.map Prod.fst).nodup_iff.mpr hnames
  refine ⟨foreign, ⟨126, _⟩, ⟨?_, hforeign, fun name => ?_⟩, Fields.of?_known hnames' 126⟩
  · intro m hm
    rcases List.mem_append.mp (hknown.mem_iff.mp hm) with hm | hm
    · obtain ⟨b, hb, hdepths⟩ := Json.depth_record_le_iff.mp
        (c.toJson_record ▸ c.record.depth_le)
      obtain rfl : b = 126 := (Nat.succ.inj hb).symm
      exact hdepths m hm
    · exact (hforeign m hm).depth_eq ▸ Nat.zero_le _
  · rw [lookup_perm hknown hnames', List.lookup_append]

variable {c : Command} {foreign : List (String × Json)} {f : Fields} {α : Type}

/-- A field that the command owns has the value of its record; any other field can be read. -/
theorem Given.exists_optional (h : c.Given foreign f) (name : String) {k : FieldKind}
    (hname : CommandRecord.optionalFields.lookup name = some k) {d : Decoder α}
    (htakes : ∀ doc, k.Takes doc → ∃ x, d f.budget doc = some x) {encode : α → Json}
    {o : Option α} (hown : c.members.lookup name = o.map encode)
    (hrestores : ∀ x ∈ o, Restores d (encode x) x) (hnull : d 0 .null = none) :
    ∃ o', f.optional name d = some o' ∧ (name ∈ c.record.kind.fields → o' = o) := by
  cases hf : foreign.lookup name with
  | none =>
    have hlookup : f.given.lookup name = o.map encode := by
      rw [h.lookup_eq, hf, hown, Option.or_none]
    exact ⟨o, h.fit.optional_eq name hlookup hrestores hnull, fun _ => rfl⟩
  | some doc =>
    obtain ⟨before, after, hforeign, -⟩ := List.lookup_eq_some_iff.mp hf
    obtain ⟨howned, k', hk', hdoc⟩ := h.admits (name, doc) (by simp [hforeign])
    obtain rfl : k' = k := Option.some.inj (hk'.symm.trans hname)
    cases o with
    | some x =>
      -- the record has the field, so the command owns it
      have hmem : name ∈ c.members.map Prod.fst := by
        obtain ⟨before, after, hmembers, -⟩ := List.lookup_eq_some_iff.mp hown
        simp [hmembers]
      rw [c.names_members, List.mem_cons] at hmem
      rcases hmem with rfl | hmem
      · cases hname
      · exact absurd hmem howned
    | none =>
      have hlookup : f.given.lookup name = some doc := by
        rw [h.lookup_eq, hf, hown]
        rfl
      have hread : ∃ o', f.optional name d = some o' := by
        rcases hdoc with rfl | hdoc
        · exact ⟨none, by rw [Fields.optional, hlookup]⟩
        · obtain ⟨x, hx⟩ := htakes doc hdoc
          rw [Fields.optional, hlookup]
          cases doc with
          | null => exact ⟨none, rfl⟩
          | _ => exact ⟨some x, by simp only [hx, Option.map_some]⟩
      obtain ⟨o', ho'⟩ := hread
      exact ⟨o', ho', fun hmem => absurd hmem howned⟩

/-- **An object that stands for a command is a record that stands for the command.** -/
theorem MadeOf.decode {members : List (String × Json)} (h : c.MadeOf members)
    (hc : c.record.Survives) :
    ∃ r : CommandRecord, decodeDocument (Json.record members) = some r ∧ r.command = c := by
  obtain ⟨foreign, f, hf, hof⟩ := h.exists_given
  -- what a field takes is read, whatever the budget of brackets
  have htext : ∀ doc, FieldKind.text.Takes doc → ∃ s, Decoder.text f.budget doc = some s := by
    rintro _ ⟨s, rfl⟩
    exact ⟨s, rfl⟩
  have hword : ∀ doc, FieldKind.word.Takes doc →
      ∃ n : Signed 32, Decoder.integer f.budget doc = some n := by
    rintro _ ⟨n, rfl⟩
    exact ⟨n, (restores_word n).decode_eq (Nat.zero_le _)⟩
  have hversion : ∀ doc, FieldKind.version.Takes doc →
      ∃ v, Decoder.single f.budget doc = some v := by
    rintro _ ⟨n, rfl, hn⟩
    exact Option.isSome_iff_exists.mp hn
  have hkind : f.required "command_type" Wire.decode = some c.record.kind := by
    refine hf.fit.required_eq "command_type" ?_ c.record.kind.restores
    rw [hf.lookup_eq]
    cases c <;> rfl
  obtain ⟨path, hpath, hpath'⟩ := hf.exists_optional "file_path" rfl htext
    (o := c.record.path) (by cases c <;> rfl) (fun s _ => .text s) rfl
  obtain ⟨cls, hcls, hcls'⟩ := hf.exists_optional "target_class" rfl hword
    (o := c.record.componentClass) (by cases c <;> rfl) (fun n _ => restores_word n) rfl
  obtain ⟨type, htype, htype'⟩ := hf.exists_optional "target_type" rfl hword
    (o := c.record.componentType) (by cases c <;> rfl) (fun n _ => restores_word n) rfl
  obtain ⟨version, hver, hver'⟩ := hf.exists_optional "target_version" rfl hversion
    (o := c.record.version) (by cases c <;> rfl) (fun v hv => .single (hc v hv)) rfl
  obtain ⟨name, hname, hname'⟩ := hf.exists_optional "module_name" rfl htext
    (o := c.record.moduleName) (by cases c <;> rfl) (fun s _ => .text s) rfl
  obtain ⟨status, hstatus, hstatus'⟩ := hf.exists_optional "status_type" rfl hword
    (o := c.record.status) (by cases c <;> rfl) (fun n _ => restores_word n) rfl
  obtain ⟨arg, harg, harg'⟩ := hf.exists_optional "arg" rfl htext
    (o := c.record.description) (by cases c <;> rfl) (fun s _ => .text s) rfl
  refine ⟨⟨c.record.kind, path, cls, type, version, name, status, arg⟩, ?_, ?_⟩
  · show (Fields.of? CommandRecord.fieldNames 126 (Json.record members)).bind _ = _
    rw [hof]
    simp only [Option.bind_eq_bind, Option.bind_some, hkind, hpath, hcls, htype, hver, hname,
      hstatus, harg]
    rfl
  · -- the command is made of the fields that its kind owns, and these are as in its record
    cases c with
    | exit => rfl
    | list => rfl
    | status kind =>
      have hmem : "status_type" ∈ CommandKind.status.fields := by decide
      rw [hstatus' hmem]
      rfl
    | call description =>
      have hmem : "arg" ∈ CommandKind.call.fields := by decide
      rw [harg' hmem]
      rfl
    | load r =>
      have hmem : ∀ name ∈ ["file_path", "target_class", "target_type", "target_version",
          "module_name"], name ∈ CommandKind.load.fields := fun _ h => h
      rw [hpath' (hmem _ (by decide)), hcls' (hmem _ (by decide)), htype' (hmem _ (by decide)),
        hver' (hmem _ (by decide)), hname' (hmem _ (by decide))]
      rfl

end Command

/-! ## Frames -/

/-- What a session does with a command: the answer, the end of the session if the command asks for
it, and the state that the command leaves. The answer is sent if the connection takes it. -/
def Session.afterCommand {β : Type} (service : ComponentService β) (settings : SessionSettings)
    (writable : Bool) (s : Session β) (c : Command) : Session β × Option Response × List Effect :=
  let answer := dispatch service settings s.state c
  let ending :=
    if ¬ writable then some (SessionEnd.failed .write)
    else if answer.proceeds then none
    else some .exited
  (⟨answer.state, s.commands + 1, ending⟩, if writable then some answer.response else none,
    answer.effects)

/-- **What a record says besides its command does not matter.** Take the members of the record of a
command, whose version survives being written and read; add fields that its kind does not own and
members that no record has, and put all in any order. An object of these is read from any texts of
its values, and every frame that holds it is a record of this command; so the answer, the end of the
session and the state after it are those of the command. -/
theorem Command.extended_frames (c : Command) (hc : c.record.Survives)
    {members : List (String × Json)} (h : c.MadeOf members) :
    (∀ texts, Json.Texts texts members →
      Json.readBytes (Utf8.bytes (Json.objectText texts)) = some (.record members)) ∧
    ∀ frame, Json.readBytes frame = some (.record members) →
      (∃ r : CommandRecord, decodeBytes frame = some r ∧ r.command = c) ∧
      ∀ (β : Type) (service : ComponentService β) (settings : SessionSettings) (writable : Bool)
        (s : Session β),
        s.advance service settings writable frame = s.afterCommand service settings writable c := by
  constructor
  · intro texts htexts
    rw [Json.readBytes_bytes]
    exact Json.readText_objectText htexts
  · intro frame hframe
    obtain ⟨r, hr, hcommand⟩ := h.decode hc
    have hdecode : (decodeBytes frame : Option CommandRecord) = some r := by
      rw [decodeBytes, hframe, Option.bind_some, hr]
    refine ⟨⟨r, hdecode, hcommand⟩, fun β service settings writable s => ?_⟩
    simp only [Session.advance, hdecode, hcommand]
    rfl

/-- A request to load in reverse, with the fields of two other commands and with nested members that
no record has: two of one name, and in each of them a text that stands for no characters. -/
theorem Command.extended_frames_reverse :
    let c := Command.load ⟨"/lib/a.so", ⟨4, by decide, by decide⟩, ⟨-7, by decide, by decide⟩,
      .ofRatio false 1 10, "a.b@1.0::\"I\""⟩
    let further : List (String × Json) := [("arg", .null), ("status_type", .ofInt 3)]
    let unknown : List (String × Json) :=
      [("x", .array [.text none, .array []]), ("x", .object [(none, .null)])]
    let texts := [("x", " \x7b\"\\ud800\":null\x7d"), ("x", "[ \"\\ud800\", [] ]"),
      ("status_type", "3"), ("arg", "null"), ("module_name", "\"a.b@1.0::\\u0022I\\\"\""),
      ("target_version", "0.1"), ("target_type", "-7"), ("target_class", "4"),
      ("file_path", "\"\\/lib/a.so\""), ("command_type", "\"LOAD_HAL\"")]
    c.record.Survives ∧ c.MadeOf (c.members ++ further ++ unknown).reverse ∧
      ∃ r : CommandRecord,
        decodeBytes (Utf8.bytes (Json.objectText texts)) = some r ∧ r.command = c := by
  intro c further unknown texts
  have hc : c.record.Survives := by
    rintro _ ⟨⟩
    rfl
  have hmembers : c.MadeOf (c.members ++ further ++ unknown).reverse := by
    refine .intro c.toJson_record ?_ (by decide) ?_ (List.reverse_perm _)
    · have harg : c.record.kind.Admits ("arg", .null) := ⟨by decide, .text, rfl, .inl rfl⟩
      have hstatus : c.record.kind.Admits ("status_type", .ofInt 3) :=
        ⟨by decide, .word, rfl, .inr ⟨⟨3, by decide, by decide⟩, rfl⟩⟩
      exact List.forall_mem_cons.mpr ⟨harg, List.forall_mem_singleton.mpr hstatus⟩
    · exact List.forall_mem_cons.mpr ⟨by decide, List.forall_mem_singleton.mpr (by decide)⟩
  have htexts : Json.Texts texts (c.members ++ further ++ unknown).reverse := by
    iterate 10 refine .cons ⟨rfl, rfl⟩ ?_
    exact .nil
  obtain ⟨hreads, hframes⟩ := extended_frames c hc hmembers
  exact ⟨hc, hmembers, (hframes _ (hreads texts htexts)).1⟩

end TargetBench
