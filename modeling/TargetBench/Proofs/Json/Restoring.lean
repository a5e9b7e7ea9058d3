import TargetBench.Json.Wire
import TargetBench.Proofs.Collection.Traversal
import TargetBench.Proofs.Json.Reading
import TargetBench.Proofs.Text.Trim

/-!
# Decoding what was encoded

A decoder restores a value from a document if it gives the value back whenever it may open as many
brackets as the document has. Records are restored field by field.

## Main definitions

* `Decoder.Restores`: a decoder that gives a value back
* `Json.Survives`: numbers that are the same after they were written and read

## Main results

* `Decoder.Restores.record`: a record is restored if its fields are
* `Decoder.Restores.decodeText_encodeText`: a value is restored from its text
-/

namespace TargetBench

/-- A decoder that gives a value back from a document, as long as it may open as many brackets as
the document has. -/
structure Decoder.Restores {α : Type} (d : Decoder α) (doc : Json) (x : α) : Prop where
  legible : doc.Legible
  decode_eq : ∀ {budget}, doc.depth ≤ budget → d budget doc = some x

namespace Json

/-- A number that is the same after it was written in a document and read back. -/
def Survives {α : Type} (d : Decoder α) (doc : Json) (x : α) : Prop :=
  (readText doc.compact).bind (d 0) = some x

/-- What has no numeral is written as null, and that is not read as a number. -/
theorem not_survives_of_numeral? {f : BinaryFormat} {layout : Layout} {x : Binary f}
    {d : Decoder (Binary f)} (hnull : d 0 .null = none) (hx : layout.numeral? x = none) :
    ¬Survives d (.ofBinary layout x) x := by
  intro h
  have hread : readText Json.null.compact = some .null := Legible.null.readText_compact
  rw [Survives, ofBinary, hx] at h
  simp only [hread, Option.bind_some, hnull] at h
  cases h

variable {α : Type} {d : Decoder α} {name : String} {names : List String}
  {members : List (String × Json)}

@[simp] theorem lookup_member (key name : String) (doc : Json) (members : List (String × Json)) :
    ((name, doc) :: members).lookup key = if key = name then some doc else members.lookup key := by
  by_cases h : key = name
  · simp [h]
  · simp [h, List.lookup_cons, beq_false_of_ne h]

@[simp] theorem lookup_optionalMember (key name : String) (encode : α → Json) (o : Option α) :
    (optionalMember name encode o).lookup key = if key = name then o.map encode else none := by
  cases o with
  | none => simp [optionalMember]
  | some x => rw [optionalMember, lookup_member, List.lookup_nil, Option.map_some]

/-- What holds of a member that may be left out holds of it if it is there. -/
theorem forall_mem_optionalMember_iff {P : String × Json → Prop} {encode : α → Json}
    {o : Option α} :
    (∀ m ∈ optionalMember name encode o, P m) ↔ ∀ x ∈ o, P (name, encode x) := by
  cases o <;> simp [optionalMember]

/-- Members with names from a list, in its order, of which a reader can hold every part. -/
structure Members (names : List String) (members : List (String × Json)) : Prop where
  sublist : (members.map Prod.fst).Sublist names
  legible : ∀ m ∈ members, m.2.Legible

theorem Members.nil : Members [] [] := ⟨.slnil, nofun⟩

theorem Members.cons {doc : Json} {x : α} (name : String) (hdoc : d.Restores doc x)
    (h : Members names members) : Members (name :: names) ((name, doc) :: members) :=
  ⟨h.sublist.cons_cons name, List.forall_mem_cons.mpr ⟨hdoc.legible, h.legible⟩⟩

theorem Members.append {names' : List String} {members' : List (String × Json)}
    (h : Members names members) (h' : Members names' members') :
    Members (names ++ names') (members ++ members') :=
  ⟨by rw [List.map_append]; exact h.sublist.append h'.sublist,
    List.forall_mem_append.mpr ⟨h.legible, h'.legible⟩⟩

theorem Members.optional {β : Type} {encode : β → Json} {value : β → α} {o : Option β}
    (name : String) (h : ∀ y ∈ o, d.Restores (encode y) (value y)) :
    Members [name] (optionalMember name encode o) := by
  cases o with
  | none => exact ⟨List.nil_sublist _, nofun⟩
  | some x => exact .cons name (h x rfl) .nil

theorem Legible.record (h : ∀ m ∈ members, Legible m.2) :
    Legible (Json.record members) := by
  refine .object ?_ ?_
  · rw [List.forall_mem_map]
    exact fun _ _ => rfl
  · rwa [List.forall_mem_map]

theorem depth_record_le_iff {budget : Nat} :
    (Json.record members).depth ≤ budget ↔
      ∃ b, budget = b + 1 ∧ ∀ m ∈ members, m.2.depth ≤ b := by
  simp only [Json.record, depth_object_le_iff, List.forall_mem_map]

theorem depth_ofBinary {f : BinaryFormat} (layout : Layout) (x : Binary f) :
    (ofBinary layout x).depth = 0 := by
  unfold ofBinary
  split <;> rfl

theorem record_injective : Function.Injective Json.record := by
  intro members members' h
  have hmap := Json.object.inj h
  refine List.map_injective_iff.mpr ?_ hmap
  rintro ⟨name, doc⟩ ⟨name', doc'⟩ hm
  cases hm
  rfl

end Json

namespace Fields

variable {α : Type} {f : Fields} {name : String} {d : Decoder α} {doc : Json} {x : α}

theorem given?_record (names : List String) (members : List (String × Json)) :
    given? names (Json.record members) =
      if ((members.filter fun m => names.contains m.1).map Prod.fst).Nodup then
        some (members.filter fun m => names.contains m.1)
      else none := by
  -- every member has a name
  have hnamed : (members.map fun m => (some m.1, m.2)).mapM
      (fun m : Quoted × Json => m.1.map (·, m.2)) = some members := by
    rw [mapM_eq_some_iff, List.map_map]
    rfl
  rw [Json.record, given?]
  generalize hgiven : (List.mapM _ _ : Option (List (String × Json))) = given
  obtain rfl := hgiven.symm.trans hnamed
  rfl

/-- Members whose names no field has are passed over. -/
theorem of?_known {names : List String} {members : List (String × Json)}
    (hdistinct : ((members.filter fun m => names.contains m.1).map Prod.fst).Nodup)
    (budget : Nat) :
    of? names budget (Json.record members) =
      some ⟨budget, members.filter fun m => names.contains m.1⟩ := by
  rw [of?, given?_record, if_pos hdistinct, Option.map_some]

/-- All members of a record are among its fields. -/
theorem of?_record {names : List String} {members : List (String × Json)}
    (hnames : (members.map Prod.fst).Sublist names) (hnodup : names.Nodup) (budget : Nat) :
    of? names budget (Json.record members) = some ⟨budget, members⟩ := by
  -- every name is known, and no name occurs twice
  have hknown : (members.filter fun m => names.contains m.1) = members := by
    rw [List.filter_eq_self]
    exact fun m hm => List.contains_iff_mem.mpr (hnames.subset (List.mem_map_of_mem hm))
  have h := of?_known (hknown.symm ▸ hnames.nodup hnodup) budget
  rwa [hknown] at h

/-- Fields whose values nest no deeper than they may. -/
def Fit (f : Fields) : Prop := ∀ m ∈ f.given, m.2.depth ≤ f.budget

theorem Fit.depth_le (hfit : f.Fit) (hlookup : f.given.lookup name = some doc) :
    doc.depth ≤ f.budget := by
  obtain ⟨before, after, hgiven, -⟩ := List.lookup_eq_some_iff.mp hlookup
  exact hfit (name, doc) (by simp [hgiven])

theorem required_of_lookup (name : String) (hlookup : f.given.lookup name = some doc)
    (h : d f.budget doc = some x) : f.required name d = some x := by
  rw [required, hlookup, Option.bind_some, h]

/-- A field that has to be there is restored. -/
theorem Fit.required_eq (hfit : f.Fit) (name : String) (hlookup : f.given.lookup name = some doc)
    (h : d.Restores doc x) : f.required name d = some x :=
  required_of_lookup name hlookup (h.decode_eq (hfit.depth_le hlookup))

/-- A field that has a default is restored. -/
theorem Fit.defaulted_eq (hfit : f.Fit) (name : String) (hlookup : f.given.lookup name = some doc)
    (h : d.Restores doc x) (default : α) : f.defaulted name d default = some x := by
  rw [defaulted, hlookup]
  exact h.decode_eq (hfit.depth_le hlookup)

/-- A field that may be left out is restored, if nothing is written as null. -/
theorem Fit.optional_map_eq {β : Type} (hfit : f.Fit) (name : String) {encode : β → Json}
    {value : β → α} {o : Option β} (hlookup : f.given.lookup name = o.map encode)
    (h : ∀ y ∈ o, d.Restores (encode y) (value y)) (hnull : d 0 .null = none) :
    f.optional name d = some (o.map value) := by
  cases o with
  | none =>
    rw [optional, hlookup]
    rfl
  | some y =>
    have hy := h y rfl
    have hdecode : d f.budget (encode y) = some (value y) := hy.decode_eq (hfit.depth_le hlookup)
    rw [optional, hlookup, Option.map_some]
    split
    · rename_i heq
      cases heq
    · -- a value that is written as null would be read from null
      rename_i heq
      rw [Option.some.inj heq] at hy
      exact absurd (hnull.symm.trans (hy.decode_eq (Nat.zero_le _))) nofun
    · rename_i heq
      rw [← Option.some.inj heq, hdecode]
      rfl

theorem Fit.optional_eq (hfit : f.Fit) (name : String) {encode : α → Json} {o : Option α}
    (hlookup : f.given.lookup name = o.map encode) (h : ∀ x ∈ o, d.Restores (encode x) x)
    (hnull : d 0 .null = none) : f.optional name d = some o := by
  have hvalue := hfit.optional_map_eq name hlookup h hnull
  rwa [Option.map_id'] at hvalue

end Fields

namespace Decoder.Restores

variable {α : Type} {d : Decoder α} {x : α}

theorem text (s : String) : Restores Decoder.text (.ofText s) s := ⟨.text s, fun _ => rfl⟩

theorem bool (b : Bool) : Restores Decoder.bool (.bool b) b := ⟨.bool b, fun _ => rfl⟩

/-- An integer that a word of 64 bits holds, with or without a sign, is written as what is read as
the integer. -/
theorem integer?_ofInt {n : Int} (hlo : -Int.pow 2 63 ≤ n) (hhi : n ≤ Int.pow 2 64 - 1) :
    (Numeral.ofInt n).integer? = some n := by
  have hword : (Nat.pow 2 63 : Int) = Int.pow 2 63 := by decide
  have hlimit : (Numeral.wordLimit : Int) = Int.pow 2 64 - 1 := by decide
  unfold Numeral.integer? Numeral.ofInt
  rw [if_pos ⟨rfl, rfl⟩]
  by_cases hneg : n < 0
  · have hwhole : ¬(n.natAbs = 0 ∨ Nat.pow 2 63 < n.natAbs) := by omega
    have hvalue : -(n.natAbs : Int) = n := by omega
    rw [if_pos (decide_eq_true hneg), if_neg hwhole, hvalue]
  · have hwhole : n.natAbs ≤ Numeral.wordLimit := by omega
    have hvalue : (n.natAbs : Int) = n := by omega
    rw [if_neg (mt of_decide_eq_true hneg), if_pos hwhole, hvalue]

/-- An integer of a width is restored, if a word of 64 bits holds all integers of the width. -/
theorem integer {lo hi : Int} (hlo : -Int.pow 2 63 ≤ lo) (hhi : hi ≤ Int.pow 2 64 - 1)
    (n : Bounded lo hi) : Restores Decoder.integer (.ofInt n.val) n := by
  have hread : (Numeral.ofInt n.val).integer? = some n.val :=
    integer?_ofInt (Int.le_trans hlo n.lo_le) (Int.le_trans n.le_hi hhi)
  refine ⟨.number ?_, fun _ => ?_⟩
  · rw [Json.holdsNumber, hread]
    rfl
  · simp only [Decoder.integer, Json.ofInt, hread, Option.bind_some, Bounded.ofInt?_val]

theorem enumeration {names : List (String × α)} {name : String} (h : names.lookup name = some x) :
    Restores (Decoder.enumeration names) (.ofText name) x := ⟨.text name, fun _ => h⟩

/-- A list is restored if its elements are, each from a document of its own. -/
theorem array {parts : List (α × Json)} (h : ∀ p ∈ parts, Restores d p.2 p.1) :
    Restores (Decoder.list d) (.array (parts.map Prod.snd)) (parts.map Prod.fst) := by
  refine ⟨.array (List.forall_mem_map.mpr fun p hp => (h p hp).legible), fun {budget} hdepth => ?_⟩
  obtain ⟨b, rfl, hitems⟩ := Json.depth_array_le_iff.mp hdepth
  rw [Decoder.list, mapM_eq_some_iff, List.map_map, List.map_map]
  exact List.map_congr_left fun p hp =>
    (h p hp).decode_eq (hitems _ (List.mem_map_of_mem hp))

theorem list {encode : α → Json} {xs : List α} (h : ∀ x ∈ xs, Restores d (encode x) x) :
    Restores (Decoder.list d) (.array (xs.map encode)) xs := by
  have hparts : ∀ p ∈ xs.map fun x => (x, encode x), Restores d p.2 p.1 :=
    List.forall_mem_map.mpr h
  simpa [Function.comp_def] using array hparts

/-- A reader of held documents restores what it would restore from any document. -/
theorem held {doc : Json} (h : Restores d doc x) : Restores (Decoder.held d) doc x :=
  ⟨h.legible, fun hdepth =>
    (if_pos (h.legible.sound_of_depth_le hdepth)).trans (h.decode_eq hdepth)⟩

/-- A record is restored if it can be built from its members. -/
theorem record {names : List String} {members : List (String × Json)} {build : Fields → Option α}
    (hmembers : Json.Members names members) (hnodup : names.Nodup)
    (hbuild : ∀ budget, Fields.Fit ⟨budget, members⟩ → build ⟨budget, members⟩ = some x) :
    Restores (Decoder.record names build) (Json.record members) x := by
  refine ⟨.record hmembers.legible, fun {budget} hdepth => ?_⟩
  obtain ⟨b, rfl, hfit⟩ := Json.depth_record_le_iff.mp hdepth
  rw [Decoder.record, Fields.of?_record hmembers.sublist hnodup]
  exact hbuild b hfit

/-- A number is restored if it survives. -/
theorem ofBinary {f : BinaryFormat} {layout : Layout} {x : Binary f} {d : Decoder (Binary f)}
    (number? : Numeral → Option (Binary f)) (hnumber : ∀ budget n, d budget (.number n) = number? n)
    (hnull : d 0 .null = none) (hholds : ∀ {n x}, number? n = some x → Json.holdsNumber n = true)
    (h : Json.Survives d (.ofBinary layout x) x) : Restores d (.ofBinary layout x) x := by
  cases hn : layout.numeral? x with
  | none => exact absurd h (Json.not_survives_of_numeral? hnull hn)
  | some n =>
    unfold Json.Survives at h
    unfold Json.ofBinary at h ⊢
    rw [hn] at h ⊢
    simp only [(Json.Lettered.number n).readText_compact, Option.bind_some, hnumber] at h
    exact ⟨.number (hholds h), fun _ => (hnumber _ n).trans h⟩

theorem double {x : Binary64} (h : Json.Survives Decoder.double (.ofDouble x) x) :
    Restores Decoder.double (.ofDouble x) x := by
  refine ofBinary Numeral.double? (fun _ _ => rfl) rfl (fun hn => ?_) h
  rw [Json.holdsNumber, hn, Option.isSome_some, Bool.or_true]

theorem single {x : Binary32} (h : Json.Survives Decoder.single (.ofSingle x) x) :
    Restores Decoder.single (.ofSingle x) x := by
  refine ofBinary Numeral.single? (fun _ _ => rfl) rfl (fun {n _} hn => ?_) h
  unfold Numeral.single? at hn
  unfold Json.holdsNumber
  cases hi : n.integer? with
  | some i => rfl
  | none =>
    rw [hi] at hn
    obtain ⟨y, hy, -⟩ := Option.map_eq_some_iff.mp hn
    rw [hy]
    rfl

end Decoder.Restores

/-! ## Texts -/

namespace Json

/-- The characters of words and numbers stand between the blank and the end of the ASCII range. -/
theorem toNat_of_isRunChar {c : Char} (h : isRunChar c = true) :
    0x20 < c.toNat ∧ c.toNat < 0x80 := by
  simp only [isRunChar, Bool.or_eq_true, decide_eq_true_eq] at h
  rcases h with ((h | rfl) | rfl) | rfl
  · -- a letter or digit is in one of three ranges
    have hranges : (decide (65 ≤ c.val ∧ c.val ≤ 90) ||
        (decide (97 ≤ c.val) && decide (c.val ≤ 122)) ||
        (decide (48 ≤ c.val) && decide (c.val ≤ 57))) = true := h
    simp only [Bool.or_eq_true, Bool.and_eq_true, decide_eq_true_eq,
      UInt32.le_iff_toNat_le] at hranges
    rcases hranges with (hrange | hrange) | hrange
    · exact ⟨hrange.1.trans_lt' (by decide), hrange.2.trans_lt (by decide)⟩
    · exact ⟨hrange.1.trans_lt' (by decide), hrange.2.trans_lt (by decide)⟩
    · exact ⟨hrange.1.trans_lt' (by decide), hrange.2.trans_lt (by decide)⟩
  all_goals decide

/-- No character of a word or number is a blank. -/
theorem isBlank_of_isRunChar {c : Char} (h : isRunChar c = true) : Text.isBlank c = false := by
  obtain ⟨hlow, hhigh⟩ := toNat_of_isRunChar h
  rw [Text.isBlank, List.any_eq_false]
  intro range hrange
  -- every range of blanks ends before these characters or begins after them
  have houtside : range.2 ≤ 0x20 ∨ 0x80 ≤ range.1 := by
    revert range
    decide
  simp only [Bool.and_eq_true, decide_eq_true_eq, not_and]
  omega

theorem exists_itemsChars_eq (items : List Json) : ∃ cs, itemsChars items = cs ++ [']'] := by
  induction items with
  | nil => exact ⟨[], rfl⟩
  | cons x xs ih =>
    obtain ⟨cs, hcs⟩ := ih
    exact ⟨_, by rw [itemsChars, hcs, ← List.append_assoc]⟩

theorem exists_membersChars_eq (members : List (Quoted × Json)) :
    ∃ cs, membersChars members = cs ++ ['}'] := by
  induction members with
  | nil => exact ⟨[], rfl⟩
  | cons m ms ih =>
    obtain ⟨cs, hcs⟩ := ih
    exact ⟨_, by rw [membersChars, hcs, ← List.append_assoc]⟩

/-- There is nothing to trim from the text of a document. -/
theorem trim_compact (doc : Json) : Text.trim doc.compact = doc.compact := by
  rw [Text.trim, compact, String.toList_ofList]
  refine congrArg String.ofList ?_
  cases doc with
  | null => decide
  | bool b => cases b <;> decide
  | number n =>
    exact Text.trimChars_eq_self_of_forall fun c hc =>
      isBlank_of_isRunChar (Lexer.isRunChar_of_mem_chars hc)
  | text q => exact Text.trimChars_eq_self (by decide) (by decide) _
  | array items =>
    cases items with
    | nil => decide
    | cons x xs =>
      obtain ⟨cs, hcs⟩ := exists_itemsChars_eq xs
      rw [chars, hcs, ← List.append_assoc, List.cons_append]
      exact Text.trimChars_eq_self (by decide) (by decide) _
  | object members =>
    cases members with
    | nil => decide
    | cons m ms =>
      obtain ⟨cs, hcs⟩ := exists_membersChars_eq ms
      rw [chars, hcs, ← List.append_assoc, List.cons_append, List.cons_append]
      exact Text.trimChars_eq_self (by decide) (by decide) _

end Json

section Texts

variable {α : Type} [Wire α] {x : α} {doc : Json}

/-- A text is decoded as the document that it is read as, blanks at its ends aside. -/
theorem decodeText_of_readText {s : String} (h : Json.readText (Text.trim s) = some doc) :
    decodeText s = match (decodeDocument doc : Option α) with
      | some x => .ok x
      | none => .error .malformed := by
  have hne : (Text.trim s).isEmpty = false := by
    refine Bool.eq_false_iff.mpr fun hempty => ?_
    rw [String.isEmpty_iff.mp hempty] at h
    cases h
  rw [decodeText, h]
  exact if_neg (ne_true_of_eq_false hne)

/-- A value is restored from every text of a document that it is restored from. -/
theorem Decoder.Restores.decodeText_eq (h : Decoder.Restores Wire.decode doc x)
    (hdepth : doc.depth ≤ nestingLimit) {s : String}
    (hread : Json.readText (Text.trim s) = some doc) : decodeText s = .ok x := by
  rw [decodeText_of_readText hread, decodeDocument, h.decode_eq hdepth]

theorem Decoder.Restores.decodeText_compact (h : Decoder.Restores Wire.decode doc x)
    (hdepth : doc.depth ≤ nestingLimit) : decodeText doc.compact = .ok x :=
  h.decodeText_eq hdepth (by rw [doc.trim_compact, h.legible.readText_compact])

/-- A value is restored from its text. -/
theorem decodeText_encodeText (h : Decoder.Restores Wire.decode (Wire.toJson x) x)
    (hdepth : (Wire.toJson x).depth ≤ nestingLimit) : decodeText (encodeText x) = .ok x :=
  h.decodeText_compact hdepth

/-- A value is restored from the bytes of its text. -/
theorem decodeBytes_encodeText (h : Decoder.Restores Wire.decode (Wire.toJson x) x)
    (hdepth : (Wire.toJson x).depth ≤ nestingLimit) :
    decodeBytes (Utf8.bytes (encodeText x)) = some x := by
  rw [decodeBytes, Json.readBytes_bytes, encodeText, h.legible.readText_compact, Option.bind_some,
    decodeDocument, h.decode_eq hdepth]

end Texts

end TargetBench
