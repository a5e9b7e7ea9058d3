import TargetBench.Configuration.Flag
import TargetBench.Proofs.Collection.Keyed
import TargetBench.Proofs.Json.Restoring

/-!
# Spellings of modes

A mode is chosen by its name. A flag takes the name in either case, a settings file and a variable
take it exactly, so a spelling with a capital letter chooses a mode on the command line only. The
two ways to read a name agree on all other spellings.

## Main definitions

* `Mode.Named`: modes that are known by their names
* `Mode.Spelling`: how a flag and a document read a spelling of a mode

## Main results

* `Mode.Named.parse?_eq_some_iff`, `Mode.Named.lookup_eq_some_iff`: what each way takes for a mode
* `Mode.spellings_read`: where the two ways agree
-/

namespace TargetBench

namespace Mode

variable {α : Type} [Mode α]

/-- Modes that are known by their names: the names are distinct, each stands for the mode that has
it, and all are in lower case. -/
structure Named (α : Type) [Mode α] : Prop where
  distinct : ((names : List (String × α)).map Prod.fst).Nodup
  mem_iff : ∀ (s : String) (m : α), (s, m) ∈ (names : List (String × α)) ↔ s = name m
  lower : ∀ m : α, lowerCase (name m) = name m

theorem named_isolation : Named Isolation where
  distinct := by decide
  mem_iff s m := by cases m <;> simp [names, name]
  lower m := by cases m <;> decide

theorem named_logFormat : Named LogFormat where
  distinct := by decide
  mem_iff s m := by cases m <;> simp [names, name]
  lower m := by cases m <;> decide

namespace Named

variable {s : String} {m : α}

theorem lookup_eq_some_iff (h : Named α) :
    (names : List (String × α)).lookup s = some m ↔ s = name m := by
  rw [lookup_eq_some_iff_mem h.distinct, h.mem_iff]

/-- A person names a mode by every spelling that is its name in lower case. -/
theorem parse?_eq_some_iff (h : Named α) : parse? s = some m ↔ lowerCase s = name m :=
  h.lookup_eq_some_iff

theorem eq_of_name_eq (h : Named α) {m' : α} (hname : name m = name m') : m = m' := by
  have hm : (names : List (String × α)).lookup (name m) = some m := h.lookup_eq_some_iff.mpr rfl
  have hm' : (names : List (String × α)).lookup (name m) = some m' :=
    h.lookup_eq_some_iff.mpr hname
  exact Option.some.inj (hm.symm.trans hm')

/-- Both ways to read a name agree exactly on what names no mode and on what is in lower case. -/
theorem agree_iff (h : Named α) :
    (∀ m : α, parse? s = some m ↔ (names : List (String × α)).lookup s = some m) ↔
      (parse? s : Option α) = none ∨ lowerCase s = s := by
  simp only [h.parse?_eq_some_iff, h.lookup_eq_some_iff]
  constructor
  · intro hagree
    cases hparse : (parse? s : Option α) with
    | none => exact .inl rfl
    | some m =>
      -- the spelling is the name itself, which is in lower case
      have hlower := h.parse?_eq_some_iff.mp hparse
      rw [← (hagree m).mp hlower] at hlower
      exact .inr hlower
  · rintro (hnone | hlower) m
    · have hparse : lowerCase s ≠ name m := by
        rw [Ne, ← h.parse?_eq_some_iff, hnone]
        nofun
      refine iff_of_false hparse ?_
      rintro rfl
      exact hparse (h.lower m)
    · rw [hlower]

end Named

/-! ## Layers -/

/-- How a spelling of a mode is read: by the flag, which takes it as a person writes it, and in the
field of a configuration's document, which a settings file or a variable gives. -/
structure Spelling (α : Type) [Mode α] [Wire α] (flag : Flag) (field : String)
    (setting : Configuration → α) (s : String) : Prop where
  /-- A person may write a name in either case. -/
  parse_iff : ∀ m : α, parse? s = some m ↔ lowerCase s = name m
  /-- A document holds a name exactly. -/
  decode_iff : ∀ (budget : Nat) (m : α), Wire.decode budget (.ofText s) = some m ↔ s = name m
  /-- The two ways agree on a spelling exactly if it names no mode or has no capital letter. -/
  agree_iff : ∀ budget : Nat,
    (∀ m : α, parse? s = some m ↔ Wire.decode budget (.ofText s) = some m) ↔
      (parse? s : Option α) = none ∨ lowerCase s = s
  /-- The flag sets a mode that a person names. -/
  flag_iff : ∀ m : α, Flag.setting? flag s = some [(field, Wire.toJson m)] ↔ lowerCase s = name m
  /-- A document sets a mode that it names exactly. -/
  document_iff : ∀ (standard : Configuration) (m : α),
    (∃ c, Configuration.decode standard nestingLimit (.record [(field, .ofText s)]) = some c ∧
      setting c = m) ↔ s = name m

/-- What is known of the names of modes tells how a spelling is read. -/
theorem Named.spelling (h : Named α) [Wire α] {flag : Flag} {field : String}
    {setting : Configuration → α} {s : String}
    (hjson : ∀ m : α, Wire.toJson m = .ofText (name m))
    (hdecode : ∀ budget : Nat, (Wire.decode budget (.ofText s) : Option α) = names.lookup s)
    (hflag : Flag.setting? flag s = (parse? s : Option α).map fun m => [(field, Wire.toJson m)])
    (hdocument : ∀ standard : Configuration, ∃ change : α → Configuration,
      Configuration.decode standard nestingLimit (.record [(field, .ofText s)]) =
        (names.lookup s).map change ∧ ∀ m, setting (change m) = m) :
    Spelling α flag field setting s where
  parse_iff _ := h.parse?_eq_some_iff
  decode_iff budget m := by rw [hdecode, h.lookup_eq_some_iff]
  agree_iff budget := by
    simp only [hdecode]
    exact h.agree_iff
  flag_iff m := by
    rw [hflag, Option.map_eq_some_iff, ← h.parse?_eq_some_iff]
    constructor
    · rintro ⟨m', hm', hsame⟩
      have hdoc : (Wire.toJson m' : Json) = Wire.toJson m := by simpa using hsame
      rw [hjson, hjson] at hdoc
      cases h.eq_of_name_eq (Option.some.inj (Json.text.inj hdoc))
      exact hm'
    · exact fun hm => ⟨m, hm, rfl⟩
  document_iff standard m := by
    obtain ⟨change, hdoc, hsetting⟩ := hdocument standard
    rw [hdoc, ← h.lookup_eq_some_iff]
    constructor
    · rintro ⟨c, hc, rfl⟩
      obtain ⟨m, hm, rfl⟩ := Option.map_eq_some_iff.mp hc
      rw [hm, hsetting]
    · intro hm
      exact ⟨change m, by rw [hm, Option.map_some], hsetting m⟩

/-- A document of one field gives a configuration this field and no other. -/
theorem of?_single {field : String} (h : field ∈ Configuration.fieldNames) (budget : Nat)
    (doc : Json) :
    Fields.of? Configuration.fieldNames budget (.record [(field, doc)]) =
      some ⟨budget, [(field, doc)]⟩ := by
  have hsub : ([(field, doc)].map Prod.fst).Sublist Configuration.fieldNames :=
    List.singleton_sublist.mpr h
  exact Fields.of?_record hsub (by decide) budget

/-- A document that gives the field of a mode and nothing else decides on the modes only. No path of
a socket for notifications is given, so there is none. -/
theorem decode_mode (standard : Configuration) {field : String}
    (hfield : field = "log_format" ∨ field = "isolation") (doc : Json) :
    Configuration.decode standard nestingLimit (.record [(field, doc)]) = do
      let f : Fields := ⟨126, [(field, doc)]⟩
      let logFormat ← f.defaulted "log_format" Wire.decode standard.logFormat
      let isolation ← f.defaulted "isolation" Wire.decode standard.isolation
      return { standard with logFormat, isolation, callbackSocket := none } := by
  have hknown : field ∈ Configuration.fieldNames := by
    rcases hfield with rfl | rfl <;> decide
  -- all other fields are missing
  have hmissing (name : String) (hlog : name ≠ "log_format") (hisolation : name ≠ "isolation") :
      [(field, doc)].lookup name = none := by
    have hne : name ≠ field := by
      rcases hfield with rfl | rfl
      · exact hlog
      · exact hisolation
    rw [Json.lookup_member, if_neg hne, List.lookup_nil]
  have hstandard {β : Type} (name : String) (d : Decoder β) (default : β)
      (hlog : name ≠ "log_format") (hisolation : name ≠ "isolation") :
      Fields.defaulted ⟨126, [(field, doc)]⟩ name d default = some default := by
    rw [Fields.defaulted, hmissing name hlog hisolation]
  have hnotify : Fields.optional ⟨126, [(field, doc)]⟩ "callback_socket" .text = some none := by
    rw [Fields.optional, hmissing _ (by decide) (by decide)]
  simp [Configuration.decode, Decoder.record, nestingLimit, of?_single hknown, hstandard, hnotify]

/-- **A mode's name may be written in either case on the command line, and nowhere else.** The two
ways to read a name agree on a spelling exactly if it names no mode or has no capital letter. -/
theorem spellings_read (s : String) :
    Spelling Isolation .isolation "isolation" Configuration.isolation s ∧
      Spelling LogFormat .logFormat "log_format" Configuration.logFormat s := by
  constructor
  · refine named_isolation.spelling (fun _ => rfl) (fun _ => rfl) rfl fun standard => ?_
    refine ⟨fun m => { standard with isolation := m, callbackSocket := none }, ?_, fun _ => rfl⟩
    rw [decode_mode standard (.inr rfl), Option.map_eq_bind]
    rfl
  · refine named_logFormat.spelling (fun _ => rfl) (fun _ => rfl) rfl fun standard => ?_
    refine ⟨fun m => { standard with logFormat := m, callbackSocket := none }, ?_, fun _ => rfl⟩
    rw [decode_mode standard (.inl rfl), Option.map_eq_bind]
    rfl

example : (parse? "Thread" : Option Isolation) = some .thread ∧
    (Wire.decode 0 (.ofText "Thread") : Option Isolation) = none := by decide

end Mode

end TargetBench
