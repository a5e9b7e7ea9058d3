import Std.Data.HashMap.Lemmas
import TargetBench.Proofs.Collection.Keyed
import TargetBench.Proofs.Driver.Comparison

/-!
# Registration

How a table comes from the functions and attributes that are registered with it, in any order and
under any names. The interface lists each name once, at the place of its last registration, and what
was registered last under a name is what answers for it. What the interface listed before the first
registration does not count.

The same holds of a table in parts: the interface with its two lists, and beside it one map from the
names of functions and one from those of attributes. Registration changes a list and a map each
time, and they never come apart.

## Main definitions

* `Registration`: a function or an attribute that is registered
* `FunctionTable.registered`: the table of an interface after registrations
* `Driver.Answers`, `Driver.Shows`: what a driver makes of the name of a function, or an attribute
* `Catalogue`: a table in parts

## Main results

* `FunctionTable.functions_registered`, `FunctionTable.attributes_registered`: the two lists of a
  table do not interfere
* `Catalogue.Keeps.register`: registration keeps the parts together
* `Driver.madeBy_registered`: what registrations make of a driver
-/

namespace TargetBench

variable {δ : Type}

abbrev FunctionEntry.name (e : FunctionEntry δ) : String := e.signature.name

abbrev AttributeEntry.name (e : AttributeEntry δ) : String := e.declaration.name

/-- What is registered: a function, with or without a comparison of its own, or an attribute. -/
inductive Registration (δ : Type) where
  | ofFunction (entry : FunctionEntry δ)
  | ofAttribute (entry : AttributeEntry δ)

namespace Registration

def function? : Registration δ → Option (FunctionEntry δ)
  | ofFunction e => some e
  | ofAttribute _ => none

def attribute? : Registration δ → Option (AttributeEntry δ)
  | ofFunction _ => none
  | ofAttribute e => some e

/-- The function that was registered last under a name. -/
def lastFunction? (rs : List (Registration δ)) (name : String) : Option (FunctionEntry δ) :=
  (rs.filterMap function?).reverse.find? (·.name = name)

def lastAttribute? (rs : List (Registration δ)) (name : String) : Option (AttributeEntry δ) :=
  (rs.filterMap attribute?).reverse.find? (·.name = name)

end Registration

/-! ## Tables -/

namespace FunctionTable

def register (t : FunctionTable δ) : Registration δ → FunctionTable δ
  | .ofFunction e => t.addFunction e.signature e.handler e.verifier
  | .ofAttribute e => t.addAttribute e.declaration e.getter

variable {t : FunctionTable δ}

/-! ### One registration -/

theorem interface_register_ofFunction (e : FunctionEntry δ) :
    (t.register (.ofFunction e)).interface = { t.interface with
      functions := put Signature.name t.interface.functions e.signature } := by
  have hlist : (put FunctionEntry.name t.functions e).map FunctionEntry.signature =
      put Signature.name (t.functions.map FunctionEntry.signature) e.signature :=
    map_put fun _ => rfl
  exact congrArg (fun l => { t.interface with functions := l }) hlist

theorem interface_register_ofAttribute (e : AttributeEntry δ) :
    (t.register (.ofAttribute e)).interface = { t.interface with
      attributes := put Attribute.name t.interface.attributes e.declaration } := by
  have hlist : (put AttributeEntry.name t.attributes e).map AttributeEntry.declaration =
      put Attribute.name (t.attributes.map AttributeEntry.declaration) e.declaration :=
    map_put fun _ => rfl
  exact congrArg (fun l => { t.interface with attributes := l }) hlist

theorem function?_register_ofFunction (e : FunctionEntry δ) (name : String) :
    (t.register (.ofFunction e)).function? name =
      if e.name = name then some e else t.function? name :=
  find?_put name

theorem attribute?_register_ofAttribute (e : AttributeEntry δ) (name : String) :
    (t.register (.ofAttribute e)).attribute? name =
      if e.name = name then some e else t.attribute? name :=
  find?_put name

/-! ### All registrations -/

/-- The table of an interface after registrations. -/
def registered (identity : Interface) (rs : List (Registration δ)) : FunctionTable δ :=
  rs.foldl register (empty identity)

variable {i : Interface} {rs : List (Registration δ)}

theorem identity_registered : (registered i rs).identity = i := by
  induction rs using List.reverseRecOn with
  | nil => rfl
  | append_singleton rs r ih =>
    rw [registered, List.foldl_append]
    cases r <;> exact ih

/-- Attributes that are registered do not count for the functions of a table. -/
theorem functions_registered : (registered i rs).functions =
    (rs.filterMap Registration.function?).foldl (put FunctionEntry.name) [] := by
  -- each registration acts on the functions as it would without the rest of the table
  rw [List.foldl_filterMap]
  exact (List.foldl_hom FunctionTable.functions fun t r => by cases r <;> rfl).symm

theorem attributes_registered : (registered i rs).attributes =
    (rs.filterMap Registration.attribute?).foldl (put AttributeEntry.name) [] := by
  rw [List.foldl_filterMap]
  exact (List.foldl_hom FunctionTable.attributes fun t r => by cases r <;> rfl).symm

theorem function?_registered (name : String) :
    (registered i rs).function? name = Registration.lastFunction? rs name := by
  rw [function?, functions_registered]
  exact find?_foldl_put _ name

theorem attribute?_registered (name : String) :
    (registered i rs).attribute? name = Registration.lastAttribute? rs name := by
  rw [attribute?, attributes_registered]
  exact find?_foldl_put _ name

/-- A function is found under the names that the interface lists. -/
theorem isSome_function?_iff (t : FunctionTable δ) (name : String) :
    (t.function? name).isSome = true ↔ name ∈ t.interface.functions.map Signature.name := by
  simp [function?, interface]

theorem isSome_attribute?_iff (t : FunctionTable δ) (name : String) :
    (t.attribute? name).isSome = true ↔ name ∈ t.interface.attributes.map Attribute.name := by
  simp [attribute?, interface]

/-- The interface lists under a name the declaration of the function that is found. -/
theorem find?_interface_functions (t : FunctionTable δ) (name : String) :
    t.interface.functions.find? (·.name = name) =
      (t.function? name).map FunctionEntry.signature := by
  rw [interface, List.find?_map]
  rfl

theorem find?_interface_attributes (t : FunctionTable δ) (name : String) :
    t.interface.attributes.find? (·.name = name) =
      (t.attribute? name).map AttributeEntry.declaration := by
  rw [interface, List.find?_map]
  rfl

end FunctionTable

/-! ## Tables in parts -/

/-- A table in parts: the interface, and maps from the names of functions and attributes. -/
structure Catalogue (δ : Type) where
  interface : Interface
  functions : Std.HashMap String (FunctionEntry δ)
  getters : Std.HashMap String (δ → Value)

namespace Catalogue

/-- The catalogue of an interface, of which only the identity counts. -/
def empty (identity : Interface) : Catalogue δ :=
  ⟨{ identity with functions := [], attributes := [] }, ∅, ∅⟩

/-- Adds what is registered, to a list and to a map. -/
def register (k : Catalogue δ) : Registration δ → Catalogue δ
  | .ofFunction e => { k with
      interface := { k.interface with
        functions := put Signature.name k.interface.functions e.signature }
      functions := k.functions.insert e.name e }
  | .ofAttribute e => { k with
      interface := { k.interface with
        attributes := put Attribute.name k.interface.attributes e.declaration }
      getters := k.getters.insert e.name e.getter }

/-- A catalogue holds what a table holds. -/
structure Keeps (k : Catalogue δ) (t : FunctionTable δ) : Prop where
  interface : k.interface = t.interface
  function : ∀ name : String, k.functions[name]? = t.function? name
  getter : ∀ name : String, k.getters[name]? = (t.attribute? name).map AttributeEntry.getter
  size : k.functions.size = t.size

theorem keeps_empty (identity : Interface) :
    (empty identity : Catalogue δ).Keeps (.empty identity) :=
  ⟨rfl, fun _ => Std.HashMap.getElem?_empty, fun _ => Std.HashMap.getElem?_empty,
    Std.HashMap.size_empty⟩

/-- Registration keeps the parts of a catalogue together, if the table names no function twice. -/
theorem Keeps.register {k : Catalogue δ} {t : FunctionTable δ} (h : k.Keeps t)
    (ht : (t.functions.map FunctionEntry.name).Nodup) (r : Registration δ) :
    (k.register r).Keeps (t.register r) := by
  cases r with
  | ofFunction e =>
    refine ⟨?_, fun name => ?_, h.getter, ?_⟩
    · rw [Catalogue.register, FunctionTable.interface_register_ofFunction, h.interface]
    · rw [Catalogue.register, Std.HashMap.getElem?_insert, h.function,
        FunctionTable.function?_register_ofFunction]
      simp only [beq_iff_eq]
    · -- a name is in the map if the table has it, so both grow or neither does
      have hmem : e.name ∈ k.functions ↔ e.name ∈ t.functions.map FunctionEntry.name := by
        rw [Std.HashMap.mem_iff_isSome_getElem?, h.function, FunctionTable.isSome_function?_iff,
          FunctionTable.interface, List.map_map]
        rfl
      rw [Catalogue.register, Std.HashMap.size_insert, h.size]
      simp only [hmem]
      exact (length_put ht).symm
  | ofAttribute e =>
    refine ⟨?_, h.function, fun name => ?_, h.size⟩
    · rw [Catalogue.register, FunctionTable.interface_register_ofAttribute, h.interface]
    · rw [Catalogue.register, Std.HashMap.getElem?_insert, h.getter,
        FunctionTable.attribute?_register_ofAttribute]
      by_cases hname : e.name = name <;> simp [hname]

/-- A catalogue and a table in which the same is registered hold the same. -/
theorem keeps_registered (i : Interface) (rs : List (Registration δ)) :
    (rs.foldl Catalogue.register (.empty i)).Keeps (.registered i rs) := by
  -- the induction is on the last registration, as the names before it are the last occurrences
  induction rs using List.reverseRecOn with
  | nil => exact keeps_empty i
  | append_singleton rs r ih =>
    have hnodup : ((FunctionTable.registered i rs).functions.map FunctionEntry.name).Nodup := by
      rw [FunctionTable.functions_registered, map_foldl_put]
      exact List.nodup_dedup _
    rw [FunctionTable.registered, List.foldl_append, List.foldl_append]
    exact ih.register hnodup r

end Catalogue

/-! ## Drivers -/

namespace Driver

/-- What a driver makes of the name of a function. It lists no such function, and neither calls nor
compares one; or it lists the declaration of a function, checks arguments against it and leaves the
rest to the function and its comparison. -/
inductive Answers (d : Driver δ) (name : String) : Option (FunctionEntry δ) → Prop where
  | unknown (listed : name ∉ d.interface.functions.map Signature.name)
      (call : ∀ c channel, c.name = name →
        d.call c channel = ⟨.error (.notFound name), d.state, []⟩)
      (verify : ∀ expected actual,
        d.verify ⟨name, expected⟩ actual = .error (.unknownFunction name)) :
      Answers d name none
  | known (e : FunctionEntry δ)
      (listed : d.interface.functions.find? (·.name = name) = some e.signature)
      (unfit : ∀ c channel source, c.name = name → e.signature.check c.args = .error source →
        d.call c channel = ⟨.error (.arguments name source), d.state, []⟩)
      (fit : ∀ c channel, c.name = name → e.signature.Fits c.args →
        let outcome := e.handler d.state ⟨c.args⟩ channel
        d.call c channel =
          { outcome with result := outcome.result.bind (checkResults e.signature name) })
      (verify : ∀ expected actual, d.verify ⟨name, expected⟩ actual = (do
        compareCounts expected actual
        e.compare expected actual)) :
      Answers d name (some e)

/-- What a driver makes of the name of an attribute: it lists and reads none, or lists a declaration
and reads what the getter gets. -/
inductive Shows (d : Driver δ) (name : String) : Option (AttributeEntry δ) → Prop where
  | unknown (listed : name ∉ d.interface.attributes.map Attribute.name)
      (read : d.readAttribute name = .error (.attributeNotFound name)) : Shows d name none
  | known (e : AttributeEntry δ)
      (listed : d.interface.attributes.find? (·.name = name) = some e.declaration)
      (read : d.readAttribute name = .ok (e.getter d.state)) : Shows d name (some e)

theorem answers (d : Driver δ) (name : String) : d.Answers name (d.table.function? name) := by
  have hlisted := d.table.find?_interface_functions name
  cases hentry : d.table.function? name with
  | none =>
    refine .unknown ?_ ?_ fun expected actual => by rw [verify, hentry]
    · rw [interface, ← FunctionTable.isSome_function?_iff, hentry]
      exact Bool.false_ne_true
    · rintro c channel rfl
      exact call_of_refuses (.notFound (FunctionTable.function?_eq_none_iff.mp hentry)) channel
  | some e =>
    rw [hentry] at hlisted
    refine .known e hlisted ?_ ?_ fun expected actual => by rw [verify, hentry]; rfl
    · rintro c channel source rfl hunfit
      exact call_of_refuses (FunctionTable.refuses_of_check hentry hunfit) channel
    · rintro c channel rfl hfits
      exact call_of_runs ⟨hentry, hfits⟩ channel

theorem shows (d : Driver δ) (name : String) : d.Shows name (d.table.attribute? name) := by
  have hlisted := d.table.find?_interface_attributes name
  cases hentry : d.table.attribute? name with
  | none =>
    refine .unknown ?_ (by rw [readAttribute, hentry])
    rw [interface, ← FunctionTable.isSome_attribute?_iff, hentry]
    exact Bool.false_ne_true
  | some e =>
    rw [hentry] at hlisted
    exact .known e hlisted (by rw [readAttribute, hentry])

section

variable {d : Driver δ} {name : String}

/-- A listed function can be called: with too many arguments, it is found to be there. -/
theorem Answers.callable {entry : Option (FunctionEntry δ)} (h : d.Answers name entry) :
    name ∈ d.interface.functions.map Signature.name ↔ ∃ args channel,
      (d.call (.ofFunction name args) channel).result ≠ .error (.notFound name) := by
  cases h with
  | unknown hlisted hcall _ =>
    refine iff_of_false hlisted ?_
    rintro ⟨args, channel, hfound⟩
    exact hfound (congrArg Outcome.result (hcall (.ofFunction name args) channel rfl))
  | known e hlisted hunfit _ _ =>
    -- one argument more than declared, whatever the types
    let args : List Value := List.replicate (e.signature.args.length + 1) (.text "")
    have hcheck : e.signature.check args = .error (.count e.signature.args.length args.length) :=
      if_pos (by simp [args])
    refine iff_of_true (mem_map_of_find? hlisted) ⟨args, .disconnected, ?_⟩
    rw [hunfit (.ofFunction name args) _ _ rfl hcheck]
    nofun

/-- A call is of no function, unless the function that it calls says so itself. -/
theorem Answers.notFound_iff {c : Call} {entry : Option (FunctionEntry δ)}
    (h : d.Answers c.name entry) (channel : CallbackChannel) (n : String) :
    (d.call c channel).result = .error (.notFound n) ↔
      (c.name ∉ d.interface.functions.map Signature.name ∧ n = c.name) ∨
        ∃ e, entry = some e ∧ e.signature.Fits c.args ∧
          (e.handler d.state ⟨c.args⟩ channel).result = .error (.notFound n) := by
  cases h with
  | unknown hlisted hcall _ =>
    rw [hcall c channel rfl, Except.error.injEq, InvokeError.notFound.injEq]
    constructor
    · rintro rfl
      exact .inl ⟨hlisted, rfl⟩
    · rintro (⟨-, hn⟩ | ⟨e, ⟨⟩, -⟩)
      exact hn.symm
  | known e hlisted hunfit hfit _ =>
    have hname : c.name ∈ d.interface.functions.map Signature.name := mem_map_of_find? hlisted
    cases hcheck : e.signature.check c.args with
    | error source =>
      -- arguments that do not fit are an error of another kind
      rw [hunfit c channel source rfl hcheck]
      refine iff_of_false nofun ?_
      rintro (⟨hnot, -⟩ | ⟨_, ⟨⟩, hfits, -⟩)
      · exact hnot hname
      · rw [Signature.check_eq_ok_iff.mpr hfits] at hcheck
        cases hcheck
    | ok _ =>
      -- otherwise the function answers, and only its own answer can be this error
      have hfits : e.signature.Fits c.args := Signature.check_eq_ok_iff.mp hcheck
      rw [hfit c channel rfl hfits, bind_checkResults_eq_error_iff]
      constructor
      · rintro (h | ⟨results, -, -, ⟨⟩⟩)
        exact .inr ⟨e, rfl, hfits, h⟩
      · rintro (⟨hnot, -⟩ | ⟨_, ⟨⟩, -, h⟩)
        · exact absurd hname hnot
        · exact .inl h

theorem Shows.readable {entry : Option (AttributeEntry δ)} (h : d.Shows name entry) :
    name ∈ d.interface.attributes.map Attribute.name ↔
      d.readAttribute name ≠ .error (.attributeNotFound name) := by
  cases h with
  | unknown hlisted hread => exact iff_of_false hlisted fun h => h hread
  | known e hlisted hread =>
    rw [hread]
    exact iff_of_true (mem_map_of_find? hlisted) nofun

end

/-- What registrations with the table of an interface make of a driver. -/
structure MadeBy (d : Driver δ) (i : Interface) (rs : List (Registration δ)) : Prop where
  functions : d.interface.functions.map Signature.name =
    ((rs.filterMap Registration.function?).map FunctionEntry.name).dedup
  attributes : d.interface.attributes.map Attribute.name =
    ((rs.filterMap Registration.attribute?).map AttributeEntry.name).dedup
  identity : { d.interface with functions := i.functions, attributes := i.attributes } = i
  answers : ∀ name, d.Answers name (Registration.lastFunction? rs name)
  shows : ∀ name, d.Shows name (Registration.lastAttribute? rs name)
  callable : ∀ name, name ∈ d.interface.functions.map Signature.name ↔
    ∃ args channel, (d.call (.ofFunction name args) channel).result ≠ .error (.notFound name)
  /-- A call is of no function, unless the function that it calls says so itself. -/
  notFound : ∀ c channel n, (d.call c channel).result = .error (.notFound n) ↔
    (c.name ∉ d.interface.functions.map Signature.name ∧ n = c.name) ∨
      ∃ e, Registration.lastFunction? rs c.name = some e ∧ e.signature.Fits c.args ∧
        (e.handler d.state ⟨c.args⟩ channel).result = .error (.notFound n)
  readable : ∀ name, name ∈ d.interface.attributes.map Attribute.name ↔
    d.readAttribute name ≠ .error (.attributeNotFound name)
  size : d.table.size = d.interface.functions.length

/-- **What registrations make of a driver**, whatever the interface listed before. Each name of a
function or an attribute is listed once, in the order of the last registrations. What is listed can
be called or read, and nothing else can. The declaration, the function, its comparison and the
getter are those that were registered last under the name. A table in parts holds the same. -/
theorem madeBy_registered (i : Interface) (rs : List (Registration δ)) (s : δ) :
    ({ table := .registered i rs, state := s } : Driver δ).MadeBy i rs ∧
      (rs.foldl Catalogue.register (.empty i)).Keeps (.registered i rs) := by
  generalize hd : ({ table := .registered i rs, state := s } : Driver δ) = d
  have htable : d.table = .registered i rs := hd ▸ rfl
  -- what the table finds under a name is what was registered last
  have hanswers : ∀ name, d.Answers name (Registration.lastFunction? rs name) := by
    intro name
    rw [← FunctionTable.function?_registered (i := i), ← htable]
    exact d.answers name
  have hshows : ∀ name, d.Shows name (Registration.lastAttribute? rs name) := by
    intro name
    rw [← FunctionTable.attribute?_registered (i := i), ← htable]
    exact d.shows name
  refine ⟨⟨?_, ?_, ?_, hanswers, hshows, fun name => (hanswers name).callable,
    fun c => (hanswers c.name).notFound_iff, fun name => (hshows name).readable, ?_⟩,
    Catalogue.keeps_registered i rs⟩
  · rw [interface, htable, FunctionTable.interface, List.map_map, ← map_foldl_put,
      FunctionTable.functions_registered]
    rfl
  · rw [interface, htable, FunctionTable.interface, List.map_map, ← map_foldl_put,
      FunctionTable.attributes_registered]
    rfl
  · rw [interface, htable, FunctionTable.interface, FunctionTable.identity_registered]
  · rw [FunctionTable.size, interface, FunctionTable.interface, List.length_map]

end Driver

end TargetBench
