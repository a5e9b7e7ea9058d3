import TargetBench.Proofs.FileSystem.Walk
import TargetBench.Proofs.Number.Distinct
import TargetBench.Proofs.Session.Change

/-!
# The loaded component is the requested one

A load request names a component by its class and version, and by its type or, for a service, by
its package and interface. Whatever is loaded after a load that succeeded is what that load named,
also if nothing was opened because the component was loaded already: the key that is compared then
tells apart all that a request can name, since different versions have different texts.

## Main definitions

* `LoadRequest.Names`: the interfaces that a request names
* `Builder.Keyed`: the loaded component stands under the key of its own interface

## Main results

* `LoadRequest.names_of_admits`: what is found for a request is what it names
* `LoadRequest.Names.of_key`: what has the same key is named as well
* `Builder.Keyed.dispatch`: all commands keep the key right
* `Session.specification_names`: what is loaded after a load is what the load named
-/

namespace TargetBench

/-- The interfaces that a request names: those of its class and version that have its type or, for
a service, its package and, if it gives one, its name. -/
structure LoadRequest.Names (r : LoadRequest) (i : Interface) : Prop where
  componentClass : i.componentClass.id = r.componentClass
  version : (i.version == r.version) = true
  componentType : i.componentClass ≠ .service → i.componentType = r.componentType
  package : i.componentClass = .service → i.package = some (splitModuleName r.moduleName).1
  name : i.componentClass = .service → ∀ name, (splitModuleName r.moduleName).2 = some name →
    i.name = name

namespace LoadRequest

variable {r : LoadRequest} {i j : Interface}

/-- What is found for a request is what it names. -/
theorem names_of_admits {c : ComponentClass} (hc : c.id = r.componentClass)
    (h : (ComponentQuery.asked c r).admits i = true) : r.Names i := by
  rw [ComponentQuery.admits] at h
  simp only [ComponentQuery.asked_componentClass, ComponentQuery.asked_version, Bool.and_eq_true,
    decide_eq_true_eq] at h
  obtain ⟨⟨rfl, hversion⟩, hrest⟩ := h
  by_cases hs : i.componentClass = .service
  · rw [ComponentQuery.asked, if_pos (by simp [ComponentClass.isService, hs])] at hrest
    simp only [Bool.and_eq_true, decide_eq_true_eq, Option.all_eq_true] at hrest
    obtain ⟨hpackage, hname⟩ := hrest
    exact ⟨hc, hversion, fun hns => absurd hs hns, fun _ => hpackage,
      fun _ name hn => (hname name hn).symm⟩
  · rw [ComponentQuery.asked, if_neg (by simp [ComponentClass.isService, hs])] at hrest
    exact ⟨hc, hversion, fun _ => of_decide_eq_true hrest, fun hs' => absurd hs' hs,
      fun hs' => absurd hs' hs⟩

/-- What has the key of an interface that a request names is named as well. -/
theorem Names.of_key (h : r.Names i)
    (hpackage : i.componentClass = .service → (splitModuleName r.moduleName).1 ≠ "")
    (hkey : DriverKey.ofInterface j = DriverKey.ofInterface i) : r.Names j := by
  simp only [DriverKey.ofInterface, DriverKey.make, DriverKey.mk.injEq] at hkey
  obtain ⟨hclass, hpackages, htype, htext, hname⟩ := hkey
  have hversion : j.version = i.version := Binary.text_injective htext
  refine ⟨hclass ▸ h.componentClass, hversion ▸ h.version, fun hns => ?_, fun hs => ?_,
    fun hs => ?_⟩
  · rw [htype]
    exact h.componentType (hclass ▸ hns)
  · -- a missing package and an empty one have the same key, but the one that is named is not empty
    have hi := h.package (hclass ▸ hs)
    rw [hi, Option.getD_some] at hpackages
    cases hj : j.package with
    | none =>
      rw [hj, Option.getD_none] at hpackages
      exact absurd hpackages.symm (hpackage (hclass ▸ hs))
    | some package =>
      rw [hj, Option.getD_some] at hpackages
      rw [hpackages]
  · rw [hname]
    exact h.name (hclass ▸ hs)

end LoadRequest

/-- What is found for a request is what it names, and it names a package if it is for a service. -/
theorem Builder.Finds.names {δ : Type} {b : Builder δ} {fs : FileSystem} {r : LoadRequest}
    {c : ComponentClass} {i : Interface} (h : b.Finds fs r c i) :
    r.Names i ∧ (i.componentClass = .service → (splitModuleName r.moduleName).1 ≠ "") := by
  obtain ⟨files, -, before, f, after, -, ⟨-, hadmits⟩, -⟩ := h.found
  have hnames := LoadRequest.names_of_admits h.known hadmits
  have hclass : i.componentClass = c := by
    apply Option.some.inj
    rw [← ComponentClass.ofId?_eq_some_iff.mpr hnames.componentClass,
      ComponentClass.ofId?_eq_some_iff.mpr h.known]
  refine ⟨hnames, fun hs hempty => ?_⟩
  rw [fst_splitModuleName, Text.trim_eq_empty_iff] at hempty
  exact h.packaged (hclass.symm.trans hs) hempty

/-! ## The key of what is loaded -/

variable {δ : Type} {fs : FileSystem} {elapsed : Unsigned 64} {s : SessionSettings}
  {b : Builder δ}

/-- The loaded component stands under the key of its own interface. -/
def Builder.Keyed (b : Builder δ) : Prop :=
  ∀ l, b.loaded = some l → l.key = DriverKey.ofInterface l.specification

/-- A command keeps the key right. -/
theorem Builder.Keyed.dispatch (h : b.Keyed) (c : Command) :
    (dispatch (Builder.service fs elapsed) s b c).state.Keyed := by
  rcases dispatch_state_cases b c with hsame | ⟨r, k, i, d, -, -, -, -, hopened⟩ |
    ⟨description, l, state, -, hl, hcalled⟩
  · rw [hsame]
    exact h
  · rw [hopened]
    rintro _ ⟨⟩
    rfl
  · rw [hcalled]
    rintro _ ⟨⟩
    rw [Loaded.withState_key, Loaded.withState_specification]
    exact h l hl

/-- A run of commands from a fresh session keeps the key right. -/
theorem Builder.keyed_stateAfter_fresh {files : Nat → FileSystem} {times : Nat → Unsigned 64}
    (settings : LoadSettings) (registry : DriverRegistry δ) (cs : List Command) :
    (Session.stateAfter (fun n => Builder.service (files n) (times n)) s 0
      (Builder.fresh settings registry) cs).Keyed := by
  refine Session.stateAfter_induction (P := fun b : Builder δ => b.Keyed) ?_ ?_ cs
  · exact fun _ _ c hb => hb.dispatch c
  · exact fun l hl => nomatch hl

/-! ## Loads that succeed -/

/-- A command that loads, with the answer zero to it. -/
def Loads (c : Command) (a : Answer (Builder δ)) : Prop :=
  (∃ r, c = .load r) ∧ a.response = .ofValue (Signed.zero 32)

/-- After a load that succeeds, what is loaded is what the load named. -/
theorem dispatch_load_names (hkeyed : b.Keyed) {r : LoadRequest}
    (h : (dispatch (Builder.service fs elapsed) s b (.load r)).response =
      .ofValue (Signed.zero 32)) :
    ∃ i, (dispatch (Builder.service fs elapsed) s b (.load r)).state.specification? = some i ∧
      r.Names i := by
  rcases b.load_cases fs r with ⟨e, he⟩ | ⟨c, i, hf, hk | ⟨hk, d, ho⟩⟩
  · rw [(dispatch_load_of_firstFailure he).1] at h
    cases h
  · -- nothing was opened, so the older interface has to answer for the request
    obtain ⟨-, l, hl, -, hkey⟩ := id hk
    obtain ⟨hnames, hpackage⟩ := hf.names
    rw [(dispatch_load_of_keeps hf hk).2, Builder.specification?, hl]
    exact ⟨l.specification, rfl, hnames.of_key hpackage ((hkeyed l hl).symm.trans hkey)⟩
  · rw [(dispatch_load_of_opens hf hk ho).2]
    exact ⟨i, rfl, hf.names.1⟩

/-- A command that does not load with success leaves the interface of what is loaded. -/
theorem dispatch_specification {c : Command}
    (h : ¬ Loads c (dispatch (Builder.service fs elapsed) s b c)) :
    (dispatch (Builder.service fs elapsed) s b c).state.specification? = b.specification? := by
  rcases dispatch_state_cases b c with hsame | ⟨r, k, i, d, rfl, hf, hk, ho, -⟩ |
    ⟨description, l, state, -, hl, hcalled⟩
  · rw [hsame]
  · exact absurd ⟨⟨r, rfl⟩, (dispatch_load_of_opens hf hk ho).1⟩ h
  · rw [hcalled, Builder.specification?, Builder.specification?, hl, Option.map_some,
      Option.map_some, Loaded.withState_specification]

/-- Commands that do not load with success leave the interface of what is loaded. -/
theorem specification_stateAfter {files : Nat → FileSystem} {times : Nat → Unsigned 64}
    {n : Nat} {cs : List Command}
    (h : ∀ x ∈ cs.zip (Session.answers (fun n => Builder.service (files n) (times n)) s n b cs),
      ¬ Loads x.1 x.2) :
    (Session.stateAfter (fun n => Builder.service (files n) (times n)) s n b cs).specification? =
      b.specification? := by
  induction cs generalizing n b with
  | nil => rfl
  | cons c cs ih =>
    rw [Session.answers, List.zip_cons_cons, List.forall_mem_cons] at h
    rw [Session.stateAfter, ih h.2]
    exact dispatch_specification h.1

theorem dispatch_list_of_some {i : Interface} (h : b.specification? = some i) :
    (dispatch (Builder.service fs elapsed) s b .list).response = .ofMessage (encodeText i) := by
  have h' : (Builder.service fs elapsed).specification? b = some i := h
  simp only [dispatch, Dispatch.list, h']

/-- **What is loaded is what was asked for.** In any run of a session, with files that change from
one command to the next: after a load that succeeded, and until another one does, the interface of
what is loaded is one that the request named, and it is what the session lists. -/
theorem Session.specification_names (ls : LoadSettings) (registry : DriverRegistry δ)
    (s : SessionSettings) (files : Nat → FileSystem) (times : Nat → Unsigned 64)
    (before after : List Command) (r : LoadRequest) :
    let service := fun n => Builder.service (files n) (times n)
    let b := Session.stateAfter service s 0 (Builder.fresh ls registry) before
    let a := dispatch (service before.length) s b (.load r)
    let b' := Session.stateAfter service s 0 (Builder.fresh ls registry)
      (before ++ .load r :: after)
    a.response = .ofValue (Signed.zero 32) →
    (∀ x ∈ after.zip (Session.answers service s (before.length + 1) a.state after),
      ¬ Loads x.1 x.2) →
    ∃ i, b'.specification? = some i ∧ r.Names i ∧
      ∀ n, (dispatch (service n) s b' .list).response = .ofMessage (encodeText i) := by
  intro service b a b' hzero hafter
  have hkeyed : b.Keyed := Builder.keyed_stateAfter_fresh ls registry before
  obtain ⟨i, hi, hnames⟩ := dispatch_load_names hkeyed hzero
  have hkept : b'.specification? = some i := by
    have hrun : b' = Session.stateAfter service s (before.length + 1) a.state after := by
      simp only [b', Session.stateAfter_append, Session.stateAfter, Nat.zero_add]
      rfl
    rw [hrun]
    exact (specification_stateAfter hafter).trans hi
  exact ⟨i, hkept, hnames, fun n => dispatch_list_of_some hkept⟩

/-! ## A library that is loaded twice -/

namespace Reload

/-- A specification of a shared library, with the given functions. -/
def specification (functions : List Signature) : Interface :=
  ⟨.sharedLibrary, Signed.zero 32, .ofInt 1, none, "", functions, []⟩

/-- The files of a library and of its specification, which has the given content. -/
def files (content : List UInt8) : FileSystem :=
  ⟨[(["spec"], .directory 0o755), (["spec", "library.spec.json"], .file content),
    (["library.so"], .file [])], []⟩

/-- The content of the specification when the library is loaded, and when it is loaded again. -/
def content : Nat → List UInt8
  | 0 => Utf8.bytes "\x7b\"component_class\":11,\"component_type_version\":1\x7d"
  | _ => Utf8.bytes ("\x7b\"component_class\":11,\"component_type_version\":1.0,"
      ++ "\"functions\":[\x7b\"name\":\"f\"\x7d]\x7d")

/-- The request for the library. -/
def request : LoadRequest :=
  ⟨"/library.so", ComponentClass.sharedLibrary.id, Signed.zero 32, .ofInt 1, ""⟩

/-- A registry with a driver for the library. -/
def registry : DriverRegistry Loopback :=
  ⟨[(DriverKey.ofInterface (specification []), Loopback.factory)]⟩

def settings : LoadSettings := ⟨"/spec", "default", .disconnected⟩

/-- The session in which the library is loaded. -/
def service (n : Nat) : ComponentService (Builder Loopback) :=
  Builder.service (files (content n)) (Unsigned.zero 64)

/-- A request with the number of no class. -/
def unknown : LoadRequest := { request with componentClass := ⟨999, by decide, by decide⟩ }

/-- The commands after the library is loaded for the second time: one asks, the other fails. -/
def after : List Command := [.status (Signed.zero 32), .load unknown]

/-- What is loaded in the end. -/
def last : Builder Loopback :=
  Session.stateAfter service ⟨1, id, 0⟩ 0 (Builder.fresh settings registry)
    ([.load request] ++ .load request :: after)

theorem ofDirectory?_files (content : List UInt8) :
    SpecificationFile.ofDirectory? (files content) "/spec" =
      some [⟨"/spec/library.spec.json", content⟩] := by
  refine SpecificationFile.ofDirectory?_eq_some_iff.mpr ⟨["spec"], ?_, rfl, ?_⟩
  · exact FileSystem.resolve_name ⟨rfl, rfl, by decide⟩ (by decide) rfl nofun rfl
  · have hchildren :
        (files content).children ["spec"] = [("library.spec.json", .file content)] := by
      simp [files, FileSystem.children]
    have hname : SpecificationFile.isName "library.spec.json" = true := by decide
    have hpath : Path.push "/spec" "library.spec.json" = "/spec/library.spec.json" := by decide
    rw [hchildren, List.mergeSort_singleton]
    simp only [List.filterMap_cons, SpecificationFile.candidate?, hname, if_true,
      List.filterMap_nil, List.map_cons, List.map_nil, hpath]

/-- What the specification says at the time of each command. -/
def found : Nat → Interface
  | 0 => specification []
  | _ => specification [⟨"f", [], []⟩]

theorem read_content (n : Nat) :
    SpecificationFile.read ⟨"/spec/library.spec.json", content n⟩ = .ok (found n) := by
  cases n with
  | zero => decide +kernel
  | succ n =>
    show SpecificationFile.read ⟨"/spec/library.spec.json", content 1⟩ = .ok (found 1)
    decide +kernel

theorem finds (n : Nat) (b : Builder Loopback) (hb : b.settings = settings) :
    b.Finds (files (content n)) request .sharedLibrary (found n) := by
  refine ⟨rfl, nofun, [⟨"/spec/library.spec.json", content n⟩], ?_, ?_⟩
  · rw [hb]
    exact ofDirectory?_files (content n)
  · refine ⟨[], _, [], rfl, ⟨read_content n, ?_⟩, nofun⟩
    cases n with
    | zero => decide
    | succ n =>
      show (ComponentQuery.asked .sharedLibrary request).admits (found 1) = true
      decide

/-- What is loaded first, and kept. -/
def held : Loaded Loopback :=
  ⟨"/library.so", DriverKey.ofInterface (found 0), found 0, ⟨Loopback.table, .closed "default"⟩⟩

theorem opens : (Builder.fresh settings registry).Opens (files (content 0)) request .sharedLibrary
    (found 0) held.driver := by
  refine ⟨.library "/library.so" "default", Loopback.factory, .library nofun ?_, ?_, rfl⟩
  · have hresolve : (files (content 0)).resolve "/library.so" = .ok ["library.so"] :=
      FileSystem.resolve_name ⟨rfl, rfl, by decide⟩ (by decide) rfl nofun rfl
    exact congrArg Except.isOk hresolve
  · exact List.lookup_cons_self

theorem stateAfter_load :
    Session.stateAfter service ⟨1, id, 0⟩ 0 (Builder.fresh settings registry) [.load request] =
      { Builder.fresh settings registry with loaded := some held } := by
  rw [Session.stateAfter, Session.stateAfter]
  refine (dispatch_load_of_opens (finds 0 _ rfl) ?_ opens).2
  rintro ⟨-, l, hl, -⟩
  cases hl

theorem response_reload :
    (dispatch (service 1) ⟨1, id, 0⟩ { Builder.fresh settings registry with loaded := some held }
      (.load request)).response = .ofValue (Signed.zero 32) := by
  refine (dispatch_load_of_keeps (finds 1 _ rfl) ?_).1
  exact ⟨by decide, held, rfl, rfl, rfl⟩

theorem id_ne_unknown (c : ComponentClass) : c.id ≠ unknown.componentClass := by
  cases c <;> decide

theorem not_loads_unknown (n : Nat) (b : Builder Loopback) :
    ¬ Loads (.load unknown) (dispatch (service n) ⟨1, id, 0⟩ b (.load unknown)) := by
  have hfailure : b.FirstFailure (files (content n)) unknown (.unknownClass _) :=
    .unknownClass id_ne_unknown
  rintro ⟨-, hzero⟩
  rw [service, (dispatch_load_of_firstFailure hfailure).1] at hzero
  cases hzero

end Reload

open Reload in
/-- The library is loaded again after its specification has changed, which leaves it loaded as it
was; then a load fails. -/
theorem Session.specification_names_reload :
    ∃ i, last.specification? = some i ∧ request.Names i ∧
      ∀ n, (dispatch (service n) ⟨1, id, 0⟩ last .list).response = .ofMessage (encodeText i) := by
  refine Session.specification_names settings registry ⟨1, id, 0⟩ (fun n => files (content n))
    (fun _ => Unsigned.zero 64) [.load request] after request ?_ ?_
  · exact stateAfter_load ▸ response_reload
  · rintro x (_ | ⟨_, _ | ⟨_, ⟨⟩⟩⟩)
    · rintro ⟨⟨r, ⟨⟩⟩, -⟩
    · exact not_loads_unknown 3 _

end TargetBench
