import Mathlib.Data.String.Basic
import TargetBench.Proofs.Text.Trim
import TargetBench.Specification.Lookup

/-!
# Which specification is found

What a load request asks for, which files of a directory are looked at, and which of these holds
what is asked for. All conditions are stated on the request and on the files, so that loading can
be described without its steps.

## Main definitions

* `packagePart`: the part of a module name that names the package
* `ComponentQuery.asked`: what a request asks of a class
* `SpecificationFile.Matches`: files that hold what is asked for
* `SpecificationFile.FirstMatch`: the first of these

## Main results

* `ComponentQuery.ofRequest_of_known`: which requests are understood
* `SpecificationFile.mem_ofDirectory?_iff`: which files are looked at
* `SpecificationFile.ofDirectory?_sorted`: the order in which they are looked at
* `Specification.search_eq_some_iff`: what is found among files
-/

namespace TargetBench

/-- The part of a module name that names the package: all of it up to a double colon and, in that
part, up to an at-sign. -/
def packagePart (module : String) : String := Text.before "@" (Text.before "::" module)

theorem fst_splitModuleName (module : String) :
    (splitModuleName module).1 = Text.trim (packagePart module) := by
  unfold splitModuleName packagePart Text.before
  cases Text.cut? "::" module with
  | none => cases h : Text.cut? "@" module <;> simp [h]
  | some parts => cases h : Text.cut? "@" parts.1 <;> simp [h]

/-! ## Requests -/

namespace ComponentQuery

/-- What a request asks of a class. -/
def asked (c : ComponentClass) (r : LoadRequest) : ComponentQuery :=
  if c.isService then
    ⟨c, r.componentType, r.version, some (splitModuleName r.moduleName).1,
      (splitModuleName r.moduleName).2⟩
  else ⟨c, r.componentType, r.version, none, none⟩

@[simp] theorem asked_componentClass (c : ComponentClass) (r : LoadRequest) :
    (asked c r).componentClass = c := by
  unfold asked
  split <;> rfl

@[simp] theorem asked_version (c : ComponentClass) (r : LoadRequest) :
    (asked c r).version = r.version := by
  unfold asked
  split <;> rfl

/-- A request is understood if its number is that of a class and, for a service, the package part
of its module name is not blank. -/
theorem ofRequest_of_known {c : ComponentClass} {r : LoadRequest} (hc : c.id = r.componentClass)
    (hb : c = .service → ¬ Text.Blank (packagePart r.moduleName)) :
    ofRequest r = .ok (asked c r) := by
  rw [ofRequest, ComponentClass.ofId?_eq_some_iff.mpr hc]
  simp only [asked, ComponentClass.isService, decide_eq_true_eq, String.isEmpty_iff]
  by_cases hs : c = .service
  · rw [if_pos hs, if_pos hs, fst_splitModuleName, if_neg]
    exact fun h => hb hs (Text.trim_eq_empty_iff.mp h)
  · rw [if_neg hs, if_neg hs]

theorem ofRequest_of_blank {r : LoadRequest} (hc : ComponentClass.service.id = r.componentClass)
    (hb : Text.Blank (packagePart r.moduleName)) :
    ofRequest r = .error (.missingPackage r.moduleName) := by
  rw [ofRequest, ComponentClass.ofId?_eq_some_iff.mpr hc]
  simp only [ComponentClass.isService, decide_true, if_true, String.isEmpty_iff]
  rw [fst_splitModuleName, if_pos (Text.trim_eq_empty_iff.mpr hb)]

theorem ofRequest_of_unknown {r : LoadRequest}
    (h : ∀ c : ComponentClass, c.id ≠ r.componentClass) :
    ofRequest r = .error (.unknownClass r.componentClass) := by
  rw [ofRequest, ComponentClass.ofId?_eq_none_iff.mpr h]

end ComponentQuery

/-! ## Files -/

namespace SpecificationFile

theorem nameLE_iff {a b : String × Node} : FileSystem.nameLE a b = true ↔ a.1 ≤ b.1 := by
  have hchar : (fun c d : Char => Nat.blt c.toNat d.toNat = true) = (· < ·) := by
    funext c d
    rw [Nat.blt_eq]
    rfl
  rw [FileSystem.nameLE, Bool.not_eq_true', ← Bool.not_eq_true, List.lex_eq_true_iff_lex, hchar,
    ← not_lt, String.lt_iff_toList_lt]
  rfl

theorem pairwise_mergeSort_nameLE (entries : List (String × Node)) :
    (entries.mergeSort FileSystem.nameLE).Pairwise fun a b => a.1 ≤ b.1 := by
  have hsorted : (entries.mergeSort FileSystem.nameLE).Pairwise (FileSystem.nameLE · ·) := by
    refine List.pairwise_mergeSort (fun a b c hab hbc => ?_) (fun a b => ?_) _
    · exact nameLE_iff.mpr (le_trans (nameLE_iff.mp hab) (nameLE_iff.mp hbc))
    · simpa [nameLE_iff] using le_total a.1 b.1
  exact hsorted.imp nameLE_iff.mp

/-- The name and content of a regular file with the name of a specification file. -/
def candidate? : String × Node → Option (String × List UInt8)
  | (name, .file content) => if isName name then some (name, content) else none
  | _ => none

theorem candidate?_eq_some_iff {e : String × Node} {name : String} {content : List UInt8} :
    candidate? e = some (name, content) ↔ e = (name, .file content) ∧ isName name = true := by
  obtain ⟨name', node⟩ := e
  cases node <;> simp [candidate?]
  grind

/-- The files of a directory that can be listed. -/
theorem ofDirectory?_eq_some_iff {fs : FileSystem} {directory : String}
    {files : List SpecificationFile} :
    ofDirectory? fs directory = some files ↔ ∃ location, fs.resolve directory = .ok location ∧
      fs.isDirectory location = true ∧
      files = (((fs.children location).mergeSort FileSystem.nameLE).filterMap candidate?).map
        fun e => ⟨Path.push directory e.1, e.2⟩ := by
  have heach (e : String × Node) :
      (candidate? e).map (fun e => SpecificationFile.mk (Path.push directory e.1) e.2) =
        match e with
        | (name, .file content) =>
          if isName name then some ⟨Path.push directory name, content⟩ else none
        | _ => none := by
    obtain ⟨name, node⟩ := e
    cases node with
    | file content => by_cases h : isName name = true <;> simp [candidate?, h]
    | _ => rfl
  rw [ofDirectory?]
  simp only [List.map_filterMap, heach]
  cases fs.resolve directory with
  | error e => simp
  | ok location =>
    simp only [Option.ite_none_right_eq_some, Option.some.injEq, Except.ok.injEq, exists_eq_left']
    exact and_congr_right fun _ => eq_comm

/-- The files that are looked at are the regular ones in the directory whose names end as those of
specification files do. -/
theorem mem_ofDirectory?_iff {fs : FileSystem} {directory : String} {files : List SpecificationFile}
    (h : ofDirectory? fs directory = some files) {f : SpecificationFile} :
    f ∈ files ↔ ∃ location name, fs.resolve directory = .ok location ∧
      (name, Node.file f.content) ∈ fs.children location ∧ isName name = true ∧
      f.path = Path.push directory name := by
  obtain ⟨location, hr, -, rfl⟩ := ofDirectory?_eq_some_iff.mp h
  rw [hr]
  simp only [List.mem_map, List.mem_filterMap, List.mem_mergeSort, Prod.exists,
    candidate?_eq_some_iff]
  constructor
  · rintro ⟨name, content, ⟨_, _, hmem, he, hname⟩, rfl⟩
    cases he
    exact ⟨location, name, rfl, hmem, hname, rfl⟩
  · rintro ⟨_, name, hloc, hmem, hname, hpath⟩
    cases hloc
    exact ⟨name, f.content, ⟨name, .file f.content, hmem, rfl, hname⟩, by rw [← hpath]⟩

/-- The files are looked at in the order of their names. -/
theorem ofDirectory?_sorted {fs : FileSystem} {directory : String} {files : List SpecificationFile}
    (h : ofDirectory? fs directory = some files) :
    ∃ names : List String, names.Pairwise (· ≤ ·) ∧
      files.map path = names.map (Path.push directory) := by
  obtain ⟨location, -, -, rfl⟩ := ofDirectory?_eq_some_iff.mp h
  have hsorted := pairwise_mergeSort_nameLE (fs.children location)
  have hnames := hsorted.filterMap (S := fun a b => a.1 ≤ b.1) candidate? ?_
  · exact ⟨_, List.pairwise_map.mpr hnames, by simp [Function.comp_def]⟩
  · intro a a' ha b hb b' hb'
    obtain ⟨rfl, -⟩ := candidate?_eq_some_iff.mp hb
    obtain ⟨rfl, -⟩ := candidate?_eq_some_iff.mp hb'
    exact ha

/-- Files that hold what is asked for. -/
def Matches (q : ComponentQuery) (f : SpecificationFile) (i : Interface) : Prop :=
  f.read = .ok i ∧ q.admits i = true

/-- The first of the files that hold what is asked for holds the interface `i`. -/
def FirstMatch (q : ComponentQuery) (files : List SpecificationFile) (i : Interface) : Prop :=
  ∃ before f after, files = before ++ f :: after ∧ Matches q f i ∧
    ∀ g ∈ before, ∀ j, ¬ Matches q g j

end SpecificationFile

namespace Specification

open SpecificationFile

theorem fst_search (q : ComponentQuery) (files : List SpecificationFile) :
    (search q files).1 = files.findSome? fun f => f.read.toOption.filter q.admits := by
  induction files with
  | nil => rfl
  | cons f files ih =>
    rw [search, List.findSome?_cons]
    cases f.read with
    | error defect => exact ih
    | ok i =>
      cases h : q.admits i with
      | true => simp [Except.toOption, Option.filter, h]
      | false => simpa [Except.toOption, Option.filter, h] using ih

theorem filter_read_eq_some_iff {q : ComponentQuery} {f : SpecificationFile} {i : Interface} :
    f.read.toOption.filter q.admits = some i ↔ Matches q f i := by
  cases h : f.read <;> simp [Matches, Except.toOption, h, Option.filter_eq_some_iff]

/-- What is found among files is what the first of those holds that hold what is asked for. -/
theorem search_eq_some_iff {q : ComponentQuery} {files : List SpecificationFile} {i : Interface} :
    (search q files).1 = some i ↔ FirstMatch q files i := by
  simp only [fst_search, List.findSome?_eq_some_iff, Option.eq_none_iff_forall_ne_some, ne_eq,
    filter_read_eq_some_iff, FirstMatch]

/-- Nothing is found among files if none of them holds what is asked for. -/
theorem search_eq_none_iff {q : ComponentQuery} {files : List SpecificationFile} :
    (search q files).1 = none ↔ ∀ f ∈ files, ∀ i, ¬ Matches q f i := by
  rw [fst_search, List.findSome?_eq_none_iff]
  simp only [Option.eq_none_iff_forall_ne_some, ne_eq, filter_read_eq_some_iff]

end Specification

end TargetBench
