import TargetBench.Proofs.Specification.Directory
import TargetBench.Proofs.Text.Cut

/-!
# Module names written by queries

A query for a service is written as a module name: its package, an at-sign and its version, and the
interface after a double colon if there is one. A request with this module name asks for the same
again, whatever marks and blanks the module name held that the query was read from. So reading a
module name brings it into a normal form, of which what is written is one spelling.

## Main definitions

* `IsPackage`, `IsInterface`: what can be read from a module name
* `renderedName`: the module name that is written

## Main results

* `trim_packagePart_renderedName`, `interfacePart?_renderedName`: a package and an interface are
  read from what is written with them
* `ComponentQuery.ofRequest_display`: a written query is read as itself, and which requests are
  refused
-/

namespace TargetBench

/-! ## Parts of module names -/

/-- The interface that stands in a module name, if one does. -/
def interfacePart? (module : String) : Option String :=
  (((Text.cut? "::" module).map Prod.snd).map Text.trim).filter fun name => !name.isEmpty

theorem splitModuleName_eq (module : String) :
    splitModuleName module = (Text.trim (packagePart module), interfacePart? module) := by
  refine Prod.ext (fst_splitModuleName module) ?_
  unfold splitModuleName interfacePart?
  cases Text.cut? "::" module <;> rfl

/-- A package as it is read from a module name: nothing is left to trim from it, and it holds none
of the marks that end it. -/
structure IsPackage (package : String) : Prop where
  trimmed : Text.trim package = package
  colons : ¬ "::".toList <:+: package.toList
  atSign : '@' ∉ package.toList

theorem isPackage_packagePart (module : String) :
    IsPackage (Text.trim (packagePart module)) := by
  have hfront : Text.UpTo "::" module (Text.before "::" module) :=
    Text.upTo_before (by decide) module
  have hpart : Text.UpTo "@" (Text.before "::" module) (packagePart module) :=
    Text.upTo_before (by decide) _
  have htrim := Text.trim_infix (packagePart module)
  refine ⟨Text.trim_trim _, ?_, ?_⟩
  · -- a double colon in the package would be one before the first double colon
    intro h
    exact hfront.not_infix (by decide) (h.trans (htrim.trans hpart.toList_prefix.isInfix))
  · intro h
    have hmark : "@".toList <:+: (packagePart module).toList :=
      (List.singleton_infix_iff '@' _).mpr (htrim.subset h)
    exact hpart.not_infix (by decide) hmark

/-- An interface as it is read from a module name: nothing is left to trim from it, and it is not
empty. -/
structure IsInterface (name : String) : Prop where
  trimmed : Text.trim name = name
  nonempty : name.isEmpty = false

theorem isInterface_interfacePart? {module name : String} (h : interfacePart? module = some name) :
    IsInterface name := by
  obtain ⟨hname, hempty⟩ := Option.filter_eq_some_iff.mp h
  obtain ⟨text, -, rfl⟩ := Option.map_eq_some_iff.mp hname
  exact ⟨Text.trim_trim text, by simpa using hempty⟩

/-! ## Reading what is written -/

/-- A module name: a package, a version and, if one is given, an interface. -/
def renderedName (package version : String) (name : Option String) : String :=
  package ++ "@" ++ version ++ (name.map ("::" ++ ·)).getD ""

section Rendered

variable {package version : String}

/-- Before the interface, what is written holds a double colon at no place, not even one that the
colons before the interface complete. -/
theorem not_infix_front (hpackage : IsPackage package) (hversion : ':' ∉ version.toList)
    (colons : List Char) (hcolons : colons.length ≤ 1) :
    ¬ "::".toList <:+: (package ++ "@" ++ version).toList ++ colons := by
  have hrest : ¬ "::".toList <:+: version.toList ++ colons := by
    intro h
    have hcount := h.sublist.count_le ':'
    have htwo : "::".toList.count ':' = 2 := by decide
    rw [htwo, List.count_append, List.count_eq_zero.mpr hversion, Nat.zero_add] at hcount
    exact absurd (hcount.trans (List.count_le_length.trans hcolons)) (by decide)
  have hfront : (package ++ "@" ++ version).toList ++ colons =
      package.toList ++ '@' :: (version.toList ++ colons) := by
    simp
  rw [hfront]
  exact Text.not_infix_append_cons (by decide) hpackage.colons hrest

/-- What is written is cut where the interface begins. -/
theorem cut?_renderedName (hpackage : IsPackage package) (hversion : ':' ∉ version.toList)
    (name : Option String) :
    Text.cut? "::" (renderedName package version name) =
      name.map fun name => (package ++ "@" ++ version, name) := by
  cases name with
  | none =>
    have hnone := (Text.cutChars?_eq_none_iff (by decide)).mpr
      (not_infix_front hpackage hversion [] (Nat.zero_le 1))
    rw [List.append_nil] at hnone
    simp only [renderedName, Text.cut?, Option.map_none, Option.getD_none, String.append_empty,
      hnone]
  | some name =>
    have hsome := Text.cutChars?_append (by decide)
      (not_infix_front hpackage hversion [':'] (Nat.le_refl 1)) name.toList
    have htext : (renderedName package version (some name)).toList =
        (package ++ "@" ++ version).toList ++ "::".toList ++ name.toList := by
      simp [renderedName]
    simp only [Text.cut?, htext, hsome, Option.map_some, String.ofList_toList]

/-- In what is written, the package stands before the at-sign. -/
theorem before_package (hpackage : IsPackage package) :
    Text.before "@" (package ++ "@" ++ version) = package := by
  have hmark : ¬ "@".toList <:+: package.toList ++ "@".toList.dropLast := by
    have hdrop : "@".toList.dropLast = [] := by decide
    rw [hdrop, List.append_nil]
    exact fun h => hpackage.atSign ((List.singleton_infix_iff '@' _).mp h)
  have hcut := Text.cutChars?_append (by decide) hmark version.toList
  have htext : (package ++ "@" ++ version).toList =
      package.toList ++ "@".toList ++ version.toList := by
    simp
  simp only [Text.before, Text.cut?, htext, hcut, Option.map_some, Option.getD_some,
    String.ofList_toList]

/-- The package is read from what is written with it. -/
theorem trim_packagePart_renderedName (hpackage : IsPackage package)
    (hversion : ':' ∉ version.toList) (name : Option String) :
    Text.trim (packagePart (renderedName package version name)) = package := by
  have hfront : Text.before "::" (renderedName package version name) =
      package ++ "@" ++ version := by
    rw [Text.before, cut?_renderedName hpackage hversion]
    cases name with
    | none => exact String.append_empty
    | some n => rfl
  rw [packagePart, hfront, before_package hpackage, hpackage.trimmed]

/-- The interface is read from what is written with it. -/
theorem interfacePart?_renderedName (hpackage : IsPackage package)
    (hversion : ':' ∉ version.toList) {name : Option String}
    (hname : ∀ n, name = some n → IsInterface n) :
    interfacePart? (renderedName package version name) = name := by
  rw [interfacePart?, cut?_renderedName hpackage hversion]
  cases name with
  | none => rfl
  | some n =>
    obtain ⟨htrimmed, hnonempty⟩ := hname n rfl
    simp only [Option.map_some, htrimmed, Option.filter_some, hnonempty, Bool.not_false, if_true]

end Rendered

/-! ## Queries -/

theorem Binary.colon_not_mem_text (x : Binary32) : ':' ∉ x.text.toList := by
  intro h
  exact absurd (isRunChar_of_mem_text h) (by decide)

namespace ComponentQuery

variable {r : LoadRequest} {q : ComponentQuery}

theorem asked_service (r : LoadRequest) :
    asked .service r = ⟨.service, r.componentType, r.version,
      some (Text.trim (packagePart r.moduleName)), interfacePart? r.moduleName⟩ := by
  have hservice : ComponentClass.service.isService = true := by decide
  rw [asked, if_pos hservice, splitModuleName_eq]

/-- A request for a service is understood unless the package part of its module name is blank. -/
theorem ofRequest_service_eq_ok_iff (hs : ComponentClass.service.id = r.componentClass) :
    ofRequest r = .ok q ↔ ¬ Text.Blank (packagePart r.moduleName) ∧ asked .service r = q := by
  by_cases hblank : Text.Blank (packagePart r.moduleName)
  · rw [ofRequest_of_blank hs hblank]
    simp [hblank]
  · rw [ofRequest_of_known hs fun _ => hblank]
    simp [hblank]

theorem ofRequest_service_eq_error_iff (hs : ComponentClass.service.id = r.componentClass)
    {e : QueryError} :
    ofRequest r = .error e ↔
      Text.Blank (packagePart r.moduleName) ∧ e = .missingPackage r.moduleName := by
  by_cases hblank : Text.Blank (packagePart r.moduleName)
  · rw [ofRequest_of_blank hs hblank]
    simp [hblank, eq_comm]
  · rw [ofRequest_of_known hs fun _ => hblank]
    simp [hblank]

/-- The package part of a module name stands before the first at-sign in what stands before the
first double colon. -/
theorem blank_packagePart_iff {module : String} :
    Text.Blank (packagePart module) ↔ ∃ front part, Text.UpTo "::" module front ∧
      Text.UpTo "@" front part ∧ Text.Blank part := by
  have hcolons : "::" ≠ "" := by decide
  have hatSign : "@" ≠ "" := by decide
  constructor
  · intro h
    exact ⟨_, _, Text.upTo_before hcolons module, Text.upTo_before hatSign _, h⟩
  · rintro ⟨front, part, hfront, hpart, hblank⟩
    rw [packagePart, ← (Text.upTo_iff hcolons).mp hfront, ← (Text.upTo_iff hatSign).mp hpart]
    exact hblank

theorem display_of_package {package : String} (h : q.package = some package) :
    q.display = renderedName package q.version.text q.name := by
  unfold display renderedName
  rw [h]
  cases q.name <;> rfl

theorem exists_package_of_ofRequest (hs : ComponentClass.service.id = r.componentClass)
    (hq : ofRequest r = .ok q) : ∃ package, q.package = some package ∧
      q.display = renderedName package r.version.text q.name := by
  obtain ⟨-, rfl⟩ := (ofRequest_service_eq_ok_iff hs).mp hq
  rw [asked_service]
  exact ⟨_, rfl, display_of_package rfl⟩

/-- A request with the rendering of a query as its module name is understood as the query. -/
theorem ofRequest_named_display (hs : ComponentClass.service.id = r.componentClass)
    (hq : ofRequest r = .ok q) : ofRequest { r with moduleName := q.display } = .ok q := by
  obtain ⟨hblank, rfl⟩ := (ofRequest_service_eq_ok_iff hs).mp hq
  have hpackage := isPackage_packagePart r.moduleName
  have hversion := r.version.colon_not_mem_text
  rw [asked_service, display_of_package rfl]
  generalize hrendered : renderedName _ _ _ = rendered
  have hread : Text.trim (packagePart rendered) = Text.trim (packagePart r.moduleName) := by
    rw [← hrendered]
    exact trim_packagePart_renderedName hpackage hversion _
  have hinterface : interfacePart? rendered = interfacePart? r.moduleName := by
    rw [← hrendered]
    exact interfacePart?_renderedName hpackage hversion fun n => isInterface_interfacePart?
  have hnamed := ofRequest_service_eq_ok_iff (r := { r with moduleName := rendered })
    (q := asked .service r) hs
  rw [← asked_service, hnamed]
  constructor
  · -- the package that is read again is not empty, because the first one was not
    rw [← Text.trim_eq_empty_iff, hread, Text.trim_eq_empty_iff]
    exact hblank
  · rw [asked_service, hread, hinterface, asked_service]

/-- **A query for a service is read from its own rendering.** Whatever module name the query was
read from, the package, the version and the interface that it asks for are written so that a request
with this module name asks for the same. A request for a service is refused only if no package is
named, which is so if nothing but blanks stands before the first at-sign in what stands before the
first double colon. -/
theorem ofRequest_display (hs : ComponentClass.service.id = r.componentClass) :
    (∀ q, ofRequest r = .ok q →
      (∃ package, q.package = some package ∧
        q.display = renderedName package r.version.text q.name) ∧
      ofRequest { r with moduleName := q.display } = .ok q) ∧
    ∀ e, ofRequest r = .error e ↔ e = .missingPackage r.moduleName ∧
      ∃ front part, Text.UpTo "::" r.moduleName front ∧ Text.UpTo "@" front part ∧
        Text.Blank part := by
  constructor
  · intro q hq
    exact ⟨exists_package_of_ofRequest hs hq, ofRequest_named_display hs hq⟩
  · intro e
    rw [ofRequest_service_eq_error_iff hs, blank_packagePart_iff, and_comm]

/-- Marks and blanks in a module name do not get in the way. -/
theorem ofRequest_display_marks :
    let r : LoadRequest := ⟨"", ComponentClass.service.id, Signed.zero 32, .ofInt 1,
      " a:b @c@d:: e::f@g "⟩
    let q := asked .service r
    q.package = some "a:b" ∧ q.name = some "e::f@g" ∧
      ofRequest { r with moduleName := q.display } = .ok q := by
  intro r q
  have hpart : packagePart r.moduleName = " a:b " := by
    show packagePart " a:b @c@d:: e::f@g " = " a:b "
    decide
  have hname : interfacePart? r.moduleName = some "e::f@g" := by
    show interfacePart? " a:b @c@d:: e::f@g " = some "e::f@g"
    decide
  have hq : ofRequest r = .ok q := by
    refine ofRequest_of_known rfl fun _ hblank => ?_
    rw [hpart] at hblank
    exact absurd (hblank 'a' (by decide)) (by decide)
  have hasked := asked_service r
  rw [hpart, hname] at hasked
  refine ⟨?_, ?_, ((ofRequest_display rfl).1 q hq).2⟩
  · have htrim : some (Text.trim " a:b ") = some "a:b" := by decide
    exact (congrArg package hasked).trans htrim
  · exact congrArg name hasked

end ComponentQuery

end TargetBench
