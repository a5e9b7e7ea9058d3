import TargetBench.Proofs.Specification.Match
import TargetBench.Session.Dispatch

/-!
# Loading components

When a load request is answered with zero, which error is reported when it is not, and what either
answer leaves loaded. A request passes six conditions in a fixed order; what is loaded already is
asked after the specification is found and before anything is opened.

## Main definitions

* `Builder.Finds`: the conditions up to a specification that is found
* `Builder.Keeps`: what is requested is loaded already
* `Builder.Opens`: a driver opens for what is requested
* `Builder.FirstFailure`: the error of the first condition that does not hold

## Main results

* `Builder.load_of_keeps`, `Builder.load_of_opens`, `Builder.load_of_firstFailure`: what loading
  does in each case
* `Builder.load_cases`: there are no other cases
* `dispatch_load_decided`: the answers to load requests
-/

namespace TargetBench

variable {δ : Type}

namespace Builder

/-! ## Conditions -/

/-- The conditions up to the specification `i` that is found for a component of class `c`. -/
structure Finds (b : Builder δ) (fs : FileSystem) (r : LoadRequest) (c : ComponentClass)
    (i : Interface) : Prop where
  /-- The request has the number of a class. -/
  known : c.id = r.componentClass
  /-- A request for a service names a package. -/
  packaged : c = .service → ¬ Text.Blank (packagePart r.moduleName)
  /-- The directory can be listed, and the first match among its files, which are looked at in the
  order of their names, holds the specification. -/
  found : ∃ files,
    SpecificationFile.ofDirectory? fs ((ComponentQuery.asked c r).directory b.settings.specDir)
        = some files ∧
      SpecificationFile.FirstMatch (ComponentQuery.asked c r) files i

/-- What is requested is loaded already: under this path, which is not empty, and with the key of
the specification. -/
def Keeps (b : Builder δ) (r : LoadRequest) (i : Interface) : Prop :=
  r.path ≠ "" ∧ ∃ l, b.loaded = some l ∧ l.path = r.path ∧ l.key = DriverKey.ofInterface i

/-- What a driver is to be opened for is available: a service, or a library that is there. -/
inductive Available (b : Builder δ) (fs : FileSystem) (r : LoadRequest) :
    ComponentClass → TargetComponent → Prop where
  | service : Available b fs r .service (.service b.settings.serviceName)
  | library {c : ComponentClass} : c ≠ .service → fs.pathExists r.path = true →
      Available b fs r c (.library r.path b.settings.serviceName)

/-- The driver `d` opens for what is requested. -/
def Opens (b : Builder δ) (fs : FileSystem) (r : LoadRequest) (c : ComponentClass) (i : Interface)
    (d : Driver δ) : Prop :=
  ∃ target factory, b.Available fs r c target ∧
    b.registry.factory? (DriverKey.ofInterface i) = some factory ∧ factory target = .ok d

/-- The error of the first condition that does not hold. Each case states the conditions before it,
and that its own one fails. -/
inductive FirstFailure (b : Builder δ) (fs : FileSystem) (r : LoadRequest) : LoadError → Prop where
  | unknownClass : (∀ c : ComponentClass, c.id ≠ r.componentClass) →
      FirstFailure b fs r (.unknownClass r.componentClass)
  | missingPackage : ComponentClass.service.id = r.componentClass →
      Text.Blank (packagePart r.moduleName) → FirstFailure b fs r (.missingPackage r.moduleName)
  | specificationDirectory {c : ComponentClass} : c.id = r.componentClass →
      (c = .service → ¬ Text.Blank (packagePart r.moduleName)) →
      SpecificationFile.ofDirectory? fs
        ((ComponentQuery.asked c r).directory b.settings.specDir) = none →
      FirstFailure b fs r
        (.specificationDirectory ((ComponentQuery.asked c r).directory b.settings.specDir))
  | specificationNotFound {c : ComponentClass} {files : List SpecificationFile} :
      c.id = r.componentClass → (c = .service → ¬ Text.Blank (packagePart r.moduleName)) →
      SpecificationFile.ofDirectory? fs
        ((ComponentQuery.asked c r).directory b.settings.specDir) = some files →
      (∀ f ∈ files, ∀ i, ¬ SpecificationFile.Matches (ComponentQuery.asked c r) f i) →
      FirstFailure b fs r
        (.specificationNotFound ((ComponentQuery.asked c r).directory b.settings.specDir)
          (ComponentQuery.asked c r).display)
  | missingTarget {c : ComponentClass} {i : Interface} : b.Finds fs r c i → ¬ b.Keeps r i →
      (∀ target, ¬ b.Available fs r c target) → FirstFailure b fs r (.missingTarget r.path)
  | notRegistered {c : ComponentClass} {i : Interface} {target : TargetComponent} :
      b.Finds fs r c i → ¬ b.Keeps r i → b.Available fs r c target →
      b.registry.factory? (DriverKey.ofInterface i) = none →
      FirstFailure b fs r (.driver (.notRegistered (DriverKey.ofInterface i).display))
  | refused {c : ComponentClass} {i : Interface} {target : TargetComponent}
      {factory : DriverFactory δ} {e : DriverError} :
      b.Finds fs r c i → ¬ b.Keeps r i → b.Available fs r c target →
      b.registry.factory? (DriverKey.ofInterface i) = some factory → factory target = .error e →
      FirstFailure b fs r (.driver e)

/-! ## What loading does -/

theorem isLoaded_iff {b : Builder δ} {r : LoadRequest} {i : Interface} :
    b.isLoaded r.path (DriverKey.ofInterface i) = true ↔ b.Keeps r i := by
  simp [isLoaded, Keeps, Option.any_eq_true]

theorem target_eq_ok_iff {b : Builder δ} {fs : FileSystem} {r : LoadRequest} {c : ComponentClass}
    {target : TargetComponent} :
    b.target fs (ComponentQuery.asked c r) r = .ok target ↔ b.Available fs r c target := by
  rw [Builder.target]
  simp only [ComponentQuery.asked_componentClass, ComponentClass.isService, decide_eq_true_eq]
  constructor
  · intro h
    split at h
    · rename_i hc
      cases h
      rw [hc]
      exact .service
    · rename_i hc
      split at h
      · rename_i hp
        cases h
        exact .library hc hp
      · cases h
  · rintro (_ | ⟨hc, hp⟩)
    · rfl
    · rw [if_neg hc, if_pos hp]

theorem target_of_not_available {b : Builder δ} {fs : FileSystem} {r : LoadRequest}
    {c : ComponentClass} (h : ∀ target, ¬ b.Available fs r c target) :
    b.target fs (ComponentQuery.asked c r) r = .error (.missingTarget r.path) := by
  have hs : c ≠ .service := by
    rintro rfl
    exact h _ .service
  have hp : fs.pathExists r.path ≠ true := fun hp => h _ (.library hs hp)
  simp [Builder.target, ComponentClass.isService, hs, hp]

theorem load_of_finds {b : Builder δ} {fs : FileSystem} {r : LoadRequest} {c : ComponentClass}
    {i : Interface} (h : b.Finds fs r c i) :
    (b.load fs r).1 = (b.loadFound fs (ComponentQuery.asked c r) r i).1 ∧
      (b.load fs r).2.1 = (b.loadFound fs (ComponentQuery.asked c r) r i).2.1 := by
  obtain ⟨files, hfiles, hmatch⟩ := h.found
  have hsearch := Specification.search_eq_some_iff.mpr hmatch
  obtain ⟨log, hlog⟩ : ∃ log, Specification.search (ComponentQuery.asked c r) files
      = (some i, log) := ⟨_, Prod.ext hsearch rfl⟩
  rw [load, ComponentQuery.ofRequest_of_known h.known h.packaged]
  simp only [Specification.find, hfiles, hlog, and_self]

/-- What is loaded already stays as it is; nothing is opened, and the target is not looked at. -/
theorem load_of_keeps {b : Builder δ} {fs : FileSystem} {r : LoadRequest} {c : ComponentClass}
    {i : Interface} (h : b.Finds fs r c i) (hk : b.Keeps r i) :
    (b.load fs r).1 = .ok () ∧ (b.load fs r).2.1 = b := by
  obtain ⟨houtcome, hstate⟩ := load_of_finds h
  rw [houtcome, hstate, loadFound]
  simp only [isLoaded_iff.mpr hk, if_true, and_self]

/-- A component whose driver opens takes the place of the one before, all its parts together. -/
theorem load_of_opens {b : Builder δ} {fs : FileSystem} {r : LoadRequest} {c : ComponentClass}
    {i : Interface} {d : Driver δ} (h : b.Finds fs r c i) (hk : ¬ b.Keeps r i)
    (ho : b.Opens fs r c i d) :
    (b.load fs r).1 = .ok () ∧
      (b.load fs r).2.1 = { b with loaded := some ⟨r.path, DriverKey.ofInterface i, i, d⟩ } := by
  obtain ⟨houtcome, hstate⟩ := load_of_finds h
  obtain ⟨target, factory, htarget, hfactory, hopen⟩ := ho
  rw [houtcome, hstate, loadFound]
  simp only [isLoaded_iff, hk, if_false, target_eq_ok_iff.mpr htarget,
    DriverRegistry.opened, hfactory, hopen, and_self]

/-- If no driver opens, that is the failure, and nothing changes. -/
theorem load_of_opened_error {b : Builder δ} {fs : FileSystem} {r : LoadRequest}
    {c : ComponentClass} {i : Interface} {target : TargetComponent} {e : DriverError}
    (h : b.Finds fs r c i) (hk : ¬ b.Keeps r i) (htarget : b.Available fs r c target)
    (he : b.registry.opened (DriverKey.ofInterface i) target = .error e) :
    (b.load fs r).1 = .error (.driver e) ∧ (b.load fs r).2.1 = b := by
  obtain ⟨houtcome, hstate⟩ := load_of_finds h
  rw [houtcome, hstate, loadFound]
  simp only [isLoaded_iff, hk, if_false, target_eq_ok_iff.mpr htarget, he, and_self]

/-- A failure is that of the first condition that does not hold, and changes nothing. -/
theorem load_of_firstFailure {b : Builder δ} {fs : FileSystem} {r : LoadRequest} {e : LoadError}
    (h : b.FirstFailure fs r e) : (b.load fs r).1 = .error e ∧ (b.load fs r).2.1 = b := by
  cases h with
  | unknownClass h =>
    rw [load, ComponentQuery.ofRequest_of_unknown h]
    exact ⟨rfl, rfl⟩
  | missingPackage hc hb =>
    rw [load, ComponentQuery.ofRequest_of_blank hc hb]
    exact ⟨rfl, rfl⟩
  | specificationDirectory hc hb hdir =>
    rw [load, ComponentQuery.ofRequest_of_known hc hb]
    simp only [Specification.find, hdir, and_self]
  | @specificationNotFound c files hc hb hdir hnone =>
    have hsearch := Specification.search_eq_none_iff.mpr hnone
    obtain ⟨log, hlog⟩ : ∃ log, Specification.search (ComponentQuery.asked c r) files
        = (none, log) := ⟨_, Prod.ext hsearch rfl⟩
    rw [load, ComponentQuery.ofRequest_of_known hc hb]
    simp only [Specification.find, hdir, hlog, and_self]
  | missingTarget hf hk htarget =>
    obtain ⟨houtcome, hstate⟩ := load_of_finds hf
    rw [houtcome, hstate, loadFound]
    simp only [isLoaded_iff, hk, if_false, target_of_not_available htarget, and_self]
  | notRegistered hf hk htarget hnone =>
    apply load_of_opened_error hf hk htarget
    rw [DriverRegistry.opened, hnone]
  | refused hf hk htarget hfactory he =>
    apply load_of_opened_error hf hk htarget
    rw [DriverRegistry.opened, hfactory]
    exact he

/-- Either some condition is the first that does not hold, or a specification is found for what is
loaded already or for what a driver opens for. -/
theorem load_cases (b : Builder δ) (fs : FileSystem) (r : LoadRequest) :
    (∃ e, b.FirstFailure fs r e) ∨
      ∃ c i, b.Finds fs r c i ∧ (b.Keeps r i ∨ ¬ b.Keeps r i ∧ ∃ d, b.Opens fs r c i d) := by
  by_cases hc : ∃ c : ComponentClass, c.id = r.componentClass
  case neg => exact .inl ⟨_, .unknownClass (not_exists.mp hc)⟩
  obtain ⟨c, hc⟩ := hc
  by_cases hb : c = .service → ¬ Text.Blank (packagePart r.moduleName)
  case neg =>
    obtain ⟨rfl, hblank⟩ := Classical.not_imp.mp hb
    exact .inl ⟨_, .missingPackage hc (Classical.not_not.mp hblank)⟩
  cases hdir : SpecificationFile.ofDirectory? fs
      ((ComponentQuery.asked c r).directory b.settings.specDir) with
  | none => exact .inl ⟨_, .specificationDirectory hc hb hdir⟩
  | some files =>
    cases hsearch : (Specification.search (ComponentQuery.asked c r) files).1 with
    | none =>
      have hnone := Specification.search_eq_none_iff.mp hsearch
      exact .inl ⟨_, .specificationNotFound hc hb hdir hnone⟩
    | some i =>
      have hf : b.Finds fs r c i :=
        ⟨hc, hb, files, hdir, Specification.search_eq_some_iff.mp hsearch⟩
      by_cases hk : b.Keeps r i
      · exact .inr ⟨c, i, hf, .inl hk⟩
      by_cases htarget : ∃ target, b.Available fs r c target
      case neg => exact .inl ⟨_, .missingTarget hf hk (not_exists.mp htarget)⟩
      obtain ⟨target, htarget⟩ := htarget
      cases hfactory : b.registry.factory? (DriverKey.ofInterface i) with
      | none => exact .inl ⟨_, .notRegistered hf hk htarget hfactory⟩
      | some factory =>
        cases hopen : factory target with
        | error e => exact .inl ⟨_, .refused hf hk htarget hfactory hopen⟩
        | ok d => exact .inr ⟨c, i, hf, .inr ⟨hk, d, target, factory, htarget, hfactory, hopen⟩⟩

end Builder

/-! ## Answers to load requests -/

/-- The event that an effect reports. -/
def Effect.event? : Effect → Option SessionEvent
  | reported event => some event
  | _ => none

theorem filterMap_event?_logged (log : List LogRecord) :
    ((log.map CallEffect.logged).map Effect.ofCall).filterMap Effect.event? = [] := by
  rw [List.map_map, List.filterMap_map, List.filterMap_eq_nil_iff]
  intro record _
  rfl

variable {fs : FileSystem} {elapsed : Unsigned 64} {s : SessionSettings} {b : Builder δ}
  {r : LoadRequest}

theorem dispatch_load_of_ok (h : (b.load fs r).1 = .ok ()) :
    (dispatch (Builder.service fs elapsed) s b (.load r)).response = .ofValue (Signed.zero 32) ∧
      (dispatch (Builder.service fs elapsed) s b (.load r)).state = (b.load fs r).2.1 := by
  simp only [dispatch, Dispatch.load, Builder.service, h, and_self]

theorem dispatch_load_of_error {e : LoadError} (h : (b.load fs r).1 = .error e) :
    (dispatch (Builder.service fs elapsed) s b (.load r)).response =
        .ofValue ⟨-1, by decide, by decide⟩ ∧
      (dispatch (Builder.service fs elapsed) s b (.load r)).state = (b.load fs r).2.1 ∧
      (dispatch (Builder.service fs elapsed) s b (.load r)).effects.filterMap Effect.event? =
        [.componentFailed s.session r e] := by
  simp only [dispatch, Dispatch.load, Builder.service, h, List.filterMap_append,
    filterMap_event?_logged, true_and]
  rfl

/-- A condition that does not hold is reported, and nothing changes. -/
theorem dispatch_load_of_firstFailure {e : LoadError} (h : b.FirstFailure fs r e) :
    (dispatch (Builder.service fs elapsed) s b (.load r)).response =
        .ofValue ⟨-1, by decide, by decide⟩ ∧
      (dispatch (Builder.service fs elapsed) s b (.load r)).state = b ∧
      (dispatch (Builder.service fs elapsed) s b (.load r)).effects.filterMap Effect.event? =
        [.componentFailed s.session r e] := by
  obtain ⟨houtcome, hstate⟩ := Builder.load_of_firstFailure h
  obtain ⟨hresponse, hafter, hevents⟩ := dispatch_load_of_error houtcome
  exact ⟨hresponse, hafter.trans hstate, hevents⟩

variable {c : ComponentClass} {i : Interface}

/-- A request for what is loaded already succeeds, and nothing changes. -/
theorem dispatch_load_of_keeps (h : b.Finds fs r c i) (hk : b.Keeps r i) :
    (dispatch (Builder.service fs elapsed) s b (.load r)).response = .ofValue (Signed.zero 32) ∧
      (dispatch (Builder.service fs elapsed) s b (.load r)).state = b := by
  obtain ⟨houtcome, hstate⟩ := Builder.load_of_keeps h hk
  obtain ⟨hresponse, hafter⟩ := dispatch_load_of_ok houtcome
  exact ⟨hresponse, hafter.trans hstate⟩

/-- A request that a driver opens for succeeds, and what opens takes the place of the component
before. -/
theorem dispatch_load_of_opens {d : Driver δ} (h : b.Finds fs r c i) (hk : ¬ b.Keeps r i)
    (ho : b.Opens fs r c i d) :
    (dispatch (Builder.service fs elapsed) s b (.load r)).response = .ofValue (Signed.zero 32) ∧
      (dispatch (Builder.service fs elapsed) s b (.load r)).state =
        { b with loaded := some ⟨r.path, DriverKey.ofInterface i, i, d⟩ } := by
  obtain ⟨houtcome, hstate⟩ := Builder.load_of_opens h hk ho
  obtain ⟨hresponse, hafter⟩ := dispatch_load_of_ok houtcome
  exact ⟨hresponse, hafter.trans hstate⟩

/-- **How load requests are answered.** The answer is zero if and only if a specification is found
and either what is requested is loaded already or a driver opens for it. Otherwise it is minus one,
nothing changes, and the error of the first condition that does not hold is reported. What is loaded
already is left as it is; what opens takes the place of the component before, all parts together. -/
theorem dispatch_load_decided (fs : FileSystem) (elapsed : Unsigned 64) (s : SessionSettings)
    (b : Builder δ) (r : LoadRequest) :
    let a := dispatch (Builder.service fs elapsed) s b (.load r)
    (a.response = .ofValue (Signed.zero 32) ↔
        ∃ c i, b.Finds fs r c i ∧ (b.Keeps r i ∨ ∃ d, b.Opens fs r c i d)) ∧
      (a.response ≠ .ofValue (Signed.zero 32) →
        a.response = .ofValue ⟨-1, by decide, by decide⟩ ∧ a.state = b ∧
          ∃ e, b.FirstFailure fs r e ∧
            a.effects.filterMap Effect.event? = [.componentFailed s.session r e]) ∧
      (∀ e, b.FirstFailure fs r e → a.response = .ofValue ⟨-1, by decide, by decide⟩ ∧
        a.effects.filterMap Effect.event? = [.componentFailed s.session r e]) ∧
      (∀ c i, b.Finds fs r c i → b.Keeps r i → a.state = b) ∧
      ∀ c i d, b.Finds fs r c i → ¬ b.Keeps r i → b.Opens fs r c i d →
        a.state = { b with loaded := some ⟨r.path, DriverKey.ofInterface i, i, d⟩ } := by
  intro a
  have hne : Response.ofValue ⟨-1, by decide, by decide⟩ ≠ .ofValue (Signed.zero 32) := by decide
  refine ⟨⟨fun hzero => ?_, ?_⟩, fun hzero => ?_, ?_, ?_, ?_⟩
  · rcases b.load_cases fs r with ⟨e, he⟩ | ⟨c, i, hf, hk | ⟨-, ho⟩⟩
    · exact absurd ((dispatch_load_of_firstFailure he).1.symm.trans hzero) hne
    · exact ⟨c, i, hf, .inl hk⟩
    · exact ⟨c, i, hf, .inr ho⟩
  · rintro ⟨c, i, hf, h⟩
    by_cases hk : b.Keeps r i
    · exact (dispatch_load_of_keeps hf hk).1
    · obtain ⟨d, ho⟩ := h.resolve_left hk
      exact (dispatch_load_of_opens hf hk ho).1
  · rcases b.load_cases fs r with ⟨e, he⟩ | ⟨c, i, hf, hk | ⟨hk, d, ho⟩⟩
    · obtain ⟨hresponse, hstate, hevents⟩ := dispatch_load_of_firstFailure he
      exact ⟨hresponse, hstate, e, he, hevents⟩
    · exact absurd (dispatch_load_of_keeps hf hk).1 hzero
    · exact absurd (dispatch_load_of_opens hf hk ho).1 hzero
  · intro e he
    obtain ⟨hresponse, -, hevents⟩ := dispatch_load_of_firstFailure he
    exact ⟨hresponse, hevents⟩
  · exact fun c i hf hk => (dispatch_load_of_keeps hf hk).2
  · exact fun c i d hf hk ho => (dispatch_load_of_opens hf hk ho).2

end TargetBench
