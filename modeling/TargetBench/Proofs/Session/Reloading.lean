import TargetBench.Proofs.Session.Duration
import TargetBench.Proofs.Session.Identity

/-!
# Loading again

A load that succeeds leaves its component loaded, and only another load that succeeds puts something
else in its place. So the same request finds its component loaded, whatever was called and whatever
failed in between, even if its library is gone by then: it is answered with zero, and it changes
nothing, the state of the driver included. Later answers do not tell whether the request was
repeated.

## Main definitions

* `LoadRequest.SameFiles`: a request looks for its specification among the same files
* `Builder.Holds`: what a request finds is loaded already

## Main results

* `Builder.holds_of_loads`, `Builder.Holds.dispatch`, `Builder.Holds.stateAfter`: a component is
  held from its load on
* `Session.answers_sameButTime`: commands with later numbers get the same answers
* `Session.reload_leaves_state`: loading again changes nothing
-/

namespace TargetBench

variable {δ : Type} {fs fs' : FileSystem} {elapsed : Unsigned 64} {s : SessionSettings}
  {b b' : Builder δ} {r : LoadRequest}

/-- A request that is understood looks for its specification among the same files. Other files, the
library that is requested among them, may differ. -/
def LoadRequest.SameFiles (r : LoadRequest) (all : String) (fs fs' : FileSystem) : Prop :=
  ∀ q, ComponentQuery.ofRequest r = .ok q →
    SpecificationFile.ofDirectory? fs' (q.directory all) =
      SpecificationFile.ofDirectory? fs (q.directory all)

namespace Builder

/-- What a request finds is loaded already. -/
def Holds (b : Builder δ) (fs : FileSystem) (r : LoadRequest) : Prop :=
  ∃ c i, b.Finds fs r c i ∧ b.Keeps r i

/-- What is found depends on the settings and on the specification files. -/
theorem Finds.congr {c : ComponentClass} {i : Interface} (h : b.Finds fs r c i)
    (hsettings : b'.settings = b.settings) (hfiles : r.SameFiles b.settings.specDir fs fs') :
    b'.Finds fs' r c i := by
  obtain ⟨files, hlisted, hmatch⟩ := h.found
  have hquery := ComponentQuery.ofRequest_of_known h.known h.packaged
  refine ⟨h.known, h.packaged, files, ?_, hmatch⟩
  rw [hsettings, hfiles _ hquery]
  exact hlisted

theorem settings_dispatch (b : Builder δ) (c : Command) :
    (dispatch (service fs elapsed) s b c).state.settings = b.settings := by
  rcases dispatch_state_cases b c with h | ⟨r, k, i, d, -, -, -, -, h⟩ |
    ⟨description, l, state, -, -, h⟩
  all_goals rw [h]

/-- A load that succeeds leaves what it finds loaded, under a path that is not empty. -/
theorem holds_of_loads (hpath : r.path ≠ "")
    (h : (dispatch (service fs elapsed) s b (.load r)).response = .ofValue (Signed.zero 32)) :
    (dispatch (service fs elapsed) s b (.load r)).state.Holds fs r := by
  rcases b.load_cases fs r with ⟨e, he⟩ | ⟨c, i, hf, hk | ⟨hk, d, ho⟩⟩
  · -- a load that fails is not answered with zero
    rw [(dispatch_load_of_firstFailure he).1] at h
    cases h
  · rw [(dispatch_load_of_keeps hf hk).2]
    exact ⟨c, i, hf, hk⟩
  · -- what opens is remembered under the path and the key of what was found
    rw [(dispatch_load_of_opens hf hk ho).2]
    exact ⟨c, i, hf.congr rfl fun _ _ => rfl, hpath, _, rfl, rfl, rfl⟩

namespace Holds

/-- A load of what is held succeeds and changes nothing. -/
theorem dispatch_load (h : b.Holds fs r) :
    (dispatch (service fs elapsed) s b (.load r)).response = .ofValue (Signed.zero 32) ∧
      (dispatch (service fs elapsed) s b (.load r)).state = b := by
  obtain ⟨c, i, hf, hk⟩ := h
  exact dispatch_load_of_keeps hf hk

/-- What is held does not depend on other files than those of specifications. -/
theorem congr (h : b.Holds fs r) (hfiles : r.SameFiles b.settings.specDir fs fs') :
    b.Holds fs' r := by
  obtain ⟨c, i, hf, hk⟩ := h
  exact ⟨c, i, hf.congr rfl hfiles, hk⟩

/-- A command leaves a component held, unless it loads another one. -/
theorem dispatch (h : b.Holds fs r) (hfiles : r.SameFiles b.settings.specDir fs fs')
    {c : Command} (hother : Loads c (dispatch (service fs' elapsed) s b c) → c = .load r) :
    (dispatch (service fs' elapsed) s b c).state.Holds fs r := by
  by_cases hc : c = .load r
  · rw [hc, (h.congr hfiles).dispatch_load.2]
    exact h
  rcases dispatch_state_cases b c with hsame | ⟨r', k, i, d, rfl, hf, hk, ho, -⟩ |
    ⟨description, l, state, -, hl, hcalled⟩
  · rw [hsame]
    exact h
  · -- a component that opens is loaded with success
    exact absurd (hother ⟨⟨r', rfl⟩, (dispatch_load_of_opens hf hk ho).1⟩) hc
  · -- a call changes the state of the driver, and neither the path nor the key
    obtain ⟨c, i, hf, hpath, l', hl', hpaths, hkeys⟩ := h
    obtain rfl : l = l' := Option.some.inj (hl.symm.trans hl')
    rw [hcalled]
    exact ⟨c, i, hf.congr rfl fun _ _ => rfl, hpath, l.withState state, rfl, hpaths, hkeys⟩

/-- Commands leave a component held, unless one of them loads another one. -/
theorem stateAfter {files : Nat → FileSystem} {times : Nat → Unsigned 64} {n : Nat}
    {cs : List Command} (h : b.Holds fs r)
    (hfiles : ∀ k < cs.length, r.SameFiles b.settings.specDir fs (files (n + k)))
    (hother : ∀ x ∈ cs.zip (Session.answers (fun n => service (files n) (times n)) s n b cs),
      Loads x.1 x.2 → x.1 = .load r) :
    (Session.stateAfter (fun n => service (files n) (times n)) s n b cs).Holds fs r ∧
      (Session.stateAfter (fun n => service (files n) (times n)) s n b cs).settings =
        b.settings := by
  -- the settings are carried along, because they say where the specification files are
  induction cs generalizing n b with
  | nil => exact ⟨h, rfl⟩
  | cons c cs ih =>
    rw [Session.answers, List.zip_cons_cons, List.forall_mem_cons] at hother
    generalize hnext : TargetBench.dispatch (service (files n) (times n)) s b c = next at hother
    have hfirst : next.state.Holds fs r := by
      rw [← hnext]
      exact h.dispatch (hfiles 0 (Nat.succ_pos _)) (hnext ▸ hother.1)
    have hsettings : next.state.settings = b.settings := hnext ▸ settings_dispatch b c
    have hrest : ∀ k < cs.length,
        r.SameFiles next.state.settings.specDir fs (files (n + 1 + k)) := by
      intro k hk
      rw [hsettings, Nat.add_assoc, Nat.add_comm 1 k]
      exact hfiles (k + 1) (Nat.succ_lt_succ hk)
    obtain ⟨hholds, hkept⟩ := ih hfirst hrest hother.2
    rw [Session.stateAfter, hnext]
    exact ⟨hholds, hkept.trans hsettings⟩

end Holds

end Builder

/-! ## Later answers -/

/-- Commands get the same answers from services that answer each command the same, whatever the
numbers of the commands are. -/
theorem Session.answers_sameButTime {β : Type} {service service' : Nat → ComponentService β}
    {n m : Nat} (h : ∀ k b c, (dispatch (service (n + k)) s b c).SameButTime
      (dispatch (service' (m + k)) s b c)) (b : β) (cs : List Command) :
    List.Forall₂ Answer.SameButTime (Session.answers service s n b cs)
      (Session.answers service' s m b cs) := by
  induction cs generalizing n m b with
  | nil => exact .nil
  | cons c cs ih =>
    have hfirst : (dispatch (service n) s b c).SameButTime (dispatch (service' m) s b c) := h 0 b c
    have hrest : ∀ k b c, (dispatch (service (n + 1 + k)) s b c).SameButTime
        (dispatch (service' (m + 1 + k)) s b c) := by
      intro k
      rw [Nat.add_assoc, Nat.add_assoc, Nat.add_comm 1 k]
      exact h (k + 1)
    rw [Session.answers, Session.answers]
    refine .cons hfirst ?_
    -- both go on from the state that either answer leaves
    rw [hfirst.state]
    exact ih hrest _

/-- **Loading again changes nothing.** In whatever state a request with a path was answered with
zero, and whatever commands followed, as long as none of them loaded another component: the request
is answered with zero again and leaves what is loaded as it was, the driver and its state included.
Commands after it get the answers that they would get without it, when they find the same files,
durations of calls aside. Only the specification files have to stay as they are. -/
theorem Session.reload_leaves_state (s : SessionSettings) (files : Nat → FileSystem)
    (times : Nat → Unsigned 64) (n : Nat) (b : Builder δ) (r : LoadRequest)
    (after : List Command) :
    let service := fun n => Builder.service (files n) (times n)
    let first := dispatch (service n) s b (.load r)
    let b' := Session.stateAfter service s (n + 1) first.state after
    let m := n + 1 + after.length
    let again := dispatch (service m) s b' (.load r)
    r.path ≠ "" → first.response = .ofValue (Signed.zero 32) →
    (∀ k ≤ after.length, r.SameFiles b.settings.specDir (files n) (files (n + 1 + k))) →
    (∀ x ∈ after.zip (Session.answers service s (n + 1) first.state after),
      Loads x.1 x.2 → x.1 = .load r) →
    again.response = .ofValue (Signed.zero 32) ∧ again.state = b' ∧
      ∀ (later : List Command) (times' : Nat → Unsigned 64),
        List.Forall₂ Answer.SameButTime (Session.answers service s (m + 1) again.state later)
          (Session.answers (fun k => Builder.service (files (k + 1)) (times' k)) s m b' later) := by
  intro service first b' m again hpath hzero hfiles hother
  have hsettings : first.state.settings = b.settings := Builder.settings_dispatch b (.load r)
  have hfirst : first.state.Holds (files n) r := Builder.holds_of_loads hpath hzero
  obtain ⟨hafter, hkept⟩ := hfirst.stateAfter
    (fun k hk => hsettings ▸ hfiles k hk.le) hother
  have hholds : b'.Holds (files m) r := by
    refine hafter.congr ?_
    rw [hkept, hsettings]
    exact hfiles after.length le_rfl
  obtain ⟨hagain, hstate⟩ : again.response = .ofValue (Signed.zero 32) ∧ again.state = b' :=
    hholds.dispatch_load
  refine ⟨hagain, hstate, fun later times' => ?_⟩
  -- the state is the same without the second load, only the numbers of later commands are not
  rw [hstate]
  apply Session.answers_sameButTime
  intro k b c
  rw [Nat.add_assoc m 1 k, Nat.add_comm 1 k]
  exact dispatch_sameButTime (files (m + (k + 1))) _ _ s b c

/-! ## A library that is gone when it is loaded again -/

namespace Reload

/-- The files without the library. -/
def remaining : FileSystem :=
  ⟨[(["spec"], .directory 0o755), (["spec", "library.spec.json"], .file (content 0))], []⟩

/-- The library is removed after the first command. -/
def filesAt : Nat → FileSystem
  | 0 => files (content 0)
  | _ => remaining

/-- A call that changes the state of the driver, and a load that fails. -/
def between : List Command :=
  [.call (encodeText (Call.ofFunction "open" [.callback "client"])), .load unknown]

theorem ofDirectory?_remaining : SpecificationFile.ofDirectory? remaining "/spec" =
    some [⟨"/spec/library.spec.json", content 0⟩] := by
  refine SpecificationFile.ofDirectory?_eq_some_iff.mpr ⟨["spec"], ?_, rfl, ?_⟩
  · exact FileSystem.resolve_name ⟨rfl, rfl, by decide⟩ (by decide) rfl nofun rfl
  · have hchildren :
        remaining.children ["spec"] = [("library.spec.json", .file (content 0))] := by
      simp [remaining, FileSystem.children]
    have hname : SpecificationFile.isName "library.spec.json" = true := by decide
    have hpath : Path.push "/spec" "library.spec.json" = "/spec/library.spec.json" := by decide
    rw [hchildren, List.mergeSort_singleton]
    simp only [List.filterMap_cons, SpecificationFile.candidate?, hname, if_true,
      List.filterMap_nil, List.map_cons, List.map_nil, hpath]

theorem sameFiles_filesAt (n : Nat) :
    request.SameFiles settings.specDir (filesAt 0) (filesAt (n + 1)) := by
  intro q hq
  obtain rfl : ComponentQuery.asked .sharedLibrary request = q := Except.ok.inj hq
  exact ofDirectory?_remaining.trans (ofDirectory?_files (content 0)).symm

end Reload

open Reload in
/-- The library is loaded, opened and removed; loading it again leaves it open. -/
theorem Session.reload_leaves_state_removed :
    let service := fun n => Builder.service (filesAt n) (Unsigned.zero 64)
    let fresh := Builder.fresh settings registry
    let first := dispatch (service 0) ⟨1, id, 0⟩ fresh (.load request)
    let b' := Session.stateAfter service ⟨1, id, 0⟩ 1 first.state between
    let again := dispatch (service 3) ⟨1, id, 0⟩ b' (.load request)
    request.path ≠ "" ∧ first.response = .ofValue (Signed.zero 32) ∧
      again.response = .ofValue (Signed.zero 32) ∧ again.state = b' := by
  intro service fresh first b' again
  have hfresh : ¬ fresh.Keeps request (found 0) := by
    rintro ⟨-, l, hl, -⟩
    cases hl
  have hzero : first.response = .ofValue (Signed.zero 32) :=
    (dispatch_load_of_opens (finds 0 fresh rfl) hfresh opens).1
  have hpath : request.path ≠ "" := by decide
  refine ⟨hpath, hzero, ?_⟩
  have hbetween : ∀ x ∈ between.zip (Session.answers service ⟨1, id, 0⟩ 1 first.state between),
      Loads x.1 x.2 → x.1 = .load request := by
    rintro x (_ | ⟨_, _ | ⟨_, ⟨⟩⟩⟩)
    · -- the first command loads nothing, and the second one fails
      rintro ⟨⟨r, ⟨⟩⟩, -⟩
    · rintro ⟨-, hloaded⟩
      rw [(dispatch_load_of_firstFailure (.unknownClass id_ne_unknown)).1] at hloaded
      cases hloaded
  obtain ⟨hagain, hstate, -⟩ := Session.reload_leaves_state ⟨1, id, 0⟩ filesAt
    (fun _ => Unsigned.zero 64) 0 fresh request between hpath hzero
    (fun k _ => (Nat.add_comm 1 k).symm ▸ sameFiles_filesAt k) hbetween
  exact ⟨hagain, hstate⟩

end TargetBench
