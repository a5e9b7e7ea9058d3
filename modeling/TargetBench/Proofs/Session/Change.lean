import TargetBench.Loopback.Controller
import TargetBench.Proofs.Session.Answers
import TargetBench.Proofs.Specification.Loading

/-!
# What commands change

A command leaves a builder as it is, puts a newly opened component in place of the one before, or
changes the state of the loaded driver. Every invariant of a builder is kept by all commands if it
is kept by the last two changes.

## Main definitions

* `Loaded.withState`: a loaded component with another state of its driver
* `Builder.Serves`: all drivers have a given table

## Main results

* `dispatch_state_cases`: the three things that a command can do
* `Builder.Serves.dispatch`, `Builder.Serves.stateAfter`: the table of the drivers stays the same
* `Builder.serves_fresh_standard`: a session starts with the loopback controller as its only driver
-/

namespace TargetBench

variable {δ : Type}

/-- A loaded component with another state of its driver. -/
def Loaded.withState (l : Loaded δ) (state : δ) : Loaded δ :=
  { l with driver := { l.driver with state := state } }

@[simp] theorem Loaded.withState_specification (l : Loaded δ) (state : δ) :
    (l.withState state).specification = l.specification := rfl

@[simp] theorem Loaded.withState_key (l : Loaded δ) (state : δ) :
    (l.withState state).key = l.key := rfl

@[simp] theorem Loaded.withState_table (l : Loaded δ) (state : δ) :
    (l.withState state).driver.table = l.driver.table := rfl

/-- A call changes at most the state of the loaded driver. -/
theorem Builder.invoke_state_cases (b : Builder δ) (elapsed : Unsigned 64) (c : Call) :
    (b.invoke elapsed c).2.1 = b ∨ ∃ l state, b.loaded = some l ∧
      (b.invoke elapsed c).2.1 = { b with loaded := some (l.withState state) } := by
  rw [Builder.invoke]
  cases hl : b.loaded with
  | none => exact .inl rfl
  | some l =>
    cases ht : c.target with
    | function =>
      refine .inr ⟨l, (l.driver.call c b.settings.callbacks).state, rfl, ?_⟩
      cases hr : (l.driver.call c b.settings.callbacks).result with
      | error e => simp only [hr, Loaded.withState]
      | ok results => simp only [hr, Loaded.withState]
    | _ =>
      cases hr : l.driver.readAttribute c.name with
      | error e => simp only [hr, true_or]
      | ok v => simp only [hr, true_or]

variable {fs : FileSystem} {elapsed : Unsigned 64} {s : SessionSettings}

theorem dispatch_call_state (b : Builder δ) {description : String} {c : Call}
    (hc : decodeText description = (.ok c : Except CodecError Call)) :
    (dispatch (Builder.service fs elapsed) s b (.call description)).state =
      (b.invoke elapsed c).2.1 := by
  simp only [dispatch, Dispatch.call, hc, Builder.service]
  cases (b.invoke elapsed c).1 <;> rfl

/-- **What a command does to a builder.** It leaves the builder as it is, or opens a component that
it was asked to load, or changes the state of the loaded driver. -/
theorem dispatch_state_cases (b : Builder δ) (c : Command) :
    (dispatch (Builder.service fs elapsed) s b c).state = b ∨
      (∃ r k i d, c = .load r ∧ b.Finds fs r k i ∧ ¬ b.Keeps r i ∧ b.Opens fs r k i d ∧
        (dispatch (Builder.service fs elapsed) s b c).state =
          { b with loaded := some ⟨r.path, DriverKey.ofInterface i, i, d⟩ }) ∨
      ∃ description l state, c = .call description ∧ b.loaded = some l ∧
        (dispatch (Builder.service fs elapsed) s b c).state =
          { b with loaded := some (l.withState state) } := by
  cases c with
  | exit => exact .inl rfl
  | status kind => exact .inl rfl
  | list =>
    refine .inl ?_
    rw [dispatch, Dispatch.list]
    cases (Builder.service fs elapsed).specification? b <;> rfl
  | load r =>
    rcases b.load_cases fs r with ⟨e, he⟩ | ⟨k, i, hf, hk | ⟨hk, d, ho⟩⟩
    · exact .inl (dispatch_load_of_firstFailure he).2.1
    · exact .inl (dispatch_load_of_keeps hf hk).2
    · exact .inr (.inl ⟨r, k, i, d, rfl, hf, hk, ho, (dispatch_load_of_opens hf hk ho).2⟩)
  | call description =>
    cases hc : (decodeText description : Except CodecError Call) with
    | error e =>
      refine .inl ?_
      simp only [dispatch, Dispatch.call, hc]
    | ok call =>
      rw [dispatch_call_state b hc]
      rcases b.invoke_state_cases elapsed call with h | ⟨l, state, hl, h⟩
      · exact .inl h
      · exact .inr (.inr ⟨description, l, state, rfl, hl, h⟩)

/-! ## The table of the drivers -/

/-- Every driver that can be opened has the table `t`, and so has the loaded one. -/
structure Builder.Serves (b : Builder δ) (t : FunctionTable δ) : Prop where
  opened : ∀ key factory, b.registry.factory? key = some factory →
    ∀ target d, factory target = .ok d → d.table = t
  loaded : ∀ l, b.loaded = some l → l.driver.table = t

variable {b : Builder δ} {t : FunctionTable δ}

/-- A command keeps the table of the drivers. -/
theorem Builder.Serves.dispatch (h : b.Serves t) (c : Command) :
    (dispatch (Builder.service fs elapsed) s b c).state.Serves t := by
  rcases dispatch_state_cases b c with hsame | ⟨r, k, i, d, -, -, -, ho, hopened⟩ |
    ⟨description, l, state, -, hl, hcalled⟩
  · rw [hsame]
    exact h
  · obtain ⟨target, factory, -, hfactory, hd⟩ := ho
    rw [hopened]
    refine ⟨h.opened, ?_⟩
    rintro _ ⟨⟩
    exact h.opened _ factory hfactory target d hd
  · rw [hcalled]
    refine ⟨h.opened, ?_⟩
    rintro _ ⟨⟩
    rw [Loaded.withState_table]
    exact h.loaded l hl

/-- A run of commands keeps the table of the drivers. -/
theorem Builder.Serves.stateAfter {files : Nat → FileSystem} {times : Nat → Unsigned 64}
    (h : b.Serves t) (n : Nat) (cs : List Command) :
    (Session.stateAfter (fun n => Builder.service (files n) (times n)) s n b cs).Serves t := by
  refine Session.stateAfter_induction (P := fun b : Builder δ => b.Serves t) ?_ h cs
  exact fun _ _ c hb => hb.dispatch c

/-- A session starts with the loopback controller as its only driver. -/
theorem Builder.serves_fresh_standard (settings : LoadSettings) :
    (Builder.fresh settings DriverRegistry.standard).Serves Loopback.table := by
  refine ⟨?_, fun l hl => nomatch hl⟩
  intro key factory hfactory target d hd
  -- the only factory there is opens a controller with its table
  obtain ⟨before, after, hentries, -⟩ := List.lookup_eq_some_iff.mp hfactory
  have hmem : (key, factory) ∈ DriverRegistry.standard.entries :=
    hentries ▸ List.mem_append_right before List.mem_cons_self
  cases List.mem_singleton.mp hmem
  cases hd
  rfl

end TargetBench
