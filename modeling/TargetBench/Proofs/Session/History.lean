import TargetBench.Proofs.Session.Identity
import TargetBench.Proofs.Session.Order
import TargetBench.Proofs.Session.Refusal

/-!
# What answers tell of a session

The fields of a response are filled as the kind of its command says, and the responses of a session
tell whether something is loaded: before the first load that succeeds every call is refused and
the interface is not described, and from then on it is described for good.

## Main definitions

* `Response.Suits`: the responses that a command may get
* `Session.Answered`: what a session does with the frames in front
* `Session.LoadedBefore`: an earlier load succeeded, as far as the responses tell
* `Session.Consistent`: a response that fits its command and the responses before it

## Main results

* `suits_dispatch`: every command gets a response that it may get
* `isSome_specification_stateAfter`: something is loaded if and only if it was at first, or a load
  succeeded
* `Session.exists_answered`: a session answers the commands in front, whatever stops it
* `Session.responses_consistent`: all responses of a session fit the responses before them
-/

namespace TargetBench

/-! ## Responses by the kind of their command -/

/-- The responses that a command may get. The kind of the command alone decides which of their
fields are filled. -/
inductive Response.Suits (status : Signed 32 → Signed 32) : Command → Response → Prop where
  | exit : Suits status .exit ⟨.success, none, none⟩
  | loaded (r : LoadRequest) : Suits status (.load r) ⟨.success, some (Signed.zero 32), none⟩
  | notLoaded (r : LoadRequest) :
      Suits status (.load r) ⟨.success, some ⟨-1, by decide, by decide⟩, none⟩
  | status (kind : Signed 32) : Suits status (.status kind) ⟨.success, some (status kind), none⟩
  | result (description message : String) :
      Suits status (.call description) ⟨.success, none, some message⟩
  | refused (description : String) : Suits status (.call description) ⟨.fail, none, none⟩
  | listed (message : Option String) : Suits status .list ⟨.success, none, message⟩

variable {δ : Type} {fs : FileSystem} {elapsed : Unsigned 64} {s : SessionSettings}
  {b : Builder δ}

/-- Every command gets a response that it may get. -/
theorem suits_dispatch (c : Command) :
    (dispatch (Builder.service fs elapsed) s b c).response.Suits s.status c := by
  cases c with
  | exit => exact .exit
  | status kind => exact .status kind
  | load r =>
    cases h : (b.load fs r).1 with
    | ok _ =>
      rw [(dispatch_load_of_ok h).1]
      exact .loaded r
    | error e =>
      rw [(dispatch_load_of_error h).1]
      exact .notLoaded r
  | call description =>
    rw [dispatch, Dispatch.call]
    cases (decodeText description : Except CodecError Call) with
    | error e => exact .refused description
    | ok call =>
      rcases h : (Builder.service fs elapsed).invoke b call with ⟨e | result, b', effects⟩
      · simp only [h]
        exact .refused description
      · simp only [h]
        exact .result description _
  | list =>
    rw [dispatch, Dispatch.list]
    cases (Builder.service fs elapsed).specification? b with
    | none => exact .listed none
    | some i => exact .listed _

/-! ## Whether something is loaded -/

/-- Something is loaded after a load that succeeds. -/
theorem isSome_specification_of_loads {c : Command}
    (h : Loads c (dispatch (Builder.service fs elapsed) s b c)) :
    (dispatch (Builder.service fs elapsed) s b c).state.specification?.isSome = true := by
  obtain ⟨⟨r, rfl⟩, hzero⟩ := h
  rcases b.load_cases fs r with ⟨e, he⟩ | ⟨k, i, hf, hk | ⟨hk, d, ho⟩⟩
  · rw [(dispatch_load_of_firstFailure he).1] at hzero
    cases hzero
  · obtain ⟨-, l, hl, -⟩ := id hk
    rw [(dispatch_load_of_keeps hf hk).2, Builder.specification?, hl]
    rfl
  · rw [(dispatch_load_of_opens hf hk ho).2]
    rfl

/-- A command leaves something loaded if and only if something was loaded before it, or it loads
with success. -/
theorem isSome_specification_dispatch (c : Command) :
    (dispatch (Builder.service fs elapsed) s b c).state.specification?.isSome = true ↔
      b.specification?.isSome = true ∨ Loads c (dispatch (Builder.service fs elapsed) s b c) := by
  by_cases h : Loads c (dispatch (Builder.service fs elapsed) s b c)
  · exact iff_of_true (isSome_specification_of_loads h) (.inr h)
  · rw [dispatch_specification h, or_iff_left h]

/-- Something is loaded after the first commands if and only if something was loaded before them, or
one of them loads with success. -/
theorem isSome_specification_stateAfter {files : Nat → FileSystem} {times : Nat → Unsigned 64}
    (b : Builder δ) (cs : List Command) (k : Nat) :
    (Session.stateAfter (fun n => Builder.service (files n) (times n)) s 0 b
        (cs.take k)).specification?.isSome = true ↔
      b.specification?.isSome = true ∨ ∃ j < k, ∃ c, cs[j]? = some c ∧
        Loads c (dispatch (Builder.service (files j) (times j)) s
          (Session.stateAfter (fun n => Builder.service (files n) (times n)) s 0 b (cs.take j))
          c) := by
  set service := fun n => Builder.service (files n) (times n) with hservice
  set state := fun k => Session.stateAfter service s 0 b (cs.take k) with hstates
  show (state k).specification?.isSome = true ↔ b.specification?.isSome = true ∨
    ∃ j < k, ∃ c, cs[j]? = some c ∧ Loads c (dispatch (service j) s (state j) c)
  induction k with
  | zero => simp [state, Session.stateAfter]
  | succ k ih =>
    simp only [Nat.lt_succ_iff_lt_or_eq, or_and_right, exists_or, exists_eq_left]
    rw [← or_assoc, ← ih]
    cases hc : cs[k]? with
    | none =>
      -- there is no command at this place, so the state is the one before
      have hstate : state (k + 1) = state k := by
        simp only [state, List.take_add_one, hc, Option.toList_none, List.append_nil]
      simp [hstate]
    | some c =>
      have hk : (cs.take k).length = k :=
        List.length_take_of_le (List.getElem?_eq_some_iff.mp hc).1.le
      have hstate : state (k + 1) = (dispatch (service k) s (state k) c).state := by
        simp only [state, List.take_add_one, hc, Option.toList_some, Session.stateAfter_append,
          Session.stateAfter]
        rw [hk, Nat.zero_add]
      rw [hstate, isSome_specification_dispatch]
      simp only [Option.some.injEq, exists_eq_left']
      rfl

/-- A call is refused if nothing is loaded. -/
theorem dispatch_call_of_nothing (h : b.specification? = none) (description : String) :
    (dispatch (Builder.service fs elapsed) s b (.call description)).response = .failure := by
  have hb : b.loaded = none := Option.map_eq_none_iff.mp h
  cases hc : (decodeText description : Except CodecError Call) with
  | error e => rw [dispatch_call_of_malformed hc]
  | ok c => rw [dispatch_call_of_error hc (Builder.invoke_of_nothing hb)]

/-- The interface is described if and only if something is loaded. -/
theorem isSome_message_dispatch_list :
    (dispatch (Builder.service fs elapsed) s b .list).response.message.isSome =
      b.specification?.isSome := by
  cases h : b.specification? with
  | none =>
    have h' : (Builder.service fs elapsed).specification? b = none := h
    simp only [dispatch, Dispatch.list, h']
    rfl
  | some i =>
    rw [dispatch_list_of_some h]
    rfl

namespace Session

/-! ## The commands that a session answers -/

variable {β : Type}

/-- The session answers the commands `cs`, the first of which has number `n`: they are those of the
frames in front, only the last one may be the request to exit, and a command after them is not
answered only because of that request or because the answer cannot be sent. -/
structure Answered (service : Nat → ComponentService β) (settings : SessionSettings)
    (writable : Nat → Bool) (n : Nat) (b : β) (frames : List (List UInt8)) (cs : List Command)
    (t : Transcript β) : Prop where
  commands_of_frames : (frames.take cs.length).map Command.ofFrame? = cs.map some
  exchanges : t.exchanges = (answers service settings n b cs).map Answer.exchange
  exited_iff : t.ending = .exited ↔ .exit ∈ cs
  exit_last : ∀ k, cs[k]? = some .exit → cs.length = k + 1
  goes_on : .exit ∉ cs → writable (n + cs.length) = true →
    ∀ frame ∈ frames[cs.length]?, Command.ofFrame? frame = none

/-- A session answers the commands in front, whatever stops it. -/
theorem exists_answered (service : Nat → ComponentService β) (settings : SessionSettings)
    (writable : Nat → Bool) (last : Option FrameError) (n : Nat) (b : β)
    (frames : List (List UInt8)) :
    ∃ cs, Answered service settings writable n b frames cs
      (run service settings writable last [] (going b n) frames) := by
  -- the frames in front are answered; what stops the session is one of four cases
  induction frames generalizing n b with
  | nil =>
    refine ⟨[], ?_⟩
    rw [run_nil]
    exact ⟨rfl, rfl, iff_of_false (endingOf_ne_exited last) List.not_mem_nil, nofun, nofun⟩
  | cons frame frames ih =>
    cases hf : Command.ofFrame? frame with
    | none =>
      refine ⟨[], ?_⟩
      rw [run_malformed service settings writable last hf]
      exact ⟨rfl, rfl, iff_of_false nofun List.not_mem_nil, nofun, fun _ _ => by simpa using hf⟩
    | some c =>
      cases hw : writable n with
      | false =>
        refine ⟨[], ?_⟩
        rw [run_unwritable service settings writable last hf hw]
        refine ⟨rfl, rfl, iff_of_false nofun List.not_mem_nil, nofun, fun _ hw' => ?_⟩
        cases hw.symm.trans hw'
      | true =>
        by_cases hc : c = .exit
        · subst hc
          refine ⟨[.exit], ?_⟩
          rw [run_exit service settings writable last hf hw]
          refine ⟨by simp [hf], rfl, iff_of_true rfl List.mem_cons_self, fun k hk => ?_,
            fun hn => absurd List.mem_cons_self hn⟩
          obtain ⟨hk, -⟩ := List.getElem?_eq_some_iff.mp hk
          exact congrArg Nat.succ (Nat.lt_one_iff.mp hk).symm
        · -- any other command leaves the session to the frames after it
          obtain ⟨cs, h⟩ := ih (n + 1) (dispatch (service n) settings b c).state
          refine ⟨c :: cs, ?_⟩
          rw [run_command service settings writable last hf hc hw]
          constructor
          case commands_of_frames => simp [hf, h.commands_of_frames]
          case exchanges => rw [Transcript.behind, h.exchanges]; rfl
          case exited_iff =>
            rw [List.mem_cons, or_iff_right (Ne.symm hc)]
            exact h.exited_iff
          case exit_last =>
            intro k hk
            cases k with
            | zero => exact absurd (Option.some.inj hk) hc
            | succ k => exact congrArg Nat.succ (h.exit_last k hk)
          case goes_on =>
            intro hn hw'
            refine h.goes_on (fun hmem => hn (List.mem_cons_of_mem c hmem)) ?_
            rwa [Nat.add_assoc, Nat.add_comm 1]

/-! ## Responses and the responses before them -/

/-- The command in the frame at a place. -/
def commandAt (frames : List (List UInt8)) (k : Nat) : Option Command :=
  frames[k]?.bind Command.ofFrame?

/-- A load request in front of the place `k` was answered with zero. -/
def LoadedBefore (frames : List (List UInt8)) (t : Transcript β) (k : Nat) : Prop :=
  ∃ j < k, ∃ r e, commandAt frames j = some (.load r) ∧ t.exchanges[j]? = some e ∧
    e.response = .ofValue (Signed.zero 32)

/-- **A response at the place `k` that fits its command `c` and the responses before it.** -/
structure Consistent (settings : SessionSettings) (writable : Nat → Bool)
    (frames : List (List UInt8)) (t : Transcript β) (k : Nat) (response : Response) (c : Command) :
    Prop where
  command : commandAt frames k = some c
  suits : response.Suits settings.status c
  /-- The request to exit ends the session. -/
  ends : c = .exit → t.exchanges.length = k + 1 ∧ t.ending = .exited
  /-- No other command does: the command after it is answered if that can be sent. -/
  goes_on : c ≠ .exit → (commandAt frames (k + 1)).isSome = true → writable (k + 1) = true →
    k + 1 < t.exchanges.length
  /-- A call is refused until a load succeeds. -/
  refused : ∀ description, c = .call description → ¬ LoadedBefore frames t k →
    response = .failure
  /-- The interface is described as soon as a load has succeeded, and not before. -/
  described : c = .list → (response.message.isSome = true ↔ LoadedBefore frames t k)

section Answered

variable {service : Nat → ComponentService β} {settings : SessionSettings} {writable : Nat → Bool}
  {b : β} {frames : List (List UInt8)} {cs : List Command} {t : Transcript β}

theorem Answered.length_exchanges (h : Answered service settings writable 0 b frames cs t) :
    t.exchanges.length = cs.length := by
  rw [h.exchanges, List.length_map, length_answers]

/-- The frame of a command that is answered holds the command. -/
theorem Answered.commandAt_eq (h : Answered service settings writable 0 b frames cs t) {k : Nat}
    (hk : k < cs.length) : commandAt frames k = cs[k]? := by
  have hat := congrArg (fun l => l[k]?) h.commands_of_frames
  simp only [List.getElem?_map, List.getElem?_take, hk, if_true] at hat
  rw [List.getElem?_eq_getElem hk, Option.map_some, Option.map_eq_some_iff] at hat
  obtain ⟨frame, hframe, hcommand⟩ := hat
  rw [commandAt, hframe, List.getElem?_eq_getElem hk]
  exact hcommand

/-- A command is answered if that can be sent, the commands before it are answered and none of them
is the request to exit. -/
theorem Answered.lt_length_exchanges (h : Answered service settings writable 0 b frames cs t)
    {k : Nat} (hk : k ≤ cs.length) (hexit : .exit ∉ cs.take k)
    (hcommand : (commandAt frames k).isSome = true) (hw : writable k = true) :
    k < t.exchanges.length := by
  rw [h.length_exchanges]
  by_contra hlast
  obtain rfl : cs.length = k := Nat.le_antisymm (Nat.not_lt.mp hlast) hk
  rw [List.take_length] at hexit
  obtain ⟨c, hc⟩ := Option.isSome_iff_exists.mp hcommand
  obtain ⟨frame, hframe, hc⟩ := Option.bind_eq_some_iff.mp hc
  have hnone := h.goes_on hexit (by rwa [Nat.zero_add]) frame hframe
  cases hnone.symm.trans hc

/-- What is sent at a place is the answer to the command there, on the state that the commands
before it left. -/
theorem Answered.exchange_eq (h : Answered service settings writable 0 b frames cs t) {k : Nat}
    {e : Exchange} (he : t.exchanges[k]? = some e) :
    ∃ c, cs[k]? = some c ∧
      e = (dispatch (service k) settings (stateAfter service settings 0 b (cs.take k))
        c).exchange := by
  rw [h.exchanges, List.getElem?_map, getElem?_answers, Nat.zero_add] at he
  simp only [Option.map_eq_some_iff] at he
  obtain ⟨_, ⟨c, hc, rfl⟩, rfl⟩ := he
  exact ⟨c, hc, rfl⟩

end Answered

section Run

variable {files : Nat → FileSystem} {times : Nat → Unsigned 64} {writable : Nat → Bool}
  {b : Builder δ} {frames : List (List UInt8)} {cs : List Command} {t : Transcript (Builder δ)}

/-- The responses tell whether something is loaded. -/
theorem Answered.loadedBefore_iff (hb : b.specification? = none)
    (h : Answered (fun n => Builder.service (files n) (times n)) s writable 0 b frames cs t)
    {k : Nat} (hk : k ≤ cs.length) :
    LoadedBefore frames t k ↔
      (stateAfter (fun n => Builder.service (files n) (times n)) s 0 b
        (cs.take k)).specification?.isSome = true := by
  rw [isSome_specification_stateAfter, hb, Option.isSome_none, or_iff_right Bool.false_ne_true]
  -- both sides ask for a load with success at some place before `k`: one of them looks at what was
  -- sent, the other one at what the command answers there
  refine exists_congr fun j => and_congr_right fun hj => ?_
  rw [h.commandAt_eq (hj.trans_le hk)]
  constructor
  · rintro ⟨r, e, hc, he, hzero⟩
    obtain ⟨c, hc', rfl⟩ := h.exchange_eq he
    obtain rfl : c = .load r := Option.some.inj (hc'.symm.trans hc)
    exact ⟨.load r, hc, ⟨r, rfl⟩, hzero⟩
  · rintro ⟨_, hc, ⟨r, rfl⟩, hzero⟩
    have he : j < t.exchanges.length := h.length_exchanges ▸ hj.trans_le hk
    obtain ⟨c, hc', he'⟩ := h.exchange_eq (List.getElem?_eq_getElem he)
    obtain rfl : c = .load r := Option.some.inj (hc'.symm.trans hc)
    exact ⟨r, t.exchanges[j], hc, List.getElem?_eq_getElem he, by rw [he']; exact hzero⟩

/-- A response fits its command and the responses before it. -/
theorem Answered.consistent (hb : b.specification? = none)
    (h : Answered (fun n => Builder.service (files n) (times n)) s writable 0 b frames cs t)
    {k : Nat} {e : Exchange} (he : t.exchanges[k]? = some e) :
    ∃ c, Consistent s writable frames t k e.response c := by
  obtain ⟨c, hc, rfl⟩ := h.exchange_eq he
  have hk : k < cs.length := (List.getElem?_eq_some_iff.mp hc).1
  have hloaded := h.loadedBefore_iff hb hk.le
  refine ⟨c, (h.commandAt_eq hk).trans hc, suits_dispatch c, ?_, ?_, ?_, ?_⟩
  · rintro rfl
    exact ⟨h.length_exchanges.trans (h.exit_last k hc),
      h.exited_iff.mpr (List.mem_of_getElem? hc)⟩
  · intro hne hnext hw
    refine h.lt_length_exchanges hk (fun hmem => ?_) hnext hw
    -- the request to exit would be the last command, but the last one in front of this is another
    obtain ⟨j, hj, hexit⟩ := List.mem_take_iff_getElem.mp hmem
    have hat : cs[j]? = some .exit := List.getElem?_eq_some_iff.mpr ⟨_, hexit⟩
    have hlast := h.exit_last j hat
    obtain rfl : j = k := by omega
    exact hne (Option.some.inj (hc.symm.trans hat))
  · rintro description rfl hnot
    rw [hloaded, Bool.not_eq_true, Option.isSome_eq_false_iff, Option.isNone_iff_eq_none] at hnot
    simp only [Answer.exchange]
    exact dispatch_call_of_nothing hnot description
  · rintro rfl
    rw [hloaded]
    simp only [Answer.exchange]
    exact Bool.coe_iff_coe.mpr isSome_message_dispatch_list

end Run

/-- **The responses of a session tell its history.** In any run from a fresh session, whatever the
frames, the drivers and the files, and whichever answer cannot be sent: the first command is
answered if that can be sent, every response that is sent is filled as the kind of its command says,
only the request to exit ends the session, calls are refused until a load succeeds, and the
interface is described exactly from then on, for good. -/
theorem responses_consistent (ls : LoadSettings) (registry : DriverRegistry δ)
    (s : SessionSettings) (files : Nat → FileSystem) (times : Nat → Unsigned 64)
    (writable : Nat → Bool) (last : Option FrameError) (frames : List (List UInt8)) :
    let t := run (fun n => Builder.service (files n) (times n)) s writable last []
      (fresh (Builder.fresh ls registry)) frames
    ((commandAt frames 0).isSome = true → writable 0 = true → 0 < t.exchanges.length) ∧
      (∀ k e, t.exchanges[k]? = some e → ∃ c, Consistent s writable frames t k e.response c) ∧
      (t.ending = .exited →
        ∃ k e, t.exchanges[k]? = some e ∧ commandAt frames k = some .exit) ∧
      ∀ j k d e, j ≤ k → commandAt frames j = some .list → t.exchanges[j]? = some d →
        commandAt frames k = some .list → t.exchanges[k]? = some e →
        d.response.message.isSome = true → e.response.message.isSome = true := by
  intro t
  obtain ⟨cs, h⟩ := exists_answered (fun n => Builder.service (files n) (times n)) s writable last 0
    (Builder.fresh ls registry) frames
  have hconsistent : ∀ k e, t.exchanges[k]? = some e →
      ∃ c, Consistent s writable frames t k e.response c := fun k e he => h.consistent rfl he
  have hfirst := h.lt_length_exchanges (Nat.zero_le cs.length) List.not_mem_nil
  refine ⟨hfirst, hconsistent, fun hexited => ?_, fun j k d e hjk hj hd hk he hmessage => ?_⟩
  · -- the request to exit is among the commands that were answered
    obtain ⟨k, hk⟩ := List.mem_iff_getElem?.mp (h.exited_iff.mp hexited)
    have hlength : k < cs.length := (List.getElem?_eq_some_iff.mp hk).1
    have he : k < t.exchanges.length := h.length_exchanges.symm ▸ hlength
    exact ⟨k, _, List.getElem?_eq_getElem he, (h.commandAt_eq hlength).trans hk⟩
  · -- a load before the earlier place is one before the later place
    obtain ⟨c, hc⟩ := hconsistent j d hd
    obtain ⟨c', hc'⟩ := hconsistent k e he
    obtain rfl : c = .list := Option.some.inj (hc.command.symm.trans hj)
    obtain rfl : c' = .list := Option.some.inj (hc'.command.symm.trans hk)
    obtain ⟨i, hi, hload⟩ := (hc.described rfl).mp hmessage
    exact (hc'.described rfl).mpr ⟨i, hi.trans_le hjk, hload⟩

end Session

end TargetBench
