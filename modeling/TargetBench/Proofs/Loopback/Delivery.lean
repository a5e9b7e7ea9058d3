import TargetBench.Loopback.Controller
import TargetBench.Proofs.Driver.Calling

/-!
# Calls do not depend on delivery

A function of the controller first settles its results and the next state, and which notifications
are due; only then does it hand these to the channel. So a channel that refuses or loses them
changes neither, in any sequence of calls, even if every call finds another channel.

## Main definitions

* `Handler.HandsOver`: functions that need the channel for their notifications only
* `Loopback.delivery`: what becomes of a notification of the controller
* `Driver.outcomesOver`: the outcomes of calls, each with a channel of its own
* `Outcome.SameButDelivery`: outcomes that differ in nothing but delivery

## Main results

* `Driver.call_of_handsOver`: a driver with such functions settles its calls without the channel
* `Loopback.handsOver_table`: the functions of the controller are such functions
* `Loopback.outcomes_whatever_channels`: runs of the controller over any two sequences of channels
-/

namespace TargetBench

variable {δ : Type}

/-! ## Functions that hand their notifications over -/

section HandsOver

/- What becomes of a notification on a channel. -/
variable (deliver : CallbackChannel → Notification → List CallEffect)

/-- A function whose results, next state and due notifications are the same for all channels. -/
def Handler.HandsOver (handler : Handler δ) : Prop :=
  ∀ s args, ∃ result next due, ∀ channel,
    handler s args channel = ⟨result, next, List.flatMap (deliver channel) due⟩

namespace FunctionTable

/-- A table of functions that hand their notifications over. -/
def HandsOver (t : FunctionTable δ) : Prop :=
  ∀ entry ∈ t.functions, entry.handler.HandsOver deliver

variable {deliver}

theorem handsOver_empty (identity : Interface) :
    (empty identity : FunctionTable δ).HandsOver deliver := by
  intro entry hentry
  cases hentry

theorem HandsOver.addFunction {t : FunctionTable δ} {handler : Handler δ}
    (ht : t.HandsOver deliver) (h : handler.HandsOver deliver) (signature : Signature)
    (verifier : Option Verifier) :
    (t.addFunction signature handler verifier).HandsOver deliver := by
  intro entry hentry
  rcases List.mem_append.mp hentry with hold | hnew
  · exact ht entry (List.mem_filter.mp hold).1
  · cases List.mem_singleton.mp hnew
    exact h

theorem HandsOver.addAttribute {t : FunctionTable δ} (ht : t.HandsOver deliver)
    (declaration : Attribute) (getter : δ → Value) :
    (t.addAttribute declaration getter).HandsOver deliver := ht

end FunctionTable

namespace Driver

variable {deliver}

/-- A call is settled without the channel, whether the table turns it down or not. -/
theorem call_of_handsOver {d : Driver δ} (ht : d.table.HandsOver deliver) (c : Call) :
    ∃ result next due, ∀ channel,
      d.call c channel = ⟨result, next, List.flatMap (deliver channel) due⟩ := by
  rcases d.table.refuses_or_runs c with ⟨e, he⟩ | ⟨entry, hentry⟩
  · exact ⟨.error e, d.state, [], call_of_refuses he⟩
  · -- the check of the results comes after the function, and looks at nothing but these
    obtain ⟨result, next, due, h⟩ :=
      ht entry (FunctionTable.mem_of_function? hentry.found) d.state ⟨c.args⟩
    refine ⟨result.bind (checkResults entry.signature c.name), next, due, ?_⟩
    intro channel
    rw [call_of_runs hentry, h channel]

end Driver

end HandsOver

/-! ## Calls over changing channels -/

/-- The outcomes of calls, each on the state that the one before it left. The channel is given by
the number of the call, and the first call has number `n`. -/
def Driver.outcomesOver (channels : Nat → CallbackChannel) :
    Nat → Driver δ → List Call → List (Outcome δ (List Value))
  | _, _, [] => []
  | n, d, c :: cs =>
    d.call c (channels n) ::
      outcomesOver channels (n + 1) { d with state := (d.call c (channels n)).state } cs

@[simp] theorem Driver.length_outcomesOver (channels : Nat → CallbackChannel) (n : Nat)
    (d : Driver δ) (cs : List Call) : (d.outcomesOver channels n cs).length = cs.length := by
  induction cs generalizing n d with
  | nil => rfl
  | cons c cs ih => simp [outcomesOver, ih]

/-- **Outcomes that differ in nothing but delivery**: the results or the error, the next state and
the notifications that are due are the same, and each channel gets these. -/
structure Outcome.SameButDelivery (deliver : CallbackChannel → Notification → List CallEffect)
    (channel channel' : CallbackChannel) (o o' : Outcome δ (List Value)) : Prop where
  result : o.result = o'.result
  state : o.state = o'.state
  effects : ∃ due, o.effects = List.flatMap (deliver channel) due ∧
    o'.effects = List.flatMap (deliver channel') due

/-- Runs of one driver over two sequences of channels differ in nothing but delivery. -/
theorem Driver.outcomesOver_sameButDelivery
    {deliver : CallbackChannel → Notification → List CallEffect} {d : Driver δ}
    (ht : d.table.HandsOver deliver) (channels channels' : Nat → CallbackChannel) (n : Nat)
    (cs : List Call) (k : Nat) {o o' : Outcome δ (List Value)}
    (ho : (d.outcomesOver channels n cs)[k]? = some o)
    (ho' : (d.outcomesOver channels' n cs)[k]? = some o') :
    o.SameButDelivery deliver (channels (n + k)) (channels' (n + k)) o' := by
  -- by induction on the calls: the first one leaves both runs in the same state
  induction cs generalizing n d k with
  | nil => cases ho
  | cons c cs ih =>
    obtain ⟨result, next, due, hcall⟩ := call_of_handsOver ht c
    rw [outcomesOver, hcall] at ho ho'
    cases k with
    | zero =>
      cases ho
      cases ho'
      exact ⟨rfl, rfl, due, rfl, rfl⟩
    | succ k =>
      have hrest := ih (d := { d with state := next }) ht (n + 1) k ho ho'
      rwa [Nat.add_assoc, Nat.add_comm 1 k] at hrest

/-! ## The functions of the controller -/

namespace Loopback

/-- What becomes of a notification: the client gets it, or the log says why not, or, without a
channel, nothing. -/
def delivery (channel : CallbackChannel) (n : Notification) : List CallEffect :=
  match channel.notify n with
  | .ok line => [.notified line]
  | .error .notConnected => []
  | .error e => [.logged ⟨.warn, "halprobe-invoker::invoke", "loopback callback not delivered",
      [("callback", .text n.name), ("error", .text e.message)]⟩]

/-- The notification about a call of a callback function, if somebody owns the function. -/
def dueTo (s : Loopback) (function : String) (args : List Value) : List Notification :=
  (s.owners.request function args).toOption.toList

theorem emit_eq_flatMap (s : Loopback) (channel : CallbackChannel) (function : String)
    (args : List Value) :
    s.emit channel function args = (s.dueTo function args).flatMap (delivery channel) := by
  rw [emit, dueTo, CallbackOwners.request]
  cases s.owners.owner? function with
  | none => rfl
  | some client => simp only [Except.toOption, Option.toList, List.flatMap_singleton]; rfl

/-- The notification about an event, if somebody is to be told. -/
def dueAbout (s : Loopback) (e : NfcEvent) : List Notification :=
  s.dueTo eventFunction [.ofMember e, .ofMember NfcStatus.ok]

theorem event_eq_flatMap (s : Loopback) (channel : CallbackChannel) (e : NfcEvent) :
    s.event channel e = (s.dueAbout e).flatMap (delivery channel) :=
  emit_eq_flatMap s channel _ _

theorem handsOver_reportIfOpen (e : NfcEvent) (s : Loopback) :
    ∃ result next due, ∀ channel,
      reportIfOpen e s channel = ⟨result, next, List.flatMap (delivery channel) due⟩ := by
  by_cases h : s.isOpen = true
  · refine ⟨answer .ok, s, s.dueAbout e, fun channel => ?_⟩
    rw [reportIfOpen, if_pos h, event_eq_flatMap]
  · refine ⟨answer .failed, s, [], fun channel => ?_⟩
    rw [reportIfOpen, if_neg h]
    rfl

theorem handsOver_openFor : Handler.HandsOver delivery openFor := by
  intro s args
  cases hclient : args.callback 0 with
  | error source =>
    refine ⟨.error (.arguments "open" source), s, [], fun channel => ?_⟩
    rw [openFor, hclient]
    rfl
  | ok client =>
    -- the client is registered before it is told
    let owners := (s.owners.register eventFunction client).register dataFunction client
    let next : Loopback := { s with owners := owners, isOpen := true }
    refine ⟨answer .ok, next, next.dueAbout .openComplete, fun channel => ?_⟩
    rw [openFor, hclient, ← event_eq_flatMap]

theorem handsOver_write : Handler.HandsOver delivery write := by
  intro s args
  cases hdata : args.vector .uint8 0 with
  | error source =>
    refine ⟨.error (.arguments "write" source), s, [], fun channel => ?_⟩
    rw [write, hdata]
    rfl
  | ok data =>
    -- nothing is due, and nothing is recorded, unless bytes are accepted
    generalize haccepted :
      (if s.isOpen && decide (data.length ≤ maxPayload) then data.length else 0) = accepted
    let count : Except InvokeError (List Value) :=
      .ok [.ofNative .uint32 (Unsigned.clamp 32 accepted)]
    by_cases h : 0 < accepted
    · let next : Loopback := { s with written := s.written ++ data }
      refine ⟨count, next, next.dueTo dataFunction [.ofNatives .uint8 data], fun channel => ?_⟩
      simp only [write, hdata, haccepted, if_pos h, emit_eq_flatMap, next, count]
    · refine ⟨count, s, [], fun channel => ?_⟩
      simp only [write, hdata, haccepted, if_neg h, List.flatMap_nil, count]

theorem handsOver_coreInitialized : Handler.HandsOver delivery coreInitialized := by
  intro s args
  cases hdata : args.vector .uint8 0 with
  | error source =>
    refine ⟨.error (.arguments "coreInitialized" source), s, [], fun channel => ?_⟩
    rw [coreInitialized, hdata]
    rfl
  | ok data =>
    simp only [coreInitialized, hdata]
    exact handsOver_reportIfOpen .postInitComplete s

theorem handsOver_prediscover : Handler.HandsOver delivery prediscover :=
  fun s _ => handsOver_reportIfOpen .preDiscoverComplete s

theorem handsOver_close : Handler.HandsOver delivery close := by
  intro s args
  by_cases h : s.isOpen = true
  · -- the client is told before it is forgotten
    refine ⟨answer .ok, { s with isOpen := false, owners := .empty }, s.dueAbout .closeComplete,
      fun channel => ?_⟩
    rw [close, if_pos h, event_eq_flatMap]
  · refine ⟨answer .failed, s, [], fun channel => ?_⟩
    rw [close, if_neg h]
    rfl

theorem handsOver_controlGranted : Handler.HandsOver delivery controlGranted :=
  fun s _ => ⟨answer (if s.isOpen then .ok else .failed), s, [], fun _ => rfl⟩

theorem handsOver_powerCycle : Handler.HandsOver delivery powerCycle :=
  fun s _ => handsOver_reportIfOpen .openComplete s

/-- The functions of the controller hand their notifications over. -/
theorem handsOver_table : table.HandsOver delivery :=
  FunctionTable.handsOver_empty identity
    |>.addFunction handsOver_openFor _ compareStatus
    |>.addFunction handsOver_write _ none
    |>.addFunction handsOver_coreInitialized _ compareStatus
    |>.addFunction handsOver_prediscover _ compareStatus
    |>.addFunction handsOver_close _ compareStatus
    |>.addFunction handsOver_controlGranted _ compareStatus
    |>.addFunction handsOver_powerCycle _ compareStatus
    |>.addAttribute _ _

/-- **Delivery does not matter to the controller.** Whatever calls are made of it, in whatever state
it is, and whatever channels they find, two runs answer every call, and each call has the same
results or the same error, leaves the same state, and owes the client the same notifications in
both. -/
theorem outcomes_whatever_channels (s : Loopback) (cs : List Call)
    (channels channels' : Nat → CallbackChannel) :
    let run := Driver.outcomesOver channels 0 ⟨table, s⟩ cs
    let run' := Driver.outcomesOver channels' 0 ⟨table, s⟩ cs
    run.length = cs.length ∧ run'.length = cs.length ∧
      ∀ (k : Nat) (o o' : Outcome Loopback (List Value)), run[k]? = some o → run'[k]? = some o' →
        o.SameButDelivery delivery (channels k) (channels' k) o' := by
  intro run run'
  refine ⟨Driver.length_outcomesOver .., Driver.length_outcomesOver .., ?_⟩
  intro k o o' ho ho'
  have h := Driver.outcomesOver_sameButDelivery (d := ⟨table, s⟩) handsOver_table channels channels'
    0 cs k ho ho'
  rwa [Nat.zero_add] at h

end Loopback

end TargetBench
