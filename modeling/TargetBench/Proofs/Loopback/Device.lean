import TargetBench.Proofs.Collection.Traversal
import TargetBench.Proofs.Driver.Calling
import TargetBench.Proofs.Loopback.Total

/-!
# The loopback controller as a device

What a client sees of the controller: it is closed or open for one client, and it keeps the bytes
that were written. The flag, the two callback owners and the bytes that the controller stores are
these two facts at every moment, so any sequence of calls has the results, the notifications and
the state of the device.

## Main definitions

* `Loopback.Device`, `Loopback.Operation`, `Loopback.Device.step`: the device and what its
  operations do
* `Loopback.Device.handle`: what the device does with a call, which may be none of its operations
* `Loopback.Device.concrete`: the state of the controller that stands for a state of the device
* `Loopback.Agrees`: an outcome of a call that is the reply of the device

## Main results

* `Driver.call_of_fits`: a call that fits its declaration is handled by the function
* `Loopback.call_concrete`: one call does what the device does
* `Loopback.outcomes_agree`: any sequence of calls does what the device does
-/

namespace TargetBench

/-! ## Calls one after the other -/

namespace Driver

variable {δ : Type}

/-- The outcomes of calls, each on the state that the one before it left. -/
def outcomes (d : Driver δ) (channel : CallbackChannel) : List Call → List (Outcome δ (List Value))
  | [] => []
  | c :: cs =>
    d.call c channel :: outcomes { d with state := (d.call c channel).state } channel cs

/-- A call that fits its declaration is handled by the function. -/
theorem call_of_fits {d : Driver δ} {c : Call} {entry : FunctionEntry δ}
    (hentry : d.table.function? c.name = some entry) (hfits : entry.signature.Fits c.args)
    (channel : CallbackChannel) {results : List Value} {state : δ} {effects : List CallEffect}
    (h : entry.handler d.state ⟨c.args⟩ channel = ⟨.ok results, state, effects⟩)
    (hlength : results.length = entry.signature.returns.length) :
    d.call c channel = ⟨.ok results, state, effects⟩ := by
  rw [call_of_runs ⟨hentry, hfits⟩, h, bind_checkResults_eq_ok_iff.mpr ⟨rfl, hlength⟩]

end Driver

namespace Loopback

/-! ## The device -/

/-- The controller as a client sees it. -/
structure Device where
  /-- The client that the device is open for, if it is open. -/
  client : Option String
  /-- All bytes that were written. -/
  written : List (Unsigned 8)

/-- What a client asks of the device. -/
inductive Operation where
  | openFor (client : String)
  | write (data : List (Unsigned 8))
  | coreInitialized (data : List (Unsigned 8))
  | prediscover
  | close
  | controlGranted
  | powerCycle

/-- What the device does: results unless the call is rejected, the device after it, and what it
tells its client. -/
structure Reply where
  results : Option (List Value)
  device : Device
  notifications : List Notification

/-- A status as the only result. -/
def statusResult (status : NfcStatus) : Option (List Value) := some [.ofMember status]

/-- A number of bytes, at most as many as one write accepts, as the only result. -/
def countResult (n : Nat) (h : n ≤ 255) : Option (List Value) :=
  have hword : (255 : Int) ≤ Int.pow 2 32 - 1 := by decide
  some [.scalar ⟨.uint32, ⟨n, by omega, by omega⟩⟩]

/-- The notification about an event. -/
def eventNotification (client : String) (e : NfcEvent) : Notification :=
  ⟨client, "sendEvent", [.ofMember e, .ofMember NfcStatus.ok]⟩

/-- The notification that hands data to the client. -/
def dataNotification (client : String) (data : List (Unsigned 8)) : Notification :=
  ⟨client, "sendData", [.ofNatives .uint8 data]⟩

namespace Device

/-- A closed device that nothing was written to. -/
def fresh : Device := ⟨none, []⟩

/-- Tells the client about an event, if there is one. -/
def report (d : Device) (e : NfcEvent) : Reply :=
  match d.client with
  | some client => ⟨statusResult .ok, d, [eventNotification client e]⟩
  | none => ⟨statusResult .failed, d, []⟩

/-- What an operation does. -/
def step (d : Device) : Operation → Reply
  | .openFor client =>
    ⟨statusResult .ok, { d with client := some client }, [eventNotification client .openComplete]⟩
  | .write data => match d.client with
    | some client =>
      if h : 1 ≤ data.length ∧ data.length ≤ 255 then
        ⟨countResult data.length h.2, { d with written := d.written ++ data },
          [dataNotification client data]⟩
      else ⟨countResult 0 (by decide), d, []⟩
    | none => ⟨countResult 0 (by decide), d, []⟩
  | .coreInitialized _ => d.report .postInitComplete
  | .prediscover => d.report .preDiscoverComplete
  | .close => match d.client with
    | some client =>
      ⟨statusResult .ok, { d with client := none }, [eventNotification client .closeComplete]⟩
    | none => ⟨statusResult .failed, d, []⟩
  | .controlGranted => ⟨statusResult (if d.client.isSome then .ok else .failed), d, []⟩
  | .powerCycle => d.report .openComplete

end Device

/-- The client that arguments give. -/
def clientOf? : List Value → Option String
  | [.callback client] => some client
  | _ => none

/-- The bytes that arguments give. -/
def bytesOf? : List Value → Option (List (Unsigned 8))
  | [.vector vs] => vs.mapM (Value.native? .uint8)
  | _ => none

/-- Nothing, if that is what arguments give. -/
def nothingOf? : List Value → Option Unit
  | [] => some ()
  | _ => none

/-- The operation that a call asks for, if its name and its arguments are those of one. -/
def Operation.ofCall? (c : Call) : Option Operation :=
  match c.name with
  | "open" => (clientOf? c.args).map openFor
  | "write" => (bytesOf? c.args).map write
  | "coreInitialized" => (bytesOf? c.args).map coreInitialized
  | "prediscover" => (nothingOf? c.args).map fun _ => prediscover
  | "close" => (nothingOf? c.args).map fun _ => close
  | "controlGranted" => (nothingOf? c.args).map fun _ => controlGranted
  | "powerCycle" => (nothingOf? c.args).map fun _ => powerCycle
  | _ => none

/-- What the device does with a call. One that asks for no operation is rejected: it changes nothing
and tells nobody. -/
def Device.handle (d : Device) (c : Call) : Reply :=
  match Operation.ofCall? c with
  | some operation => d.step operation
  | none => ⟨none, d, []⟩

/-- The replies of the device to calls, one after the other. -/
def Device.replies (d : Device) : List Call → List Reply
  | [] => []
  | c :: cs => d.handle c :: replies (d.handle c).device cs

/-! ## The controller that stands for the device -/

/-- The owners of the callback functions while the controller is open for a client, or closed. -/
def ownersOf : Option String → CallbackOwners
  | some client => (CallbackOwners.empty.register eventFunction client).register dataFunction client
  | none => .empty

/-- The state of the controller that stands for a state of the device. -/
def Device.concrete (serviceName : String) (d : Device) : Loopback :=
  ⟨serviceName, d.client.isSome, ownersOf d.client, d.written⟩

/-- A notification that is delivered. -/
def delivered (n : Notification) : CallEffect := .notified (CallbackChannel.line n)

theorem concrete_fresh (serviceName : String) :
    Device.fresh.concrete serviceName = .closed serviceName := rfl

@[simp] theorem isOpen_concrete (serviceName : String) (d : Device) :
    (d.concrete serviceName).isOpen = d.client.isSome := rfl

/-- Whoever owned the callback functions before, the new client owns them after it is registered. -/
theorem register_ownersOf (client? : Option String) (client : String) :
    ((ownersOf client?).register eventFunction client).register dataFunction client =
      ownersOf (some client) := by
  cases client? <;> rfl

/-- The client that the controller is open for owns the two callback functions, and nobody owns
anything else. -/
theorem owner?_ownersOf_eq_some_iff {client? : Option String} {function client : String} :
    (ownersOf client?).owner? function = some client ↔
      client? = some client ∧ (function = eventFunction ∨ function = dataFunction) := by
  cases client? with
  | none => simp [ownersOf, CallbackOwners.owner?, CallbackOwners.empty]
  | some client' =>
    have hentries :
        (ownersOf (some client')).entries = [(dataFunction, client'), (eventFunction, client')] :=
      rfl
    rw [CallbackOwners.owner?, hentries]
    by_cases hd : function = dataFunction
    · simp [hd]
    · have hd' : (function == dataFunction) = false := beq_false_of_ne hd
      by_cases he : function = eventFunction
      · simp [he, List.lookup_cons, he ▸ hd']
      · have he' : (function == eventFunction) = false := beq_false_of_ne he
        simp [hd, he, List.lookup_cons, hd', he']

/-- The owner of a callback function is told about its calls. -/
theorem emit_of_owner {s : Loopback} {function client : String}
    (h : s.owners.owner? function = some client) (path : String) (args : List Value) :
    s.emit (.socket path true) function args = [delivered ⟨client, function, args⟩] := by
  rw [emit, CallbackOwners.request, h]
  rfl

theorem emit_event (serviceName path client : String) (d : Device) (hd : d.client = some client)
    (e : NfcEvent) :
    (d.concrete serviceName).event (.socket path true) e =
      [delivered (eventNotification client e)] :=
  emit_of_owner (owner?_ownersOf_eq_some_iff.mpr ⟨hd, .inl rfl⟩) path _

theorem emit_data (serviceName path client : String) (d : Device) (hd : d.client = some client)
    (data : List (Unsigned 8)) :
    (d.concrete serviceName).emit (.socket path true) dataFunction [.ofNatives .uint8 data] =
      [delivered (dataNotification client data)] :=
  emit_of_owner (owner?_ownersOf_eq_some_iff.mpr ⟨hd, .inr rfl⟩) path _

/-! ## The functions of the controller -/

/-- A function that does with arguments what the device does in an operation. -/
def Performs (handler : Handler Loopback) (args : List Value) (operation : Operation) : Prop :=
  ∀ (d : Device) (serviceName path : String), ∃ results,
    (d.step operation).results = some results ∧ results.length = 1 ∧
      handler (d.concrete serviceName) ⟨args⟩ (.socket path true) =
        ⟨.ok results, (d.step operation).device.concrete serviceName,
          (d.step operation).notifications.map delivered⟩

theorem performs_openFor (client : String) :
    Performs openFor [.callback client] (.openFor client) := by
  intro d serviceName path
  refine ⟨[.ofMember NfcStatus.ok], rfl, rfl, ?_⟩
  have hopen : { d.concrete serviceName with
      owners := ((d.concrete serviceName).owners.register eventFunction client).register
        dataFunction client
      isOpen := true } = { d with client := some client }.concrete serviceName :=
    congrArg (Loopback.mk serviceName true · d.written) (register_ownersOf d.client client)
  show Outcome.mk (answer .ok) _ (event _ (.socket path true) .openComplete) = _
  rw [hopen, emit_event serviceName path client _ rfl]
  rfl

/-- Reporting an event is what the device does. -/
theorem reportIfOpen_concrete (e : NfcEvent) (d : Device) (serviceName path : String) :
    ∃ results, (d.report e).results = some results ∧ results.length = 1 ∧
      reportIfOpen e (d.concrete serviceName) (.socket path true) =
        ⟨.ok results, (d.report e).device.concrete serviceName,
          (d.report e).notifications.map delivered⟩ := by
  obtain ⟨client?, written⟩ := d
  cases client? with
  | none => exact ⟨[.ofMember NfcStatus.failed], rfl, rfl, rfl⟩
  | some client =>
    refine ⟨[.ofMember NfcStatus.ok], rfl, rfl, ?_⟩
    rw [reportIfOpen, isOpen_concrete, if_pos Option.isSome_some,
      emit_event serviceName path client _ rfl]
    rfl

theorem performs_prediscover {args : List Value} : Performs prediscover args .prediscover :=
  fun d serviceName path => reportIfOpen_concrete .preDiscoverComplete d serviceName path

theorem performs_powerCycle {args : List Value} : Performs powerCycle args .powerCycle :=
  fun d serviceName path => reportIfOpen_concrete .openComplete d serviceName path

theorem performs_controlGranted {args : List Value} :
    Performs controlGranted args .controlGranted :=
  fun d _ _ =>
    ⟨[.ofMember (if d.client.isSome then NfcStatus.ok else .failed)], rfl, rfl, rfl⟩

theorem performs_close {args : List Value} : Performs close args .close := by
  intro d serviceName path
  obtain ⟨client?, written⟩ := d
  cases client? with
  | none => exact ⟨[.ofMember NfcStatus.failed], rfl, rfl, rfl⟩
  | some client =>
    refine ⟨[.ofMember NfcStatus.ok], rfl, rfl, ?_⟩
    rw [close, isOpen_concrete, if_pos Option.isSome_some,
      emit_event serviceName path client _ rfl]
    rfl

/-- Elements are read as native values if they are the values of these. -/
theorem mapM_native?_eq_some_iff {k : ScalarKind} {vs : List Value} {xs : List k.Native} :
    vs.mapM (Value.native? k) = some xs ↔ vs = xs.map (.ofNative k) := by
  rw [mapM_eq_some_iff]
  induction vs generalizing xs with
  | nil => cases xs <;> simp
  | cons v vs ih =>
    cases xs with
    | nil => simp
    | cons x xs => simp [ih, Value.native?_eq_some_iff]

/-- Arguments give bytes if they are the sequence of these. -/
theorem bytesOf?_eq_some_iff {args : List Value} {data : List (Unsigned 8)} :
    bytesOf? args = some data ↔ args = [.ofNatives .uint8 data] := by
  unfold bytesOf?
  split
  · rename_i vs
    rw [mapM_native?_eq_some_iff (k := .uint8), List.singleton_inj, Value.ofNatives,
      Value.vector.injEq]
  · rename_i hother
    simp only [reduceCtorEq, false_iff]
    exact hother _

/-- Bytes that arguments give are read as they are. -/
theorem vector_of_bytesOf? {args : List Value} {data : List (Unsigned 8)}
    (h : bytesOf? args = some data) : (Arguments.mk args).vector .uint8 0 = .ok data := by
  obtain rfl := bytesOf?_eq_some_iff.mp h
  exact (Arguments.vector_eq_ok_iff rfl).mpr rfl

theorem performs_coreInitialized {args : List Value} {data : List (Unsigned 8)}
    (h : bytesOf? args = some data) :
    Performs coreInitialized args (.coreInitialized data) := by
  intro d serviceName path
  rw [coreInitialized, vector_of_bytesOf? h]
  exact reportIfOpen_concrete .postInitComplete d serviceName path

/-- As many bytes as one write accepts are counted as they are. -/
theorem some_clamp (n : Nat) (h : n ≤ 255) :
    some [Value.ofNative .uint32 (Unsigned.clamp 32 n)] = countResult n h := by
  have hword : (n : Int) ≤ Int.pow 2 32 - 1 := by
    have : (255 : Int) ≤ Int.pow 2 32 - 1 := by decide
    omega
  rw [Unsigned.clamp, dif_pos hword]
  rfl

theorem performs_write {args : List Value} {data : List (Unsigned 8)}
    (h : bytesOf? args = some data) : Performs write args (.write data) := by
  intro d serviceName path
  rw [write, vector_of_bytesOf? h]
  obtain ⟨client?, written⟩ := d
  cases client? with
  | none => exact ⟨_, (some_clamp 0 (by decide)).symm, rfl, rfl⟩
  | some client =>
    simp only [isOpen_concrete, Option.isSome_some, Bool.true_and, decide_eq_true_eq,
      Device.step]
    -- an open controller takes from one to 255 bytes, and turns down what is longer as a whole
    by_cases hlength : 1 ≤ data.length ∧ data.length ≤ 255
    · have haccepted : (if data.length ≤ maxPayload then data.length else 0) = data.length :=
        if_pos hlength.2
      have hpositive : 0 < data.length := hlength.1
      have hdata := emit_data serviceName path client ⟨some client, written ++ data⟩ rfl data
      rw [dif_pos hlength]
      refine ⟨_, (some_clamp data.length hlength.2).symm, rfl, ?_⟩
      simp only [haccepted, if_pos hpositive]
      exact congrArg (Outcome.mk _ _) hdata
    · have haccepted : (if data.length ≤ maxPayload then data.length else 0) = 0 := by
        rw [maxPayload]
        split <;> omega
      rw [dif_neg hlength]
      refine ⟨_, (some_clamp 0 (by decide)).symm, rfl, ?_⟩
      simp only [haccepted, Nat.lt_irrefl, if_false]
      rfl

/-! ## Calls of the controller -/

/-- Arguments that fit a declaration with one parameter. -/
theorem fits_singleton_iff {s : Signature} {d : Descriptor} (hs : s.args = [d])
    {args : List Value} : s.Fits args ↔ ∃ v, args = [v] ∧ d.admits v = true := by
  constructor
  · intro h
    obtain ⟨v, rfl⟩ := List.length_eq_one_iff.mp (h.1.symm.trans (congrArg List.length hs))
    obtain ⟨_, ⟨⟩, hadmits⟩ := h.admits 0 (congrArg (fun l => l[0]?) hs)
    exact ⟨v, rfl, hadmits⟩
  · rintro ⟨v, rfl, hadmits⟩
    rw [Signature.Fits, hs]
    refine ⟨rfl, fun i d v hd hv => ?_⟩
    obtain ⟨hi, -⟩ := List.getElem?_eq_some_iff.mp hd
    obtain rfl : i = 0 := Nat.lt_one_iff.mp hi
    cases hd
    cases hv
    exact hadmits

/-- Arguments that fit a callback object as the only parameter. -/
theorem fits_callback_iff {s : Signature} {interface : String} (hs : s.args = [.callback interface])
    {args : List Value} : s.Fits args ↔ ∃ client, clientOf? args = some client := by
  rw [fits_singleton_iff hs]
  constructor
  · rintro ⟨v, rfl, hadmits⟩
    cases v with
    | callback client => exact ⟨client, rfl⟩
    | _ => cases hadmits
  · rintro ⟨client, h⟩
    unfold clientOf? at h
    split at h
    · exact ⟨_, rfl, rfl⟩
    · cases h

/-- Arguments that fit a sequence of bytes as the only parameter. -/
theorem fits_bytes_iff {s : Signature} (hs : s.args = [bytes]) {args : List Value} :
    s.Fits args ↔ ∃ data, bytesOf? args = some data := by
  rw [fits_singleton_iff hs]
  simp only [bytesOf?_eq_some_iff, bytes, Descriptor.admits_vector_iff]
  constructor
  · rintro ⟨v, rfl, data, rfl⟩
    exact ⟨data, rfl⟩
  · rintro ⟨data, rfl⟩
    exact ⟨_, rfl, data, rfl⟩

/-- Arguments that fit a declaration without parameters. -/
theorem fits_nil_iff {s : Signature} (hs : s.args = []) {args : List Value} :
    s.Fits args ↔ ∃ x, nothingOf? args = some x := by
  rw [Signature.Fits, hs]
  cases args with
  | nil => exact iff_of_true ⟨rfl, by simp⟩ ⟨(), rfl⟩
  | cons v vs =>
    refine iff_of_false ?_ ?_
    · rintro ⟨hlength, -⟩
      cases hlength
    · rintro ⟨x, hx⟩
      cases hx

variable {c : Call} {entry : FunctionEntry Loopback} {d : Device} {serviceName path : String}

/-- The controller does with a call what the device does. -/
def Refines (serviceName path : String) (d : Device) (c : Call) : Prop :=
  ∃ result, result.toOption = (d.handle c).results ∧
    (Driver.mk table (d.concrete serviceName)).call c (.socket path true) =
      ⟨result, (d.handle c).device.concrete serviceName, (d.handle c).notifications.map delivered⟩

/-- A call that asks for an operation is handled by the function that performs it. -/
theorem refines_of_performs {operation : Operation}
    (hoperation : Operation.ofCall? c = some operation)
    (hentry : table.function? c.name = some entry) (hfits : entry.signature.Fits c.args)
    (hreturns : entry.signature.returns.length = 1)
    (hperforms : Performs entry.handler c.args operation) : Refines serviceName path d c := by
  obtain ⟨results, hresults, hlength, hhandler⟩ := hperforms d serviceName path
  refine ⟨.ok results, ?_, ?_⟩
  · rw [Device.handle, hoperation, hresults]
    rfl
  · rw [Device.handle, hoperation]
    exact Driver.call_of_fits hentry hfits _ hhandler (hlength.trans hreturns.symm)

/-- A call that asks for no operation is turned down. -/
theorem refines_of_rejects (hoperation : Operation.ofCall? c = none)
    (hrejects : table.Rejects { c with target := .function }) : Refines serviceName path d c := by
  obtain ⟨e, he⟩ := Driver.call_of_rejects (d := ⟨table, d.concrete serviceName⟩)
    (.socket path true) rfl hrejects
  refine ⟨.error e, ?_, ?_⟩
  · rw [Device.handle, hoperation]
    rfl
  · rw [Device.handle, hoperation]
    exact he

/-- A call of a function of the table does what the device does, if the arguments that fit its
declaration are those that give an operation, which the function then performs. -/
theorem refines_of_function {α : Type} (read? : List Value → Option α) (make : α → Operation)
    (hentry : table.function? c.name = some entry)
    (hoperation : Operation.ofCall? c = (read? c.args).map make)
    (hfits : ∀ {args}, entry.signature.Fits args ↔ ∃ x, read? args = some x)
    (hreturns : entry.signature.returns.length = 1)
    (hperforms : ∀ {args x}, read? args = some x → Performs entry.handler args (make x)) :
    Refines serviceName path d c := by
  cases hread : read? c.args with
  | none =>
    have hunfit : ¬ entry.signature.Fits c.args := by
      rw [hfits, hread]
      exact nofun
    exact refines_of_rejects (by rw [hoperation, hread]; rfl) (.unfit rfl hentry hunfit)
  | some x =>
    exact refines_of_performs (by rw [hoperation, hread]; rfl) hentry (hfits.mpr ⟨x, hread⟩)
      hreturns (hperforms hread)

/-- The names of the functions in the table. -/
theorem names_table : table.functions.map (fun e => e.signature.name) =
    ["open", "write", "coreInitialized", "prediscover", "close", "controlGranted", "powerCycle"] :=
  rfl

/-- One call does what the device does. -/
theorem call_concrete (serviceName path : String) (d : Device) (c : Call) :
    Refines serviceName path d c := by
  obtain ⟨name, target, args, expected⟩ := c
  -- the table has seven functions, and a name that is none of theirs asks for no operation
  by_cases hopen : name = "open"
  · subst hopen
    refine refines_of_function clientOf? .openFor rfl rfl (fits_callback_iff rfl) rfl ?_
    intro args client hclient
    unfold clientOf? at hclient
    split at hclient
    · cases hclient
      exact performs_openFor client
    · cases hclient
  by_cases hwrite : name = "write"
  · subst hwrite
    exact refines_of_function bytesOf? .write rfl rfl (fits_bytes_iff rfl) rfl performs_write
  by_cases hcore : name = "coreInitialized"
  · subst hcore
    exact refines_of_function bytesOf? .coreInitialized rfl rfl (fits_bytes_iff rfl) rfl
      performs_coreInitialized
  by_cases hprediscover : name = "prediscover"
  · subst hprediscover
    exact refines_of_function nothingOf? (fun _ => .prediscover) rfl rfl (fits_nil_iff rfl) rfl
      fun _ => performs_prediscover
  by_cases hclose : name = "close"
  · subst hclose
    exact refines_of_function nothingOf? (fun _ => .close) rfl rfl (fits_nil_iff rfl) rfl
      fun _ => performs_close
  by_cases hcontrol : name = "controlGranted"
  · subst hcontrol
    exact refines_of_function nothingOf? (fun _ => .controlGranted) rfl rfl (fits_nil_iff rfl) rfl
      fun _ => performs_controlGranted
  by_cases hpower : name = "powerCycle"
  · subst hpower
    exact refines_of_function nothingOf? (fun _ => .powerCycle) rfl rfl (fits_nil_iff rfl) rfl
      fun _ => performs_powerCycle
  refine refines_of_rejects ?_ (.noFunction rfl fun e he hname => ?_)
  · unfold Operation.ofCall?
    split
    · exact absurd ‹_› hopen
    · exact absurd ‹_› hwrite
    · exact absurd ‹_› hcore
    · exact absurd ‹_› hprediscover
    · exact absurd ‹_› hclose
    · exact absurd ‹_› hcontrol
    · exact absurd ‹_› hpower
    · rfl
  · have hname' : e.signature.name = name := hname
    have hmem : e.signature.name ∈ table.functions.map fun e => e.signature.name :=
      List.mem_map_of_mem he
    rw [names_table, hname'] at hmem
    simp [hopen, hwrite, hcore, hprediscover, hclose, hcontrol, hpower] at hmem

/-! ## Sequences of calls -/

/-- **An outcome of a call that is the reply of the device**: its results, unless it is rejected,
the state that it leaves, and what is delivered to the client. The controller is open for a client
exactly while that client owns both callback functions, and nobody owns any other one. -/
structure Agrees (serviceName : String) (o : Outcome Loopback (List Value)) (r : Reply) : Prop where
  results : o.result.toOption = r.results
  isOpen : o.state.isOpen = r.device.client.isSome
  owner_iff : ∀ function client, o.state.owners.owner? function = some client ↔
    r.device.client = some client ∧ (function = "sendEvent" ∨ function = "sendData")
  written : o.state.written = r.device.written
  serviceName : o.state.serviceName = serviceName
  effects : o.effects = r.notifications.map delivered

/-- **The controller is the device.** Whatever calls are made of a fresh controller whose
notifications can be delivered, with any names and arguments: their results, the states that they
leave and what they deliver are the replies of the device. -/
theorem outcomes_agree (serviceName path : String) (cs : List Call) :
    List.Forall₂ (Agrees serviceName)
      ((Driver.mk table (.closed serviceName)).outcomes (.socket path true) cs)
      (Device.fresh.replies cs) := by
  -- by induction on the calls, from any state of the device
  rw [← concrete_fresh]
  generalize Device.fresh = d
  induction cs generalizing d with
  | nil => exact .nil
  | cons c cs ih =>
    obtain ⟨result, hresult, hcall⟩ := call_concrete serviceName path d c
    rw [Driver.outcomes, Device.replies, hcall]
    exact .cons ⟨hresult, rfl, fun _ _ => owner?_ownersOf_eq_some_iff, rfl, rfl, rfl⟩ (ih _)

end Loopback

end TargetBench
