import TargetBench.Proofs.Driver.Acceptance

/-!
# What becomes of a call

A call is settled in steps. It is refused if the table has no function of its name, then if the
number of its arguments is not the declared one, then at the first argument that is not acceptable;
until then no function runs. Otherwise the function runs, once, on the state and the arguments as
they are given, and its results are handed on if there are as many as declared.

That a function runs cannot be read off an outcome, since a function may fail without a trace and
with any error. So the runs are noted: the functions of a table are given a second state, to which
each adds the state and the arguments that it is given, and which they have no other use for.

## Main definitions

* `Run`, `Driver.runs`: the runs of functions that a call comes to
* `FunctionTable.Refuses`: the error with which a table refuses a call
* `FunctionTable.Runs`: the function that runs in a call
* `Driver.Settles`: what becomes of a call

## Main results

* `Signature.check_eq_error_iff`: the errors about arguments
* `Driver.call_of_rejects`, `Driver.call_of_not_rejects`: a call that is turned down changes
  nothing, and a total table answers all others
* `Driver.call_noting`: noting the runs changes nothing else
* `Driver.call_eq_ok_iff`, `Driver.call_eq_error_iff`: how calls return and fail
* `Driver.settles`: all calls are settled in this way
-/

namespace TargetBench

variable {δ : Type}

/-! ## Arguments that do not fit -/

/-- The first argument that is not acceptable at its position. -/
structure Signature.FirstMisfit (s : Signature) (args : List Value) (i : Nat) (d : Descriptor)
    (v : Value) : Prop where
  declared : s.args[i]? = some d
  given : args[i]? = some v
  refused : d.admits v = false
  before : ∀ j < i, ∀ d v, s.args[j]? = some d → args[j]? = some v → d.admits v = true

theorem checkType_eq_error_iff {index : Nat} {pair : Descriptor × Value} {e : MarshalError} :
    checkType index pair = .error e ↔
      pair.1.admits pair.2 = false ∧ e = .mismatch index pair.1 pair.2 := by
  rw [checkType]
  split <;> simp [*, eq_comm]

/-- The types are compared up to the first argument that is not acceptable. -/
theorem checkTypes_eq_error_iff {s : Signature} {args : List Value} {e : MarshalError} :
    checkTypes 0 s.args args = .error e ↔
      ∃ i d v, s.FirstMisfit args i d v ∧ e = .mismatch i d v := by
  simp only [checkTypes_eq_checkEach, checkEach_eq_error_iff, checkType_eq_ok_iff,
    checkType_eq_error_iff, Prod.exists, Prod.forall, List.getElem?_zip_eq_some, and_imp,
    Nat.zero_add]
  constructor
  · rintro ⟨i, d, v, ⟨hd, hv⟩, ⟨hrefused, he⟩, hbefore⟩
    exact ⟨i, d, v, ⟨hd, hv, hrefused, hbefore⟩, he⟩
  · rintro ⟨i, d, v, ⟨hd, hv, hrefused, hbefore⟩, he⟩
    exact ⟨i, d, v, ⟨hd, hv⟩, ⟨hrefused, he⟩, hbefore⟩

/-- The errors about arguments: first about their number, then about the first misfit. -/
theorem Signature.check_eq_error_iff {s : Signature} {args : List Value} {e : MarshalError} :
    s.check args = .error e ↔
      (s.args.length ≠ args.length ∧ e = .count s.args.length args.length) ∨
        (s.args.length = args.length ∧
          ∃ i d v, s.FirstMisfit args i d v ∧ e = .mismatch i d v) := by
  rw [Signature.check]
  by_cases hlength : s.args.length = args.length
  · rw [if_neg (not_not_intro hlength), checkTypes_eq_error_iff]
    simp only [hlength, ne_eq, not_true_eq_false, false_and, false_or, true_and]
  · rw [if_pos hlength, Except.error.injEq]
    simp only [hlength, ne_eq, not_false_eq_true, true_and, false_and, or_false]
    exact eq_comm

/-! ## Runs -/

/-- A run of a function: the state and the arguments that it is given. -/
structure Run (δ : Type) where
  function : String
  state : δ
  args : List Value

/-- A function that notes its runs, and otherwise does what it did. -/
def FunctionEntry.noting (e : FunctionEntry δ) : FunctionEntry (δ × List (Run δ)) where
  signature := e.signature
  handler := fun s args channel =>
    let outcome := e.handler s.1 args channel
    ⟨outcome.result, (outcome.state, s.2 ++ [⟨e.signature.name, s.1, args.values⟩]),
      outcome.effects⟩
  verifier := e.verifier

/-- A table whose functions note their runs. -/
def FunctionTable.noting (t : FunctionTable δ) : FunctionTable (δ × List (Run δ)) where
  identity := t.identity
  functions := t.functions.map FunctionEntry.noting
  attributes := t.attributes.map fun e => ⟨e.declaration, fun s => e.getter s.1⟩

/-- A driver whose functions note their runs, before the first one. -/
def Driver.noting (d : Driver δ) : Driver (δ × List (Run δ)) := ⟨d.table.noting, (d.state, [])⟩

/-- The runs of functions that a call comes to. -/
def Driver.runs (d : Driver δ) (c : Call) (channel : CallbackChannel) : List (Run δ) :=
  (d.noting.call c channel).state.2

theorem FunctionTable.function?_noting (t : FunctionTable δ) (name : String) :
    t.noting.function? name = (t.function? name).map FunctionEntry.noting := by
  rw [function?, noting, List.find?_map]
  rfl

namespace FunctionTable

/-- The error with which a table refuses a call. The conditions are asked for in this order. -/
inductive Refuses (t : FunctionTable δ) (c : Call) : InvokeError → Prop where
  /-- The table has no function of the name. -/
  | notFound : (∀ e ∈ t.functions, e.signature.name ≠ c.name) → Refuses t c (.notFound c.name)
  /-- The number of arguments is not the declared one. -/
  | count {entry : FunctionEntry δ} : t.function? c.name = some entry →
      entry.signature.args.length ≠ c.args.length →
      Refuses t c (.arguments c.name (.count entry.signature.args.length c.args.length))
  /-- An argument is not acceptable at its position, and it is the first one. -/
  | kind {entry : FunctionEntry δ} {i : Nat} {d : Descriptor} {v : Value} :
      t.function? c.name = some entry → entry.signature.args.length = c.args.length →
      entry.signature.FirstMisfit c.args i d v →
      Refuses t c (.arguments c.name (.kind i d.display v.shape))

/-- The function of a table that runs in a call: it has the name, and the arguments fit. -/
structure Runs (t : FunctionTable δ) (c : Call) (entry : FunctionEntry δ) : Prop where
  found : t.function? c.name = some entry
  fits : entry.signature.Fits c.args

/-- A call is refused with the error that the check of its arguments finds. -/
theorem refuses_of_check {t : FunctionTable δ} {c : Call} {entry : FunctionEntry δ}
    {source : MarshalError} (hentry : t.function? c.name = some entry)
    (h : entry.signature.check c.args = .error source) :
    t.Refuses c (.arguments c.name source) := by
  rcases Signature.check_eq_error_iff.mp h with
    ⟨hlength, rfl⟩ | ⟨hlength, i, d, v, hfirst, rfl⟩
  · exact .count hentry hlength
  · exact .kind hentry hlength hfirst

theorem Runs.unique {t : FunctionTable δ} {c : Call} {entry entry' : FunctionEntry δ}
    (h : t.Runs c entry) (h' : t.Runs c entry') : entry = entry' :=
  Option.some.inj (h.found.symm.trans h'.found)

/-- A call is refused, or a function runs. -/
theorem refuses_or_runs (t : FunctionTable δ) (c : Call) :
    (∃ e, t.Refuses c e) ∨ ∃ entry, t.Runs c entry := by
  cases hentry : t.function? c.name with
  | none => exact .inl ⟨_, .notFound (function?_eq_none_iff.mp hentry)⟩
  | some entry =>
    cases hcheck : entry.signature.check c.args with
    | ok _ => exact .inr ⟨entry, hentry, Signature.check_eq_ok_iff.mp hcheck⟩
    | error source => exact .inl ⟨_, refuses_of_check hentry hcheck⟩

/-- A call of a function is turned down if it is refused. -/
theorem rejects_iff_refuses {t : FunctionTable δ} {c : Call} (hc : c.target = .function) :
    t.Rejects c ↔ ∃ e, t.Refuses c e := by
  constructor
  · rintro (⟨hattribute, -⟩ | ⟨-, hnone⟩ | ⟨-, hentry, hunfit⟩)
    · cases hc.symm.trans hattribute
    · exact ⟨_, .notFound hnone⟩
    · -- the check finds out which argument does not fit, or that their number does not
      rename_i entry
      cases hcheck : entry.signature.check c.args with
      | error source => exact ⟨_, refuses_of_check hentry hcheck⟩
      | ok _ => exact absurd (Signature.check_eq_ok_iff.mp hcheck) hunfit
  · rintro ⟨e, hnone | ⟨hentry, hlength⟩ | ⟨hentry, -, hfirst⟩⟩
    · exact .noFunction hc hnone
    · exact .unfit hc hentry fun hfits => hlength hfits.1
    · -- the first misfit is a position at which the arguments do not fit
      refine .unfit hc hentry fun hfits => ?_
      have hadmits := hfits.2 _ _ _ hfirst.declared hfirst.given
      rw [hfirst.refused] at hadmits
      cases hadmits

end FunctionTable

namespace Driver

variable {d : Driver δ} {c : Call}

/-- A call that is refused ends with the error and leaves the state, and no function runs. -/
theorem call_of_refuses {e : InvokeError} (h : d.table.Refuses c e) (channel : CallbackChannel) :
    d.call c channel = ⟨.error e, d.state, []⟩ := by
  rw [call]
  cases h with
  | notFound hnone => rw [FunctionTable.function?_eq_none_iff.mpr hnone]
  | count hentry hlength =>
    have hcheck := Signature.check_eq_error_iff.mpr (.inl ⟨hlength, rfl⟩)
    simp only [hentry, hcheck]
  | kind hentry hlength hfirst =>
    have hcheck := Signature.check_eq_error_iff.mpr (.inr ⟨hlength, _, _, _, hfirst, rfl⟩)
    simp only [hentry, hcheck, MarshalError.mismatch]

/-- A call in which a function runs has the outcome of the run, except that the number of results
is compared with the declaration. -/
theorem call_of_runs {entry : FunctionEntry δ} (h : d.table.Runs c entry)
    (channel : CallbackChannel) :
    d.call c channel = { entry.handler d.state ⟨c.args⟩ channel with
      result := (entry.handler d.state ⟨c.args⟩ channel).result.bind
        (checkResults entry.signature c.name) } := by
  rw [call, h.found]
  simp only [Signature.check_eq_ok_iff.mpr h.fits]

section

variable {s : Signature} {name : String} {outcome : Except InvokeError (List Value)}

theorem bind_checkResults_eq_ok_iff {results : List Value} :
    outcome.bind (checkResults s name) = .ok results ↔
      outcome = .ok results ∧ results.length = s.returns.length := by
  cases outcome with
  | error e => exact iff_of_false nofun nofun
  | ok actual =>
    show checkResults s name actual = .ok results ↔ _
    rw [checkResults, Except.ok.injEq]
    split
    · rename_i hlength
      rw [Except.ok.injEq]
      exact ⟨fun h => ⟨h, h ▸ hlength⟩, And.left⟩
    · rename_i hlength
      exact iff_of_false nofun fun h => hlength (h.1 ▸ h.2)

theorem bind_checkResults_eq_error_iff {e : InvokeError} :
    outcome.bind (checkResults s name) = .error e ↔
      outcome = .error e ∨ ∃ results, outcome = .ok results ∧
        results.length ≠ s.returns.length ∧
        e = .driver name ("returned " ++ Decimal.text results.length
          ++ " value(s), signature declares " ++ Decimal.text s.returns.length) := by
  cases outcome with
  | error e' => exact ⟨.inl, fun h => h.resolve_right nofun⟩
  | ok actual =>
    show checkResults s name actual = .error e ↔ _
    rw [checkResults]
    split
    · rename_i hlength
      refine iff_of_false nofun ?_
      rintro (⟨⟨⟩⟩ | ⟨_, ⟨⟩, hne, -⟩)
      exact hne hlength
    · rename_i hlength
      constructor
      · rintro ⟨⟩
        exact .inr ⟨actual, rfl, hlength, rfl⟩
      · rintro (⟨⟨⟩⟩ | ⟨_, ⟨⟩, -, rfl⟩)
        rfl

end

/-- A call that is turned down changes nothing. -/
theorem call_of_rejects (channel : CallbackChannel) (hc : c.target = .function)
    (h : d.table.Rejects c) : ∃ e, d.call c channel = ⟨.error e, d.state, []⟩ := by
  obtain ⟨e, he⟩ := (FunctionTable.rejects_iff_refuses hc).mp h
  exact ⟨e, call_of_refuses he channel⟩

/-- A total table answers all calls that it does not turn down. -/
theorem call_of_not_rejects (ht : d.table.Total) (channel : CallbackChannel)
    (hc : c.target = .function) (h : ¬ d.table.Rejects c) :
    ∃ results, (d.call c channel).result = .ok results := by
  rw [FunctionTable.rejects_iff_refuses hc] at h
  obtain ⟨entry, hentry⟩ := (d.table.refuses_or_runs c).resolve_left h
  have hmem := FunctionTable.mem_of_function? hentry.found
  obtain ⟨results, hresults, hlength⟩ := ht entry hmem c.args hentry.fits d.state channel
  refine ⟨results, ?_⟩
  rw [call_of_runs hentry]
  exact bind_checkResults_eq_ok_iff.mpr ⟨hresults, hlength⟩

/-! ## Noting changes nothing else -/

theorem refuses_noting {e : InvokeError} (h : d.table.Refuses c e) :
    d.noting.table.Refuses c e := by
  -- a function that notes its runs has the declaration that it had
  have hnoting (entry : FunctionEntry δ) (hentry : d.table.function? c.name = some entry) :
      d.noting.table.function? c.name = some entry.noting := by
    rw [noting, FunctionTable.function?_noting, hentry]
    rfl
  cases h with
  | notFound hnone => exact .notFound (List.forall_mem_map.mpr hnone)
  | count hentry hlength => exact .count (hnoting _ hentry) hlength
  | kind hentry hlength hfirst => exact .kind (hnoting _ hentry) hlength hfirst

theorem runs_noting {entry : FunctionEntry δ} (h : d.table.Runs c entry) :
    d.noting.table.Runs c entry.noting := by
  refine ⟨?_, h.fits⟩
  rw [noting, FunctionTable.function?_noting, h.found]
  rfl

/-- Noting the runs changes neither the result nor the state nor the effects. -/
theorem call_noting (d : Driver δ) (c : Call) (channel : CallbackChannel) :
    (d.noting.call c channel).result = (d.call c channel).result ∧
      (d.noting.call c channel).state.1 = (d.call c channel).state ∧
      (d.noting.call c channel).effects = (d.call c channel).effects := by
  rcases d.table.refuses_or_runs c with ⟨e, he⟩ | ⟨entry, hentry⟩
  · rw [call_of_refuses (refuses_noting he), call_of_refuses he]
    exact ⟨rfl, rfl, rfl⟩
  · rw [call_of_runs (runs_noting hentry), call_of_runs hentry]
    exact ⟨rfl, rfl, rfl⟩

theorem runs_of_refuses {e : InvokeError} (h : d.table.Refuses c e) (channel : CallbackChannel) :
    d.runs c channel = [] := by
  rw [runs, call_of_refuses (refuses_noting h)]
  rfl

theorem runs_of_runs {entry : FunctionEntry δ} (h : d.table.Runs c entry)
    (channel : CallbackChannel) : d.runs c channel = [⟨c.name, d.state, c.args⟩] := by
  have hname : entry.signature.name = c.name := by
    simpa using List.find?_some h.found
  rw [runs, call_of_runs (runs_noting h), ← hname]
  rfl

/-! ## What becomes of a call -/

/-- What becomes of a call. -/
structure Settles (d : Driver δ) (c : Call) (channel : CallbackChannel) : Prop where
  /-- Exactly the calls that the table refuses end with an error without a run, and they change
  nothing. -/
  refused : ∀ e, ((d.call c channel).result = .error e ∧ d.runs c channel = []) ↔
    d.table.Refuses c e
  unchanged : ∀ e, d.table.Refuses c e → d.call c channel = ⟨.error e, d.state, []⟩
  /-- In all other calls a function runs, and in no others. -/
  runs_iff : (∃ entry, d.table.Runs c entry) ↔ ¬ ∃ e, d.table.Refuses c e
  /-- The function runs once, on the state and the arguments as they are given. -/
  once : ∀ entry, d.table.Runs c entry → d.runs c channel = [⟨c.name, d.state, c.args⟩]
  /-- The state and the effects are those of the run. -/
  handed : ∀ entry, d.table.Runs c entry →
    (d.call c channel).state = (entry.handler d.state ⟨c.args⟩ channel).state ∧
      (d.call c channel).effects = (entry.handler d.state ⟨c.args⟩ channel).effects
  /-- The call returns what the function returns, if that are as many results as declared. -/
  returns : ∀ results, (d.call c channel).result = .ok results ↔
    ∃ entry, d.table.Runs c entry ∧
      (entry.handler d.state ⟨c.args⟩ channel).result = .ok results ∧
      results.length = entry.signature.returns.length
  /-- The call fails if it is refused, if the function fails, or if the function returns another
  number of results than declared; there is no other error. -/
  fails : ∀ e, (d.call c channel).result = .error e ↔
    d.table.Refuses c e ∨ ∃ entry, d.table.Runs c entry ∧
      ((entry.handler d.state ⟨c.args⟩ channel).result = .error e ∨
        ∃ results, (entry.handler d.state ⟨c.args⟩ channel).result = .ok results ∧
          results.length ≠ entry.signature.returns.length ∧
          e = .driver c.name ("returned " ++ Decimal.text results.length
            ++ " value(s), signature declares " ++ Decimal.text entry.signature.returns.length))

/-- A function runs in a call if and only if the call is not refused: a call that is refused has no
runs, and one in which a function runs has one. -/
theorem exists_runs_iff (d : Driver δ) (c : Call) :
    (∃ entry, d.table.Runs c entry) ↔ ¬ ∃ e, d.table.Refuses c e := by
  constructor
  · rintro ⟨entry, hentry⟩ ⟨e, he⟩
    have hruns := runs_of_refuses he .disconnected
    rw [runs_of_runs hentry] at hruns
    cases hruns
  · intro hnone
    exact (d.table.refuses_or_runs c).resolve_left hnone

theorem not_runs_of_refuses {e : InvokeError} {entry : FunctionEntry δ}
    (he : d.table.Refuses c e) : ¬ d.table.Runs c entry := fun hentry =>
  (d.exists_runs_iff c).mp ⟨entry, hentry⟩ ⟨e, he⟩

/-- A call ends with an error and without a run if the table refuses it with this error. -/
theorem refuses_iff {e : InvokeError} (channel : CallbackChannel) :
    ((d.call c channel).result = .error e ∧ d.runs c channel = []) ↔ d.table.Refuses c e := by
  constructor
  · rintro ⟨hresult, hruns⟩
    rcases d.table.refuses_or_runs c with ⟨e', he'⟩ | ⟨entry, hentry⟩
    · rw [call_of_refuses he'] at hresult
      cases hresult
      exact he'
    · rw [runs_of_runs hentry] at hruns
      cases hruns
  · intro he
    rw [call_of_refuses he]
    exact ⟨rfl, runs_of_refuses he channel⟩

/-- A call returns what the function returns, if that are as many results as declared. -/
theorem call_eq_ok_iff {channel : CallbackChannel} {results : List Value} :
    (d.call c channel).result = .ok results ↔
      ∃ entry, d.table.Runs c entry ∧
        (entry.handler d.state ⟨c.args⟩ channel).result = .ok results ∧
        results.length = entry.signature.returns.length := by
  rcases d.table.refuses_or_runs c with ⟨e, he⟩ | ⟨entry, hentry⟩
  · rw [call_of_refuses he]
    refine iff_of_false nofun ?_
    rintro ⟨entry, hentry, -⟩
    exact not_runs_of_refuses he hentry
  · rw [call_of_runs hentry, bind_checkResults_eq_ok_iff]
    constructor
    · intro h
      exact ⟨entry, hentry, h⟩
    · rintro ⟨entry', hentry', h⟩
      obtain rfl := hentry.unique hentry'
      exact h

/-- A call fails because it is refused, because the function fails, or because the function returns
another number of results than declared. -/
theorem call_eq_error_iff {channel : CallbackChannel} {e : InvokeError} :
    (d.call c channel).result = .error e ↔
      d.table.Refuses c e ∨ ∃ entry, d.table.Runs c entry ∧
        ((entry.handler d.state ⟨c.args⟩ channel).result = .error e ∨
          ∃ results, (entry.handler d.state ⟨c.args⟩ channel).result = .ok results ∧
            results.length ≠ entry.signature.returns.length ∧
            e = .driver c.name ("returned " ++ Decimal.text results.length
              ++ " value(s), signature declares "
              ++ Decimal.text entry.signature.returns.length)) := by
  rcases d.table.refuses_or_runs c with ⟨e', he'⟩ | ⟨entry, hentry⟩
  · rw [call_of_refuses he']
    constructor
    · rintro ⟨⟩
      exact .inl he'
    · rintro (he | ⟨entry, hentry, -⟩)
      · -- a call is refused in one way only
        exact congrArg Outcome.result ((call_of_refuses he' channel).symm.trans
          (call_of_refuses he channel))
      · exact absurd hentry (not_runs_of_refuses he')
  · rw [call_of_runs hentry, bind_checkResults_eq_error_iff]
    constructor
    · intro h
      exact .inr ⟨entry, hentry, h⟩
    · rintro (he | ⟨entry', hentry', h⟩)
      · exact absurd hentry (not_runs_of_refuses he)
      · obtain rfl := hentry.unique hentry'
        exact h

/-- All calls are settled in this way. -/
theorem settles (d : Driver δ) (c : Call) (channel : CallbackChannel) : d.Settles c channel := by
  constructor
  case refused => exact fun e => refuses_iff channel
  case unchanged => exact fun e he => call_of_refuses he channel
  case runs_iff => exact d.exists_runs_iff c
  case once => exact fun entry hentry => runs_of_runs hentry channel
  case handed =>
    intro entry hentry
    rw [call_of_runs hentry]
    exact ⟨rfl, rfl⟩
  case returns => exact fun results => call_eq_ok_iff
  case fails => exact fun e => call_eq_error_iff

end Driver

end TargetBench
