import Mathlib.Data.List.Forall2
import Mathlib.Tactic.SplitIfs
import TargetBench.Proofs.Json.Reading

/-!
# Texts of parts

A text that is read as a document may stand for that document wherever a value is expected, however
it is written: with gaps, with escapes, or with numerals too large for any number. An object whose
values are given by such texts is read as the object of their documents.

What is cut out and what is open before a part matters only at the bottom: the tokens that are done
and the frames of the stack are carried along. So a part that is read alone is read in any place.

## Main definitions

* `Json.Spells`: characters that stand for a document in any place
* `Json.objectText`: the text of an object, its values given by texts

## Main results

* `Json.spells_iff`: what stands for a document is what is read as the document
* `Json.readText_objectText`: an object is read from the texts of its values
-/

namespace TargetBench.Json

/-! ## What is carried along -/

namespace Lexer

/-- A lexer with tokens that were done before its own. -/
def onto (base : List Token) (l : Lexer) : Lexer := { l with done := l.done ++ base }

theorem start_onto (done base : List Token) (s : Symbol) :
    start (done ++ base) s = (start done s).map (onto base) := by
  cases s with
  | stray => rfl
  | char c =>
    simp only [start]
    split_ifs
    · rfl
    · rfl
    · rfl
    · simp [Function.comp_def, onto]

theorem quote_onto (done base : List Token) (draft : Draft) (s : Symbol) :
    quote (done ++ base) draft s = (quote done draft s).map (onto base) := by
  cases s with
  | stray => rfl
  | char c =>
    simp only [quote]
    split_ifs <;> rfl

theorem escape_onto (done base : List Token) (draft : Draft) (s : Symbol) :
    escape (done ++ base) draft s = (escape done draft s).map (onto base) := by
  cases s with
  | stray => rfl
  | char c =>
    simp only [escape]
    split_ifs
    · rfl
    · simp [Function.comp_def, onto]

theorem unit_onto (done base : List Token) (draft : Draft) (missing value : Nat) (s : Symbol) :
    unit (done ++ base) draft missing value s =
      (unit done draft missing value s).map (onto base) := by
  cases s with
  | stray => rfl
  | char c =>
    simp only [unit, Option.map_map]
    congr 1
    funext d
    simp only [Function.comp_apply]
    split_ifs <;> rfl

/-- A step looks at what is being read, and at no token that is done. -/
theorem step_onto (l : Lexer) (base : List Token) (s : Symbol) :
    (l.onto base).step s = (l.step s).map (onto base) := by
  obtain ⟨done, mode⟩ := l
  cases mode with
  | between => exact start_onto done base s
  | text draft => exact quote_onto done base draft s
  | escape draft => exact escape_onto done base draft s
  | unit draft missing value => exact unit_onto done base draft missing value s
  | run cs =>
    cases s with
    | stray => rfl
    | char c =>
      simp only [step, onto]
      split_ifs
      · rfl
      · -- the word or number that ends here joins the tokens, and the symbol is read after it
        cases runToken? cs.reverse with
        | none => rfl
        | some t => exact start_onto (t :: done) base (.char c)

theorem run_onto (l : Lexer) (base : List Token) (cs : List Char) :
    (l.onto base).run cs = (l.run cs).map (onto base) := by
  induction cs generalizing l with
  | nil => rfl
  | cons c cs ih =>
    rw [run_cons, run_cons, step_onto]
    cases l.step (.char c) with
    | none => rfl
    | some l' => exact ih l'

theorem settled_onto (l : Lexer) (base : List Token) :
    (l.onto base).settled = l.settled.map (· ++ base) := by
  obtain ⟨done, mode⟩ := l
  cases mode with
  | run cs => simp [settled, onto, Function.comp_def]
  | _ => rfl

theorem settled_of_finish {l : Lexer} {ts : List Token} (h : l.finish = some ts) :
    l.settled = some ts.reverse := by
  obtain ⟨done, mode⟩ := l
  cases mode with
  | between =>
    cases h
    exact congrArg some (List.reverse_reverse done).symm
  | run cs =>
    obtain ⟨t, ht, rfl⟩ := Option.map_eq_some_iff.mp h
    simp only [settled, ht, Option.map_some, List.reverse_reverse]
  | _ => cases h

end Lexer

namespace Reader

/-- A reader with frames below its own. -/
def onto (base : List Frame) (r : Reader) : Reader := { r with stack := r.stack ++ base }

theorem beginValue_onto {stack : List Frame} {t : Token} {r : Reader} (base : List Frame)
    (h : beginValue stack t = some r) : beginValue (stack ++ base) t = some (r.onto base) := by
  cases t <;> cases h <;> rfl

theorem afterValue_onto {stack : List Frame} {v : Json} {t : Token} {r : Reader}
    (base : List Frame) (h : afterValue stack v t = some r) :
    afterValue (stack ++ base) v t = some (r.onto base) := by
  -- a value that is read to its end is followed by what its innermost frame allows
  rcases stack with _ | ⟨_ | _, stack⟩ <;> cases t <;> cases h <;> rfl

/-- Only the end of the array is not read like the beginning of a value. -/
theorem step_firstItem {t : Token} (h : t ≠ .closeArray) (stack : List Frame) :
    step ⟨stack, .firstItem⟩ t = beginValue stack t := by
  cases t <;> first | rfl | exact absurd rfl h

/-- A step that goes on looks at its own frames only. -/
theorem step_onto {r r' : Reader} {t : Token} (base : List Frame) (h : r.step t = some r') :
    (r.onto base).step t = some (r'.onto base) := by
  obtain ⟨stack, stage⟩ := r
  cases stage with
  | value => exact beginValue_onto base h
  | complete v => exact afterValue_onto base h
  | firstItem =>
    by_cases ht : t = .closeArray
    · subst ht
      -- an array that ends at once is the innermost one, and holds nothing
      rcases stack with _ | ⟨(items | _), stack⟩
      · cases h
      · cases items <;> cases h
        rfl
      · cases h
    · rw [step_firstItem ht] at h
      exact (step_firstItem ht _).trans (beginValue_onto base h)
  | _ => cases t <;> cases h <;> rfl

theorem run_onto {r r' : Reader} {ts : List Token} (base : List Frame) (h : r.run ts = some r') :
    (r.onto base).run ts = some (r'.onto base) := by
  induction ts generalizing r with
  | nil =>
    cases h
    rfl
  | cons t ts ih =>
    rw [run_cons] at h ⊢
    obtain ⟨r₁, hstep, hrun⟩ := Option.bind_eq_some_iff.mp h
    rw [step_onto base hstep]
    exact ih hrun

end Reader

/-! ## Texts that stand for documents -/

/-- Characters that stand for a document in any place: whatever tokens were cut out before them,
they give the same ones, and whatever is open before these, they are read as the document. -/
def Spells (cs : List Char) (doc : Json) : Prop :=
  ∃ ts, (∀ done, Lexer.Cuts ⟨done, .between⟩ cs (ts.reverse ++ done)) ∧
    ∀ stack, Reader.run ⟨stack, .value⟩ ts = some ⟨stack, .complete doc⟩

theorem readText_eq_some_iff {s : String} {doc : Json} :
    readText s = some doc ↔ ∃ l ts, Lexer.run ⟨[], .between⟩ s.toList = some l ∧
      l.finish = some ts ∧ Reader.run ⟨[], .value⟩ ts = some ⟨[], .complete doc⟩ := by
  have hrun : (s.toList.map Symbol.char).foldlM Lexer.step ⟨[], .between⟩ =
      Lexer.run ⟨[], .between⟩ s.toList := List.foldlM_map
  have hfinish {r : Reader} : r.finish = some doc ↔ r = ⟨[], .complete doc⟩ := by
    obtain ⟨_ | ⟨frame, stack⟩, stage⟩ := r <;> cases stage <;> simp [Reader.finish]
  simp only [readText, read, tokens?, ofTokens?, hrun, Option.bind_eq_bind, Option.bind_eq_some_iff]
  constructor
  · rintro ⟨ts, ⟨l, hl, hts⟩, r, hr, hdoc⟩
    obtain rfl := hfinish.mp hdoc
    exact ⟨l, ts, hl, hts, hr⟩
  · rintro ⟨l, ts, hl, hts, hr⟩
    exact ⟨ts, ⟨l, hl, hts⟩, _, hr, hfinish.mpr rfl⟩

/-- What stands for a document in any place is what is read as the document when it stands alone. -/
theorem spells_iff {s : String} {doc : Json} : Spells s.toList doc ↔ readText s = some doc := by
  rw [readText_eq_some_iff]
  constructor
  · rintro ⟨ts, hcuts, hreads⟩
    obtain ⟨l, hl, hsettled⟩ := hcuts []
    rw [List.append_nil] at hsettled
    refine ⟨l, ts, hl, ?_, hreads []⟩
    rw [Lexer.finish_of_settled hsettled, List.reverse_reverse]
  · rintro ⟨l, ts, hl, hts, hr⟩
    refine ⟨ts, fun done => ⟨l.onto done, ?_, ?_⟩, fun stack => ?_⟩
    · have h := Lexer.run_onto ⟨[], .between⟩ done s.toList
      rw [hl] at h
      exact h
    · rw [Lexer.settled_onto, Lexer.settled_of_finish hts]
      rfl
    · exact Reader.run_onto stack hr

/-! ## Objects -/

/-- The characters of the members after the first one, their values given by texts, and of the brace
after them. -/
def moreMembersChars : List (String × String) → List Char
  | [] => ['}']
  | (name, s) :: ms => ',' :: quotedChars (some name) ++ ':' :: s.toList ++ moreMembersChars ms

/-- The characters of an object, its values given by texts. -/
def objectChars : List (String × String) → List Char
  | [] => ['{', '}']
  | (name, s) :: ms => '{' :: quotedChars (some name) ++ ':' :: s.toList ++ moreMembersChars ms

/-- The text of an object, its values given by texts. -/
def objectText (ms : List (String × String)) : String := String.ofList (objectChars ms)

/-- A text for each of the members, which is read as the value of the member. -/
def Texts (texts : List (String × String)) (members : List (String × Json)) : Prop :=
  List.Forall₂ (fun t m => t.1 = m.1 ∧ readText t.2 = some m.2) texts members

/-- A name and the text of its value: the tokens that they give, and what the value is read as. -/
theorem Spells.member {s : String} {doc : Json} (h : Spells s.toList doc) (name : String) :
    ∃ ts, (∀ done, Lexer.Cuts ⟨done, .between⟩ (quotedChars (some name) ++ ':' :: s.toList)
        (ts.reverse ++ .colon :: .text (some name) :: done)) ∧
      ∀ stack before, (Reader.mk stack (.colon before (some name))).run (.colon :: ts) =
        some ⟨.object before (some name) :: stack, .complete doc⟩ := by
  obtain ⟨ts, hcuts, hreads⟩ := h
  refine ⟨ts, fun done => ?_, fun stack before => ?_⟩
  · exact .append ⟨_, Lexer.run_quotedChars done name, rfl⟩ fun hl => .mark hl rfl (hcuts _)
  · exact hreads (.object before (some name) :: stack)

/-- The members after a value, up to the end of the object. -/
theorem exists_moreMembers {texts : List (String × String)} {members : List (String × Json)}
    (h : Texts texts members) :
    ∃ ts, (∀ {l : Lexer} {done}, l.settled = some done →
        l.Cuts (moreMembersChars texts) (ts.reverse ++ done)) ∧
      ∀ stack before name v, (Reader.mk (.object before name :: stack) (.complete v)).run ts =
        some ⟨stack, .complete (.object (before.reverse ++ (name, v) ::
          members.map fun m => (some m.1, m.2)))⟩ := by
  induction h with
  | nil =>
    refine ⟨[.closeObject], fun hl => .mark hl rfl ⟨_, rfl, rfl⟩, fun stack before name v => ?_⟩
    rw [List.map_nil, ← List.reverse_cons]
    rfl
  | @cons t m texts members htm _ ih =>
    obtain ⟨name, s⟩ := t
    obtain ⟨_, doc⟩ := m
    obtain ⟨rfl, hs⟩ := htm
    obtain ⟨ts, hcuts, hreads⟩ := (spells_iff.mpr hs).member name
    obtain ⟨us, hcutsRest, hreadsRest⟩ := ih
    refine ⟨[.comma, .text (some name)] ++ (.colon :: ts) ++ us, fun hl => ?_,
      fun stack before name' v => ?_⟩
    · -- the comma ends what stands before it
      have hmember := Lexer.Cuts.mark hl (show markToken? ',' = some .comma from rfl) (hcuts _)
      have hall := hmember.append fun hl => hcutsRest hl
      simpa [moreMembersChars] using hall
    · -- the value before the comma joins the members, and the next name is read after them
      have hname : (Reader.mk (.object before name' :: stack) (.complete v)).run
          [.comma, .text (some name)] =
            some ⟨stack, .colon ((name', v) :: before) (some name)⟩ := rfl
      rw [Reader.run_append, Reader.run_append, hname, Option.bind_some, hreads, Option.bind_some,
        hreadsRest]
      simp

/-- An object stands for its members if texts of their values stand in it. -/
theorem spells_objectChars {texts : List (String × String)} {members : List (String × Json)}
    (h : Texts texts members) : Spells (objectChars texts) (.record members) := by
  cases h with
  | nil => exact ⟨[.openObject, .closeObject], fun done => ⟨_, rfl, rfl⟩, fun _ => rfl⟩
  | @cons t m texts members htm hrest =>
    obtain ⟨name, s⟩ := t
    obtain ⟨_, doc⟩ := m
    obtain ⟨rfl, hs⟩ := htm
    obtain ⟨ts, hcuts, hreads⟩ := (spells_iff.mpr hs).member name
    obtain ⟨us, hcutsRest, hreadsRest⟩ := exists_moreMembers hrest
    refine ⟨[.openObject, .text (some name)] ++ (.colon :: ts) ++ us, fun done => ?_,
      fun stack => ?_⟩
    · have hmember := Lexer.Cuts.mark (l := ⟨done, .between⟩) rfl
        (show markToken? '{' = some .openObject from rfl) (hcuts _)
      have hall := hmember.append fun hl => hcutsRest hl
      simpa [objectChars] using hall
    · have hname : (Reader.mk stack .value).run [.openObject, .text (some name)] =
          some ⟨stack, .colon [] (some name)⟩ := rfl
      rw [Reader.run_append, Reader.run_append, hname, Option.bind_some, hreads, Option.bind_some,
        hreadsRest]
      rfl

/-- **An object is read from the texts of its values**: the names as they are quoted, and the values
as whatever their texts stand for. -/
theorem readText_objectText {texts : List (String × String)} {members : List (String × Json)}
    (h : Texts texts members) : readText (objectText texts) = some (.record members) := by
  apply spells_iff.mp
  rw [objectText, String.toList_ofList]
  exact spells_objectChars h

end TargetBench.Json
