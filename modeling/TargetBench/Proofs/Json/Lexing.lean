import TargetBench.Json.Printer
import TargetBench.Json.Tagged
import TargetBench.Proofs.Number.Reading

/-!
# The tokens of a written document

The text of a document is cut into the tokens of the document. A number ends only where the
character after it shows that it has ended, so what has been cut out at a place is the tokens that
are complete and the one that ends there.

## Main definitions

* `Json.Lettered`: documents whose texts stand for characters
* `Json.Legible`: documents of which a reader can hold every part
* `Json.tokens`: the tokens of a document
* `Json.Lexer.Cuts`: what is cut out of characters

## Main results

* `Json.Lettered.cutsTokens`: the characters of a document give the tokens of the document
* `Json.tokens?_compact`: so does its text
-/

namespace TargetBench.Json

/-- A document whose texts stand for characters, whatever its numerals stand for. -/
inductive Lettered : Json → Prop
  | null : Lettered .null
  | bool (b : Bool) : Lettered (.bool b)
  | number (n : Numeral) : Lettered (.number n)
  | text (s : String) : Lettered (.text (some s))
  | array {items : List Json} (h : ∀ x ∈ items, Lettered x) : Lettered (.array items)
  | object {members : List (Quoted × Json)} (hnames : ∀ m ∈ members, m.1.isSome = true)
      (hparts : ∀ m ∈ members, Lettered m.2) : Lettered (.object members)

/-- A document of which a reader can hold every part: its texts stand for characters and its
numerals for numbers. -/
inductive Legible : Json → Prop
  | null : Legible .null
  | bool (b : Bool) : Legible (.bool b)
  | number {n : Numeral} (h : holdsNumber n = true) : Legible (.number n)
  | text (s : String) : Legible (.text (some s))
  | array {items : List Json} (h : ∀ x ∈ items, Legible x) : Legible (.array items)
  | object {members : List (Quoted × Json)} (hnames : ∀ m ∈ members, m.1.isSome = true)
      (hparts : ∀ m ∈ members, Legible m.2) : Legible (.object members)

theorem Legible.lettered {doc : Json} (h : Legible doc) : Lettered doc := by
  induction h with
  | null => exact .null
  | bool b => exact .bool b
  | number => exact .number _
  | text s => exact .text s
  | array _ ih => exact .array ih
  | object hnames _ ih => exact .object hnames ih

/-! ## The tokens of a document -/

mutual

/-- The tokens of a document. -/
def tokens : Json → List Token
  | .null => [.null]
  | .bool b => [.bool b]
  | .number n => [.number n]
  | .text q => [.text q]
  | .array [] => [.openArray, .closeArray]
  | .array (x :: xs) => .openArray :: (tokens x ++ itemsTokens xs)
  | .object [] => [.openObject, .closeObject]
  | .object ((name, x) :: ms) =>
    .openObject :: .text name :: .colon :: (tokens x ++ membersTokens ms)

/-- The tokens of the items after the first one, and of the bracket after them. -/
def itemsTokens : List Json → List Token
  | [] => [.closeArray]
  | x :: xs => .comma :: (tokens x ++ itemsTokens xs)

/-- The tokens of the members after the first one, and of the brace after them. -/
def membersTokens : List (Quoted × Json) → List Token
  | [] => [.closeObject]
  | (name, x) :: ms => .comma :: .text name :: .colon :: (tokens x ++ membersTokens ms)

end

/-! ## Cutting characters -/

namespace Lexer

/-- Reads characters one after the other. -/
def run (l : Lexer) (cs : List Char) : Option Lexer := cs.foldlM (fun l c => l.step (.char c)) l

theorem run_cons (l : Lexer) (c : Char) (cs : List Char) :
    l.run (c :: cs) = (l.step (.char c)).bind fun l => l.run cs := rfl

theorem run_append (l : Lexer) (cs ds : List Char) :
    l.run (cs ++ ds) = (l.run cs).bind fun l => l.run ds := List.foldlM_append

/-- The tokens cut out so far, the last one first, if no quoted text is being read. A word or
number that has been read counts as complete. -/
def settled (l : Lexer) : Option (List Token) :=
  match l.mode with
  | .between => some l.done
  | .run cs => (runToken? cs.reverse).map (· :: l.done)
  | _ => none

theorem finish_of_settled {l : Lexer} {ts : List Token} (h : l.settled = some ts) :
    l.finish = some ts.reverse := by
  obtain ⟨done, mode⟩ := l
  cases mode with
  | between =>
    cases h
    rfl
  | run cs =>
    obtain ⟨t, ht, rfl⟩ := Option.map_eq_some_iff.mp h
    simp only [finish, ht, Option.map_some]
  | _ => cases h

/-- Reading characters cuts out tokens, the last one first. -/
def Cuts (l : Lexer) (cs : List Char) (ts : List Token) : Prop :=
  ∃ l', l.run cs = some l' ∧ l'.settled = some ts

theorem Cuts.append {l : Lexer} {cs ds : List Char} {ts us : List Token} (h : l.Cuts cs ts)
    (hrest : ∀ {l' : Lexer}, l'.settled = some ts → l'.Cuts ds us) : l.Cuts (cs ++ ds) us := by
  obtain ⟨l', hrun, hsettled⟩ := h
  obtain ⟨l'', hrun', hsettled'⟩ := hrest hsettled
  exact ⟨l'', by rw [run_append, hrun, Option.bind_some, hrun'], hsettled'⟩

/-- Where no quoted text is being read, a mark ends what is being read. -/
theorem step_mark {l : Lexer} {ts : List Token} {c : Char} {t : Token}
    (hmark : markToken? c = some t) (h : l.settled = some ts) :
    l.step (.char c) = some ⟨t :: ts, .between⟩ := by
  -- a mark is a token by itself, and no part of a word or number
  have hstart (done : List Token) : start done (.char c) = some ⟨t :: done, .between⟩ := by
    unfold markToken? at hmark
    split at hmark <;> cases hmark <;> rfl
  have hrun : isRunChar c = false := by
    unfold markToken? at hmark
    split at hmark <;> cases hmark <;> rfl
  obtain ⟨done, mode⟩ := l
  cases mode with
  | between =>
    cases h
    exact hstart _
  | run cs =>
    obtain ⟨t', ht', rfl⟩ := Option.map_eq_some_iff.mp h
    simp only [step, hrun, ht', hstart, Option.bind_eq_bind, Option.bind_some, Bool.false_eq_true,
      if_false]
  | _ => cases h

theorem Cuts.mark {l : Lexer} {cs : List Char} {c : Char} {t : Token} {ts us : List Token}
    (hl : l.settled = some ts) (hmark : markToken? c = some t)
    (h : Cuts ⟨t :: ts, .between⟩ cs us) : l.Cuts (c :: cs) us := by
  obtain ⟨l', hrun, hsettled⟩ := h
  exact ⟨l', by rw [run_cons, step_mark hmark hl, Option.bind_some, hrun], hsettled⟩

/-! ## Quoted texts -/

/-- The draft of a text that stands for characters so far, the last one first. -/
def draftOf (cs : List Char) : Draft := ⟨cs, none, true⟩

/-- A number below 32 is the number of a character, not of half of one. -/
theorem add_unit_of_lt {n : Nat} (h : n < 0x20) (cs : List Char) :
    (draftOf cs).add (.unit n) = draftOf (Char.ofNat n :: cs) := by
  have hfirst : Draft.isFirstHalf n = false := by
    rw [Draft.isFirstHalf, Bool.and_eq_false_iff]
    exact .inl (decide_eq_false (by omega))
  have hsecond : Draft.isSecondHalf n = false := by
    rw [Draft.isSecondHalf, Bool.and_eq_false_iff]
    exact .inl (decide_eq_false (by omega))
  simp only [draftOf, Draft.add, hfirst, hsecond, Bool.not_false, Bool.and_self,
    Bool.false_eq_true, if_false]

/-- A character that is written by its number is read as the character. -/
theorem run_unit {c : Char} (h : c.toNat < 0x20) (done : List Token) (cs : List Char) :
    run ⟨done, .text (draftOf cs)⟩
        ['\\', 'u', '0', '0', Hexadecimal.lower (c.toNat / 16), Hexadecimal.lower (c.toNat % 16)] =
      some ⟨done, .text (draftOf (c :: cs))⟩ := by
  -- the two zeros leave a unit of two digits to come, which are those of the number
  have hhigh : Hexadecimal.digit? (Hexadecimal.lower (c.toNat / 16)) = some (c.toNat / 16) :=
    Hexadecimal.digit?_lower ⟨c.toNat / 16, by omega⟩
  have hlow : Hexadecimal.digit? (Hexadecimal.lower (c.toNat % 16)) = some (c.toNat % 16) :=
    Hexadecimal.digit?_lower ⟨c.toNat % 16, by omega⟩
  have hzeros : run ⟨done, .text (draftOf cs)⟩ ['\\', 'u', '0', '0'] =
      some ⟨done, .unit (draftOf cs) 2 0⟩ := rfl
  have hthird : step ⟨done, .unit (draftOf cs) 2 0⟩ (.char (Hexadecimal.lower (c.toNat / 16))) =
      some ⟨done, .unit (draftOf cs) 1 (16 * 0 + c.toNat / 16)⟩ := by
    simp only [step, unit, hhigh]
    rfl
  have hfourth : step ⟨done, .unit (draftOf cs) 1 (16 * 0 + c.toNat / 16)⟩
      (.char (Hexadecimal.lower (c.toNat % 16))) = some ⟨done, .text (draftOf (c :: cs))⟩ := by
    have hvalue : 16 * (16 * 0 + c.toNat / 16) + c.toNat % 16 = c.toNat := by omega
    simp only [step, unit, hlow, Option.map_some, hvalue, add_unit_of_lt h, Char.ofNat_toNat]
    rfl
  refine Eq.trans (run_append _ ['\\', 'u', '0', '0'] _) ?_
  rw [hzeros, Option.bind_some, run_cons, hthird, Option.bind_some, run_cons, hfourth]
  rfl

/-- A character of a quoted text is read as it was written. -/
theorem run_escape (done : List Token) (cs : List Char) (c : Char) :
    run ⟨done, .text (draftOf cs)⟩ (Json.escape c) = some ⟨done, .text (draftOf (c :: cs))⟩ := by
  unfold Json.escape
  split
  -- but for the last one, the cases are single characters, for which reading is a computation
  case h_8 hquote hbackslash _ _ _ _ _ =>
    by_cases h : c.toNat < 0x20
    · rw [if_pos h]
      exact run_unit h done cs
    · have hstep : step ⟨done, .text (draftOf cs)⟩ (.char c) =
          some ⟨done, .text (draftOf (c :: cs))⟩ := by
        simp only [step, quote, if_neg hquote, if_neg hbackslash, if_neg h]
        rfl
      rw [if_neg h, run_cons, hstep]
      rfl
  all_goals rfl

theorem run_escapes (done : List Token) (s cs : List Char) :
    run ⟨done, .text (draftOf cs)⟩ (s.flatMap Json.escape) =
      some ⟨done, .text (draftOf (s.reverse ++ cs))⟩ := by
  induction s generalizing cs with
  | nil => rfl
  | cons c s ih =>
    rw [List.flatMap_cons, run_append, run_escape, Option.bind_some, ih]
    simp only [List.reverse_cons, List.append_assoc, List.singleton_append]

/-- A quoted text is read as the text. -/
theorem run_quotedChars (done : List Token) (s : String) :
    run ⟨done, .between⟩ (quotedChars (some s)) = some ⟨.text (some s) :: done, .between⟩ := by
  have hopen : run ⟨done, .between⟩ ['"'] = some ⟨done, .text (draftOf [])⟩ := rfl
  have hfinish : (draftOf s.toList.reverse).finish = some s := by
    simp only [draftOf, Draft.finish, Option.isNone_none, Bool.and_self, if_true,
      List.reverse_reverse, String.ofList_toList]
  refine Eq.trans (run_append _ (['"'] ++ s.toList.flatMap Json.escape) ['"']) ?_
  rw [run_append, hopen, Option.bind_some, run_escapes, Option.bind_some, List.append_nil, run_cons]
  exact congrArg (fun q => some (Lexer.mk (.text q :: done) .between)) hfinish

/-! ## Words and numbers -/

theorem isGap_of_isRunChar {c : Char} (h : isRunChar c = true) : isGap c = false ∧ c ≠ '"' := by
  refine ⟨Bool.eq_false_iff.mpr fun hgap => ?_, ?_⟩
  · simp only [isGap, Bool.or_eq_true, decide_eq_true_eq] at hgap
    rcases hgap with ((rfl | rfl) | rfl) | rfl <;> cases h
  · rintro rfl
    cases h

theorem run_runChars (done : List Token) (cs ds : List Char) (h : ∀ c ∈ ds, isRunChar c = true) :
    run ⟨done, .run cs⟩ ds = some ⟨done, .run (ds.reverse ++ cs)⟩ := by
  induction ds generalizing cs with
  | nil => rfl
  | cons d ds ih =>
    have hstep : step ⟨done, .run cs⟩ (.char d) = some ⟨done, .run (d :: cs)⟩ :=
      if_pos (h d (by simp))
    rw [run_cons, hstep, Option.bind_some, ih _ fun c hc => h c (List.mem_cons_of_mem d hc)]
    simp only [List.reverse_cons, List.append_assoc, List.singleton_append]

/-- A word or number is one token. -/
theorem Cuts.word {cs : List Char} {t : Token} (hne : cs ≠ [])
    (hrun : ∀ c ∈ cs, isRunChar c = true) (ht : runToken? cs = some t) (done : List Token) :
    Cuts ⟨done, .between⟩ cs (t :: done) := by
  obtain ⟨c, cs, rfl⟩ := List.exists_cons_of_ne_nil hne
  have hc : isRunChar c = true := hrun c List.mem_cons_self
  obtain ⟨hgap, hquote⟩ := isGap_of_isRunChar hc
  have hstep : step ⟨done, .between⟩ (.char c) = some ⟨done, .run [c]⟩ := by
    simp only [step, start, hgap, hquote, hc, Bool.false_eq_true, if_false, if_true]
  refine ⟨⟨done, .run (cs.reverse ++ [c])⟩, ?_, ?_⟩
  · rw [run_cons, hstep, Option.bind_some,
      run_runChars done _ cs fun d hd => hrun d (List.mem_cons_of_mem c hd)]
  · simp only [settled, List.reverse_append, List.reverse_reverse, List.reverse_cons,
      List.reverse_nil, List.nil_append, List.singleton_append, ht, Option.map_some]

theorem isRunChar_digit (d : Decimal.Digit) : isRunChar d.char = true := by
  revert d
  decide

/-- A numeral is written in the characters of words and numbers. -/
theorem isRunChar_of_mem_chars {plus : Bool} {n : Numeral} {c : Char} (h : c ∈ n.chars plus) :
    isRunChar c = true := by
  have hdigits {ds : List Decimal.Digit} (h : c ∈ ds.map Decimal.Digit.char) :
      isRunChar c = true := by
    obtain ⟨d, -, rfl⟩ := List.mem_map.mp h
    exact isRunChar_digit d
  rw [Numeral.chars, List.mem_append, List.mem_append, List.mem_append] at h
  -- a numeral is its sign, its whole part, its fraction and its exponent
  rcases h with ((hsign | hwhole) | hfraction) | hexponent
  · split at hsign
    · obtain rfl := List.mem_singleton.mp hsign
      rfl
    · cases hsign
  · exact hdigits hwhole
  · split at hfraction
    · cases hfraction
    · rcases List.mem_cons.mp hfraction with rfl | hmem
      · rfl
      · exact hdigits hmem
  · cases he : n.exponent with
    | none =>
      rw [he] at hexponent
      cases hexponent
    | some e =>
      rw [he] at hexponent
      rcases List.mem_append.mp hexponent with hmark | hmem
      · rcases List.mem_cons.mp hmark with rfl | hsign
        · rfl
        · have hc : c = '-' ∨ c = '+' := by
            split at hsign
            · exact .inl (List.mem_singleton.mp hsign)
            · cases plus with
              | true => exact .inr (List.mem_singleton.mp hsign)
              | false => exact absurd hsign List.not_mem_nil
          rcases hc with rfl | rfl <;> rfl
      · exact hdigits hmem

/-- What is read as a numeral is no word. -/
theorem runToken?_of_read {cs : List Char} {n : Numeral} (h : Numeral.read cs = some n) :
    runToken? cs = some (.number n) := by
  unfold runToken?
  split
  · subst cs
    cases h
  split
  · subst cs
    cases h
  split
  · subst cs
    cases h
  · rw [h]
    rfl

theorem cuts_number (n : Numeral) (done : List Token) :
    Cuts ⟨done, .between⟩ (n.chars true) (.number n :: done) := by
  have hread : Numeral.read (n.chars true) = some n := Numeral.read_chars true n
  refine .word ?_ (fun c => isRunChar_of_mem_chars) (runToken?_of_read hread) done
  intro hnil
  rw [hnil] at hread
  cases hread

/-! ## Documents -/

section Documents

/-- Its characters give the tokens of a document, between two tokens. -/
def CutsTokens (doc : Json) : Prop :=
  ∀ done, Cuts ⟨done, .between⟩ doc.chars (doc.tokens.reverse ++ done)

variable {items : List Json} {members : List (Quoted × Json)} {x : Json} {l : Lexer}
  {ts : List Token}

/-- Items after the first one: the mark before each ends what stands there. -/
theorem cuts_items (h : ∀ x ∈ items, CutsTokens x) (hl : l.settled = some ts) :
    l.Cuts (itemsChars items) ((itemsTokens items).reverse ++ ts) := by
  induction items generalizing l ts with
  | nil => exact .mark hl rfl ⟨_, rfl, rfl⟩
  | cons x xs ih =>
    rw [itemsTokens, List.reverse_cons, List.reverse_append, List.append_assoc, List.append_assoc]
    exact .append (.mark hl rfl (h x List.mem_cons_self _))
      (ih fun y hy => h y (List.mem_cons_of_mem x hy))

/-- A name and its value. -/
theorem CutsTokens.member (h : CutsTokens x) (s : String) (done : List Token) :
    Cuts ⟨done, .between⟩ (quotedChars (some s) ++ ':' :: x.chars)
      (x.tokens.reverse ++ .colon :: .text (some s) :: done) :=
  .append ⟨_, run_quotedChars done s, rfl⟩ fun hl => .mark hl rfl (h _)

/-- Members after the first one: the mark before each ends what stands there. -/
theorem cuts_members (hnames : ∀ m ∈ members, m.1.isSome = true)
    (h : ∀ m ∈ members, CutsTokens m.2) (hl : l.settled = some ts) :
    l.Cuts (membersChars members) ((membersTokens members).reverse ++ ts) := by
  induction members generalizing l ts with
  | nil => exact .mark hl rfl ⟨_, rfl, rfl⟩
  | cons m ms ih =>
    obtain ⟨name, x⟩ := m
    obtain ⟨s, rfl⟩ := Option.isSome_iff_exists.mp (hnames _ List.mem_cons_self)
    have hnames' := fun m hm => hnames m (List.mem_cons_of_mem _ hm)
    have h' := fun m hm => h m (List.mem_cons_of_mem _ hm)
    have hx : l.Cuts (',' :: (quotedChars (some s) ++ ':' :: x.chars)) _ :=
      .mark hl rfl ((h _ List.mem_cons_self).member s _)
    simpa only [membersChars, membersTokens, List.reverse_cons, List.reverse_append,
      List.append_assoc, List.cons_append, List.nil_append] using
        hx.append fun hl => ih hnames' h' hl

end Documents

end Lexer

open Lexer

/-- The characters of a document give the tokens of the document. -/
theorem Lettered.cutsTokens {doc : Json} (h : Lettered doc) : CutsTokens doc := by
  intro done
  induction h generalizing done with
  | null => exact .word (by decide) (List.all_eq_true.mp rfl) rfl done
  | bool b => cases b <;> exact .word (by decide) (List.all_eq_true.mp rfl) rfl done
  | number => exact cuts_number _ done
  | text s => exact ⟨_, run_quotedChars done s, rfl⟩
  | @array items _ ih =>
    cases items with
    | nil => exact ⟨_, rfl, rfl⟩
    | cons x xs =>
      -- the bracket stands before the first item, and a comma before each of the others
      rw [chars, tokens, List.reverse_cons, List.reverse_append, List.append_assoc,
        List.append_assoc]
      exact .append (.mark rfl rfl (ih x List.mem_cons_self _))
        (cuts_items fun y hy => ih y (List.mem_cons_of_mem x hy))
  | @object members hnames _ ih =>
    cases members with
    | nil => exact ⟨_, rfl, rfl⟩
    | cons m ms =>
      obtain ⟨name, x⟩ := m
      obtain ⟨s, rfl⟩ := Option.isSome_iff_exists.mp (hnames _ List.mem_cons_self)
      have hx : Cuts ⟨done, .between⟩ ('{' :: (quotedChars (some s) ++ ':' :: x.chars)) _ :=
        .mark rfl rfl (CutsTokens.member (ih _ List.mem_cons_self) s _)
      have hnames' := fun m hm => hnames m (List.mem_cons_of_mem _ hm)
      have ih' := fun m hm => ih m (List.mem_cons_of_mem _ hm)
      simpa only [chars, tokens, List.reverse_cons, List.reverse_append,
        List.append_assoc, List.cons_append, List.nil_append] using
          hx.append fun hl => cuts_members hnames' ih' hl

/-- A text is cut into the tokens of the document that it was written from. -/
theorem tokens?_compact {doc : Json} (h : CutsTokens doc) :
    tokens? (doc.compact.toList.map .char) = some doc.tokens := by
  obtain ⟨l, hrun, hsettled⟩ := h []
  rw [List.append_nil] at hsettled
  have hfold : (doc.compact.toList.map Symbol.char).foldlM Lexer.step ⟨[], .between⟩ = some l := by
    rw [List.foldlM_map, compact, String.toList_ofList]
    exact hrun
  rw [tokens?, hfold]
  exact (finish_of_settled hsettled).trans (by rw [List.reverse_reverse])

end TargetBench.Json
