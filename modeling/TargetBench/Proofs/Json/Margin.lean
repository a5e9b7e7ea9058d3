import TargetBench.Message.Response
import TargetBench.Proofs.Json.Rereading
import TargetBench.Proofs.Json.Spelling

/-!
# Blanks around documents

A payload is trimmed before it is read, a frame is read as it is. More characters are trimmed than
may stand between tokens, but where a document is read at all, the blanks around it are characters
of the latter kind, and no blank begins or ends a token. So trimming takes nothing from a text that
could be read without it.

## Main definitions

* `Json.GapsAround`: what is trimmed from a text may stand between tokens

## Main results

* `Json.Lexer.run_of_blank`: blanks that a lexer passes without a change to its tokens are gaps
* `Json.readText_eq_some_iff_trim`: what is read as it is, and what is read only when trimmed
* `decodeText_of_blanks`: what blanks around a text mean for its value
-/

namespace TargetBench

namespace Json

variable {c : Char} {cs : List Char} {s : String} {doc : Json}

/-- What is trimmed from a text may stand between tokens. -/
def GapsAround (s : String) : Prop :=
  ∃ front back, s.toList = front ++ ((Text.trim s).toList ++ back) ∧
    ∀ c ∈ front ++ back, isGap c = true

/-! ## Blanks between tokens -/

theorem isBlank_of_isGap (h : isGap c = true) : Text.isBlank c = true := by
  simp only [isGap, Bool.or_eq_true, decide_eq_true_eq] at h
  rcases h with ((rfl | rfl) | rfl) | rfl <;> decide

theorem isRunChar_of_blank (h : Text.isBlank c = true) : isRunChar c = false := by
  refine Bool.eq_false_iff.mpr fun hrun => ?_
  rw [isBlank_of_isRunChar hrun] at h
  cases h

theorem markToken?_of_blank (h : Text.isBlank c = true) : markToken? c = none := by
  unfold markToken?
  split <;> first | rfl | exact absurd h (by decide)

namespace Lexer

variable {l l' : Lexer} {done ts : List Token}

/-- A blank between two tokens is passed if it is a gap, and only then. -/
theorem start_of_blank (hblank : Text.isBlank c = true) (h : start done (.char c) = some l) :
    isGap c = true ∧ l = ⟨done, .between⟩ := by
  have hquote : c ≠ '"' := by
    rintro rfl
    exact absurd hblank (by decide)
  by_cases hgap : isGap c = true
  · simp only [start, hgap, if_true] at h
    exact ⟨hgap, (Option.some.inj h).symm⟩
  · simp only [start, if_neg hgap, if_neg hquote, isRunChar_of_blank hblank,
      markToken?_of_blank hblank, Bool.false_eq_true, if_false, Option.map_none] at h
    cases h

/-- A blank completes no token that was not complete before. -/
theorem step_of_blank (hblank : Text.isBlank c = true) (h : l.step (.char c) = some l') :
    l'.settled = l.settled ∧ (l.settled.isSome = true → isGap c = true) := by
  have hopen : (none : Option (List Token)).isSome = true → isGap c = true :=
    fun hsome => absurd hsome Bool.false_ne_true
  obtain ⟨done, mode⟩ := l
  cases mode with
  | between =>
    obtain ⟨hgap, rfl⟩ := start_of_blank hblank h
    exact ⟨rfl, fun _ => hgap⟩
  | run ds =>
    simp only [step, isRunChar_of_blank hblank, Bool.false_eq_true, if_false] at h
    obtain ⟨t, ht, hstart⟩ := Option.bind_eq_some_iff.mp h
    obtain ⟨hgap, rfl⟩ := start_of_blank hblank hstart
    exact ⟨by simp only [settled, ht, Option.map_some], fun _ => hgap⟩
  | text draft =>
    have hquote : c ≠ '"' := by
      rintro rfl
      exact absurd hblank (by decide)
    -- a quoted text goes on, so it is not among the tokens yet
    simp only [step, quote, if_neg hquote] at h
    split_ifs at h <;> cases h <;> exact ⟨rfl, hopen⟩
  | escape draft =>
    simp only [step, escape] at h
    split_ifs at h
    · cases h
      exact ⟨rfl, hopen⟩
    · obtain ⟨e, -, rfl⟩ := Option.map_eq_some_iff.mp h
      exact ⟨rfl, hopen⟩
  | unit draft missing value =>
    simp only [step, unit] at h
    obtain ⟨d, -, rfl⟩ := Option.map_eq_some_iff.mp h
    split_ifs <;> exact ⟨rfl, hopen⟩

/-- Blanks complete no token, and they are gaps where the tokens before them are complete. -/
theorem run_of_blank (hblank : ∀ c ∈ cs, Text.isBlank c = true) (h : l.run cs = some l') :
    l'.settled = l.settled ∧ (l.settled.isSome = true → ∀ c ∈ cs, isGap c = true) := by
  induction cs generalizing l with
  | nil =>
    cases h
    exact ⟨rfl, nofun⟩
  | cons c cs ih =>
    obtain ⟨hc, hcs⟩ := List.forall_mem_cons.mp hblank
    rw [run_cons] at h
    obtain ⟨l₁, hstep, hrun⟩ := Option.bind_eq_some_iff.mp h
    obtain ⟨hfirst, hgap⟩ := step_of_blank hc hstep
    obtain ⟨hrest, hgaps⟩ := ih hcs hrun
    rw [hfirst] at hrest hgaps
    exact ⟨hrest, fun hsome => List.forall_mem_cons.mpr ⟨hgap hsome, hgaps hsome⟩⟩

/-- A gap ends what stands before it. -/
theorem step_gap (hgap : isGap c = true) (h : l.settled = some ts) :
    l.step (.char c) = some ⟨ts, .between⟩ := by
  have hstart (done : List Token) : start done (.char c) = some ⟨done, .between⟩ := if_pos hgap
  have hrun := isRunChar_of_blank (isBlank_of_isGap hgap)
  obtain ⟨done, mode⟩ := l
  cases mode with
  | between =>
    cases h
    exact hstart _
  | run ds =>
    obtain ⟨t, ht, rfl⟩ := Option.map_eq_some_iff.mp h
    simp only [step, hrun, ht, hstart, Option.bind_eq_bind, Option.bind_some, Bool.false_eq_true,
      if_false]
  | _ => cases h

/-- Gaps leave the tokens before them as they are. -/
theorem cuts_gaps (hgaps : ∀ c ∈ cs, isGap c = true) (h : l.settled = some ts) : l.Cuts cs ts := by
  induction cs generalizing l with
  | nil => exact ⟨l, rfl, h⟩
  | cons c cs ih =>
    obtain ⟨hc, hcs⟩ := List.forall_mem_cons.mp hgaps
    obtain ⟨l', hrun, hsettled⟩ := ih (l := ⟨ts, .between⟩) hcs rfl
    exact ⟨l', by rw [run_cons, step_gap hc h, Option.bind_some, hrun], hsettled⟩

/-- Before the first token there is only one thing that a lexer can be. -/
theorem eq_of_settled_nil (h : l.settled = some []) : l = ⟨[], .between⟩ := by
  obtain ⟨done, mode⟩ := l
  cases mode with
  | between =>
    cases h
    rfl
  | run ds =>
    obtain ⟨t, -, ht⟩ := Option.map_eq_some_iff.mp h
    cases ht
  | _ => cases h

end Lexer

/-! ## Texts with blanks around them -/

theorem readText_eq_some_iff_cuts : readText s = some doc ↔
    ∃ ts, Lexer.Cuts ⟨[], .between⟩ s.toList ts ∧
      Reader.run ⟨[], .value⟩ ts.reverse = some ⟨[], .complete doc⟩ := by
  rw [readText_eq_some_iff]
  constructor
  · rintro ⟨l, ts, hl, hts, hr⟩
    exact ⟨ts.reverse, ⟨l, hl, Lexer.settled_of_finish hts⟩, by rwa [List.reverse_reverse]⟩
  · rintro ⟨ts, ⟨l, hl, hsettled⟩, hr⟩
    exact ⟨l, ts.reverse, hl, Lexer.finish_of_settled hsettled, hr⟩

/-- A text is read as it is exactly if it is read when trimmed and nothing but gaps is trimmed. -/
theorem readText_eq_some_iff_trim :
    readText s = some doc ↔ readText (Text.trim s) = some doc ∧ GapsAround s := by
  rw [readText_eq_some_iff_cuts, readText_eq_some_iff_cuts]
  constructor
  · rintro ⟨ts, ⟨l, hl, hsettled⟩, hr⟩
    obtain ⟨front, back, hs, hblank⟩ := Text.exists_eq_append_trimChars s.toList
    obtain ⟨hfront, hback⟩ := List.forall_mem_append.mp hblank
    have htrim : (Text.trim s).toList = Text.trimChars s.toList := String.toList_ofList
    rw [hs, Lexer.run_append] at hl
    obtain ⟨l₁, hl₁, hl⟩ := Option.bind_eq_some_iff.mp hl
    rw [Lexer.run_append] at hl
    obtain ⟨l₂, hl₂, hl₃⟩ := Option.bind_eq_some_iff.mp hl
    obtain ⟨hbegin, hgapsFront⟩ := Lexer.run_of_blank hfront hl₁
    obtain ⟨hend, hgapsBack⟩ := Lexer.run_of_blank hback hl₃
    obtain rfl := Lexer.eq_of_settled_nil hbegin
    rw [hsettled] at hend
    refine ⟨⟨ts, ⟨l₂, by rw [htrim, hl₂], hend.symm⟩, hr⟩, front, back, by rw [htrim, ← hs], ?_⟩
    exact List.forall_mem_append.mpr ⟨hgapsFront rfl, hgapsBack (by rw [← hend]; rfl)⟩
  · rintro ⟨⟨ts, hcuts, hr⟩, front, back, hs, hgaps⟩
    obtain ⟨hfront, hback⟩ := List.forall_mem_append.mp hgaps
    refine ⟨ts, ?_, hr⟩
    rw [hs]
    refine .append (Lexer.cuts_gaps hfront rfl) fun hl => ?_
    obtain rfl := Lexer.eq_of_settled_nil hl
    exact .append hcuts fun hl' => Lexer.cuts_gaps hback hl'

end Json

section Decoding

variable {α : Type} [Wire α] {s : String} {x : α}

theorem decodeText_eq_error_empty_iff :
    (decodeText s : Except CodecError α) = .error .empty ↔ Text.Blank s := by
  rw [← Text.trim_eq_empty_iff, decodeText]
  by_cases hempty : (Text.trim s).isEmpty = true
  · exact iff_of_true (if_pos hempty) (String.isEmpty_iff.mp hempty)
  · refine iff_of_false (fun h => ?_) fun h => hempty (String.isEmpty_iff.mpr h)
    simp only [if_neg hempty] at h
    split at h <;> cases h

/-- A value is decoded from the document that the trimmed text is read as. -/
theorem decodeText_eq_ok_iff : decodeText s = .ok x ↔
    ∃ doc, Json.readText (Text.trim s) = some doc ∧ decodeDocument doc = some x := by
  constructor
  · exact exists_document_of_decodeText
  · rintro ⟨doc, hread, hdecode⟩
    rw [decodeText_of_readText hread, hdecode]

/-- The bytes of a text give the value that the text gives, if nothing but gaps is trimmed. -/
theorem decodeBytes_bytes_eq_some_iff :
    decodeBytes (Utf8.bytes s) = some x ↔ decodeText s = .ok x ∧ Json.GapsAround s := by
  rw [decodeText_eq_ok_iff, decodeBytes, Json.readBytes_bytes, Option.bind_eq_some_iff]
  constructor
  · rintro ⟨doc, hread, hdecode⟩
    obtain ⟨htrimmed, hgaps⟩ := Json.readText_eq_some_iff_trim.mp hread
    exact ⟨⟨doc, htrimmed, hdecode⟩, hgaps⟩
  · rintro ⟨⟨doc, htrimmed, hdecode⟩, hgaps⟩
    exact ⟨doc, Json.readText_eq_some_iff_trim.mpr ⟨htrimmed, hgaps⟩, hdecode⟩

end Decoding

/-- **Blanks around a text have no influence on its value.** A text is empty exactly if it holds
nothing but blanks, and blanks added at its ends change nothing. Where the text is read as it is, as
a frame is, the value is the same: it is read exactly if nothing but gaps is trimmed from it. -/
theorem decodeText_of_blanks {α : Type} [Wire α] (s : String) :
    ((decodeText s : Except CodecError α) = .error .empty ↔ Text.Blank s) ∧
    (∀ front back : String, Text.Blank front → Text.Blank back →
      (decodeText (front ++ s ++ back) : Except CodecError α) = decodeText s) ∧
    ∀ x : α, decodeBytes (Utf8.bytes s) = some x ↔ decodeText s = .ok x ∧ Json.GapsAround s := by
  refine ⟨decodeText_eq_error_empty_iff, fun front back hfront hback => ?_,
    fun x => decodeBytes_bytes_eq_some_iff⟩
  simp only [decodeText, Text.trim_append hfront hback]

/-- A frame with gaps around it is read with wider blanks around these as well, but only trimmed. -/
theorem decodeText_of_blanks_wide :
    let frame := " " ++ encodeText Response.failure ++ "\n"
    let wide := "\u3000" ++ frame ++ "\u00a0"
    Text.Blank "\u3000" ∧ Text.Blank "\u00a0" ∧
      decodeBytes (Utf8.bytes frame) = some Response.failure ∧
      decodeText wide = .ok Response.failure ∧
      (decodeBytes (Utf8.bytes wide) : Option Response) = none := by
  intro frame wide
  have hfront : Text.Blank "\u3000" := by decide
  have hback : Text.Blank "\u00a0" := by decide
  have hframe : decodeBytes (Utf8.bytes frame) = some Response.failure := by decide +kernel
  obtain ⟨-, hpadded, hread⟩ := decodeText_of_blanks (α := Response) frame
  refine ⟨hfront, hback, hframe, ?_, by decide +kernel⟩
  rw [hpadded _ _ hfront hback]
  exact ((hread _).mp hframe).1

end TargetBench
