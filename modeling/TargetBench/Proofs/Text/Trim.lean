import Mathlib.Data.List.DropRight
import Mathlib.Data.List.TakeWhile
import TargetBench.Text.Blank
import TargetBench.Text.Cut

/-!
# Texts without the blanks at their ends

## Main definitions

* `Text.Blank`: texts that hold nothing but blanks
* `Text.before`: the text before a mark

## Main results

* `Text.trim_eq_empty_iff`: nothing remains of exactly the blank texts
* `Text.trimChars_append_cons`: characters between two that are no blanks stay as they are
* `Text.trim_trim`: nothing is left to trim from a trimmed text
* `Text.trim_append`: blanks that are added at the ends make no difference
-/

namespace TargetBench.Text

/-- Texts that hold nothing but blanks. -/
def Blank (s : String) : Prop := ∀ c ∈ s.toList, isBlank c = true

instance (s : String) : Decidable (Blank s) := List.decidableBAll _ s.toList

/-- The text before the first occurrence of a mark; all of it if the mark does not occur. -/
def before (mark text : String) : String := ((cut? mark text).map Prod.fst).getD text

theorem trimChars_eq_nil_iff {cs : List Char} :
    trimChars cs = [] ↔ ∀ c ∈ cs, isBlank c = true := by
  rw [trimChars, List.reverse_eq_nil_iff, List.dropWhile_eq_nil_iff]
  constructor
  · intro h
    rw [← List.dropWhile_eq_nil_iff]
    -- a character at which the first pass stops is no blank, so it stops the second one too
    by_contra hne
    obtain ⟨c, rest, hc⟩ := List.exists_cons_of_ne_nil hne
    have hstop := List.head?_dropWhile_not isBlank cs
    rw [hc] at h hstop
    exact absurd (h c (by simp)) (by simpa using hstop)
  · intro h c hc
    exact h c ((List.dropWhile_suffix isBlank).subset (List.mem_reverse.mp hc))

/-- Nothing remains of exactly the texts that hold nothing but blanks. -/
theorem trim_eq_empty_iff {s : String} : trim s = "" ↔ Blank s := by
  rw [trim, Blank, ← trimChars_eq_nil_iff]
  constructor
  · intro h
    simpa using congrArg String.toList h
  · intro h
    rw [h]

/-- Nothing in front of a character is dropped from the end if the character is not. -/
theorem rdropWhile_append_cons {p : Char → Bool} {c : Char} (hc : p c = false)
    (front cs : List Char) : (front ++ c :: cs).rdropWhile p = front ++ c :: cs.rdropWhile p := by
  induction cs using List.reverseRecOn with
  | nil => exact List.rdropWhile_concat_neg p front c (by simp [hc])
  | append_singleton cs d ih =>
    rw [← List.cons_append, ← List.append_assoc]
    by_cases hd : p d = true
    · rw [List.rdropWhile_concat_pos p _ d hd, List.rdropWhile_concat_pos p _ d hd, ih]
    · rw [List.rdropWhile_concat_neg p _ d hd, List.rdropWhile_concat_neg p _ d hd,
        List.append_assoc, List.cons_append]

/-- Behind two characters that are no blanks, only what follows the second one is trimmed. -/
theorem trimChars_append_cons {c d : Char} (hc : isBlank c = false) (hd : isBlank d = false)
    (cs ds : List Char) :
    trimChars (c :: cs ++ d :: ds) = c :: cs ++ d :: ds.rdropWhile isBlank := by
  rw [trimChars, List.cons_append, List.dropWhile_cons_of_neg (by simp [hc]), ← List.cons_append]
  exact rdropWhile_append_cons hd (c :: cs) ds

/-- Characters that begin and end with no blank have none at their ends. -/
theorem trimChars_eq_self {c d : Char} (hc : isBlank c = false) (hd : isBlank d = false)
    (cs : List Char) : trimChars (c :: cs ++ [d]) = c :: cs ++ [d] :=
  trimChars_append_cons hc hd cs []

/-- Characters of which none is a blank have none at their ends. -/
theorem trimChars_eq_self_of_forall {cs : List Char} (h : ∀ c ∈ cs, isBlank c = false) :
    trimChars cs = cs := by
  have hdrop {ds : List Char} (hds : ∀ c ∈ ds, isBlank c = false) : ds.dropWhile isBlank = ds := by
    cases ds with
    | nil => rfl
    | cons d ds => exact List.dropWhile_cons_of_neg (by simp [hds d List.mem_cons_self])
  rw [trimChars, hdrop h, hdrop fun c hc => h c (List.mem_reverse.mp hc), List.reverse_reverse]

theorem trimChars_infix (cs : List Char) : trimChars cs <:+: cs :=
  (List.rdropWhile_prefix isBlank _).isInfix.trans (List.dropWhile_suffix isBlank).isInfix

theorem trimChars_trimChars (cs : List Char) : trimChars (trimChars cs) = trimChars cs := by
  have hfront : (trimChars cs).dropWhile isBlank = trimChars cs := by
    rw [List.dropWhile_eq_self_iff]
    intro hpos
    -- what is left begins as it did before its end was trimmed
    have hbegins : trimChars cs <+: cs.dropWhile isBlank := List.rdropWhile_prefix isBlank _
    rw [hbegins.getElem hpos]
    exact List.dropWhile_get_zero_not isBlank cs (hpos.trans_le hbegins.length_le)
  calc trimChars (trimChars cs)
      = ((trimChars cs).dropWhile isBlank).rdropWhile isBlank := rfl
    _ = (trimChars cs).rdropWhile isBlank := by rw [hfront]
    _ = trimChars cs := List.rdropWhile_idempotent isBlank _

/-- What is trimmed away are blanks at both ends. -/
theorem exists_eq_append_trimChars (cs : List Char) :
    ∃ front back, cs = front ++ (trimChars cs ++ back) ∧ ∀ c ∈ front ++ back, isBlank c = true := by
  refine ⟨cs.takeWhile isBlank, (cs.dropWhile isBlank).rtakeWhile isBlank, ?_, fun c hc => ?_⟩
  · have hback : trimChars cs ++ (cs.dropWhile isBlank).rtakeWhile isBlank = cs.dropWhile isBlank :=
      List.rdropWhile_append_rtakeWhile
    rw [hback, List.takeWhile_append_dropWhile]
  · rcases List.mem_append.mp hc with hc | hc
    · exact List.mem_takeWhile_imp hc
    · exact List.mem_rtakeWhile_imp hc

/-- Blanks that are added at the ends are trimmed away again. -/
theorem trimChars_append {front back : List Char} (hfront : ∀ c ∈ front, isBlank c = true)
    (hback : ∀ c ∈ back, isBlank c = true) (cs : List Char) :
    trimChars (front ++ (cs ++ back)) = trimChars cs := by
  have hdrop (ds : List Char) : (ds ++ back).reverse.dropWhile isBlank =
      ds.reverse.dropWhile isBlank := by
    rw [List.reverse_append,
      List.dropWhile_append_of_pos fun c hc => hback c (List.mem_reverse.mp hc)]
  rw [trimChars, List.dropWhile_append_of_pos hfront, List.dropWhile_append]
  split
  · next hblank =>
    -- nothing but blanks stands before those at the end
    rw [List.dropWhile_eq_nil_iff.mpr hback, trimChars, List.isEmpty_iff.mp hblank]
  · rw [hdrop]
    rfl

/-- A text with blanks added at its ends is trimmed to the same text. -/
theorem trim_append {front back : String} (hfront : Blank front) (hback : Blank back) (s : String) :
    trim (front ++ s ++ back) = trim s := by
  rw [trim, String.toList_append, String.toList_append, List.append_assoc,
    trimChars_append hfront hback, trim]

/-- A trimmed text is a part of the text. -/
theorem trim_infix (s : String) : (trim s).toList <:+: s.toList := by
  rw [trim, String.toList_ofList]
  exact trimChars_infix s.toList

/-- Nothing is left to trim from a trimmed text. -/
theorem trim_trim (s : String) : trim (trim s) = trim s := by
  rw [trim, trim, String.toList_ofList, trimChars_trimChars]

end TargetBench.Text
