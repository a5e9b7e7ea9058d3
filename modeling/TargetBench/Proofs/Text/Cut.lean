import TargetBench.Proofs.Text.Trim

/-!
# Texts cut at marks

Where a text is cut, the mark occurs for the first time: what stands before it is as short as any
part that is followed by the mark.

## Main definitions

* `Text.UpTo`: the part of a text before a mark, without the steps that find it

## Main results

* `Text.cutChars?_eq_some_iff`, `Text.cutChars?_eq_none_iff`: where characters are cut
* `Text.cutChars?_append`: where they are cut if the mark is known to occur
* `Text.upTo_iff`: the part before a mark is the one that is found
-/

namespace TargetBench.Text

/-- A part of a text up to a mark, or to the end of the text, so that the mark does not begin
within the part. -/
structure UpTo (mark text part : String) : Prop where
  ends : part = text ∨ ∃ rest, text = part ++ mark ++ rest
  first : ∀ before after, text = before ++ mark ++ after → part.length ≤ before.length

variable {mark cs front rest : List Char}

/-- The first place where a mark occurs is where characters are cut. -/
theorem cutChars?_eq_some_iff (hmark : mark ≠ []) :
    cutChars? mark cs = some (front, rest) ↔
      cs = front ++ mark ++ rest ∧
        ∀ before after, cs = before ++ mark ++ after → front.length ≤ before.length := by
  induction cs generalizing front with
  | nil => simp [cutChars?, hmark]
  | cons c cs ih =>
    rw [cutChars?]
    by_cases hhere : mark.isPrefixOf (c :: cs) = true
    · -- the mark occurs at the beginning, so that nothing can stand before it
      obtain ⟨after, hafter⟩ := List.isPrefixOf_iff_prefix.mp hhere
      rw [if_pos hhere, ← hafter, List.drop_left, Option.some.injEq, Prod.mk.injEq]
      constructor
      · rintro ⟨rfl, rfl⟩
        exact ⟨rfl, fun _ _ _ => Nat.zero_le _⟩
      · rintro ⟨heq, hfirst⟩
        obtain rfl : front = [] := List.length_eq_zero_iff.mp (Nat.le_zero.mp (hfirst [] after rfl))
        exact ⟨rfl, List.append_cancel_left heq⟩
    · -- it occurs later or not at all, so that the first character stands before it
      have hlater {before after : List Char} (h : c :: cs = before ++ mark ++ after) :
          ∃ before', before = c :: before' ∧ cs = before' ++ mark ++ after := by
        cases before with
        | nil => exact absurd (List.isPrefixOf_iff_prefix.mpr ⟨after, h.symm⟩) hhere
        | cons d before =>
          obtain ⟨rfl, hcs⟩ := List.cons.inj h
          exact ⟨before, rfl, hcs⟩
      rw [if_neg hhere, Option.map_eq_some_iff]
      constructor
      · rintro ⟨⟨front', rest'⟩, hcut, ⟨⟩⟩
        obtain ⟨rfl, hfirst⟩ := ih.mp hcut
        refine ⟨rfl, ?_⟩
        intro before after h
        obtain ⟨before', rfl, hcs⟩ := hlater h
        exact Nat.succ_le_succ (hfirst before' after hcs)
      · rintro ⟨heq, hfirst⟩
        obtain ⟨front', rfl, hcs⟩ := hlater heq
        refine ⟨(front', rest), ih.mpr ⟨hcs, ?_⟩, rfl⟩
        intro before after h
        exact Nat.le_of_succ_le_succ (hfirst (c :: before) after (by rw [h]; rfl))

/-- Characters are not cut at a mark that does not occur. -/
theorem cutChars?_eq_none_iff (hmark : mark ≠ []) :
    cutChars? mark cs = none ↔ ¬ mark <:+: cs := by
  induction cs with
  | nil => simp [cutChars?, hmark]
  | cons c cs ih =>
    rw [cutChars?, List.infix_cons_iff, not_or, ← ih, ← List.isPrefixOf_iff_prefix]
    by_cases hhere : mark.isPrefixOf (c :: cs) = true <;> simp [hhere]

/-- Characters are cut at a mark that does not end within what stands before it and all but the last
character of it. -/
theorem cutChars?_append (hmark : mark ≠ []) (h : ¬ mark <:+: front ++ mark.dropLast)
    (rest : List Char) : cutChars? mark (front ++ mark ++ rest) = some (front, rest) := by
  refine (cutChars?_eq_some_iff hmark).mpr ⟨rfl, ?_⟩
  intro before after heq
  by_contra hshort
  -- an earlier occurrence ends before the last character of this one
  have hlength : (before ++ mark).length ≤ (front ++ mark.dropLast).length := by
    have hpos := List.length_pos_iff.mpr hmark
    simp only [List.length_append, List.length_dropLast]
    omega
  have hearlier : before ++ mark <+: front ++ mark ++ rest := ⟨after, heq.symm⟩
  have hhere : front ++ mark.dropLast <+: front ++ mark ++ rest := by
    rw [List.append_assoc, List.prefix_append_right_inj]
    exact (List.dropLast_prefix mark).trans (List.prefix_append mark rest)
  have hwithin := List.prefix_of_prefix_length_le hearlier hhere hlength
  exact h ((List.infix_append' before mark []).trans (by simpa using hwithin.isInfix))

/-- A mark does not reach over a character that it does not hold. -/
theorem not_infix_append_cons {d : Char} (hd : d ∉ mark) (hfront : ¬ mark <:+: front)
    (hrest : ¬ mark <:+: rest) : ¬ mark <:+: front ++ d :: rest := by
  intro h
  rcases List.infix_append_iff.mp h with h | h | ⟨l, r, rfl, hl, hr⟩
  · exact hfront h
  · rcases List.infix_cons_iff.mp h with h | h
    · rcases List.prefix_cons_iff.mp h with rfl | ⟨t, rfl, -⟩
      · exact hfront (List.nil_infix)
      · exact hd List.mem_cons_self
    · exact hrest h
  · rcases List.prefix_cons_iff.mp hr with rfl | ⟨t, rfl, -⟩
    · exact hfront (by simpa using hl.isInfix)
    · exact hd (by simp)

/-! ## Texts -/

section Texts

variable {mark text part other : String}

theorem UpTo.toList_prefix (h : UpTo mark text part) : part.toList <+: text.toList := by
  rcases h.ends with rfl | ⟨rest, rfl⟩
  · exact List.prefix_rfl
  · exact ⟨mark.toList ++ rest.toList, by simp⟩

theorem UpTo.length_le (h : UpTo mark text part) (h' : UpTo mark text other) :
    part.length ≤ other.length := by
  rcases h'.ends with rfl | ⟨rest, hrest⟩
  · exact h.toList_prefix.length_le
  · exact h.first other rest hrest

/-- A text has one part before a mark. -/
theorem UpTo.unique (h : UpTo mark text part) (h' : UpTo mark text other) : part = other := by
  have hlength : part.toList.length = other.toList.length :=
    Nat.le_antisymm (h.length_le h') (h'.length_le h)
  have hbegins : part.toList <+: other.toList :=
    List.prefix_of_prefix_length_le h.toList_prefix h'.toList_prefix hlength.le
  exact String.toList_inj.mp (hbegins.eq_of_length hlength)

/-- What is found before a mark stands before it. -/
theorem upTo_before (hmark : mark ≠ "") (text : String) : UpTo mark text (before mark text) := by
  have hmark' : mark.toList ≠ [] := by simpa using hmark
  have happend {front rest : String} (h : text = front ++ mark ++ rest) :
      text.toList = front.toList ++ mark.toList ++ rest.toList := by simp [h]
  unfold before cut?
  cases hcut : cutChars? mark.toList text.toList with
  | none =>
    have hnone := (cutChars?_eq_none_iff hmark').mp hcut
    refine ⟨.inl rfl, ?_⟩
    intro front rest h
    exact absurd ⟨front.toList, rest.toList, (happend h).symm⟩ hnone
  | some parts =>
    obtain ⟨front, rest⟩ := parts
    obtain ⟨heq, hfirst⟩ := (cutChars?_eq_some_iff hmark').mp hcut
    refine ⟨.inr ⟨String.ofList rest, ?_⟩, ?_⟩
    · rw [← String.toList_inj, heq]
      simp
    · intro before after h
      have hlength := hfirst before.toList after.toList (happend h)
      rw [String.length_toList] at hlength
      simpa using hlength

/-- The part of a text before a mark is the one that is found. -/
theorem upTo_iff (hmark : mark ≠ "") : UpTo mark text part ↔ part = before mark text := by
  constructor
  · intro h
    exact h.unique (upTo_before hmark text)
  · rintro rfl
    exact upTo_before hmark text

/-- A mark does not occur in the part before it. -/
theorem UpTo.not_infix (hmark : mark ≠ "") (h : UpTo mark text part) :
    ¬ mark.toList <:+: part.toList := by
  rintro ⟨front, rest, hpart⟩
  obtain ⟨after, hafter⟩ := h.toList_prefix
  have hearlier := h.first (String.ofList front) (String.ofList (rest ++ after)) (by
    rw [← String.toList_inj, ← hafter, ← hpart]
    simp)
  have hlength := congrArg List.length hpart
  have hpos := List.length_pos_iff.mpr (mt String.toList_eq_nil_iff.mp hmark)
  rw [String.length_ofList, ← String.length_toList] at hearlier
  simp only [List.length_append] at hlength
  omega

end Texts

end TargetBench.Text
