import TargetBench.Endpoint.Url
import TargetBench.Proofs.FileSystem.Component
import TargetBench.Proofs.Text.Bytes

/-!
# Segments of locators

A locator has its path resolved and escaped when it is read. What comes out is a path that would
not change again, because escaping makes no dot segment: an escaped byte is never a dot.

## Main definitions

* `Url.Plain`: paths that a locator holds as they are

## Main results

* `Url.plainDots_encode`: escaping a segment does not change which dots it spells
* `Url.segmentedPath_of_plain`: a plain path is read as itself
* `Url.plain_segmentedPath`: what is read is plain, or the root
-/

namespace TargetBench

/-! ## Joined pieces -/

namespace Text

theorem mem_intercalate {mark c : Char} {pieces : List (List Char)}
    (h : c ∈ [mark].intercalate pieces) : c = mark ∨ ∃ p ∈ pieces, c ∈ p := by
  match pieces with
  | [] => cases h
  | [p] =>
    rw [List.intercalate_singleton] at h
    exact .inr ⟨p, List.mem_cons_self, h⟩
  | p :: q :: rest =>
    rw [List.intercalate_cons_cons, List.mem_append, List.mem_append, List.mem_singleton] at h
    rcases h with (h | h) | h
    · exact .inr ⟨p, List.mem_cons_self, h⟩
    · exact .inl h
    · exact (mem_intercalate h).imp id fun ⟨r, hr, hc⟩ => ⟨r, List.mem_cons_of_mem p hr, hc⟩

end Text

/-! ## Escaped characters -/

namespace Percent

variable {escaped : Char → Bool} {c : Char} {cs : List Char}

/-- The characters that escaped bytes are written with. -/
def alphabet : List Char := "%0123456789ABCDEF".toList

theorem upper_mem_alphabet : ∀ n : Fin 16, Hexadecimal.upper n.val ∈ alphabet := by decide

theorem mem_alphabet_of_mem_byteChars {b : UInt8} (h : c ∈ byteChars b) : c ∈ alphabet := by
  have hb : b.toNat < 256 := b.toNat_lt
  rw [byteChars] at h
  simp only [List.mem_cons, List.not_mem_nil, or_false] at h
  rcases h with rfl | rfl | rfl
  · decide
  · exact upper_mem_alphabet ⟨b.toNat / 16, by omega⟩
  · exact upper_mem_alphabet ⟨b.toNat % 16, by omega⟩

theorem encode_cons_of_escaped (h : escaped c = true) :
    encode escaped (c :: cs) =
      (String.utf8EncodeChar c).flatMap byteChars ++ encode escaped cs := by
  rw [encode, List.flatMap_cons, if_pos h]
  rfl

theorem encode_cons_of_not_escaped (h : escaped c = false) :
    encode escaped (c :: cs) = c :: encode escaped cs := by
  rw [encode, List.flatMap_cons, if_neg (by simp [h])]
  rfl

/-- What is written is a character that needs no escape, or a part of an escaped byte. -/
theorem mem_encode (h : c ∈ encode escaped cs) :
    c ∈ cs ∧ escaped c = false ∨ c ∈ alphabet := by
  obtain ⟨d, hd, hc⟩ := List.mem_flatMap.mp h
  by_cases he : escaped d = true
  · rw [if_pos he] at hc
    obtain ⟨b, -, hb⟩ := List.mem_flatMap.mp hc
    exact .inr (mem_alphabet_of_mem_byteChars hb)
  · rw [if_neg he, List.mem_singleton] at hc
    exact .inl ⟨hc ▸ hd, hc ▸ Bool.eq_false_iff.mpr he⟩

/-- An escape begins with a percent sign, so another character at the front has not been escaped. -/
theorem exists_of_encode_eq_cons {d : Char} {tail : List Char} (hd : d ≠ '%')
    (h : encode escaped cs = d :: tail) : ∃ rest, cs = d :: rest ∧ encode escaped rest = tail := by
  cases cs with
  | nil => cases h
  | cons c cs =>
    by_cases hc : escaped c = true
    · obtain ⟨b, bs, hb⟩ := List.exists_cons_of_ne_nil (Utf8.encodeChar_ne_nil c)
      rw [encode_cons_of_escaped hc, hb, List.flatMap_cons, byteChars] at h
      exact absurd (List.cons.inj h).1.symm hd
    · rw [encode_cons_of_not_escaped (Bool.eq_false_iff.mpr hc)] at h
      obtain ⟨rfl, rfl⟩ := List.cons.inj h
      exact ⟨cs, rfl, rfl⟩

/-- Characters without a percent sign have not been escaped. -/
theorem eq_of_encode_eq {ds : List Char} (h : encode escaped cs = ds) (hds : '%' ∉ ds) :
    cs = ds := by
  rw [← h]
  refine (encode_eq_self fun c hc => ?_).symm
  by_contra he
  rw [Bool.not_eq_false] at he
  refine hds (h ▸ List.mem_flatMap.mpr ⟨c, hc, ?_⟩)
  obtain ⟨b, bs, hb⟩ := List.exists_cons_of_ne_nil (Utf8.encodeChar_ne_nil c)
  rw [if_pos he, hb, List.flatMap_cons, byteChars]
  exact List.mem_cons_self

end Percent

namespace Url

open Percent

variable {c : Char} {cs : List Char}

/-! ## Dots -/

theorem plainDots_cons_of_ne (h : c ≠ '%') : plainDots (c :: cs) = c :: plainDots cs := by
  rw [plainDots]
  rintro e tail rfl
  exact absurd rfl h

/-- A percent sign is a percent sign unless it begins an escaped dot. -/
theorem plainDots_percent
    (h : ∀ e tail, cs = '2' :: e :: tail → ¬ (e = 'e' ∨ e = 'E')) :
    plainDots ('%' :: cs) = '%' :: plainDots cs := by
  by_cases hcs : ∃ e tail, cs = '2' :: e :: tail
  · obtain ⟨e, tail, rfl⟩ := hcs
    rw [plainDots, if_neg (h e tail rfl)]
  · rw [plainDots]
    rintro e tail - he
    exact hcs ⟨e, tail, he⟩

theorem upper_eq_two : ∀ n : Fin 16, Hexadecimal.upper n.val = '2' → n.val = 2 := by decide

theorem upper_eq_e :
    ∀ n : Fin 16, Hexadecimal.upper n.val = 'e' ∨ Hexadecimal.upper n.val = 'E' → n.val = 14 := by
  decide

theorem percent_ne_upper : ∀ n : Fin 16, Hexadecimal.upper n.val ≠ '%' := by decide

/-- The escape of a byte that is no dot spells no dot. -/
theorem plainDots_byteChars {b : UInt8} (hb : b.toNat ≠ '.'.toNat) (cs : List Char) :
    plainDots (byteChars b ++ cs) = byteChars b ++ plainDots cs := by
  have hlt : b.toNat < 256 := b.toNat_lt
  have hfirst := percent_ne_upper ⟨b.toNat / 16, by omega⟩
  have hsecond := percent_ne_upper ⟨b.toNat % 16, by omega⟩
  simp only [byteChars, List.cons_append, List.nil_append]
  rw [plainDots_percent, plainDots_cons_of_ne hfirst, plainDots_cons_of_ne hsecond]
  rintro e tail heq hdot
  rw [List.cons.injEq, List.cons.injEq] at heq
  have htwo := upper_eq_two ⟨b.toNat / 16, by omega⟩ heq.1
  have he := upper_eq_e ⟨b.toNat % 16, by omega⟩ (heq.2.1 ▸ hdot)
  have hdigits : b.toNat / 16 = 2 ∧ b.toNat % 16 = 14 := ⟨htwo, he⟩
  exact hb (by change b.toNat = 46; omega)

theorem plainDots_flatMap_byteChars {bs : List UInt8} (h : ∀ b ∈ bs, b.toNat ≠ '.'.toNat)
    (cs : List Char) :
    plainDots (bs.flatMap byteChars ++ cs) = bs.flatMap byteChars ++ plainDots cs := by
  induction bs with
  | nil => rfl
  | cons b bs ih =>
    rw [List.flatMap_cons, List.append_assoc, plainDots_byteChars (h b List.mem_cons_self),
      ih fun x hx => h x (List.mem_cons_of_mem b hx), List.append_assoc]

/-- No byte of an escaped character is a dot. -/
theorem toNat_ne_dot_of_escaped (hc : isEscapedInPath c = true) {b : UInt8}
    (hb : b ∈ String.utf8EncodeChar c) : b.toNat ≠ '.'.toNat := by
  intro hdot
  have hnat : c.toNat = '.'.toNat :=
    (Utf8.toNat_of_mem_encodeChar hb (by rw [hdot]; decide)).symm.trans hdot
  have : c = '.' := Char.toNat_inj.mp hnat
  subst this
  exact absurd hc (by decide)

/-- A percent sign that begins no escaped dot begins none after escaping either. -/
theorem plainDots_percent_encode (h : ∀ e tail, cs = '2' :: e :: tail → ¬ (e = 'e' ∨ e = 'E')) :
    plainDots ('%' :: encode isEscapedInPath cs) =
      '%' :: plainDots (encode isEscapedInPath cs) := by
  refine plainDots_percent fun e tail htail hdot => ?_
  obtain ⟨cs, rfl, hcs⟩ := exists_of_encode_eq_cons (by decide) htail
  obtain ⟨cs, rfl, -⟩ := exists_of_encode_eq_cons (by rcases hdot with rfl | rfl <;> decide) hcs
  exact h e cs rfl hdot

/-- **Escaping a segment does not change which dots it spells.** -/
theorem plainDots_encode (cs : List Char) :
    plainDots (encode isEscapedInPath cs) = encode isEscapedInPath (plainDots cs) := by
  have hpercent : isEscapedInPath '%' = false := by decide
  fun_induction plainDots cs with
  | case1 e cs he ih =>
    have hee : isEscapedInPath e = false := by rcases he with rfl | rfl <;> decide
    rw [encode_cons_of_not_escaped hpercent, encode_cons_of_not_escaped (by decide),
      encode_cons_of_not_escaped hee, plainDots, if_pos he, ih,
      encode_cons_of_not_escaped (c := '.') (by decide)]
  | case2 e cs he ih =>
    rw [encode_cons_of_not_escaped hpercent, encode_cons_of_not_escaped hpercent, ← ih]
    refine plainDots_percent_encode fun e' tail htail => ?_
    obtain ⟨-, rfl, -⟩ : True ∧ e = e' ∧ cs = tail := by simpa using htail
    exact he
  | case3 c cs hne ih =>
    -- only a percent sign could begin an escaped dot together with what follows it
    by_cases hc : c = '%'
    · subst hc
      rw [encode_cons_of_not_escaped hpercent, encode_cons_of_not_escaped hpercent, ← ih]
      exact plainDots_percent_encode fun e tail htail _ => hne e tail rfl htail
    · cases hescaped : isEscapedInPath c with
      | false =>
        rw [encode_cons_of_not_escaped hescaped, encode_cons_of_not_escaped hescaped,
          plainDots_cons_of_ne hc, ih]
      | true =>
        rw [encode_cons_of_escaped hescaped, encode_cons_of_escaped hescaped,
          plainDots_flatMap_byteChars fun b hb => toNat_ne_dot_of_escaped hescaped hb, ih]
  | case4 => rfl

/-! ## Segments -/

/-- What is read as a dot segment. -/
def IsDotSegment (segment : List Char) : Prop :=
  plainDots segment = ['.'] ∨ plainDots segment = ['.', '.']

theorem isDotSegment_of_encode (h : IsDotSegment (encode isEscapedInPath cs)) :
    IsDotSegment cs := by
  rw [IsDotSegment, plainDots_encode] at h
  exact h.imp (fun h => eq_of_encode_eq h (by decide)) fun h => eq_of_encode_eq h (by decide)

theorem mem_of_mem_leave {segments : List (List Char)} {s : List Char} (h : s ∈ leave segments) :
    s ∈ segments := by
  cases segments with
  | nil => cases h
  | cons first before =>
    rw [leave] at h
    split at h
    · exact h
    · exact List.mem_cons_of_mem first h

/-- A segment that is left is empty or has been there before, and is no dot segment. -/
theorem mem_resolve {passed segments : List (List Char)} {s : List Char}
    (h : s ∈ resolve passed segments) :
    s ∈ passed ∨ (s = [] ∨ s ∈ segments) ∧ ¬ IsDotSegment s := by
  have hnil : ¬ IsDotSegment [] := by simp [IsDotSegment, plainDots]
  induction segments generalizing passed with
  | nil => exact .inl h
  | cons segment rest ih =>
    -- what is put in place of a dot segment is empty or was passed before
    have hkept {kept : List (List Char)} (hkept : ∀ s ∈ kept, s ∈ passed) {b : Bool}
        (h : s ∈ resolve (if b then [] :: kept else kept) rest) :
        s ∈ passed ∨ (s = [] ∨ s ∈ segment :: rest) ∧ ¬ IsDotSegment s := by
      rcases ih h with h | ⟨h, hdot⟩
      · cases b with
        | false => exact .inl (hkept s h)
        | true =>
          rcases List.mem_cons.mp h with rfl | h
          · exact .inr ⟨.inl rfl, hnil⟩
          · exact .inl (hkept s h)
      · exact .inr ⟨h.imp id (List.mem_cons_of_mem segment), hdot⟩
    rw [resolve] at h
    by_cases hdouble : plainDots segment = ['.', '.']
    · rw [if_pos hdouble] at h
      exact hkept (fun _ => mem_of_mem_leave) h
    · by_cases hsingle : plainDots segment = ['.']
      · rw [if_neg hdouble, if_pos hsingle] at h
        exact hkept (fun _ => id) h
      · rw [if_neg hdouble, if_neg hsingle] at h
        rcases ih h with h | ⟨h, hdot⟩
        · rcases List.mem_cons.mp h with rfl | h
          · exact .inr ⟨.inr List.mem_cons_self, fun hd => hd.elim hsingle hdouble⟩
          · exact .inl h
        · exact .inr ⟨h.imp id (List.mem_cons_of_mem segment), hdot⟩

/-! ## Plain paths -/

/-- Paths that a locator holds as they are: they begin at the root and go on from there, no
character needs an escape, and no segment is a dot segment. -/
structure Plain (path : String) : Prop where
  rooted : Path.isAbsolute path = true
  named : path ≠ "/"
  unescaped : ∀ c ∈ path.toList, isEscapedInPath c = false
  undotted : ∀ s ∈ Text.piecesOf '/' path.toList, ¬ IsDotSegment s

/-- A plain path is read as itself. -/
theorem segmentedPath_of_plain {path : String} (h : Plain path) (hcs : path.toList = '/' :: cs) :
    segmentedPath cs = path := by
  have hunescaped : ∀ c ∈ cs, isEscapedInPath c = false := fun c hc =>
    h.unescaped c (hcs ▸ List.mem_cons_of_mem '/' hc)
  have hundotted : ∀ s ∈ Text.piecesOf '/' cs, plainDots s ≠ ['.'] ∧ plainDots s ≠ ['.', '.'] := by
    intro s hs
    have hmem : s ∈ Text.piecesOf '/' path.toList := by
      rw [hcs, Text.piecesOf, if_pos rfl]
      exact List.mem_cons_of_mem [] hs
    exact not_or.mp (h.undotted s hmem)
  have hencode : (Text.piecesOf '/' cs).map (encode isEscapedInPath) = Text.piecesOf '/' cs :=
    (List.map_congr_left fun s hs => encode_eq_self fun c hc =>
      hunescaped c (Text.mem_of_mem_piecesOf hs hc)).trans (List.map_id _)
  rw [segmentedPath, resolve_plain hundotted, List.append_nil, List.reverse_reverse, hencode,
    Text.intercalate_piecesOf, ← hcs, String.ofList_toList]

theorem not_escaped_of_mem_encode (h : c ∈ encode isEscapedInPath cs) :
    isEscapedInPath c = false := by
  have halphabet : alphabet.all (fun c => !isEscapedInPath c) = true := by decide
  rcases mem_encode h with ⟨-, hc⟩ | hc
  · exact hc
  · simpa using List.all_eq_true.mp halphabet c hc

/-- What is read as a path of segments is plain, or the root. -/
theorem plain_segmentedPath (h : segmentedPath cs ≠ "/") : Plain (segmentedPath cs) := by
  -- no segment holds a slash, so the pieces of the path are its segments again
  have hsegments : ∀ s ∈ (resolve [] (Text.piecesOf '/' cs)).reverse,
      '/' ∉ s ∧ ¬ IsDotSegment s := by
    intro s hs
    rcases mem_resolve (List.mem_reverse.mp hs) with hs | ⟨hs, hdot⟩
    · cases hs
    · refine ⟨?_, hdot⟩
      rcases hs with rfl | hs
      · exact List.not_mem_nil
      · exact Text.not_mem_of_mem_piecesOf hs
  have hlist : (segmentedPath cs).toList = '/' :: List.intercalate ['/']
      ((resolve [] (Text.piecesOf '/' cs)).reverse.map (encode isEscapedInPath)) := by
    rw [segmentedPath, String.toList_ofList]
  generalize (resolve [] (Text.piecesOf '/' cs)).reverse = segments at hsegments hlist
  have hslash : ∀ p ∈ segments.map (encode isEscapedInPath), '/' ∉ p := by
    intro p hp hc
    obtain ⟨s, hs, rfl⟩ := List.mem_map.mp hp
    rcases mem_encode hc with ⟨hc, -⟩ | hc
    · exact (hsegments s hs).1 hc
    · exact absurd hc (by decide)
  refine ⟨by rw [Path.isAbsolute, hlist]; rfl, h, fun c hc => ?_, fun p hp => ?_⟩
  · rw [hlist, List.mem_cons] at hc
    rcases hc with rfl | hc
    · decide
    · rcases Text.mem_intercalate hc with rfl | ⟨p, hp, hc⟩
      · decide
      · obtain ⟨s, -, rfl⟩ := List.mem_map.mp hp
        exact not_escaped_of_mem_encode hc
  · have hne : segments.map (encode isEscapedInPath) ≠ [] := by
      intro hnil
      rw [hnil] at hlist
      exact h (String.toList_inj.mp hlist)
    rw [hlist, Text.piecesOf, if_pos rfl, Text.piecesOf_intercalate hslash hne] at hp
    rcases List.mem_cons.mp hp with rfl | hp
    · simp [IsDotSegment, plainDots]
    · obtain ⟨s, hs, rfl⟩ := List.mem_map.mp hp
      exact fun hdot => (hsegments s hs).2 (isDotSegment_of_encode hdot)

end Url

end TargetBench
