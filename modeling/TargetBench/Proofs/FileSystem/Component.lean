import TargetBench.FileSystem.Path

/-!
# Components of paths

A path is known by its components: the root, if it begins there, and the names along it. Parts that
count for nothing are no components, except for a lone dot at the very start.

## Main definitions

* `Path.names`: the parts of a path that count
* `Path.components`: the components of a path

## Main results

* `Path.components_push`: a path continued by a relative one has the components of both
* `Path.components_foldl_push`: so has a path continued several times
* `Path.foldl_push_eq_of_absolute`: one absolute continuation makes all before it meaningless
-/

namespace TargetBench

/-! ## Pieces of texts -/

namespace Text

variable {mark : Char}

theorem piecesOf_ne_nil (mark : Char) (cs : List Char) : piecesOf mark cs ≠ [] := by
  cases cs with
  | nil => simp [piecesOf]
  | cons c cs =>
    rw [piecesOf]
    split
    · simp
    · split <;> simp

/-- The pieces before a mark and those after it are the pieces of the whole. -/
theorem piecesOf_append_cons (mark : Char) (xs ys : List Char) :
    piecesOf mark (xs ++ mark :: ys) = piecesOf mark xs ++ piecesOf mark ys := by
  induction xs with
  | nil => simp [piecesOf]
  | cons x xs ih =>
    rw [List.cons_append, piecesOf, piecesOf, ih]
    by_cases hx : x = mark
    · rw [if_pos hx, if_pos hx, List.cons_append]
    · rw [if_neg hx, if_neg hx]
      obtain ⟨p, ps, hp⟩ := List.exists_cons_of_ne_nil (piecesOf_ne_nil mark xs)
      rw [hp]
      rfl

theorem piecesOf_of_not_mem {cs : List Char} (h : mark ∉ cs) : piecesOf mark cs = [cs] := by
  induction cs with
  | nil => rfl
  | cons c cs ih =>
    rw [List.mem_cons, not_or] at h
    rw [piecesOf, if_neg (Ne.symm h.1), ih h.2]

/-- The mark is in no piece. -/
theorem not_mem_of_mem_piecesOf {cs p : List Char} (hp : p ∈ piecesOf mark cs) : mark ∉ p := by
  induction cs generalizing p with
  | nil =>
    rw [piecesOf, List.mem_singleton] at hp
    simp [hp]
  | cons c cs ih =>
    rw [piecesOf] at hp
    by_cases hc : c = mark
    · rw [if_pos hc] at hp
      rcases List.mem_cons.mp hp with rfl | hp
      · exact List.not_mem_nil
      · exact ih hp
    · obtain ⟨q, qs, hq⟩ := List.exists_cons_of_ne_nil (piecesOf_ne_nil mark cs)
      rw [if_neg hc, hq] at hp
      rw [hq] at ih
      rcases List.mem_cons.mp hp with rfl | hp
      · rw [List.mem_cons, not_or]
        exact ⟨Ne.symm hc, ih List.mem_cons_self⟩
      · exact ih (List.mem_cons_of_mem q hp)

/-- Every character of a piece is one of the whole. -/
theorem mem_of_mem_piecesOf {cs p : List Char} (hp : p ∈ piecesOf mark cs) {c : Char}
    (hc : c ∈ p) : c ∈ cs := by
  induction cs generalizing p with
  | nil =>
    rw [piecesOf, List.mem_singleton] at hp
    exact hp ▸ hc
  | cons d cs ih =>
    rw [piecesOf] at hp
    by_cases hd : d = mark
    · rw [if_pos hd] at hp
      rcases List.mem_cons.mp hp with rfl | hp
      · cases hc
      · exact List.mem_cons_of_mem d (ih hp hc)
    · obtain ⟨q, qs, hq⟩ := List.exists_cons_of_ne_nil (piecesOf_ne_nil mark cs)
      rw [if_neg hd, hq] at hp
      rw [hq] at ih
      rcases List.mem_cons.mp hp with rfl | hp
      · rcases List.mem_cons.mp hc with rfl | hc
        · exact List.mem_cons_self
        · exact List.mem_cons_of_mem d (ih List.mem_cons_self hc)
      · exact List.mem_cons_of_mem d (ih (List.mem_cons_of_mem q hp) hc)

theorem piecesOf_eq_splitOn (mark : Char) (cs : List Char) :
    piecesOf mark cs = cs.splitOn mark := by
  induction cs with
  | nil => rfl
  | cons c cs ih =>
    obtain ⟨p, ps, hp⟩ := List.exists_cons_of_ne_nil (piecesOf_ne_nil mark cs)
    rw [piecesOf, List.splitOn_cons_eq_if_modifyHead, ← ih, hp]
    by_cases hc : c = mark <;> simp [hc]

theorem intercalate_piecesOf (mark : Char) (cs : List Char) :
    [mark].intercalate (piecesOf mark cs) = cs := by
  rw [piecesOf_eq_splitOn, List.intercalate_splitOn]

theorem piecesOf_intercalate {mark : Char} {pieces : List (List Char)}
    (h : ∀ p ∈ pieces, mark ∉ p) (hne : pieces ≠ []) :
    piecesOf mark ([mark].intercalate pieces) = pieces := by
  rw [piecesOf_eq_splitOn, List.splitOn_intercalate mark h hne]

theorem mem_pieces_iff {s p : String} : p ∈ pieces mark s ↔ p.toList ∈ piecesOf mark s.toList := by
  rw [pieces, List.mem_map]
  constructor
  · rintro ⟨cs, hcs, rfl⟩
    rwa [String.toList_ofList]
  · intro h
    exact ⟨p.toList, h, String.ofList_toList⟩

theorem pieces_of_not_mem {s : String} (h : mark ∉ s.toList) : pieces mark s = [s] := by
  rw [pieces, piecesOf_of_not_mem h, List.map_singleton, String.ofList_toList]

end Text

namespace Path

/-! ## Components -/

/-- The parts of a path that count. -/
def names (path : String) : List String := (pieces path).filter fun p => !isIdle p

/-- What a path starts with, besides a name: the root, a lone dot, or nothing. -/
def lead (path : String) : List String :=
  if isAbsolute path then ["/"] else if (pieces path).head? = some "." then ["."] else []

/-- The components of a path. -/
def components (path : String) : List String := lead path ++ names path

/-- Paths that can continue another one: they neither begin at the root nor with a lone dot. -/
def Continues (path : String) : Prop :=
  isAbsolute path = false ∧ (pieces path).head? ≠ some "."

theorem Continues.components_eq {path : String} (h : Continues path) :
    components path = names path := by
  rw [components, lead, h.1, if_neg Bool.false_ne_true, if_neg h.2, List.nil_append]

/-- A path that is read on behind a slash has its own components and then the names that follow. The
slash may be the last character of the path already. -/
theorem components_of_toList {path whole addition : String} {front : List Char}
    (hpath : path.toList = front ∧ front ≠ [] ∨ path.toList = front ++ ['/'])
    (hwhole : whole.toList = front ++ '/' :: addition.toList) :
    components whole = components path ++ names addition := by
  have hpieces : pieces whole = (Text.piecesOf '/' front).map String.ofList ++ pieces addition := by
    rw [pieces, Text.pieces, hwhole, Text.piecesOf_append_cons, List.map_append]
    rfl
  obtain ⟨first, rest, hfirst⟩ : ∃ first rest, (Text.piecesOf '/' front).map String.ofList =
      first :: rest := by
    apply List.exists_cons_of_ne_nil
    simpa using Text.piecesOf_ne_nil '/' front
  -- the pieces of the path are those of its front, and the empty one behind a slash at its end
  obtain ⟨tail, htail, hidle⟩ : ∃ tail, pieces path = (first :: rest) ++ tail ∧
      ∀ p ∈ tail, isIdle p = true := by
    rcases hpath with ⟨hpath, -⟩ | hpath
    · refine ⟨[], ?_, by simp⟩
      rw [pieces, Text.pieces, hpath, hfirst, List.append_nil]
    · refine ⟨[""], ?_, by simp [isIdle]⟩
      rw [pieces, Text.pieces, hpath, Text.piecesOf_append_cons, List.map_append, hfirst]
      rfl
  have habsolute : isAbsolute whole = isAbsolute path := by
    rw [isAbsolute, isAbsolute, hwhole]
    rcases hpath with ⟨hpath, hne⟩ | hpath
    · obtain ⟨c, cs, hc⟩ := List.exists_cons_of_ne_nil hne
      rw [hpath, hc]
      rfl
    · rw [hpath]
      cases front <;> rfl
  have hlead : lead whole = lead path := by
    rw [lead, lead, habsolute, hpieces, htail, hfirst]
    rfl
  have hnames : names whole = names path ++ names addition := by
    have hnone : tail.filter (fun p => !isIdle p) = [] := by
      rw [List.filter_eq_nil_iff]
      intro p hp
      simp [hidle p hp]
    rw [names, names, hpieces, htail, hfirst, List.filter_append, List.filter_append, hnone,
      List.append_nil]
    rfl
  rw [components, components, hlead, hnames, List.append_assoc]

/-- **A path continued by a relative one has the components of both.** -/
theorem components_push (path : String) {addition : String} (h : Continues addition) :
    components (push path addition) = components path ++ names addition := by
  rw [push, h.1, if_neg Bool.false_ne_true]
  by_cases hempty : path = ""
  · subst hempty
    have hnone : components "" = [] := by decide
    rw [if_pos (by simp), String.empty_append, h.components_eq, hnone, List.nil_append]
  · have hne : path.toList ≠ [] := by simpa using hempty
    by_cases hslash : path.toList.getLast? = some '/'
    · obtain ⟨front, hfront⟩ := List.getLast?_eq_some_iff.mp hslash
      rw [if_pos (by simp [hslash])]
      refine components_of_toList (.inr hfront) ?_
      rw [String.toList_append, hfront, List.append_assoc]
      rfl
    · rw [if_neg (by simp [hslash, hempty])]
      refine @components_of_toList path _ addition path.toList (.inl ⟨rfl, hne⟩) ?_
      rw [String.toList_append, String.toList_append, List.append_assoc]
      rfl

theorem components_foldl_push {parts : List String} (h : ∀ part ∈ parts, Continues part)
    (path : String) :
    components (parts.foldl push path) = components path ++ parts.flatMap names := by
  induction parts generalizing path with
  | nil => simp
  | cons part parts ih =>
    rw [List.foldl_cons, ih fun p hp => h p (List.mem_cons_of_mem part hp),
      components_push path (h part List.mem_cons_self), List.flatMap_cons, List.append_assoc]

/-- An absolute continuation takes the place of the path, so it does not matter any more where the
path began. -/
theorem foldl_push_eq_of_absolute {parts : List String}
    (h : ∃ part ∈ parts, isAbsolute part = true) (path path' : String) :
    parts.foldl push path = parts.foldl push path' := by
  induction parts generalizing path path' with
  | nil =>
    obtain ⟨part, hpart, -⟩ := h
    cases hpart
  | cons part parts ih =>
    rw [List.foldl_cons, List.foldl_cons]
    by_cases hpart : isAbsolute part = true
    · rw [push, push, if_pos hpart, if_pos hpart]
    · obtain ⟨p, hp, habsolute⟩ := h
      refine ih ⟨p, ?_, habsolute⟩ _ _
      exact (List.mem_cons.mp hp).resolve_left fun he => hpart (he ▸ habsolute)

end Path

end TargetBench
