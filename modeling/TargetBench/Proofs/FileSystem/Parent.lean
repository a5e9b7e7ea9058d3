import TargetBench.Proofs.FileSystem.Component
import TargetBench.Proofs.FileSystem.Ending

/-!
# The directory that a path is in

What is left of a path without its last component is the path of a directory, or nothing, or the
root. The path goes on from this directory, so a path that has an end in a file system is in a
directory that is there.

## Main definitions

* `Path.body`, `Path.ofBody`: the parts of a path behind the root, and the path of such parts
* `Path.GoesOn`: paths that go on from a directory to a component of it

## Main results

* `Path.parent?_cases`: what is left of a path without its last component
* `FileSystem.leadsToDirectory_of_parent?`: a path that has an end is in a directory that is there
-/

namespace TargetBench

namespace Path

variable {path directory : String} {rooted : Bool} {backwards : List String}

/-! ## Parts of paths -/

theorem intercalate_pieces (path : String) : "/".intercalate (pieces path) = path := by
  have hparts : (pieces path).map String.toList = Text.piecesOf '/' path.toList := by
    rw [pieces, Text.pieces, List.map_map]
    exact (List.map_congr_left fun cs _ => String.toList_ofList).trans (List.map_id _)
  rw [← String.toList_inj, String.toList_intercalate, hparts]
  exact Text.intercalate_piecesOf '/' path.toList

theorem pieces_intercalate {parts : List String} (h : ∀ p ∈ parts, '/' ∉ p.toList)
    (hne : parts ≠ []) : pieces ("/".intercalate parts) = parts := by
  have hparts : ∀ cs ∈ parts.map String.toList, '/' ∉ cs := by
    intro cs hcs
    obtain ⟨p, hp, rfl⟩ := List.mem_map.mp hcs
    exact h p hp
  have hjoined : Text.piecesOf '/' ("/".intercalate parts).toList = parts.map String.toList := by
    rw [String.toList_intercalate]
    exact Text.piecesOf_intercalate hparts (by simpa using hne)
  rw [pieces, Text.pieces, hjoined, List.map_map]
  exact (List.map_congr_left fun p _ => String.ofList_toList).trans (List.map_id _)

theorem slash_not_mem_of_mem_pieces {piece : String} (h : piece ∈ pieces path) :
    '/' ∉ piece.toList :=
  Text.not_mem_of_mem_piecesOf (Text.mem_pieces_iff.mp h)

theorem pieces_ne_nil (path : String) : pieces path ≠ [] := by
  simpa [pieces, Text.pieces] using Text.piecesOf_ne_nil '/' path.toList

/-- A path begins at the root exactly if its first part is empty and not the only one. -/
theorem isAbsolute_iff :
    isAbsolute path = true ↔ ∃ rest, rest ≠ [] ∧ pieces path = "" :: rest := by
  rw [isAbsolute, pieces, Text.pieces]
  cases path.toList with
  | nil => simp [Text.piecesOf]
  | cons c cs =>
    obtain ⟨p, ps, hp⟩ := List.exists_cons_of_ne_nil (Text.piecesOf_ne_nil '/' cs)
    by_cases hc : c = '/' <;> simp [Text.piecesOf, hc, hp]

/-- The parts of a path, without the empty one in front of the root. -/
def body (path : String) : List String :=
  if isAbsolute path then (pieces path).drop 1 else pieces path

/-- A path of parts that begins at the root or not. -/
def ofBody (rooted : Bool) (parts : List String) : String :=
  if rooted then "/" ++ "/".intercalate parts else "/".intercalate parts

theorem pieces_eq (path : String) :
    pieces path = if isAbsolute path then "" :: body path else body path := by
  rw [body]
  split_ifs with h
  · obtain ⟨rest, -, hrest⟩ := isAbsolute_iff.mp h
    rw [hrest]
    rfl
  · rfl

/-- A path of parts has these parts, unless the first of them is empty and would be the root. -/
theorem ofBody_spec {parts : List String} (hslash : ∀ p ∈ parts, '/' ∉ p.toList)
    (hne : parts ≠ []) (hfirst : rooted = false → parts.head? ≠ some "") :
    isAbsolute (ofBody rooted parts) = rooted ∧ body (ofBody rooted parts) = parts := by
  obtain ⟨part, rest, rfl⟩ := List.exists_cons_of_ne_nil hne
  cases rooted with
  | false =>
    have hpieces : pieces (ofBody false (part :: rest)) = part :: rest :=
      pieces_intercalate hslash hne
    have habsolute : isAbsolute (ofBody false (part :: rest)) = false := by
      rw [Bool.eq_false_iff, Ne, isAbsolute_iff, hpieces]
      rintro ⟨_, -, h⟩
      exact hfirst rfl (congrArg List.head? h)
    exact ⟨habsolute, by rw [body, habsolute, hpieces]; rfl⟩
  | true =>
    have hjoined : ofBody true (part :: rest) = "/".intercalate ("" :: part :: rest) := by
      rw [String.intercalate_cons_cons, String.empty_append]
      rfl
    have hpieces : pieces (ofBody true (part :: rest)) = "" :: part :: rest := by
      rw [hjoined]
      exact pieces_intercalate (List.forall_mem_cons.mpr ⟨List.not_mem_nil, hslash⟩) nofun
    have habsolute : isAbsolute (ofBody true (part :: rest)) = true :=
      isAbsolute_iff.mpr ⟨part :: rest, nofun, hpieces⟩
    exact ⟨habsolute, by rw [body, habsolute, hpieces]; rfl⟩

/-! ## Idle parts -/

/-- What is dropped is idle. -/
theorem exists_dropIdle (rooted : Bool) (backwards : List String) :
    ∃ idle, backwards = idle ++ dropIdle rooted backwards ∧ ∀ p ∈ idle, isIdle p = true := by
  induction backwards with
  | nil => exact ⟨[], rfl, nofun⟩
  | cons piece before ih =>
    obtain ⟨idle, hsplit, hidle⟩ := ih
    rw [dropIdle]
    split_ifs with hdot hpiece
    · obtain ⟨-, rfl, -⟩ := hdot
      exact ⟨[], rfl, nofun⟩
    · refine ⟨piece :: idle, congrArg (piece :: ·) hsplit, ?_⟩
      exact List.forall_mem_cons.mpr ⟨hpiece, hidle⟩
    · exact ⟨[], rfl, nofun⟩

/-- What is left ends in a part that is not idle, or is a lone dot. -/
theorem dropIdle_cases (rooted : Bool) (backwards : List String) :
    dropIdle rooted backwards = [] ∨ dropIdle rooted backwards = ["."] ∧ rooted = false ∨
      ∃ last before, dropIdle rooted backwards = last :: before ∧ isIdle last = false := by
  induction backwards with
  | nil => exact .inl rfl
  | cons piece before ih =>
    rw [dropIdle]
    split_ifs with hdot hpiece
    · obtain ⟨rfl, -, hrooted⟩ := hdot
      exact .inr (.inl ⟨rfl, hrooted⟩)
    · exact ih
    · exact .inr (.inr ⟨piece, before, rfl, by simpa using hpiece⟩)

theorem dropIdle_dropIdle (rooted : Bool) (backwards : List String) :
    dropIdle rooted (dropIdle rooted backwards) = dropIdle rooted backwards := by
  rcases dropIdle_cases rooted backwards with h | ⟨h, rfl⟩ | ⟨last, before, h, hlast⟩ <;> rw [h]
  · rfl
  · rfl
  · have hdot : last ≠ "." := by
      rintro rfl
      exact absurd hlast (by decide)
    rw [dropIdle, if_neg (fun hlone => hdot hlone.1), if_neg (by simp [hlast])]

/-! ## Paths without their last component -/

theorem parent?_eq_some_iff : parent? path = some directory ↔
    ∃ last before, dropIdle (isAbsolute path) (body path).reverse = last :: before ∧
      directory = ofBody (isAbsolute path) (dropIdle (isAbsolute path) before).reverse := by
  have hbody : (if isAbsolute path then (pieces path).drop 1 else pieces path) = body path := rfl
  simp only [parent?, hbody]
  cases dropIdle (isAbsolute path) (body path).reverse with
  | nil => simp
  | cons last before =>
    constructor
    · intro h
      exact ⟨last, before, rfl, (Option.some.inj h).symm⟩
    · rintro ⟨_, _, ⟨⟩, rfl⟩
      rfl

/-- A path goes on from a directory to a component of it; idle parts may follow. -/
structure GoesOn (directory path : String) : Prop where
  absolute : isAbsolute directory = isAbsolute path
  pieces : ∃ inner last after,
    Path.pieces path = Path.pieces directory ++ (inner ++ last :: after) ∧
      isIdle last = false ∧ ∀ p ∈ after, isIdle p = true

/-- What is left of a path without its last component, by its parts. -/
theorem exists_of_parent? (h : parent? path = some directory) :
    directory = "" ∨ directory = "/" ∧ isAbsolute path = true ∨ ∃ kept inner last after,
      kept ≠ [] ∧ dropIdle (isAbsolute path) kept.reverse = kept.reverse ∧
        directory = ofBody (isAbsolute path) kept ∧ body path = kept ++ (inner ++ last :: after) ∧
          isIdle last = false ∧ ∀ p ∈ after, isIdle p = true := by
  obtain ⟨last, before, hbody, hdirectory⟩ := parent?_eq_some_iff.mp h
  by_cases hkept : dropIdle (isAbsolute path) before = []
  · rw [hdirectory, hkept, ofBody]
    split_ifs with habsolute
    · exact .inr (.inl ⟨rfl, habsolute⟩)
    · exact .inl rfl
  have hlast : isIdle last = false := by
    rcases dropIdle_cases (isAbsolute path) (body path).reverse with
      hnone | ⟨hdot, -⟩ | ⟨last', before', hsome, hlast⟩
    · cases hbody.symm.trans hnone
    · -- nothing stands before a lone dot
      cases hbody.symm.trans hdot
      exact absurd rfl hkept
    · cases hbody.symm.trans hsome
      exact hlast
  obtain ⟨after, hafter, hidle⟩ := exists_dropIdle (isAbsolute path) (body path).reverse
  obtain ⟨inner, hinner, -⟩ := exists_dropIdle (isAbsolute path) before
  refine .inr (.inr ⟨(dropIdle (isAbsolute path) before).reverse, inner.reverse, last,
    after.reverse, by simpa using hkept, ?_, hdirectory, ?_, hlast, by simpa using hidle⟩)
  · rw [List.reverse_reverse, dropIdle_dropIdle]
  · rw [hbody, hinner] at hafter
    rw [← List.reverse_reverse (body path), hafter]
    simp

/-- **What is left of a path without its last component** is nothing, the root, or a directory with
a component of its own, from which the path goes on. -/
theorem parent?_cases (h : parent? path = some directory) :
    directory = "" ∨ directory = "/" ∧ isAbsolute path = true ∨
      GoesOn directory path ∧ ∃ above, parent? directory = some above := by
  rcases exists_of_parent? h with rfl | hroot |
    ⟨kept, inner, last, after, hne, hkept, hdirectory, hbody, hlast, hafter⟩
  · exact .inl rfl
  · exact .inr (.inl hroot)
  refine .inr (.inr ?_)
  have hpieces := pieces_eq path
  rw [hbody] at hpieces
  have hslash : ∀ p ∈ kept, '/' ∉ p.toList := by
    intro p hp
    have hmem : p ∈ pieces path := by
      rw [hpieces]
      split_ifs <;> simp [hp]
    exact slash_not_mem_of_mem_pieces hmem
  have hfirst : isAbsolute path = false → kept.head? ≠ some "" := by
    intro hrelative hhead
    obtain ⟨rest, rfl⟩ := List.head?_eq_some_iff.mp hhead
    rw [hrelative] at hpieces
    have habsolute := isAbsolute_iff.mpr ⟨rest ++ (inner ++ last :: after), by simp, hpieces⟩
    cases hrelative.symm.trans habsolute
  obtain ⟨habsolute, hparts⟩ := ofBody_spec hslash hne hfirst
  rw [← hdirectory] at habsolute hparts
  refine ⟨⟨habsolute, inner, last, after, ?_, hlast, hafter⟩, ?_⟩
  · rw [hpieces, pieces_eq directory, habsolute, hparts]
    split_ifs <;> rfl
  · obtain ⟨l, b, hl⟩ := List.exists_cons_of_ne_nil (List.reverse_ne_nil_iff.mpr hne)
    exact ⟨_, parent?_eq_some_iff.mpr ⟨l, b, by rw [habsolute, hparts, hkept, hl], rfl⟩⟩

theorem GoesOn.exists_append (h : GoesOn directory path) :
    ∃ rest, path.toList = directory.toList ++ '/' :: rest := by
  obtain ⟨inner, last, after, hpieces, -⟩ := h.pieces
  refine ⟨("/".intercalate (inner ++ last :: after)).toList, ?_⟩
  rw [← intercalate_pieces path, hpieces,
    String.intercalate_append_of_ne_nil (pieces_ne_nil directory) (by simp), intercalate_pieces]
  simp

theorem parent?_empty : parent? "" = none := by decide

theorem parent?_root : parent? "/" = none := by decide

theorem length_lt_of_parent? (h : parent? path = some directory) :
    directory.length < path.length := by
  have hne : path ≠ "" := by
    rintro rfl
    cases parent?_empty.symm.trans h
  rw [← String.length_toList, ← String.length_toList]
  rcases parent?_cases h with rfl | ⟨rfl, habsolute⟩ | ⟨h, -⟩
  · exact List.length_pos_iff.mpr (by simpa using hne)
  · -- a path that is longer than nothing and no root goes on behind the root
    obtain ⟨rest, hrest⟩ : ∃ rest, path.toList = '/' :: rest := by
      rw [isAbsolute, beq_iff_eq, List.head?_eq_some_iff] at habsolute
      exact habsolute
    have hgoes : rest ≠ [] := by
      rintro rfl
      obtain rfl : path = "/" := String.toList_inj.mp hrest
      cases parent?_root.symm.trans h
    rw [hrest]
    exact Nat.succ_lt_succ (List.length_pos_iff.mpr hgoes)
  · obtain ⟨rest, hrest⟩ := h.exists_append
    rw [hrest, List.length_append, List.length_cons]
    omega

/-- The last part of a path that is not empty does not stand before the component that the path goes
on to. -/
theorem GoesOn.exists_before (h : GoesOn directory path) {final : String} {before : List String}
    (hfinal : FileSystem.dropEmpty (Path.pieces path).reverse = final :: before) :
    ∃ more, before.reverse = Path.pieces directory ++ more := by
  obtain ⟨inner, last, after, hpieces, hlast, hafter⟩ := h.pieces
  obtain ⟨blanks, hblanks, hidle, -⟩ := FileSystem.exists_blanks hfinal
  rw [hblanks, ← List.append_assoc] at hpieces
  rcases List.append_eq_append_iff.mp hpieces with ⟨late, hlate, hrest⟩ | ⟨early, hearly, -⟩
  · cases late with
    | nil => exact ⟨inner, by simpa using hlate.symm⟩
    | cons p late =>
      -- the component would be one of the empty parts at the end
      have hmem : last ∈ blanks := by
        rw [(List.cons.inj hrest).2]
        simp
      rw [hidle last hmem] at hlast
      cases hlast
  · exact ⟨inner ++ early, by rw [hearly, List.append_assoc]⟩

end Path

namespace FileSystem

variable {fs fs' : FileSystem} {path directory : String}

/-! ## Paths to directories -/

theorem leadsToDirectory_iff :
    fs.leadsToDirectory path = true ↔ ∃ l, fs.resolve path = .ok l ∧ fs.isDirectory l = true := by
  rw [leadsToDirectory]
  cases fs.resolve path <;> simp

theorem leadsToDirectory_root (hfs : fs.IsTree) : fs.leadsToDirectory "/" = true := by
  refine leadsToDirectory_iff.mpr ⟨[], resolve_eq_ok_iff.mpr ⟨rfl, ?_⟩, hfs.root⟩
  exact .idle hfs.root rfl (.idle hfs.root rfl .done)

theorem Keeps.leadsToDirectory {lost : Set Location} (h : Keeps lost fs fs')
    (hleads : fs.leadsToDirectory path = true) : fs'.leadsToDirectory path = true := by
  obtain ⟨l, hl, hdirectory⟩ := leadsToDirectory_iff.mp hleads
  have hkept := h.resolve hl (h.isDirectory_not_mem hdirectory)
  exact leadsToDirectory_iff.mpr ⟨l, hkept, h.isDirectory hdirectory⟩

/-- A path with a place at its end leads to the directory there. -/
theorem leadsToDirectory_of_place (hfs : fs.IsTree) {l : Location}
    (h : fs.ending path = .ok (.place l)) : fs.leadsToDirectory path = true := by
  have hl := isDirectory_of_ending_place hfs h
  obtain ⟨hcheck, hends⟩ := ending_eq_ok_iff.mp h
  suffices hwalk : fs.walk linkLimit (fs.start path) (Path.pieces path) = .ok l from
    leadsToDirectory_iff.mpr ⟨l, resolve_eq_ok_iff.mpr ⟨hcheck, walk_eq_ok_iff.mp hwalk⟩, hl⟩
  cases hends with
  | root hnone =>
    have hempty : ∀ p ∈ Path.pieces path, p = "" := by
      intro p hp
      simpa using List.dropWhile_eq_nil_iff.mp hnone p (List.mem_reverse.mpr hp)
    -- a path of empty parts only begins at the root
    have habsolute : Path.isAbsolute path = true := by
      obtain ⟨p, rest, hpieces⟩ := List.exists_cons_of_ne_nil (Path.pieces_ne_nil path)
      obtain rfl := hempty p (hpieces ▸ List.mem_cons_self)
      refine Path.isAbsolute_iff.mpr ⟨rest, ?_, hpieces⟩
      rintro rfl
      have hpath := Path.intercalate_pieces path
      rw [hpieces, String.intercalate_singleton] at hpath
      rw [← hpath] at hcheck
      cases hcheck
    have hidle : ∀ p ∈ Path.pieces path, Path.isIdle p = true := by
      intro p hp
      rw [hempty p hp]
      rfl
    rw [start, if_pos habsolute]
    exact walk_blanks hidle hl
  | here hlast hway =>
    obtain ⟨blanks, hpieces, hidle, -⟩ := exists_blanks hlast
    obtain ⟨left, hleft⟩ := hway.walk_append
    rw [hpieces, hleft, walk_idle hl rfl, walk_blanks hidle hl]
  | up hlast hway hdirectory =>
    obtain ⟨blanks, hpieces, hidle, -⟩ := exists_blanks hlast
    obtain ⟨left, hleft⟩ := hway.walk_append
    rw [hpieces, hleft, walk_up hdirectory, walk_blanks hidle hl]

/-- A path that leads to a directory has an end. -/
theorem exists_ending_of_leadsToDirectory (h : fs.leadsToDirectory path = true) :
    ∃ e, fs.ending path = .ok e := by
  obtain ⟨l, hl, -⟩ := leadsToDirectory_iff.mp h
  obtain ⟨l', hentry⟩ := exists_entry_of_resolve hl
  rcases entry_eq_ok_iff.mp hentry with he | ⟨_, _, he, -⟩ | ⟨_, _, he, -⟩ <;> exact ⟨_, he⟩

theorem Way.isDirectory_of_cons {links : Nat} {here l : Location} {piece : String}
    {rest : List String} (h : Way fs links here (piece :: rest) l) :
    fs.isDirectory here = true := by
  cases h <;> assumption

/-- What begins a path can be a path itself. -/
theorem checkText_of_append {rest : List Char} (hpath : path.toList = directory.toList ++ rest)
    (hdirectory : directory ≠ "") (h : checkText path = .ok ()) :
    checkText directory = .ok () := by
  rw [checkText] at h
  split_ifs at h with hnul hempty hlong
  have hnul' : ¬ directory.toList.contains '\x00' = true := by
    intro hmem
    apply hnul
    rw [hpath]
    simpa using .inl (by simpa using hmem)
  have hlong' : ¬ pathLimit < Path.byteCount directory := by
    have hbytes : Path.byteCount path = Path.byteCount directory + (Utf8.encode rest).length := by
      rw [Path.byteCount, Utf8.bytes, hpath, Utf8.encode, List.flatMap_append, List.length_append]
      rfl
    omega
  rw [checkText, if_neg hnul', if_neg (by simpa using hdirectory), if_neg hlong']

/-- The directory that a path goes on from is there if there is a way along the path. -/
theorem leadsToDirectory_of_way (h : Path.GoesOn directory path) (hdirectory : directory ≠ "")
    (hcheck : checkText path = .ok ()) {final : String} {before : List String} {l : Location}
    (hfinal : dropEmpty (Path.pieces path).reverse = final :: before)
    (hway : Way fs linkLimit (fs.start path) before.reverse l) (hl : fs.isDirectory l = true) :
    fs.leadsToDirectory directory = true := by
  obtain ⟨rest, htext⟩ := h.exists_append
  obtain ⟨more, hmore⟩ := h.exists_before hfinal
  have hstart : fs.start path = fs.start directory := by rw [start, start, h.absolute]
  rw [hmore, hstart] at hway
  obtain ⟨left, mid, hdir, hon⟩ := hway.split
  refine leadsToDirectory_iff.mpr ⟨mid, resolve_eq_ok_iff.mpr ⟨?_, hdir⟩, ?_⟩
  · exact checkText_of_append htext hdirectory hcheck
  · cases more with
    | nil =>
      cases hon
      exact hl
    | cons => exact hon.isDirectory_of_cons

/-- **A path that has an end is in a directory that is there.** -/
theorem leadsToDirectory_of_parent? (hfs : fs.IsTree)
    (hparent : Path.parent? path = some directory) (hdirectory : directory ≠ "") {e : Ending}
    (he : fs.ending path = .ok e) : fs.leadsToDirectory directory = true := by
  rcases Path.parent?_cases hparent with hempty | ⟨rfl, -⟩ | ⟨hgoes, -⟩
  · exact absurd hempty hdirectory
  · exact leadsToDirectory_root hfs
  obtain ⟨hcheck, hends⟩ := ending_eq_ok_iff.mp he
  cases hends with
  | root hnone =>
    -- the component that the path goes on to is not empty
    obtain ⟨inner, last, after, hpieces, hlast, -⟩ := hgoes.pieces
    have hempty := List.dropWhile_eq_nil_iff.mp hnone last (by rw [List.mem_reverse, hpieces]; simp)
    rw [Path.isIdle, hempty] at hlast
    cases hlast
  | here hfinal hway hl => exact leadsToDirectory_of_way hgoes hdirectory hcheck hfinal hway hl
  | up hfinal hway hl => exact leadsToDirectory_of_way hgoes hdirectory hcheck hfinal hway hl
  | name hfinal hway hl => exact leadsToDirectory_of_way hgoes hdirectory hcheck hfinal hway hl

end FileSystem

end TargetBench
