import Mathlib.Data.List.TakeWhile
import TargetBench.Proofs.FileSystem.Walk

/-!
# What stands at the end of a path

A path names a place that is there already, or a name in a directory, at which something may stand.
What the end of a path names stays the same when a file system loses nothing but sockets, and it
decides together with the node there whether the path leads anywhere.

## Main definitions

* `FileSystem.Ends`: what the end of a path names, by its last part

## Main results

* `FileSystem.ending_eq_ok_iff`: `FileSystem.Ends` describes `FileSystem.ending`
* `FileSystem.Keeps.ending`, `FileSystem.Keeps.resolve`, `FileSystem.Keeps.entry`: paths lead where
  they led before
* `FileSystem.resolve_of_none`, `FileSystem.resolve_of_directory`: what a path leads to is what
  stands at its end
* `FileSystem.exists_entry_of_resolve`: at the end of a path that leads anywhere, something stands
-/

namespace TargetBench.FileSystem

variable {fs fs' : FileSystem} {path : String} {l : Location}

/-! ## Paths that lead somewhere -/

theorem resolve_eq_ok_iff : fs.resolve path = .ok l ↔
    checkText path = .ok () ∧ Way fs linkLimit (fs.start path) (Path.pieces path) l := by
  rw [resolve, ← walk_eq_ok_iff]
  cases hcheck : checkText path with
  | error e => exact iff_of_false (fun h => by cases h) fun h => by cases h.1
  | ok => exact ⟨fun h => ⟨rfl, h⟩, fun h => h.2⟩

/-! ## Ends of paths -/

/-- What the end of a path names, by the last part of the path that is not empty. -/
inductive Ends (fs : FileSystem) (path : String) : Ending → Prop
  | root (hlast : dropEmpty (Path.pieces path).reverse = []) : Ends fs path (.place [])
  | here {before : List String} {directory : Location}
    (hlast : dropEmpty (Path.pieces path).reverse = "." :: before)
    (hway : Way fs linkLimit (fs.start path) before.reverse directory)
    (hdirectory : fs.isDirectory directory = true) : Ends fs path (.place directory)
  | up {before : List String} {directory : Location}
    (hlast : dropEmpty (Path.pieces path).reverse = ".." :: before)
    (hway : Way fs linkLimit (fs.start path) before.reverse directory)
    (hdirectory : fs.isDirectory directory = true) : Ends fs path (.place directory.dropLast)
  | name {before : List String} {directory : Location} {name : String} {slash : Bool}
    (hlast : dropEmpty (Path.pieces path).reverse = name :: before)
    (hway : Way fs linkLimit (fs.start path) before.reverse directory)
    (hdirectory : fs.isDirectory directory = true) (hname : IsName name)
    (hslash : slash = decide (dropEmpty (Path.pieces path).reverse ≠ (Path.pieces path).reverse)) :
    Ends fs path (.name directory name slash)

theorem isEmpty_of_dropEmpty_cons {backwards before : List String} {last : String}
    (h : dropEmpty backwards = last :: before) : last.isEmpty = false := by
  have hhead := List.head?_dropWhile_not (fun p : String => p.isEmpty) backwards
  rw [dropEmpty] at h
  rw [h] at hhead
  simpa using hhead

theorem ending_of_nil (hcheck : checkText path = .ok ())
    (hlast : dropEmpty (Path.pieces path).reverse = []) : fs.ending path = .ok (.place []) := by
  rw [ending, hcheck]
  simp only [hlast]
  rfl

theorem ending_of_cons {last : String} {before : List String} (hcheck : checkText path = .ok ())
    (hlast : dropEmpty (Path.pieces path).reverse = last :: before) :
    fs.ending path = (fs.walk linkLimit (fs.start path) before.reverse).bind fun directory =>
      if ¬ fs.isDirectory directory then .error .notDirectory
      else if last = "." then .ok (.place directory)
      else if last = ".." then .ok (.place directory.dropLast)
      else if nameLimit < Path.byteCount last then .error .nameTooLong
      else .ok (.name directory last
        (decide (dropEmpty (Path.pieces path).reverse ≠ (Path.pieces path).reverse))) := by
  rw [ending, hcheck]
  simp only [hlast]
  rfl

theorem Ends.ending {e : Ending} (hcheck : checkText path = .ok ()) (h : Ends fs path e) :
    fs.ending path = .ok e := by
  cases h with
  | root hlast => exact ending_of_nil hcheck hlast
  | here hlast hway hdirectory =>
    rw [ending_of_cons hcheck hlast, hway.walk, Except.bind, if_neg (not_not_intro hdirectory),
      if_pos rfl]
  | up hlast hway hdirectory =>
    rw [ending_of_cons hcheck hlast, hway.walk, Except.bind, if_neg (not_not_intro hdirectory),
      if_neg (by decide), if_pos rfl]
  | @name _ _ name _ hlast hway hdirectory hname hslash =>
    obtain ⟨hidle, hup, hlength⟩ := hname
    have hdot : name ≠ "." := by
      rintro rfl
      exact absurd hidle (by decide)
    rw [ending_of_cons hcheck hlast, hway.walk, Except.bind, if_neg (not_not_intro hdirectory),
      if_neg hdot, if_neg hup, if_neg (Nat.not_lt.mpr hlength), hslash]

/-- What the end of a path names, as its last part and the way to that part tell. -/
theorem ending_eq_ok_iff {e : Ending} :
    fs.ending path = .ok e ↔ checkText path = .ok () ∧ Ends fs path e := by
  refine ⟨fun h => ?_, fun h => h.2.ending h.1⟩
  have hcheck : checkText path = .ok () := by
    cases hcheck : checkText path with
    | error e =>
      rw [FileSystem.ending, hcheck] at h
      cases h
    | ok => rfl
  refine ⟨hcheck, ?_⟩
  cases hlast : dropEmpty (Path.pieces path).reverse with
  | nil =>
    rw [ending_of_nil hcheck hlast] at h
    exact Except.ok.inj h ▸ .root hlast
  | cons last before =>
    rw [ending_of_cons hcheck hlast] at h
    cases hwalk : fs.walk linkLimit (fs.start path) before.reverse with
    | error e =>
      rw [hwalk] at h
      cases h
    | ok directory =>
      have hway := walk_eq_ok_iff.mp hwalk
      rw [hwalk, Except.bind] at h
      split_ifs at h with hdirectory hdot hup hlength
      · exact Except.ok.inj h ▸ .here (hdot ▸ hlast) hway (by simpa using hdirectory)
      · exact Except.ok.inj h ▸ .up (hup ▸ hlast) hway (by simpa using hdirectory)
      · have hname : IsName last := by
          refine ⟨?_, hup, Nat.not_lt.mp hlength⟩
          rw [Path.isIdle, isEmpty_of_dropEmpty_cons hlast, Bool.false_or]
          exact decide_eq_false hdot
        exact Except.ok.inj h ▸ .name hlast hway (by simpa using hdirectory) hname rfl

/-- What the end of a path names is there, unless it is a name in a directory. -/
theorem isDirectory_of_ending_place (hfs : fs.IsTree) (h : fs.ending path = .ok (.place l)) :
    fs.isDirectory l = true := by
  cases (ending_eq_ok_iff.mp h).2 with
  | root => exact hfs.root
  | here _ _ hdirectory => exact hdirectory
  | up _ _ hdirectory => exact hfs.parent hdirectory

/-! ## Names at the end of a path -/

section Name

variable {directory : Location} {name : String} {slash : Bool}

theorem isName_of_ending (h : fs.ending path = .ok (.name directory name slash)) :
    fs.isDirectory directory = true ∧ IsName name := by
  cases (ending_eq_ok_iff.mp h).2 with
  | name _ _ hdirectory hname => exact ⟨hdirectory, hname⟩

/-- The parts of a path are those before its last one that is not empty, this one, and the empty
ones after it. -/
theorem exists_blanks {last : String} {before : List String}
    (hlast : dropEmpty (Path.pieces path).reverse = last :: before) :
    ∃ blanks, Path.pieces path = before.reverse ++ (last :: blanks) ∧
      (∀ blank ∈ blanks, Path.isIdle blank = true) ∧
      (dropEmpty (Path.pieces path).reverse = (Path.pieces path).reverse → blanks = []) := by
  let blanks := (Path.pieces path).reverse.takeWhile fun p => p.isEmpty
  have hsplit : blanks ++ last :: before = (Path.pieces path).reverse := by
    rw [← hlast]
    exact List.takeWhile_append_dropWhile
  refine ⟨blanks.reverse, ?_, fun blank hblank => ?_, fun hwhole => ?_⟩
  · rw [← List.reverse_reverse (Path.pieces path), ← hsplit]
    simp
  · have hempty := List.mem_takeWhile_imp (List.mem_reverse.mp hblank)
    rw [Path.isIdle, hempty, Bool.true_or]
  · rw [← hwhole, hlast, List.append_left_eq_self] at hsplit
    rw [hsplit, List.reverse_nil]

/-- A path that ends at a name leads where the name leads. -/
theorem resolve_of_ending (h : fs.ending path = .ok (.name directory name slash)) :
    ∃ left blanks, (∀ blank ∈ blanks, Path.isIdle blank = true) ∧ (slash = false → blanks = []) ∧
      fs.resolve path = fs.walk left directory (name :: blanks) := by
  obtain ⟨hcheck, hends⟩ := ending_eq_ok_iff.mp h
  cases hends with
  | @name before _ _ _ hlast hway _ _ hslash =>
    obtain ⟨blanks, hpieces, hblanks, hnone⟩ := exists_blanks hlast
    obtain ⟨left, hleft⟩ := hway.walk_append
    refine ⟨left, blanks, hblanks, fun hfalse => hnone ?_, ?_⟩
    · exact not_not.mp (of_decide_eq_false (hslash.symm.trans hfalse))
    · rw [resolve, hcheck, hpieces]
      exact hleft _

theorem walk_blanks {blanks : List String} (hblanks : ∀ blank ∈ blanks, Path.isIdle blank = true)
    {left : Nat} (hl : fs.isDirectory l = true) : fs.walk left l blanks = .ok l := by
  induction blanks with
  | nil => exact walk_nil
  | cons blank blanks ih =>
    rw [walk_idle hl (hblanks blank List.mem_cons_self)]
    exact ih fun b hb => hblanks b (List.mem_cons_of_mem blank hb)

/-- A path leads nowhere if nothing stands at its end. -/
theorem resolve_of_none (h : fs.ending path = .ok (.name directory name slash))
    (hnode : fs.node? (directory ++ [name]) = none) : fs.resolve path = .error .notFound := by
  obtain ⟨hdirectory, hname⟩ := isName_of_ending h
  obtain ⟨left, blanks, -, -, hresolve⟩ := resolve_of_ending h
  rw [hresolve, walk_none hnode hdirectory hname]

/-- A path leads to the directory at its end. -/
theorem resolve_of_directory (h : fs.ending path = .ok (.name directory name slash))
    (hnode : fs.isDirectory (directory ++ [name]) = true) :
    fs.resolve path = .ok (directory ++ [name]) := by
  obtain ⟨hdirectory, hname⟩ := isName_of_ending h
  obtain ⟨left, blanks, hblanks, -, hresolve⟩ := resolve_of_ending h
  obtain ⟨mode, hmode⟩ := isDirectory_iff.mp hnode
  rw [hresolve, walk_name hmode nofun hdirectory hname, walk_blanks hblanks hnode]

/-- A path without a slash behind its last name leads to what stands there, unless it is a link. -/
theorem resolve_of_node {node : Node} (h : fs.ending path = .ok (.name directory name false))
    (hnode : fs.node? (directory ++ [name]) = some node) (hlink : ∀ target, node ≠ .link target) :
    fs.resolve path = .ok (directory ++ [name]) := by
  obtain ⟨hdirectory, hname⟩ := isName_of_ending h
  obtain ⟨left, blanks, -, hnone, hresolve⟩ := resolve_of_ending h
  rw [hresolve, walk_name hnode hlink hdirectory hname, hnone rfl, walk_nil]

/-- A path with a slash behind its last name leads to directories only. -/
theorem isDirectory_of_ending_slash (h : fs.ending path = .ok (.name directory name true))
    (hl : fs.resolve path = .ok l) : fs.isDirectory l = true := by
  refine (resolve_eq_ok_iff.mp hl).2.isDirectory_of_blank ?_
  cases (ending_eq_ok_iff.mp h).2 with
  | name _ _ _ _ hslash =>
    have hdropped := of_decide_eq_true hslash.symm
    rw [← List.head?_reverse]
    cases hpieces : (Path.pieces path).reverse with
    | nil => exact absurd (by rw [hpieces]; rfl) hdropped
    | cons last before =>
      rw [hpieces, dropEmpty, List.dropWhile_cons] at hdropped
      split at hdropped
      · next hempty => rw [List.head?_cons, String.isEmpty_iff.mp hempty]
      · exact absurd rfl hdropped

theorem entry_of_slash (h : fs.ending path = .ok (.name directory name true)) :
    fs.entry path = fs.resolve path := by
  rw [entry, h]
  rfl

theorem entry_of_node {node : Node} (h : fs.ending path = .ok (.name directory name false))
    (hnode : fs.node? (directory ++ [name]) = some node) :
    fs.entry path = .ok (directory ++ [name]) := by
  simp only [entry, h, bind, Except.bind, hnode, Bool.false_eq_true, if_false]

theorem entry_of_none (h : fs.ending path = .ok (.name directory name false))
    (hnode : fs.node? (directory ++ [name]) = none) : fs.entry path = .error .notFound := by
  simp only [entry, h, bind, Except.bind, hnode, Bool.false_eq_true, if_false]

end Name

theorem entry_eq_ok_iff : fs.entry path = .ok l ↔
    fs.ending path = .ok (.place l) ∨
    (∃ directory name, fs.ending path = .ok (.name directory name true) ∧
      fs.resolve path = .ok l) ∨
    ∃ directory name, fs.ending path = .ok (.name directory name false) ∧
      fs.node? l ≠ none ∧ l = directory ++ [name] := by
  cases he : fs.ending path with
  | error e =>
    rw [entry, he]
    exact ⟨nofun, by simp⟩
  | ok e =>
    cases e with
    | place => simp [entry, he, bind, Except.bind]
    | name directory name slash =>
      cases slash with
      | true =>
        rw [entry_of_slash he]
        simp
      | false =>
        cases hnode : fs.node? (directory ++ [name]) with
        | none =>
          rw [entry_of_none he hnode]
          refine ⟨nofun, ?_⟩
          rintro (h | ⟨_, _, h, -⟩ | ⟨_, _, h, hl, rfl⟩)
          · cases h
          · cases h
          · cases h
            exact absurd hnode hl
        | some node =>
          rw [entry_of_node he hnode]
          constructor
          · rintro ⟨⟩
            exact .inr (.inr ⟨directory, name, rfl, by simp [hnode], rfl⟩)
          · rintro (h | ⟨_, _, h, -⟩ | ⟨_, _, h, -, rfl⟩)
            · cases h
            · cases h
            · cases h
              rfl

/-- A path that leads anywhere has an end, and something stands there. -/
theorem exists_entry_of_resolve (h : fs.resolve path = .ok l) : ∃ l', fs.entry path = .ok l' := by
  obtain ⟨hcheck, hway⟩ := resolve_eq_ok_iff.mp h
  cases hlast : dropEmpty (Path.pieces path).reverse with
  | nil => exact ⟨[], entry_eq_ok_iff.mpr (.inl ((Ends.root hlast).ending hcheck))⟩
  | cons last before =>
    obtain ⟨blanks, hpieces, -⟩ := exists_blanks hlast
    have hnonempty := isEmpty_of_dropEmpty_cons hlast
    rw [hpieces] at hway
    obtain ⟨left, directory, hfront, hback⟩ := hway.split
    -- the way goes on from the directory of the last part, so this is one of the parts that can
    -- be followed from there
    have hnamed : fs.isDirectory directory = true → IsName last →
        (∃ node, fs.node? (directory ++ [last]) = some node) → ∃ l', fs.entry path = .ok l' := by
      rintro hdirectory hname ⟨node, hnode⟩
      cases hslash : decide (dropEmpty (Path.pieces path).reverse ≠ (Path.pieces path).reverse) with
      | true =>
        have hending := (Ends.name hlast hfront hdirectory hname hslash.symm).ending hcheck
        exact ⟨l, (entry_of_slash hending).trans h⟩
      | false =>
        have hending := (Ends.name hlast hfront hdirectory hname hslash.symm).ending hcheck
        exact ⟨_, entry_of_node hending hnode⟩
    cases hback with
    | idle hdirectory hidle =>
      have hdot : last = "." := by
        rw [Path.isIdle, hnonempty, Bool.false_or] at hidle
        exact of_decide_eq_true hidle
      have hending := (Ends.here (hdot ▸ hlast) hfront hdirectory).ending hcheck
      exact ⟨_, entry_eq_ok_iff.mpr (.inl hending)⟩
    | up hdirectory =>
      have hending := (Ends.up hlast hfront hdirectory).ending hcheck
      exact ⟨_, entry_eq_ok_iff.mpr (.inl hending)⟩
    | link hdirectory hname hnode => exact hnamed hdirectory hname ⟨_, hnode⟩
    | name hdirectory hname hnode => exact hnamed hdirectory hname ⟨_, hnode⟩

/-! ## Paths in file systems that lose nothing but sockets -/

namespace Keeps

variable {lost : Set Location}

theorem start (h : Keeps lost fs fs') (path : String) : fs'.start path = fs.start path := by
  rw [FileSystem.start, FileSystem.start, h.working]

theorem resolve (h : Keeps lost fs fs') (hl : fs.resolve path = .ok l) (hlost : l ∉ lost) :
    fs'.resolve path = .ok l := by
  obtain ⟨hcheck, hway⟩ := resolve_eq_ok_iff.mp hl
  refine resolve_eq_ok_iff.mpr ⟨hcheck, ?_⟩
  rw [h.start]
  exact h.way hway hlost

/-- A path names what it named. -/
theorem ending (h : Keeps lost fs fs') {e : Ending} (he : fs.ending path = .ok e) :
    fs'.ending path = .ok e := by
  obtain ⟨hcheck, hends⟩ := ending_eq_ok_iff.mp he
  refine ending_eq_ok_iff.mpr ⟨hcheck, ?_⟩
  have hkept : ∀ {before directory}, Way fs linkLimit (fs.start path) before directory →
      fs.isDirectory directory = true →
      Way fs' linkLimit (fs'.start path) before directory := by
    intro before directory hway hdirectory
    rw [h.start]
    exact h.way hway (h.isDirectory_not_mem hdirectory)
  cases hends with
  | root hlast => exact .root hlast
  | here hlast hway hdirectory =>
    exact .here hlast (hkept hway hdirectory) (h.isDirectory hdirectory)
  | up hlast hway hdirectory =>
    exact .up hlast (hkept hway hdirectory) (h.isDirectory hdirectory)
  | name hlast hway hdirectory hname hslash =>
    exact .name hlast (hkept hway hdirectory) (h.isDirectory hdirectory) hname hslash

/-- What a path names, a link at its end not followed, stays as it is. -/
theorem entry (h : Keeps lost fs fs') (hl : fs.entry path = .ok l) (hlost : l ∉ lost) :
    fs'.entry path = .ok l := by
  rcases entry_eq_ok_iff.mp hl with he | ⟨directory, name, he, hr⟩ | ⟨directory, name, he, hn, rfl⟩
  · exact entry_eq_ok_iff.mpr (.inl (h.ending he))
  · exact entry_eq_ok_iff.mpr (.inr (.inl ⟨directory, name, h.ending he, h.resolve hr hlost⟩))
  · obtain ⟨node, hnode⟩ := Option.ne_none_iff_exists'.mp hn
    exact entry_of_node (h.ending he) (h.stands _ hlost node hnode)

end Keeps

end TargetBench.FileSystem
