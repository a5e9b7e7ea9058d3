import TargetBench.FileSystem.Directory
import TargetBench.Proofs.Collection.Keyed

/-!
# Ways through changing file systems

A way leads through directories and links and ends at any node. So a file system may gain nodes, and
lose sockets, without a change to the ways that do not end at one of these.

## Main definitions

* `FileSystem.IsTree`: every node stands in a directory
* `FileSystem.Way`: the ways along which parts of a path lead
* `FileSystem.Keeps`: a file system that has lost nothing but sockets

## Main results

* `FileSystem.walk_eq_ok_iff`: parts of a path are followed exactly along ways
* `FileSystem.Way.walk_append`, `FileSystem.Way.split`: a way can be gone on from its end, and a
  way along two lists goes through a place between them
* `FileSystem.Keeps.way`: a way that ends at nothing lost stays as it is
-/

namespace TargetBench.FileSystem

variable {fs fs' fs'' : FileSystem}

/-! ## Nodes -/

theorem node?_insert (fs : FileSystem) (l l' : Location) (node : Node) :
    (fs.insert l node).node? l' = if l' = l then some node else fs.node? l' := by
  rw [node?, insert, List.lookup_cons, lookup_filter_ne]
  by_cases h : l' = l
  · simp [h]
  · rw [beq_false_of_ne h, if_neg h, if_neg h]
    rfl

theorem node?_remove_of_ne {l l' : Location} (h : l' ≠ l) :
    (fs.remove l).node? l' = fs.node? l' := by
  rw [node?, remove, lookup_filter_ne, if_neg h]
  rfl

theorem node?_remove_self {l : Location} (h : l ≠ []) : (fs.remove l).node? l = none := by
  rw [node?, remove, lookup_filter_ne, if_pos rfl]
  exact if_neg h

theorem isDirectory_iff {l : Location} :
    fs.isDirectory l = true ↔ ∃ mode, fs.node? l = some (.directory mode) := by
  rw [isDirectory]
  constructor
  · intro h
    split at h
    · next mode hmode => exact ⟨mode, hmode⟩
    · cases h
  · rintro ⟨mode, hmode⟩
    rw [hmode]

theorem not_isDirectory_of_socket {l : Location} {served : Bool}
    (h : fs.node? l = some (.socket served)) : ¬ fs.isDirectory l = true := by
  intro hl
  obtain ⟨mode, hmode⟩ := isDirectory_iff.mp hl
  rw [h] at hmode
  cases hmode

/-- Every node stands in a directory, as it does in a file system that was built up from its
root. -/
def IsTree (fs : FileSystem) : Prop :=
  ∀ l node, fs.node? l = some node → fs.isDirectory l.dropLast = true

namespace IsTree

theorem root (h : fs.IsTree) : fs.isDirectory [] = true := by
  cases hroot : fs.node? [] with
  | none =>
    rw [node?] at hroot
    split at hroot <;> cases hroot
  | some node => exact h [] node hroot

theorem parent (h : fs.IsTree) {l : Location} (hl : fs.isDirectory l = true) :
    fs.isDirectory l.dropLast = true := by
  obtain ⟨mode, hmode⟩ := isDirectory_iff.mp hl
  exact h l _ hmode

/-- It is enough to look at the nodes that are listed. -/
theorem of_nodes (hroot : fs.isDirectory [] = true)
    (hnodes : ∀ e ∈ fs.nodes, fs.isDirectory e.1.dropLast = true) : fs.IsTree := by
  intro l node hl
  rw [node?] at hl
  split at hl
  · next node' hlookup =>
    obtain ⟨before, after, hlisted, -⟩ := List.lookup_eq_some_iff.mp hlookup
    exact hnodes (l, node') (by rw [hlisted]; simp)
  · split at hl
    · next hempty => rwa [hempty]
    · cases hl

end IsTree

/-! ## Single steps -/

section Steps

variable {links : Nat} {here : Location} {piece : String}

theorem walk_nil : fs.walk links here [] = .ok here := by
  rw [walk]

theorem walk_idle (hdirectory : fs.isDirectory here = true) (hidle : Path.isIdle piece = true)
    (rest : List String) : fs.walk links here (piece :: rest) = fs.walk links here rest := by
  rw [walk, if_neg (not_not_intro hdirectory), if_pos hidle]

theorem walk_up (hdirectory : fs.isDirectory here = true) (rest : List String) :
    fs.walk links here (".." :: rest) = fs.walk links here.dropLast rest := by
  rw [walk, if_neg (not_not_intro hdirectory), if_neg (by decide), if_pos rfl]

/-- Parts of paths that are names. -/
def IsName (piece : String) : Prop :=
  Path.isIdle piece = false ∧ piece ≠ ".." ∧ Path.byteCount piece ≤ nameLimit

theorem walk_none (hnode : fs.node? (here ++ [piece]) = none)
    (hdirectory : fs.isDirectory here = true) (hpiece : IsName piece) (rest : List String) :
    fs.walk links here (piece :: rest) = .error .notFound := by
  obtain ⟨hidle, hup, hlength⟩ := hpiece
  rw [walk, if_neg (not_not_intro hdirectory), if_neg (by simp [hidle]), if_neg hup,
    if_neg (Nat.not_lt.mpr hlength), hnode]

theorem walk_link {target : String} (hnode : fs.node? (here ++ [piece]) = some (.link target))
    (htarget : target.isEmpty = false) (hdirectory : fs.isDirectory here = true)
    (hpiece : IsName piece) (rest : List String) :
    fs.walk (links + 1) here (piece :: rest) =
      fs.walk links (if Path.isAbsolute target then [] else here)
        (Path.pieces target ++ rest) := by
  obtain ⟨hidle, hup, hlength⟩ := hpiece
  rw [walk, if_neg (not_not_intro hdirectory), if_neg (by simp [hidle]), if_neg hup,
    if_neg (Nat.not_lt.mpr hlength), hnode]
  exact if_neg (by simp [htarget])

theorem walk_name {node : Node} (hnode : fs.node? (here ++ [piece]) = some node)
    (hlink : ∀ target, node ≠ .link target) (hdirectory : fs.isDirectory here = true)
    (hpiece : IsName piece) (rest : List String) :
    fs.walk links here (piece :: rest) = fs.walk links (here ++ [piece]) rest := by
  obtain ⟨hidle, hup, hlength⟩ := hpiece
  rw [walk, if_neg (not_not_intro hdirectory), if_neg (by simp [hidle]), if_neg hup,
    if_neg (Nat.not_lt.mpr hlength), hnode]
  cases node with
  | link target => exact absurd rfl (hlink target)
  | _ => rfl

end Steps

/-- A path to a name in the root leads to the node there, unless that is a link. -/
theorem resolve_name {path name : String} {node : Node}
    (hpath : checkText path = .ok () ∧ Path.isAbsolute path = true ∧
      Path.pieces path = ["", name])
    (hpiece : Path.isIdle name = false ∧ name ≠ ".." ∧ Path.byteCount name ≤ nameLimit)
    (hnode : fs.node? [name] = some node) (hlink : ∀ target, node ≠ .link target)
    (hroot : fs.isDirectory [] = true) : fs.resolve path = .ok [name] := by
  obtain ⟨hcheck, habsolute, hpieces⟩ := hpath
  rw [resolve, hcheck, hpieces, start, if_pos habsolute]
  show fs.walk linkLimit [] ["", name] = .ok [name]
  rw [walk_idle hroot rfl, walk_name hnode hlink hroot hpiece, walk]
  rfl

/-! ## Ways -/

/-- Parts of a path lead from a location to another one, with at most as many links on the way as
there is a number for. -/
inductive Way (fs : FileSystem) : Nat → Location → List String → Location → Prop
  | done {links : Nat} {here : Location} : Way fs links here [] here
  | idle {links : Nat} {here l : Location} {piece : String} {rest : List String}
    (hdirectory : fs.isDirectory here = true) (hidle : Path.isIdle piece = true)
    (onward : Way fs links here rest l) : Way fs links here (piece :: rest) l
  | up {links : Nat} {here l : Location} {rest : List String}
    (hdirectory : fs.isDirectory here = true) (onward : Way fs links here.dropLast rest l) :
    Way fs links here (".." :: rest) l
  | link {links : Nat} {here l : Location} {piece target : String} {rest : List String}
    (hdirectory : fs.isDirectory here = true) (hpiece : IsName piece)
    (hnode : fs.node? (here ++ [piece]) = some (.link target)) (htarget : target.isEmpty = false)
    (onward : Way fs links (if Path.isAbsolute target then [] else here)
      (Path.pieces target ++ rest) l) : Way fs (links + 1) here (piece :: rest) l
  | name {links : Nat} {here l : Location} {piece : String} {rest : List String} {node : Node}
    (hdirectory : fs.isDirectory here = true) (hpiece : IsName piece)
    (hnode : fs.node? (here ++ [piece]) = some node) (hlink : ∀ target, node ≠ .link target)
    (onward : Way fs links (here ++ [piece]) rest l) : Way fs links here (piece :: rest) l

section Way

variable {links : Nat} {here l : Location} {pieces : List String}

theorem Way.walk (h : Way fs links here pieces l) : fs.walk links here pieces = .ok l := by
  induction h with
  | done => exact walk_nil
  | idle hdirectory hidle _ ih => rw [walk_idle hdirectory hidle, ih]
  | up hdirectory _ ih => rw [walk_up hdirectory, ih]
  | link hdirectory hpiece hnode htarget _ ih =>
    rw [walk_link hnode htarget hdirectory hpiece, ih]
  | name hdirectory hpiece hnode hlink _ ih => rw [walk_name hnode hlink hdirectory hpiece, ih]

/-- Following parts of a path succeeds exactly along ways. -/
theorem walk_eq_ok_iff : fs.walk links here pieces = .ok l ↔ Way fs links here pieces l := by
  refine ⟨fun h => ?_, Way.walk⟩
  fun_induction FileSystem.walk fs links here pieces with
  | case1 links here => exact Except.ok.inj h ▸ .done
  | case2 | case5 | case6 | case7 | case8 => cases h
  | case3 links here piece rest hdirectory hidle ih =>
    exact .idle (not_not.mp hdirectory) hidle (ih h)
  | case4 links here rest hdirectory _ ih => exact .up (not_not.mp hdirectory) (ih h)
  | case9 here piece rest hdirectory hidle hup hlength target hnode links htarget ih =>
    have hpiece : IsName piece := ⟨by simpa using hidle, hup, Nat.not_lt.mp hlength⟩
    rw [dite_eq_ite] at ih
    exact .link (not_not.mp hdirectory) hpiece hnode (by simpa using htarget) (ih h)
  | case10 links here piece rest hdirectory hidle hup hlength node hlink hnode ih =>
    have hpiece : IsName piece := ⟨by simpa using hidle, hup, Nat.not_lt.mp hlength⟩
    exact .name (not_not.mp hdirectory) hpiece hnode hlink (ih h)

/-- A way can be gone on from its end. -/
theorem Way.walk_append (h : Way fs links here pieces l) :
    ∃ left, ∀ rest, fs.walk links here (pieces ++ rest) = fs.walk left l rest := by
  induction h with
  | done => exact ⟨_, fun rest => rfl⟩
  | idle hdirectory hidle _ ih =>
    obtain ⟨left, hleft⟩ := ih
    exact ⟨left, fun rest => by rw [List.cons_append, walk_idle hdirectory hidle, hleft]⟩
  | up hdirectory _ ih =>
    obtain ⟨left, hleft⟩ := ih
    exact ⟨left, fun rest => by rw [List.cons_append, walk_up hdirectory, hleft]⟩
  | link hdirectory hpiece hnode htarget _ ih =>
    obtain ⟨left, hleft⟩ := ih
    refine ⟨left, fun rest => ?_⟩
    rw [List.cons_append, walk_link hnode htarget hdirectory hpiece, ← List.append_assoc, hleft]
  | name hdirectory hpiece hnode hlink _ ih =>
    obtain ⟨left, hleft⟩ := ih
    refine ⟨left, fun rest => ?_⟩
    rw [List.cons_append, walk_name hnode hlink hdirectory hpiece, hleft]

/-- A way along the parts of two lists goes through a place between them. -/
theorem Way.split {front rest : List String} (h : Way fs links here (front ++ rest) l) :
    ∃ left mid, Way fs links here front mid ∧ Way fs left mid rest l := by
  generalize hpieces : front ++ rest = pieces at h
  induction h generalizing front with
  | @done links here =>
    obtain ⟨rfl, rfl⟩ := List.append_eq_nil_iff.mp hpieces
    exact ⟨links, here, .done, .done⟩
  | idle hdirectory hidle onward ih =>
    rcases List.append_eq_cons_iff.mp hpieces with ⟨rfl, rfl⟩ | ⟨front, rfl, rfl⟩
    · exact ⟨_, _, .done, .idle hdirectory hidle onward⟩
    · obtain ⟨left, mid, hfront, hback⟩ := ih rfl
      exact ⟨left, mid, .idle hdirectory hidle hfront, hback⟩
  | up hdirectory onward ih =>
    rcases List.append_eq_cons_iff.mp hpieces with ⟨rfl, rfl⟩ | ⟨front, rfl, rfl⟩
    · exact ⟨_, _, .done, .up hdirectory onward⟩
    · obtain ⟨left, mid, hfront, hback⟩ := ih rfl
      exact ⟨left, mid, .up hdirectory hfront, hback⟩
  | link hdirectory hpiece hnode htarget onward ih =>
    rcases List.append_eq_cons_iff.mp hpieces with ⟨rfl, rfl⟩ | ⟨front, rfl, rfl⟩
    · exact ⟨_, _, .done, .link hdirectory hpiece hnode htarget onward⟩
    · -- the parts of the target come before those that remain of the first list
      obtain ⟨left, mid, hfront, hback⟩ := ih (List.append_assoc _ _ _)
      exact ⟨left, mid, .link hdirectory hpiece hnode htarget hfront, hback⟩
  | name hdirectory hpiece hnode hlink onward ih =>
    rcases List.append_eq_cons_iff.mp hpieces with ⟨rfl, rfl⟩ | ⟨front, rfl, rfl⟩
    · exact ⟨_, _, .done, .name hdirectory hpiece hnode hlink onward⟩
    · obtain ⟨left, mid, hfront, hback⟩ := ih rfl
      exact ⟨left, mid, .name hdirectory hpiece hnode hlink hfront, hback⟩

/-- A path with a slash at its end leads to directories only. -/
theorem Way.isDirectory_of_blank (h : Way fs links here pieces l)
    (hblank : pieces.getLast? = some "") : fs.isDirectory l = true := by
  induction h with
  | done => cases hblank
  | @idle _ _ _ _ rest hdirectory _ onward ih =>
    cases rest with
    | nil => cases onward; exact hdirectory
    | cons => exact ih hblank
  | @up _ _ _ rest _ _ ih =>
    cases rest with
    | nil => simp at hblank
    | cons => exact ih hblank
  | @link _ _ _ piece _ rest _ hpiece _ _ _ ih =>
    cases rest with
    | nil =>
      obtain rfl : piece = "" := by simpa using hblank
      cases hpiece.1
    | cons => exact ih (by rw [List.getLast?_append_of_ne_nil _ (by simp)]; exact hblank)
  | @name _ _ _ piece rest _ _ hpiece _ _ _ ih =>
    cases rest with
    | nil =>
      obtain rfl : piece = "" := by simpa using hblank
      cases hpiece.1
    | cons => exact ih hblank

end Way

/-! ## File systems that lose nothing but sockets -/

/-- What stands in the first file system stands in the second as well, except at the places that
are lost, and these were sockets. -/
structure Keeps (lost : Set Location) (fs fs' : FileSystem) : Prop where
  working : fs'.working = fs.working
  stands : ∀ l ∉ lost, ∀ node, fs.node? l = some node → fs'.node? l = some node
  socket : ∀ l ∈ lost, ∃ served, fs.node? l = some (.socket served)

theorem keeps_insert {l : Location} (h : fs.node? l = none) (node : Node) :
    Keeps ∅ fs (fs.insert l node) := by
  refine ⟨rfl, fun l' _ node' hnode => ?_, nofun⟩
  rw [node?_insert, if_neg, hnode]
  rintro rfl
  rw [h] at hnode
  cases hnode

theorem keeps_remove {l : Location} {served : Bool} (h : fs.node? l = some (.socket served)) :
    Keeps {l} fs (fs.remove l) := by
  refine ⟨rfl, fun l' hl' node hnode => ?_, fun l' hl' => ⟨served, hl' ▸ h⟩⟩
  rw [node?_remove_of_ne hl', hnode]

namespace Keeps

variable {lost : Set Location} {l : Location}

theorem not_mem_lost (h : Keeps lost fs fs') {node : Node} (hnode : fs.node? l = some node)
    (hsocket : ∀ served, node ≠ .socket served) : l ∉ lost := by
  intro hl
  obtain ⟨served, hserved⟩ := h.socket l hl
  exact hsocket served (Option.some.inj (hnode.symm.trans hserved))

theorem isDirectory_not_mem (h : Keeps lost fs fs') (hl : fs.isDirectory l = true) : l ∉ lost := by
  intro hlost
  obtain ⟨served, hserved⟩ := h.socket l hlost
  exact not_isDirectory_of_socket hserved hl

theorem isDirectory (h : Keeps lost fs fs') (hl : fs.isDirectory l = true) :
    fs'.isDirectory l = true := by
  obtain ⟨mode, hmode⟩ := isDirectory_iff.mp hl
  exact isDirectory_iff.mpr ⟨mode, h.stands l (h.isDirectory_not_mem hl) _ hmode⟩

/-- **A way that ends at nothing lost stays as it is.** -/
theorem way (h : Keeps lost fs fs') {links : Nat} {here : Location} {pieces : List String}
    (hway : Way fs links here pieces l) (hl : l ∉ lost) : Way fs' links here pieces l := by
  induction hway with
  | done => exact .done
  | idle hdirectory hidle _ ih => exact .idle (h.isDirectory hdirectory) hidle (ih hl)
  | up hdirectory _ ih => exact .up (h.isDirectory hdirectory) (ih hl)
  | link hdirectory hpiece hnode htarget _ ih =>
    have hkept := h.stands _ (h.not_mem_lost hnode nofun) _ hnode
    exact .link (h.isDirectory hdirectory) hpiece hkept htarget (ih hl)
  | @name _ here _ piece rest node hdirectory hpiece hnode hlink onward ih =>
    -- the way goes on from here only if this is a directory, and no directory is lost
    have hkept : here ++ [piece] ∉ lost := by
      cases onward with
      | done => exact hl
      | idle hdirectory' | up hdirectory' | link hdirectory' | name hdirectory' =>
        exact h.isDirectory_not_mem hdirectory'
    exact .name (h.isDirectory hdirectory) hpiece (h.stands _ hkept _ hnode) hlink (ih hl)

end Keeps

end TargetBench.FileSystem
