import Mathlib.Logic.Relation
import TargetBench.Proofs.FileSystem.Ending

/-!
# What making directories changes

A directory that is made stands at a place where nothing was, and a path that it is made for leads
to it from then on. Making the directories on the way to a path adds such directories and changes
nothing else, whether it succeeds or not.

## Main definitions

* `Path.IsAncestor`: what is left of a path without some of its last components
* `FileSystem.Furnishes`: a file system that gained directories only

## Main results

* `FileSystem.makeChain_induction`: what making one directory preserves, making several preserves
* `FileSystem.furnishes_makeDirectories`: only directories on the way to the path are added
* `FileSystem.IsTree.makeDirectories`: every node still stands in a directory
-/

namespace TargetBench

/-- What is left of a path without its last component, or without several. -/
def Path.IsAncestor (ancestor path : String) : Prop :=
  Relation.TransGen (fun p q => parent? p = some q) path ancestor

/-- The paths that a path is reached through are the path itself and its ancestors. -/
theorem Path.mem_ancestors {fuel : Nat} {path way : String} (h : way ∈ ancestors fuel path) :
    Relation.ReflTransGen (fun p q => parent? p = some q) path way := by
  induction fuel generalizing path with
  | zero => cases h
  | succ fuel ih =>
    rw [ancestors] at h
    split at h
    · cases h
    · split at h
      · cases h
      · next parent hparent =>
        rcases List.mem_cons.mp h with rfl | h
        · exact .refl
        · exact .head hparent (ih h)

namespace FileSystem

variable {fs fs' fs'' : FileSystem} {mode : Nat} {path : String} {ways : String → Prop}

/-! ## Directories that are added -/

/-- The second file system holds what the first one does and new directories of a mode, to each of
which one of the ways leads. -/
structure Furnishes (mode : Nat) (ways : String → Prop) (fs fs' : FileSystem) : Prop where
  working : fs'.working = fs.working
  node : ∀ l, fs'.node? l = fs.node? l ∨
    fs.node? l = none ∧ fs'.node? l = some (.directory mode) ∧
      ∃ way, ways way ∧ fs'.resolve way = .ok l

namespace Furnishes

theorem keeps (h : Furnishes mode ways fs fs') : Keeps ∅ fs fs' := by
  refine ⟨h.working, fun l _ node hnode => ?_, nofun⟩
  rcases h.node l with hsame | ⟨hnone, -⟩
  · exact hsame.trans hnode
  · rw [hnone] at hnode
    cases hnode

theorem refl (mode : Nat) (ways : String → Prop) (fs : FileSystem) : Furnishes mode ways fs fs :=
  ⟨rfl, fun _ => .inl rfl⟩

theorem trans (h : Furnishes mode ways fs fs') (h' : Furnishes mode ways fs' fs'') :
    Furnishes mode ways fs fs'' := by
  refine ⟨h'.working.trans h.working, fun l => ?_⟩
  rcases h'.node l with hsame' | ⟨hnone', hmade', hway'⟩
  · rcases h.node l with hsame | ⟨hnone, hmade, way, hway, hl⟩
    · exact .inl (hsame'.trans hsame)
    · exact .inr ⟨hnone, hsame'.trans hmade, way, hway, h'.keeps.resolve hl nofun⟩
  · rcases h.node l with hsame | ⟨-, hmade, -⟩
    · exact .inr ⟨hsame.symm.trans hnone', hmade', hway'⟩
    · rw [hnone'] at hmade
      cases hmade

theorem mono {ways' : String → Prop} (h : Furnishes mode ways fs fs')
    (hways : ∀ way, ways way → ways' way) : Furnishes mode ways' fs fs' :=
  ⟨h.working, fun l => (h.node l).imp_right fun ⟨hnone, hmade, way, hway, hl⟩ =>
    ⟨hnone, hmade, way, hways way hway, hl⟩⟩

end Furnishes

/-! ## One directory -/

/-- A directory can be made where a path names nothing yet. -/
theorem exists_of_makeDirectory (h : fs.makeDirectory mode path = .ok fs') :
    ∃ directory name slash, fs.ending path = .ok (.name directory name slash) ∧
      fs.node? (directory ++ [name]) = none ∧
        fs' = fs.insert (directory ++ [name]) (.directory mode) := by
  rw [makeDirectory] at h
  split at h
  · cases h
  · cases h
  · next directory name slash hending =>
    split at h
    · cases h
    · next hnode => exact ⟨directory, name, slash, hending, hnode, (Except.ok.inj h).symm⟩

theorem furnishes_makeDirectory (h : fs.makeDirectory mode path = .ok fs') (hpath : ways path) :
    Furnishes mode ways fs fs' := by
  obtain ⟨directory, name, slash, hending, hnode, rfl⟩ := exists_of_makeDirectory h
  have hkeeps := keeps_insert hnode (.directory mode)
  refine ⟨rfl, fun l => ?_⟩
  by_cases hl : l = directory ++ [name]
  · subst hl
    have hmade : (fs.insert (directory ++ [name]) (.directory mode)).node? (directory ++ [name]) =
        some (.directory mode) := by rw [node?_insert, if_pos rfl]
    exact .inr ⟨hnode, hmade, path, hpath,
      resolve_of_directory (hkeeps.ending hending) (isDirectory_iff.mpr ⟨mode, hmade⟩)⟩
  · exact .inl (by rw [node?_insert, if_neg hl])

/-- A node that is put into a directory makes no difference to where the others stand. -/
theorem IsTree.insert (hfs : fs.IsTree) {directory : Location} {name : String}
    (hdirectory : fs.isDirectory directory = true) (hnone : fs.node? (directory ++ [name]) = none)
    (node : Node) : (fs.insert (directory ++ [name]) node).IsTree := by
  intro l node' hl
  apply (keeps_insert hnone node).isDirectory
  rw [node?_insert] at hl
  split at hl
  · next h => rwa [h, List.dropLast_concat]
  · exact hfs l node' hl

theorem IsTree.makeDirectory (hfs : fs.IsTree) (h : fs.makeDirectory mode path = .ok fs') :
    fs'.IsTree := by
  obtain ⟨directory, name, slash, hending, hnode, rfl⟩ := exists_of_makeDirectory h
  exact hfs.insert (isName_of_ending hending).1 hnode _

/-! ## Several directories -/

/-- What is true of a file system and stays true when a directory of a list is made is true after
the directories of the list are made. -/
theorem makeChain_induction {P : FileSystem → Prop} {paths : List String}
    (step : ∀ fs fs' path, path ∈ paths → P fs → fs.makeDirectory mode path = .ok fs' → P fs')
    (h : P fs) : P (fs.makeChain mode paths).1 := by
  induction paths with
  | nil => exact h
  | cons path way ih =>
    have hway : P (fs.makeChain mode way).1 :=
      ih fun fs fs' p hp => step fs fs' p (List.mem_cons_of_mem path hp)
    have hfirst : ∀ {fs fs'}, P fs → fs.makeDirectory mode path = .ok fs' → P fs' :=
      fun {fs fs'} => step fs fs' path List.mem_cons_self
    rw [makeChain]
    split
    · next fs' hmade => exact hfirst h hmade
    · -- the way to the path is missing, so that is made first
      split
      · next fs' e hchain => rwa [hchain] at hway
      · next fs' hchain =>
        rw [hchain] at hway
        split
        · next fs'' hmade => exact hfirst hway hmade
        · exact hway
    · exact h

/-- **Only directories on the way to the path are added.** -/
theorem furnishes_makeDirectories (fs : FileSystem) (mode : Nat) (path : String) :
    Furnishes mode (Relation.ReflTransGen (fun p q => Path.parent? p = some q) path) fs
      (fs.makeDirectories mode path).1 := by
  refine makeChain_induction (fun _ _ way hway h hmade => ?_) (.refl _ _ fs)
  exact h.trans (furnishes_makeDirectory hmade (Path.mem_ancestors hway))

theorem IsTree.makeChain (hfs : fs.IsTree) (mode : Nat) (paths : List String) :
    (fs.makeChain mode paths).1.IsTree :=
  makeChain_induction (fun _ _ _ _ h hmade => h.makeDirectory hmade) hfs

theorem IsTree.makeDirectories (hfs : fs.IsTree) (mode : Nat) (path : String) :
    (fs.makeDirectories mode path).1.IsTree :=
  hfs.makeChain mode _

end FileSystem

end TargetBench
