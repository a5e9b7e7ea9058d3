import TargetBench.Proofs.FileSystem.Directory
import TargetBench.Proofs.FileSystem.Parent

/-!
# Directories that cannot be made

Making a directory with the directories on the way to it either leads to a directory or fails. It
fails for one of two reasons. Either the way is blocked: something that is no directory stands at
the end of the path, or of a path above it below which nothing could be found. Or the path, or one
above it, cannot be followed.

## Main definitions

* `FileSystem.Obstructed`: something that is no directory stands at the end of a path
* `FileSystem.Blocked`: the way to a path, as it is once directories have been made, is obstructed
* `FileSystem.provide`: one step, which makes a directory or takes it as it is

## Main results

* `FileSystem.makeDirectories_eq_ok_iff`: making directories succeeds exactly if the path leads to
  a directory afterwards
* `FileSystem.makeDirectories_eq_occupied_iff`: the error of an occupied place means a blocked way
-/

namespace TargetBench

/-! ## Ancestors -/

namespace Path

variable {path above : String}

theorem ancestors_of_parent? (h : parent? path = some above) (fuel : Nat) :
    ancestors (fuel + 1) path = path :: ancestors fuel above := by
  have hne : path ≠ "" := by
    rintro rfl
    cases parent?_empty.symm.trans h
  rw [ancestors, if_neg (by simpa using hne), h]

theorem ancestors_of_no_parent (h : parent? path = none) (fuel : Nat) :
    ancestors fuel path = [] := by
  cases fuel with
  | zero => rfl
  | succ fuel =>
    rw [ancestors, h]
    exact ite_self _

end Path

namespace FileSystem

variable {fs fs' : FileSystem} {mode : Nat} {path above : String} {way : List String}
  {error : DirectoryError}

/-! ## One directory -/

theorem leadsToDirectory_of_makeDirectory (h : fs.makeDirectory mode path = .ok fs') :
    fs'.leadsToDirectory path = true := by
  obtain ⟨directory, name, slash, hending, hnode, rfl⟩ := exists_of_makeDirectory h
  have hmade : (fs.insert (directory ++ [name]) (.directory mode)).isDirectory
      (directory ++ [name]) = true := isDirectory_iff.mpr ⟨mode, by rw [node?_insert, if_pos rfl]⟩
  have hkept := (keeps_insert hnode (.directory mode)).ending hending
  exact leadsToDirectory_iff.mpr ⟨_, resolve_of_directory hkept hmade, hmade⟩

theorem makeDirectory_of_ending_error {source : PathError} (h : fs.ending path = .error source) :
    fs.makeDirectory mode path = .error (.unreachable source) := by
  rw [makeDirectory, h]

theorem makeDirectory_eq_unreachable_iff {source : PathError} :
    fs.makeDirectory mode path = .error (.unreachable source) ↔
      fs.ending path = .error source := by
  refine ⟨fun h => ?_, makeDirectory_of_ending_error⟩
  rw [makeDirectory] at h
  split at h
  · next e he =>
    cases h
    exact he
  · cases h
  · split at h <;> cases h

/-- Something that is no directory stands at the end of a path. A link to a directory counts as
one. -/
structure Obstructed (fs : FileSystem) (path : String) : Prop where
  astray : fs.leadsToDirectory path = false
  stands : ∃ directory name slash node, fs.ending path = .ok (.name directory name slash) ∧
    fs.node? (directory ++ [name]) = some node

/-- A path is obstructed exactly if a directory cannot be made for what stands at its end, and that
is none itself. -/
theorem obstructed_iff (hfs : fs.IsTree) (mode : Nat) : fs.Obstructed path ↔
    fs.makeDirectory mode path = .error .occupied ∧ fs.leadsToDirectory path = false := by
  constructor
  · rintro ⟨hastray, directory, name, slash, node, hending, hnode⟩
    refine ⟨?_, hastray⟩
    rw [makeDirectory, hending]
    simp only [hnode]
  · rintro ⟨hoccupied, hastray⟩
    refine ⟨hastray, ?_⟩
    cases hending : fs.ending path with
    | error source =>
      rw [makeDirectory_of_ending_error hending] at hoccupied
      cases hoccupied
    | ok e =>
      cases e with
      | place l =>
        rw [leadsToDirectory_of_place hfs hending] at hastray
        cases hastray
      | name directory name slash =>
        cases hnode : fs.node? (directory ++ [name]) with
        | some node => exact ⟨directory, name, slash, node, rfl, hnode⟩
        | none =>
          rw [makeDirectory, hending] at hoccupied
          simp only [hnode] at hoccupied
          cases hoccupied

/-! ## One step -/

/-- Makes a directory, or takes it as it is. -/
def provide (fs : FileSystem) (mode : Nat) (path : String) :
    FileSystem × Except DirectoryError Unit :=
  match fs.makeDirectory mode path with
  | .ok fs => (fs, .ok ())
  | .error e => (fs, if fs.leadsToDirectory path then .ok () else .error e)

theorem provide_of_ok (h : fs.makeDirectory mode path = .ok fs') :
    fs.provide mode path = (fs', .ok ()) := by
  rw [provide, h]

theorem provide_of_error (h : fs.makeDirectory mode path = .error error) :
    fs.provide mode path = (fs, if fs.leadsToDirectory path then .ok () else .error error) := by
  rw [provide, h]

/-- A step succeeds exactly if the path leads to a directory then. -/
theorem provide_eq_ok_iff : (fs.provide mode path).2 = .ok () ↔
    (fs.provide mode path).1.leadsToDirectory path = true := by
  cases h : fs.makeDirectory mode path with
  | ok fs' =>
    rw [provide_of_ok h]
    exact iff_of_true rfl (leadsToDirectory_of_makeDirectory h)
  | error e =>
    rw [provide_of_error h]
    cases fs.leadsToDirectory path <;> simp

/-- A path leads to no directory after a step that failed. -/
theorem astray_of_provide_error (h : (fs.provide mode path).2 = .error error) :
    (fs.provide mode path).1.leadsToDirectory path = false := by
  rw [Bool.eq_false_iff, Ne, ← provide_eq_ok_iff, h]
  nofun

/-- A step fails at an occupied place exactly if the path is obstructed. -/
theorem provide_eq_occupied_iff (hfs : fs.IsTree) :
    (fs.provide mode path).2 = .error .occupied ↔
      (fs.provide mode path).1.Obstructed path := by
  cases h : fs.makeDirectory mode path with
  | ok fs' =>
    rw [provide_of_ok h]
    refine iff_of_false nofun fun hobstructed => ?_
    cases (leadsToDirectory_of_makeDirectory h).symm.trans hobstructed.astray
  | error e =>
    rw [provide_of_error h, obstructed_iff hfs mode, h]
    cases fs.leadsToDirectory path <;> simp

theorem keeps_provide (fs : FileSystem) (mode : Nat) (path : String) :
    Keeps ∅ fs (fs.provide mode path).1 := by
  cases h : fs.makeDirectory mode path with
  | ok fs' =>
    rw [provide_of_ok h]
    obtain ⟨_, _, _, -, hnode, rfl⟩ := exists_of_makeDirectory h
    exact keeps_insert hnode (.directory mode)
  | error e =>
    rw [provide_of_error h]
    exact ⟨rfl, fun _ _ _ hnode => hnode, nofun⟩

theorem isTree_provide (hfs : fs.IsTree) (mode : Nat) (path : String) :
    (fs.provide mode path).1.IsTree := by
  cases h : fs.makeDirectory mode path with
  | ok fs' =>
    rw [provide_of_ok h]
    exact hfs.makeDirectory h
  | error e =>
    rw [provide_of_error h]
    exact hfs

/-! ## Blocked ways -/

/-- The way to a path is blocked: something that is no directory stands at its end once directories
have been made, or nothing could be found there before and the way to the directory that it is in is
blocked. -/
inductive Blocked (before after : FileSystem) : String → Prop
  | here {path : String} (h : after.Obstructed path) : Blocked before after path
  | above {path above : String} (hmissing : before.ending path = .error .notFound)
    (hparent : Path.parent? path = some above) (h : Blocked before after above) :
    Blocked before after path

namespace Blocked

variable {before after : FileSystem}

theorem ne_empty (h : Blocked before after path) : path ≠ "" := by
  rintro rfl
  cases h with
  | here h =>
    obtain ⟨_, _, _, _, hending, -⟩ := h.stands
    cases hending
  | above _ hparent => cases Path.parent?_empty.symm.trans hparent

/-- A path to which the way is blocked leads to no directory. -/
theorem astray (hafter : after.IsTree) (h : Blocked before after path) :
    after.leadsToDirectory path = false := by
  induction h with
  | here h => exact h.astray
  | above _ hparent h ih =>
    rw [Bool.eq_false_iff]
    intro hleads
    obtain ⟨e, he⟩ := exists_ending_of_leadsToDirectory hleads
    cases (leadsToDirectory_of_parent? hafter hparent h.ne_empty he).symm.trans ih

/-- The way to the root is never blocked, so a path to which it is blocked is in a directory. -/
theorem exists_parent (hafter : after.IsTree) {whole : String}
    (hwhole : Path.parent? whole = some path) (h : Blocked before after path) :
    ∃ above, Path.parent? path = some above := by
  rcases Path.parent?_cases hwhole with rfl | ⟨rfl, -⟩ | ⟨-, habove⟩
  · exact absurd rfl h.ne_empty
  · cases (leadsToDirectory_root hafter).symm.trans (h.astray hafter)
  · exact habove

/-- A path at which something could be found before is obstructed itself. -/
theorem obstructed_of_found (h : Blocked before after path)
    (hfound : before.ending path ≠ .error .notFound) : after.Obstructed path := by
  cases h with
  | here h => exact h
  | above hmissing => exact absurd hmissing hfound

/-- A path is obstructed itself if the directory that it is in is there. -/
theorem obstructed_of_leads (h : Blocked before after path) (hafter : after.IsTree)
    (hparent : Path.parent? path = some above)
    (hleads : above ≠ "" → after.leadsToDirectory above = true) : after.Obstructed path := by
  cases h with
  | here h => exact h
  | above _ hparent' h =>
    cases hparent.symm.trans hparent'
    cases (hleads h.ne_empty).symm.trans (h.astray hafter)

/-- The way to the directory that a path is in is blocked if the path has no end. -/
theorem above_of_no_ending (h : Blocked before after path)
    (hparent : Path.parent? path = some above) (hnone : ∀ e, after.ending path ≠ .ok e) :
    Blocked before after above := by
  cases h with
  | here h =>
    obtain ⟨_, _, _, _, hending, -⟩ := h.stands
    exact absurd hending (hnone _)
  | above _ hparent' h =>
    cases hparent.symm.trans hparent'
    exact h

end Blocked

/-! ## Several directories -/

/-- If the way to a path is missing, it is made first. -/
theorem makeChain_of_missing (h : fs.ending path = .error .notFound)
    (hway : (fs.makeChain mode way).2 = .ok ()) :
    fs.makeChain mode (path :: way) = (fs.makeChain mode way).1.provide mode path := by
  rw [makeChain, makeDirectory_of_ending_error h]
  cases hchain : fs.makeChain mode way with
  | mk fs' outcome =>
    rw [hchain] at hway
    obtain rfl := hway
    rfl

/-- A way that cannot be made ends the matter. -/
theorem makeChain_of_missing_error (h : fs.ending path = .error .notFound)
    (hway : (fs.makeChain mode way).2 = .error error) :
    fs.makeChain mode (path :: way) = ((fs.makeChain mode way).1, .error error) := by
  rw [makeChain, makeDirectory_of_ending_error h]
  cases hchain : fs.makeChain mode way with
  | mk fs' outcome =>
    rw [hchain] at hway
    obtain rfl := hway
    rfl

theorem makeChain_of_found (h : fs.ending path ≠ .error .notFound) (way : List String) :
    fs.makeChain mode (path :: way) = fs.provide mode path := by
  rw [makeChain]
  split
  · next fs' hmade => rw [provide_of_ok hmade]
  · next hmissing => exact absurd (makeDirectory_eq_unreachable_iff.mp hmissing) h
  · next e _ hmade => rw [provide_of_error hmade]

/-- After directories have been made, the first path leads to one. -/
theorem leadsToDirectory_of_makeChain (h : (fs.makeChain mode (path :: way)).2 = .ok ()) :
    (fs.makeChain mode (path :: way)).1.leadsToDirectory path = true := by
  by_cases hmissing : fs.ending path = .error .notFound
  · cases hway : (fs.makeChain mode way).2 with
    | error e =>
      rw [makeChain_of_missing_error hmissing hway] at h
      cases h
    | ok =>
      rw [makeChain_of_missing hmissing hway] at h ⊢
      exact provide_eq_ok_iff.mp h
  · rw [makeChain_of_found hmissing] at h ⊢
    exact provide_eq_ok_iff.mp h

section Ancestors

variable {fuel : Nat} {whole : String}

/-- A path has no end if the directory that it is in is not there. -/
theorem ending_ne_of_makeChain_error (hfs : fs.IsTree) (hparent : Path.parent? path = some above)
    (hway : (fs.makeChain mode (Path.ancestors fuel above)).2 = .error error)
    (hastray : (fs.makeChain mode (Path.ancestors fuel above)).1.leadsToDirectory above = false)
    (e : Ending) : (fs.makeChain mode (Path.ancestors fuel above)).1.ending path ≠ .ok e := by
  intro hending
  have habove : above ≠ "" := by
    rintro rfl
    rw [Path.ancestors_of_no_parent Path.parent?_empty] at hway
    cases hway
  have hleads := leadsToDirectory_of_parent? (hfs.makeChain mode _) hparent habove hending
  cases hleads.symm.trans hastray

/-- A path leads to no directory if its directories could not be made. -/
theorem astray_of_makeChain_error (hfs : fs.IsTree)
    (h : (fs.makeChain mode (Path.ancestors fuel path)).2 = .error error) :
    (fs.makeChain mode (Path.ancestors fuel path)).1.leadsToDirectory path = false := by
  induction fuel generalizing path error with
  | zero => cases h
  | succ fuel ih =>
    cases hparent : Path.parent? path with
    | none =>
      rw [Path.ancestors_of_no_parent hparent] at h
      cases h
    | some above =>
      rw [Path.ancestors_of_parent? hparent] at h ⊢
      by_cases hmissing : fs.ending path = .error .notFound
      swap
      · rw [makeChain_of_found hmissing] at h ⊢
        exact astray_of_provide_error h
      cases hway : (fs.makeChain mode (Path.ancestors fuel above)).2 with
      | ok =>
        rw [makeChain_of_missing hmissing hway] at h ⊢
        exact astray_of_provide_error h
      | error e =>
        rw [makeChain_of_missing_error hmissing hway, Bool.eq_false_iff]
        intro hleads
        obtain ⟨ending, hending⟩ := exists_ending_of_leadsToDirectory hleads
        exact ending_ne_of_makeChain_error hfs hparent hway (ih hway) ending hending

/-- **Directories are made exactly if the path leads to one afterwards.** -/
theorem makeChain_eq_ok_iff (hfs : fs.IsTree) (hwhole : Path.parent? whole = some path)
    (hpath : path ≠ "") (hfuel : path.length < fuel) :
    (fs.makeChain mode (Path.ancestors fuel path)).2 = .ok () ↔
      (fs.makeChain mode (Path.ancestors fuel path)).1.leadsToDirectory path = true := by
  refine ⟨fun h => ?_, fun hleads => ?_⟩
  · rcases Path.parent?_cases hwhole with hempty | ⟨rfl, -⟩ | ⟨-, above, hparent⟩
    · exact absurd hempty hpath
    · exact leadsToDirectory_root (hfs.makeChain mode _)
    · obtain ⟨n, rfl⟩ := Nat.exists_eq_add_one_of_ne_zero (Nat.ne_zero_of_lt hfuel)
      rw [Path.ancestors_of_parent? hparent] at h ⊢
      exact leadsToDirectory_of_makeChain h
  · cases h : (fs.makeChain mode (Path.ancestors fuel path)).2 with
    | ok => rfl
    | error e => cases hleads.symm.trans (astray_of_makeChain_error hfs h)

/-- **Directories fail to be made at an occupied place exactly if the way is blocked.** -/
theorem makeChain_eq_occupied_iff (hfs : fs.IsTree) (hwhole : Path.parent? whole = some path)
    (hfuel : path.length < fuel) :
    (fs.makeChain mode (Path.ancestors fuel path)).2 = .error .occupied ↔
      Blocked fs (fs.makeChain mode (Path.ancestors fuel path)).1 path := by
  induction fuel generalizing path whole with
  | zero => cases hfuel
  | succ fuel ih =>
    cases hparent : Path.parent? path with
    | none =>
      rw [Path.ancestors_of_no_parent hparent]
      refine iff_of_false nofun fun hblocked => ?_
      obtain ⟨above, habove⟩ := hblocked.exists_parent hfs hwhole
      cases hparent.symm.trans habove
    | some above =>
      rw [Path.ancestors_of_parent? hparent]
      have hshorter : above.length < fuel :=
        Nat.lt_of_lt_of_le (Path.length_lt_of_parent? hparent) (Nat.lt_succ_iff.mp hfuel)
      have htree := hfs.makeChain mode (Path.ancestors fuel above)
      by_cases hmissing : fs.ending path = .error .notFound
      swap
      · rw [makeChain_of_found hmissing, provide_eq_occupied_iff hfs]
        exact ⟨.here, fun hblocked => hblocked.obstructed_of_found hmissing⟩
      cases hway : (fs.makeChain mode (Path.ancestors fuel above)).2 with
      | error e =>
        have hnone := ending_ne_of_makeChain_error hfs hparent hway
          (astray_of_makeChain_error hfs hway)
        have habove := ih hparent hshorter
        rw [hway] at habove
        rw [makeChain_of_missing_error hmissing hway, habove]
        exact ⟨.above hmissing hparent, fun hblocked => hblocked.above_of_no_ending hparent hnone⟩
      | ok =>
        rw [makeChain_of_missing hmissing hway, provide_eq_occupied_iff htree]
        refine ⟨.here, fun hblocked => ?_⟩
        refine hblocked.obstructed_of_leads (isTree_provide htree mode path) hparent fun hne => ?_
        -- the directory above has been made, and so it is still there
        have hleads := (makeChain_eq_ok_iff hfs hparent hne hshorter).mp hway
        exact (keeps_provide _ mode path).leadsToDirectory hleads

theorem makeDirectories_eq_ok_iff (hfs : fs.IsTree) (hwhole : Path.parent? whole = some path)
    (hpath : path ≠ "") : (fs.makeDirectories mode path).2 = .ok () ↔
      (fs.makeDirectories mode path).1.leadsToDirectory path = true :=
  makeChain_eq_ok_iff hfs hwhole hpath (Nat.lt_succ_self path.length)

theorem makeDirectories_eq_occupied_iff (hfs : fs.IsTree)
    (hwhole : Path.parent? whole = some path) :
    (fs.makeDirectories mode path).2 = .error .occupied ↔
      Blocked fs (fs.makeDirectories mode path).1 path :=
  makeChain_eq_occupied_iff hfs hwhole (Nat.lt_succ_self path.length)

end Ancestors

end FileSystem

end TargetBench
