import TargetBench.Endpoint.Listener
import TargetBench.Endpoint.Preparation
import TargetBench.Proofs.FileSystem.Directory

/-!
# What listening changes

A daemon prepares its endpoint, listens there and releases it. Preparing adds directories on the way
to the socket. Listening takes the place of a socket that nobody serves, or a free one, and changes
nothing if it fails: once a socket is out of the way, the new one can be made. After the release the
place is free, and all others are as they were before listening.

## Main definitions

* `FileSystem.Vacates`: a file system that lost at most the socket at one place
* `SocketEndpoint.Available`: a place where a socket can be made

## Main results

* `SocketEndpoint.furnishes_prepare`: preparing adds directories on the way to the socket
* `SocketEndpoint.snd_listen_eq_ok_iff`: listening succeeds exactly at available places
* `SocketEndpoint.fst_listen_of_error`: listening that fails changes nothing
* `SocketEndpoint.vacates_release`: what is left after listening and releasing
-/

namespace TargetBench

/-! ## Places that become free -/

/-- The second file system is the first one without the socket at a place, if there was one. -/
structure FileSystem.Vacates (l : Location) (fs fs' : FileSystem) : Prop where
  working : fs'.working = fs.working
  socket : ∀ node, fs.node? l = some node → node = .socket false
  free : fs'.node? l = none
  node : ∀ l' ≠ l, fs'.node? l' = fs.node? l'

namespace FileSystem.Vacates

variable {fs fs' : FileSystem} {l : Location} {path : String}

theorem keeps (h : Vacates l fs fs') : Keeps {l' | l' = l ∧ fs.node? l ≠ none} fs fs' := by
  refine ⟨h.working, fun l' hl' node hnode => ?_, ?_⟩
  · by_cases hl : l' = l
    · subst hl
      exact absurd ⟨rfl, by simp [hnode]⟩ hl'
    · rw [h.node l' hl, hnode]
  · rintro l' ⟨rfl, hl⟩
    obtain ⟨node, hnode⟩ := Option.ne_none_iff_exists'.mp hl
    exact ⟨false, h.socket node hnode ▸ hnode⟩

/-- No node stands in a socket, so no node loses its directory. -/
theorem isTree (h : Vacates l fs fs') (hfs : fs.IsTree) : fs'.IsTree := by
  intro l' node hnode
  have hne : l' ≠ l := by
    rintro rfl
    rw [h.free] at hnode
    cases hnode
  rw [h.node l' hne] at hnode
  exact h.keeps.isDirectory (hfs l' node hnode)

end FileSystem.Vacates

namespace SocketEndpoint

variable {e : SocketEndpoint} {fs fs' cleared bound : FileSystem} {path : String}

/-! ## Preparing -/

theorem fst_prepare_of_parent {directory : String}
    (hparent : Path.parent? e.path = some directory) (fs : FileSystem) :
    (e.prepare fs).1 = fs ∨ (e.prepare fs).1 = (fs.makeDirectories directoryMode directory).1 := by
  simp only [prepare, hparent]
  split
  · exact .inl rfl
  · split
    · next h => exact .inr (congrArg Prod.fst h).symm
    · next h => exact .inr (congrArg Prod.fst h).symm

theorem prepare_of_no_parent (hparent : Path.parent? e.path = none) :
    e.prepare fs = (fs, .error (.missingParent e.path)) := by
  simp only [prepare, hparent]

/-- **Preparing adds directories on the way to the socket**, whether it succeeds or not. -/
theorem furnishes_prepare (e : SocketEndpoint) (fs : FileSystem) :
    fs.Furnishes directoryMode (fun way => Path.IsAncestor way e.path) (e.prepare fs).1 := by
  cases hparent : Path.parent? e.path with
  | none =>
    rw [prepare_of_no_parent hparent]
    exact .refl _ _ fs
  | some directory =>
    rcases fst_prepare_of_parent hparent fs with h | h <;> rw [h]
    · exact .refl _ _ fs
    · exact (fs.furnishes_makeDirectories directoryMode directory).mono
        fun way hway => .head' hparent hway

theorem isTree_prepare (hfs : fs.IsTree) (e : SocketEndpoint) : (e.prepare fs).1.IsTree := by
  cases hparent : Path.parent? e.path with
  | none => rwa [prepare_of_no_parent hparent]
  | some directory =>
    rcases fst_prepare_of_parent hparent fs with h | h <;> rw [h]
    · exact hfs
    · exact hfs.makeDirectories directoryMode directory

theorem path_ne_empty_of_prepare (h : (e.prepare fs).2 = .ok ()) : e.path ≠ "" := by
  intro hempty
  rw [prepare_of_no_parent (by rw [hempty]; decide)] at h
  cases h

/-! ## Listening -/

/-- A place where a socket can be made for a path: the path ends at a name, at which nothing stands
or a socket that nobody serves. -/
structure Available (path : String) (fs : FileSystem) (directory : Location) (name : String) :
    Prop where
  address : isAddress path = true
  ending : fs.ending path = .ok (.name directory name false)
  free : ∀ node, fs.node? (directory ++ [name]) = some node → node = .socket false

/-- What gives way is a socket that nobody serves, at a path that can be the address of one. -/
theorem eq_or_exists_of_clear (hfs : fs.IsTree) (h : clear path fs = .ok cleared) :
    cleared = fs ∨ ∃ directory name, fs.ending path = .ok (.name directory name false) ∧
      fs.node? (directory ++ [name]) = some (.socket false) ∧ isAddress path = true ∧
        cleared = fs.remove (directory ++ [name]) := by
  by_cases hexists : fs.pathExists path = true
  swap
  · rw [clear, if_pos hexists] at h
    exact .inl (Except.ok.inj h).symm
  rw [clear, if_neg (not_not_intro hexists)] at h
  split at h
  · exact .inl (Except.ok.inj h).symm
  next l hentry =>
  split at h
  · next served hnode =>
    by_cases haddress : isAddress path = true
    swap
    · rw [if_pos haddress] at h
      cases h
    rw [if_neg (not_not_intro haddress)] at h
    cases served with
    | true => cases h
    | false =>
      -- directories are no sockets, so the path ends at a name without a slash
      have hsocket := FileSystem.not_isDirectory_of_socket hnode
      rcases FileSystem.entry_eq_ok_iff.mp hentry with
        hplace | ⟨_, _, hname, hl⟩ | ⟨directory, name, hname, -, rfl⟩
      · exact absurd (FileSystem.isDirectory_of_ending_place hfs hplace) hsocket
      · exact absurd (FileSystem.isDirectory_of_ending_slash hname hl) hsocket
      · exact .inr ⟨directory, name, hname, hnode, haddress, (Except.ok.inj h).symm⟩
  · cases h

/-- What stands at an available place gives way. -/
theorem Available.exists_clear {directory : Location} {name : String}
    (h : Available path fs directory name) :
    ∃ cleared, clear path fs = .ok cleared ∧
      cleared.ending path = .ok (.name directory name false) ∧
        cleared.node? (directory ++ [name]) = none := by
  cases hnode : fs.node? (directory ++ [name]) with
  | none =>
    refine ⟨fs, ?_, h.ending, hnode⟩
    rw [clear, if_pos]
    rw [FileSystem.pathExists, FileSystem.resolve_of_none h.ending hnode]
    exact Bool.false_ne_true
  | some node =>
    obtain rfl := h.free node hnode
    refine ⟨fs.remove (directory ++ [name]), ?_, (FileSystem.keeps_remove hnode).ending h.ending,
      FileSystem.node?_remove_self (by simp)⟩
    have hexists : fs.pathExists path = true := by
      rw [FileSystem.pathExists, FileSystem.resolve_of_node h.ending hnode nofun]
      rfl
    rw [clear, if_neg (not_not_intro hexists), FileSystem.entry_of_node h.ending hnode]
    simp only [hnode, h.address, not_true, if_false, Bool.false_eq_true]

/-- A socket can be made at a free place. -/
theorem create_of_free {directory : Location} {name : String} (haddress : isAddress path = true)
    (hending : fs.ending path = .ok (.name directory name false))
    (hfree : fs.node? (directory ++ [name]) = none) :
    create path fs = .ok (fs.insert (directory ++ [name]) (.socket true)) := by
  have hcheck := (FileSystem.ending_eq_ok_iff.mp hending).1
  rw [FileSystem.checkText] at hcheck
  split_ifs at hcheck with hnul hempty
  rw [create, if_neg hempty, if_neg hnul, if_neg (not_not_intro haddress), hending]
  simp only [hfree, Option.isSome_none, Bool.false_eq_true, if_false]

/-- A socket is made at a free place only. -/
theorem exists_of_create (hpath : path ≠ "") (h : create path fs = .ok bound) :
    isAddress path = true ∧ ∃ directory name,
      fs.ending path = .ok (.name directory name false) ∧
        fs.node? (directory ++ [name]) = none ∧
          bound = fs.insert (directory ++ [name]) (.socket true) := by
  rw [create, if_neg (by simpa using hpath)] at h
  split_ifs at h with hnul haddress
  split at h
  · next directory name hending =>
    split_ifs at h with hnode
    exact ⟨by simpa using haddress, directory, name, hending, by simpa using hnode,
      (Except.ok.inj h).symm⟩
  · cases h

theorem listen_of_clear_error {error : ListenerError} (h : clear e.path fs = .error error) :
    e.listen fs = (fs, .error error) := by
  rw [listen, h]

theorem listen_of_create_error {error : ListenerError} (h : clear e.path fs = .ok cleared)
    (h' : create e.path cleared = .error error) : e.listen fs = (cleared, .error error) := by
  simp only [listen, h, h']

theorem listen_of_create (h : clear e.path fs = .ok cleared)
    (h' : create e.path cleared = .ok bound) : e.listen fs = (bound, .ok ()) := by
  simp only [listen, h, h']

/-- A place at which a socket can be made is free, or was freed from a socket nobody served. -/
theorem vacates_clear (hfs : fs.IsTree) (h : clear path fs = .ok cleared) {directory : Location}
    {name : String} (hending : cleared.ending path = .ok (.name directory name false))
    (hfree : cleared.node? (directory ++ [name]) = none) :
    fs.ending path = .ok (.name directory name false) ∧
      fs.Vacates (directory ++ [name]) cleared := by
  rcases eq_or_exists_of_clear hfs h with rfl | ⟨d, n, hending', hnode, -, rfl⟩
  · refine ⟨hending, rfl, fun node hnode => ?_, hfree, fun _ _ => rfl⟩
    rw [hfree] at hnode
    cases hnode
  · have hkept := (FileSystem.keeps_remove hnode).ending hending'
    rw [hkept] at hending
    cases hending
    refine ⟨hending', rfl, fun node hnode' => ?_, hfree, fun l' => FileSystem.node?_remove_of_ne⟩
    exact Option.some.inj (hnode'.symm.trans hnode)

/-- A socket that has been made is removed again. -/
theorem release_insert {directory : Location} {name : String}
    (hending : cleared.ending e.path = .ok (.name directory name false))
    (hfree : cleared.node? (directory ++ [name]) = none) :
    e.release (cleared.insert (directory ++ [name]) (.socket true)) =
      (cleared.insert (directory ++ [name]) (.socket true)).remove (directory ++ [name]) := by
  have hmade : (cleared.insert (directory ++ [name]) (.socket true)).node? (directory ++ [name]) =
      some (.socket true) := by rw [FileSystem.node?_insert, if_pos rfl]
  have hkept := (FileSystem.keeps_insert hfree (.socket true)).ending hending
  rw [release, FileSystem.entry_of_node hkept hmade]
  exact if_neg (FileSystem.not_isDirectory_of_socket hmade)

/-- What listening that succeeds went through. -/
theorem exists_of_listen (hfs : fs.IsTree) (hpath : e.path ≠ "") (h : (e.listen fs).2 = .ok ()) :
    ∃ cleared directory name, Available e.path fs directory name ∧
      fs.Vacates (directory ++ [name]) cleared ∧
      cleared.ending e.path = .ok (.name directory name false) ∧
      (e.listen fs).1 = cleared.insert (directory ++ [name]) (.socket true) := by
  cases hclear : clear e.path fs with
  | error =>
    rw [listen_of_clear_error hclear] at h
    cases h
  | ok cleared =>
    cases hcreate : create e.path cleared with
    | error =>
      rw [listen_of_create_error hclear hcreate] at h
      cases h
    | ok bound =>
      obtain ⟨haddress, directory, name, hending, hfree, rfl⟩ := exists_of_create hpath hcreate
      obtain ⟨hending', hvacates⟩ := vacates_clear hfs hclear hending hfree
      rw [listen_of_create hclear hcreate]
      exact ⟨cleared, directory, name, ⟨haddress, hending', hvacates.socket⟩, hvacates, hending,
        rfl⟩

theorem Available.snd_listen {directory : Location} {name : String}
    (h : Available e.path fs directory name) : (e.listen fs).2 = .ok () := by
  obtain ⟨cleared, hclear, hending, hfree⟩ := h.exists_clear
  rw [listen_of_create hclear (create_of_free h.address hending hfree)]

/-- **Listening succeeds exactly at available places.** -/
theorem snd_listen_eq_ok_iff (hfs : fs.IsTree) (hpath : e.path ≠ "") :
    (e.listen fs).2 = .ok () ↔ ∃ directory name, Available e.path fs directory name := by
  constructor
  · intro h
    obtain ⟨-, directory, name, havailable, -⟩ := exists_of_listen hfs hpath h
    exact ⟨directory, name, havailable⟩
  · rintro ⟨directory, name, h⟩
    exact h.snd_listen

/-- **Listening that fails changes nothing**: where a socket gave way, the new one can be made. -/
theorem fst_listen_of_error (hfs : fs.IsTree) {error : ListenerError}
    (h : (e.listen fs).2 = .error error) : (e.listen fs).1 = fs := by
  cases hclear : clear e.path fs with
  | error => rw [listen_of_clear_error hclear]
  | ok cleared =>
    rcases eq_or_exists_of_clear hfs hclear with
      rfl | ⟨directory, name, hending, hnode, haddress, rfl⟩
    · cases hcreate : create e.path cleared with
      | error => rw [listen_of_create_error hclear hcreate]
      | ok bound =>
        rw [listen_of_create hclear hcreate] at h
        cases h
    · have havailable : Available e.path fs directory name :=
        ⟨haddress, hending, fun node hnode' => Option.some.inj (hnode'.symm.trans hnode)⟩
      rw [havailable.snd_listen] at h
      cases h

/-- **What is left after listening and releasing**: the place of the socket is free, and everything
else is as it was. -/
theorem vacates_release (hfs : fs.IsTree) (hpath : e.path ≠ "")
    (h : (e.listen fs).2 = .ok ()) :
    ∃ directory name, Available e.path fs directory name ∧
      fs.Vacates (directory ++ [name]) (e.release (e.listen fs).1) := by
  obtain ⟨cleared, directory, name, havailable, hvacates, hending, hlisten⟩ :=
    exists_of_listen hfs hpath h
  refine ⟨directory, name, havailable, ?_⟩
  rw [hlisten, release_insert hending hvacates.free]
  refine ⟨hvacates.working, hvacates.socket, FileSystem.node?_remove_self (by simp), ?_⟩
  intro l hl
  rw [FileSystem.node?_remove_of_ne hl, FileSystem.node?_insert, if_neg hl, hvacates.node l hl]

end SocketEndpoint

end TargetBench
