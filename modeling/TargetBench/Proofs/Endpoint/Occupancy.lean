import TargetBench.Proofs.Endpoint.Listening
import TargetBench.Proofs.Endpoint.Rereading

/-!
# What stands in the way of listening

Listening at a path is decided by what stands there. A free place and a socket that nobody serves
are taken; everything else stays, and only two of the errors tell what it is. Links take part in
two ways: whether there is anything at a path is asked with links followed, what it is without.

## Main definitions

* `SocketEndpoint.Settled`: what listening does, by what stands at the path

## Main results

* `SocketEndpoint.clear_cases`: what is asked about a path before a socket is made there
* `SocketEndpoint.listen_settled`: what listening does in every file system
* `SocketEndpoint.listen_unnamed`: the empty path gives a socket without a place
-/

namespace TargetBench

namespace SocketEndpoint

variable {e : SocketEndpoint} {fs : FileSystem} {path : String} {l : Location}

/-! ## What is asked first -/

/-- A path whose own node is a socket leads there. -/
theorem pathExists_of_socket {served : Bool} (hfs : fs.IsTree) (hentry : fs.entry path = .ok l)
    (hnode : fs.node? l = some (.socket served)) : fs.pathExists path = true := by
  have hsocket := FileSystem.not_isDirectory_of_socket hnode
  rcases FileSystem.entry_eq_ok_iff.mp hentry with
    hplace | ⟨_, _, hname, hl⟩ | ⟨directory, name, hname, -, rfl⟩
  · exact absurd (FileSystem.isDirectory_of_ending_place hfs hplace) hsocket
  · exact absurd (FileSystem.isDirectory_of_ending_slash hname hl) hsocket
  · have hlink (target : String) : Node.socket served ≠ .link target := by simp
    rw [FileSystem.pathExists, FileSystem.resolve_of_node hname hnode hlink]
    rfl

/-- What is asked about a path before a socket is made there: whether it leads anywhere, links
followed, whether its own node is a socket, and whether somebody serves this. -/
theorem clear_cases (path : String) (fs : FileSystem) :
    fs.pathExists path = false ∧ clear path fs = .ok fs ∨
    (∃ l served, fs.pathExists path = true ∧ fs.entry path = .ok l ∧
      fs.node? l = some (.socket served) ∧
      clear path fs = if ¬ isAddress path = true then .error (.connect path)
        else if served = true then .error (.inUse path) else .ok (fs.remove l)) ∨
    ∃ l, fs.pathExists path = true ∧ fs.entry path = .ok l ∧
      (∀ served, fs.node? l ≠ some (.socket served)) ∧
      clear path fs = .error (.notSocket path) := by
  cases hexists : fs.pathExists path with
  | false => exact .inl ⟨rfl, by rw [clear, if_pos (by simp [hexists])]⟩
  | true =>
    obtain ⟨l', hl'⟩ : ∃ l', fs.resolve path = .ok l' := by
      cases hresolve : fs.resolve path with
      | error error =>
        rw [FileSystem.pathExists, hresolve] at hexists
        cases hexists
      | ok l' => exact ⟨l', rfl⟩
    obtain ⟨l, hentry⟩ := FileSystem.exists_entry_of_resolve hl'
    by_cases hsocket : ∃ served, fs.node? l = some (.socket served)
    · obtain ⟨served, hnode⟩ := hsocket
      refine .inr (.inl ⟨l, served, rfl, hentry, hnode, ?_⟩)
      simp only [clear, hexists, not_true, if_false, hentry, hnode]
    · refine .inr (.inr ⟨l, rfl, hentry, not_exists.mp hsocket, ?_⟩)
      rw [clear, if_neg (by simp [hexists]), hentry]
      simp only
      split
      · next served hnode => exact absurd ⟨served, hnode⟩ hsocket
      · rfl

/-- No error about making a socket tells what stands in its way. -/
theorem eq_of_create_error {error : ListenerError} (h : create path fs = .error error) :
    error = .bind path ∨ error = .invalidPath path := by
  rw [create] at h
  split_ifs at h
  · exact .inr (Except.error.inj h).symm
  · split at h
    · split_ifs at h
      exact .inl (Except.error.inj h).symm
    · exact .inl (Except.error.inj h).symm
  · exact .inl (Except.error.inj h).symm

/-- An error that tells what stands at the path is found out before a socket is made. -/
theorem clear_of_listen_error {error : ListenerError} (h : (e.listen fs).2 = .error error)
    (hbind : error ≠ .bind e.path) (hpath : error ≠ .invalidPath e.path) :
    clear e.path fs = .error error := by
  cases hclear : clear e.path fs with
  | error error' =>
    rw [listen_of_clear_error hclear] at h
    cases h
    rfl
  | ok cleared =>
    cases hcreate : create e.path cleared with
    | error error' =>
      rw [listen_of_create_error hclear hcreate] at h
      cases h
      rcases eq_of_create_error hcreate with rfl | rfl
      · exact absurd rfl hbind
      · exact absurd rfl hpath
    | ok bound =>
      rw [listen_of_create hclear hcreate] at h
      cases h

/-! ## What the errors tell -/

/-- A socket is reported as served exactly if it stands at the path and somebody serves it, and
the path can be the address of one. -/
theorem listen_inUse_iff (hfs : fs.IsTree) :
    (e.listen fs).2 = .error (.inUse e.path) ↔
      ∃ l, fs.entry e.path = .ok l ∧ fs.node? l = some (.socket true) ∧
        isAddress e.path = true := by
  constructor
  · intro h
    have hclear := clear_of_listen_error h nofun nofun
    rcases clear_cases e.path fs with
      ⟨-, hcase⟩ | ⟨l, served, -, hentry, hnode, hcase⟩ | ⟨l, -, -, -, hcase⟩
    · cases hcase.symm.trans hclear
    · rw [hclear] at hcase
      split_ifs at hcase with haddress hserved
      · exact ⟨l, hentry, hserved ▸ hnode, haddress⟩
      · cases hcase
    · cases hcase.symm.trans hclear
  · rintro ⟨l, hentry, hnode, haddress⟩
    have hexists := pathExists_of_socket hfs hentry hnode
    have hclear : clear e.path fs = .error (.inUse e.path) := by
      simp only [clear, hexists, not_true, if_false, hentry, hnode, haddress, if_true]
    rw [listen_of_clear_error hclear]

/-- Something is reported to be no socket exactly if the path, links followed, leads anywhere, and
its own node is no socket. -/
theorem listen_notSocket_iff :
    (e.listen fs).2 = .error (.notSocket e.path) ↔ fs.pathExists e.path = true ∧
      ∃ l, fs.entry e.path = .ok l ∧ ∀ served, fs.node? l ≠ some (.socket served) := by
  rcases clear_cases e.path fs with
    ⟨hexists, hcase⟩ | ⟨l, served, hexists, hentry, hnode, hcase⟩ |
      ⟨l, hexists, hentry, hnode, hcase⟩
  · refine ⟨fun h => ?_, fun ⟨h, _⟩ => ?_⟩
    · cases hcase.symm.trans (clear_of_listen_error h nofun nofun)
    · cases hexists.symm.trans h
  · refine ⟨fun h => ?_, fun ⟨_, l', hentry', hnode'⟩ => ?_⟩
    · rw [clear_of_listen_error h nofun nofun] at hcase
      split_ifs at hcase <;> cases hcase
    · cases hentry.symm.trans hentry'
      exact absurd hnode (hnode' served)
  · rw [listen_of_clear_error hcase]
    exact ⟨fun _ => ⟨hexists, l, hentry, hnode⟩, fun _ => rfl⟩

/-! ## What listening changes -/

/-- Wherever listening succeeds, it does so at one place, at which the new socket stands. -/
theorem exists_place_of_listen (hfs : fs.IsTree) (hpath : e.path ≠ "")
    (h : (e.listen fs).2 = .ok ()) :
    ∃ l, (fs.entry e.path = .error .notFound ∧ fs.node? l = none ∨
        fs.entry e.path = .ok l ∧ fs.node? l = some (.socket false)) ∧
      (e.listen fs).1.entry e.path = .ok l ∧
      (e.listen fs).1.node? l = some (.socket true) ∧
      (∀ l' ≠ l, (e.listen fs).1.node? l' = fs.node? l') ∧
      (e.listen fs).1.working = fs.working := by
  obtain ⟨cleared, directory, name, havailable, hvacates, hending, hlisten⟩ :=
    exists_of_listen hfs hpath h
  have hmade : (e.listen fs).1.node? (directory ++ [name]) = some (.socket true) := by
    rw [hlisten, FileSystem.node?_insert, if_pos rfl]
  refine ⟨directory ++ [name], ?_, ?_, hmade, fun l' hl' => ?_, ?_⟩
  · cases hnode : fs.node? (directory ++ [name]) with
    | none => exact .inl ⟨FileSystem.entry_of_none havailable.ending hnode, rfl⟩
    | some node =>
      exact .inr ⟨FileSystem.entry_of_node havailable.ending hnode,
        congrArg some (havailable.free node hnode)⟩
  · refine FileSystem.entry_of_node ?_ hmade
    rw [hlisten]
    exact (FileSystem.keeps_insert hvacates.free _).ending hending
  · rw [hlisten, FileSystem.node?_insert, if_neg hl', hvacates.node l' hl']
  · rw [hlisten]
    exact hvacates.working

/-- What stands at the path is a socket that nobody serves, if listening succeeds. -/
theorem exists_listen_error_of_node (hfs : fs.IsTree) (hentry : fs.entry e.path = .ok l)
    {node : Node} (hnode : fs.node? l = some node) (hother : node ≠ .socket false) :
    ∃ error, (e.listen fs).2 = .error error := by
  have hpath : e.path ≠ "" := by
    intro hempty
    rw [hempty] at hentry
    cases hentry
  cases h : (e.listen fs).2 with
  | error error => exact ⟨error, rfl⟩
  | ok =>
    obtain ⟨l', hfree, -⟩ := exists_place_of_listen hfs hpath h
    rcases hfree with ⟨hnone, -⟩ | ⟨hentry', hnode'⟩
    · cases hentry.symm.trans hnone
    · cases hentry.symm.trans hentry'
      exact absurd (Option.some.inj (hnode.symm.trans hnode')) hother

theorem listen_of_empty (h : e.path = "") : e.listen fs = (fs, .ok ()) := by
  have hclear : clear e.path fs = .ok fs := by
    rw [h]
    rfl
  have hcreate : create e.path fs = .ok fs := by
    rw [h]
    rfl
  exact listen_of_create hclear hcreate

/-- What listening does, by what stands at the path. -/
structure Settled (e : SocketEndpoint) (fs : FileSystem) : Prop where
  /-- Listening that fails changes nothing at all. -/
  unchanged : ∀ error, (e.listen fs).2 = .error error → (e.listen fs).1 = fs
  /-- Listening at a path succeeds exactly if a socket can be made there. -/
  goes : e.path ≠ "" →
    ((e.listen fs).2 = .ok () ↔ ∃ directory name, Available e.path fs directory name)
  /-- Listening that succeeds changes one place only, the one that the path names. Nothing stood
  there, or a socket that nobody served, and now it is the socket that is listened to. -/
  changes : e.path ≠ "" → (e.listen fs).2 = .ok () →
    ∃ l, (fs.entry e.path = .error .notFound ∧ fs.node? l = none ∨
        fs.entry e.path = .ok l ∧ fs.node? l = some (.socket false)) ∧
      (e.listen fs).1.entry e.path = .ok l ∧
      (e.listen fs).1.node? l = some (.socket true) ∧
      (∀ l' ≠ l, (e.listen fs).1.node? l' = fs.node? l') ∧
      (e.listen fs).1.working = fs.working
  /-- The empty path stands for a socket that has no place, so nothing changes. -/
  unnamed : e.path = "" → e.listen fs = (fs, .ok ())
  /-- No text is read as an endpoint at the empty path. -/
  named : ∀ s, parse s = .ok e → e.path ≠ ""
  /-- A socket that is served, a file, a directory and a link, wherever it leads, stay. -/
  occupied : ∀ l node, fs.entry e.path = .ok l → fs.node? l = some node →
    node ≠ .socket false → ∃ error, (e.listen fs).2 = .error error
  inUse : (e.listen fs).2 = .error (.inUse e.path) ↔
    ∃ l, fs.entry e.path = .ok l ∧ fs.node? l = some (.socket true) ∧ isAddress e.path = true
  notSocket : (e.listen fs).2 = .error (.notSocket e.path) ↔ fs.pathExists e.path = true ∧
    ∃ l, fs.entry e.path = .ok l ∧ ∀ served, fs.node? l ≠ some (.socket served)

/-- **What listening does in every file system**, at every path. -/
theorem listen_settled (e : SocketEndpoint) (hfs : fs.IsTree) : e.Settled fs where
  unchanged _ h := fst_listen_of_error hfs h
  goes hpath := snd_listen_eq_ok_iff hfs hpath
  changes hpath h := exists_place_of_listen hfs hpath h
  unnamed := listen_of_empty
  named _ h := path_ne_empty_of_parse h
  occupied _ _ hentry hnode hother := exists_listen_error_of_node hfs hentry hnode hother
  inUse := listen_inUse_iff hfs
  notSocket := listen_notSocket_iff

/-- A link to a socket that nobody serves stays, and is reported to be no socket. -/
theorem listen_settled_link :
    let fs : FileSystem :=
      ⟨[(["run"], .directory 0o755), (["run", "old"], .socket false), (["run", "d"], .link "old")],
        ["run"]⟩
    let e : SocketEndpoint := ⟨"d"⟩
    fs.IsTree ∧ e.Settled fs ∧ (e.listen fs).2 = .error (.notSocket "d") := by
  intro fs e
  have hfs : fs.IsTree := .of_nodes (by decide) (by decide)
  have h : e.Settled fs := listen_settled e hfs
  have hpieces : Path.pieces "d" = ["d"] ∧ Path.pieces "old" = ["old"] := by decide
  have hstart : fs.start "d" = ["run"] := by decide
  have hnames : FileSystem.IsName "d" ∧ FileSystem.IsName "old" :=
    ⟨⟨by decide, by decide, by decide⟩, ⟨by decide, by decide, by decide⟩⟩
  have hnode : fs.node? ["run", "d"] = some (.link "old") := by decide
  have hresolve : fs.resolve e.path = .ok ["run", "old"] := by
    refine FileSystem.resolve_eq_ok_iff.mpr ⟨by decide, ?_⟩
    have hsocket : fs.node? ["run", "old"] = some (.socket false) := by decide
    rw [hpieces.1, hstart]
    refine .link (by decide) hnames.1 hnode (by decide) ?_
    rw [hpieces.2]
    exact .name (by decide) hnames.2 hsocket nofun .done
  have hending : fs.ending e.path = .ok (.name ["run"] "d" false) := by
    refine FileSystem.ending_eq_ok_iff.mpr ⟨by decide, ?_⟩
    have hlast : FileSystem.dropEmpty (Path.pieces e.path).reverse = ["d"] := by decide
    exact .name hlast (hstart ▸ .done) (by decide) hnames.1 (by decide)
  refine ⟨hfs, h, h.notSocket.mpr ⟨?_, _, FileSystem.entry_of_node hending hnode, ?_⟩⟩
  · rw [FileSystem.pathExists, hresolve]
    rfl
  · intro served
    rw [List.singleton_append, hnode]
    simp

/-- **The empty path gives a socket without a place**: listening succeeds, and yet nothing that is
listened to stands where the path leads. -/
theorem listen_unnamed :
    let fs : FileSystem := ⟨[], []⟩
    let e : SocketEndpoint := ⟨""⟩
    fs.IsTree ∧ (e.listen fs).2 = .ok () ∧
      ¬ ∃ l, (e.listen fs).1.entry e.path = .ok l ∧
        (e.listen fs).1.node? l = some (.socket true) := by
  intro fs e
  have hlisten : e.listen fs = (fs, .ok ()) := listen_of_empty rfl
  refine ⟨.of_nodes (by decide) (by decide), by rw [hlisten], ?_⟩
  rintro ⟨l, hentry, -⟩
  rw [hlisten] at hentry
  cases hentry

end SocketEndpoint

end TargetBench
