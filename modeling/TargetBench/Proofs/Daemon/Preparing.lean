import TargetBench.Proofs.Daemon.Footprint
import TargetBench.Proofs.FileSystem.Making

/-!
# The directory of a socket

A daemon prepares its endpoint before it listens there, and starts only if that went well. A place
that is occupied already counts as prepared, whatever stands there. So it goes well if the
directory of the socket is there afterwards, and also if the way to it is blocked; it fails exactly
if neither holds. In each case nothing is lost and nothing is gained but directories on the way.

## Main definitions

* `SocketEndpoint.Prepared`: what preparing an endpoint comes to

## Main results

* `SocketEndpoint.prepared`: preparing every endpoint whose socket has a directory of its own
* `Bootstrap.outcome_eq_ok_iff`: a start succeeds exactly if nothing stops it
* `Bootstrap.prepared_unless_blocked`: a daemon that has started finds the directory of its socket,
  unless the way to it is blocked
-/

namespace TargetBench

variable {before after : FileSystem} {directory : String}

/-! ## Endpoints -/

namespace SocketEndpoint

variable {e : SocketEndpoint}

/-- What preparing an endpoint comes to, given the directory that its socket is in, the file system
before and after, and the outcome. -/
structure Prepared (directory : String) (before after : FileSystem)
    (outcome : Except PreparationError Unit) : Prop where
  /-- Whatever stood anywhere still stands there. -/
  stands : ∀ l node, before.node? l = some node → after.node? l = some node
  /-- What is new is a directory on the way to the socket, open to its owner only. -/
  made : ∀ l node, before.node? l = none → after.node? l = some node →
    node = .directory 0o700 ∧ ∃ way,
      Relation.ReflTransGen (fun p q => Path.parent? p = some q) directory way ∧
        after.resolve way = .ok l
  working : after.working = before.working
  /-- Preparing goes well exactly if the directory is there afterwards, links followed, or the way
  to it is blocked. -/
  ok_iff : outcome = .ok () ↔
    after.leadsToDirectory directory = true ∨ FileSystem.Blocked before after directory
  /-- Where the way is blocked, there is no directory. -/
  astray : FileSystem.Blocked before after directory → after.leadsToDirectory directory = false
  /-- Preparing that fails tells which directory could not be made. -/
  error : ∀ error, outcome = .error error → ∃ source, error = .createDirectory directory source
  /-- What is left can be the file system before another start. -/
  tree : after.IsTree

theorem prepare_of_parent (hparent : Path.parent? e.path = some directory)
    (hdirectory : directory ≠ "") (fs : FileSystem) :
    e.prepare fs = ((fs.makeDirectories directoryMode directory).1,
      match (fs.makeDirectories directoryMode directory).2 with
      | .error (.unreachable source) => .error (.createDirectory directory source)
      | _ => .ok ()) := by
  simp only [prepare, hparent]
  rw [if_neg (by simpa using hdirectory)]
  rcases fs.makeDirectories directoryMode directory with ⟨_, (_ | _) | _⟩ <;> rfl

/-- **Preparing every endpoint whose socket has a directory of its own.** -/
theorem prepared (hbefore : before.IsTree) (hparent : Path.parent? e.path = some directory)
    (hdirectory : directory ≠ "") :
    Prepared directory before (e.prepare before).1 (e.prepare before).2 := by
  have hfurnishes := before.furnishes_makeDirectories directoryMode directory
  have htree := hbefore.makeDirectories directoryMode directory
  rw [prepare_of_parent hparent hdirectory]
  refine ⟨fun l node => hfurnishes.keeps.stands l nofun node, fun l node hnone hnode => ?_,
    hfurnishes.working, ?_, fun hblocked => hblocked.astray htree, fun error herror => ?_, htree⟩
  · rcases hfurnishes.node l with hsame | ⟨-, hnew, hway⟩
    · cases hnone.symm.trans (hsame.symm.trans hnode)
    · exact ⟨Option.some.inj (hnode.symm.trans hnew), hway⟩
  · -- of the errors, that of an occupied place is none for an endpoint
    rw [← FileSystem.makeDirectories_eq_ok_iff hbefore hparent hdirectory,
      ← FileSystem.makeDirectories_eq_occupied_iff hbefore hparent]
    rcases (before.makeDirectories directoryMode directory).2 with (_ | _) | _ <;> simp
  · revert herror
    rcases (before.makeDirectories directoryMode directory).2 with (_ | source) | _
    · nofun
    · rintro ⟨⟩
      exact ⟨source, rfl⟩
    · nofun

end SocketEndpoint

/-! ## Starts -/

namespace Bootstrap

variable {loaded : Except (List ConfigurationError) Configuration}
  {hasLog : Configuration → Bool} {c : Configuration}

/-- A start succeeds exactly if nothing stops it. -/
theorem outcome_eq_ok_iff :
    (run loaded hasLog before).outcome = .ok c ↔ Sound loaded hasLog before c := by
  have hgoes := goes_run loaded hasLog before
  refine ⟨fun h => (hgoes.of_ok h).2.1, fun hsound => ?_⟩
  cases houtcome : (run loaded hasLog before).outcome with
  | error e => exact absurd hsound ((hgoes.of_error houtcome).2 c)
  | ok c' =>
    obtain ⟨-, hsound', -⟩ := hgoes.of_ok houtcome
    cases hsound.loaded.symm.trans hsound'.loaded
    rfl

/-- A start that gets as far as to its socket leaves what preparing that leaves. -/
theorem Goes.files_of_ready {start : Bootstrap} (h : Goes loaded hasLog before start)
    (hloaded : loaded = .ok c) (hlog : hasLog c = true) :
    start.files = (c.daemonSocket.prepare before).1 := by
  cases h with
  | configuration hloaded' => cases hloaded.symm.trans hloaded'
  | telemetry hloaded' hnone =>
    cases hloaded.symm.trans hloaded'
    cases hlog.symm.trans hnone
  | socket hloaded' | started hloaded' =>
    cases hloaded.symm.trans hloaded'
    rfl

/-- **A daemon that has started finds the directory of its socket, unless the way to it is
blocked.** -/
theorem prepared_unless_blocked {e : SocketEndpoint} (hbefore : before.IsTree)
    (hparent : Path.parent? e.path = some directory) (hdirectory : directory ≠ "") :
    SocketEndpoint.Prepared directory before (e.prepare before).1 (e.prepare before).2 ∧
      ∀ loaded hasLog c, c.daemonSocket = e →
        ((run loaded hasLog before).outcome = .ok c ↔ loaded = .ok c ∧ hasLog c = true ∧
          ((run loaded hasLog before).files.leadsToDirectory directory = true ∨
            FileSystem.Blocked before (run loaded hasLog before).files directory)) := by
  have hprepared := SocketEndpoint.prepared hbefore hparent hdirectory
  refine ⟨hprepared, ?_⟩
  rintro loaded hasLog c rfl
  rw [outcome_eq_ok_iff]
  constructor
  · rintro ⟨hloaded, hlog, hprepare⟩
    rw [(goes_run loaded hasLog before).files_of_ready hloaded hlog]
    exact ⟨hloaded, hlog, hprepared.ok_iff.mp hprepare⟩
  · rintro ⟨hloaded, hlog, hfound⟩
    rw [(goes_run loaded hasLog before).files_of_ready hloaded hlog] at hfound
    exact ⟨hloaded, hlog, hprepared.ok_iff.mpr hfound⟩

/-- A daemon starts over a file that stands where the directory of its socket should be. -/
theorem prepared_unless_blocked_file :
    let files : FileSystem := ⟨[(["run"], .directory 0o755), (["run", "d"], .file [])], ["run"]⟩
    let c : Configuration := ⟨⟨"d/s"⟩, "info", .json, "specs", .thread, none, "default",
      Unsigned.clamp 64 5000⟩
    let start := run (.ok c) (fun _ => true) files
    files.IsTree ∧ Path.parent? "d/s" = some "d" ∧ "d" ≠ "" ∧ start.outcome = .ok c ∧
      start.files.leadsToDirectory "d" = false ∧
      SocketEndpoint.Prepared "d" files start.files (c.daemonSocket.prepare files).2 := by
  intro files c start
  have hfiles : files.IsTree := .of_nodes (by decide) (by decide)
  have hparent : Path.parent? "d/s" = some "d" := by decide
  have hstart : start.files = (c.daemonSocket.prepare files).1 :=
    (goes_run _ _ _).files_of_ready rfl rfl
  obtain ⟨hprepared, hstarts⟩ := prepared_unless_blocked (e := c.daemonSocket) hfiles hparent
    (by decide)
  rw [← hstart] at hprepared
  -- the path still ends at the file, so it is blocked there
  have hkeeps : FileSystem.Keeps ∅ files start.files :=
    ⟨hprepared.working, fun l _ node => hprepared.stands l node, nofun⟩
  have hlast : FileSystem.dropEmpty (Path.pieces "d").reverse = ["d"] := by decide
  have hname : FileSystem.IsName "d" := ⟨by decide, by decide, by decide⟩
  have hending : files.ending "d" = .ok (.name ["run"] "d" false) :=
    FileSystem.ending_eq_ok_iff.mpr ⟨by decide, .name hlast .done (by decide) hname (by decide)⟩
  have hfile : start.files.node? (["run"] ++ ["d"]) = some (.file []) :=
    hprepared.stands _ _ (by decide)
  have hresolve := FileSystem.resolve_of_node (hkeeps.ending hending) hfile nofun
  have hastray : start.files.leadsToDirectory "d" = false := by
    rw [FileSystem.leadsToDirectory, hresolve]
    simp only [FileSystem.isDirectory, hfile]
  have hblocked : FileSystem.Blocked files start.files "d" :=
    .here ⟨hastray, ["run"], "d", false, .file [], hkeeps.ending hending, hfile⟩
  have houtcome := (hstarts (.ok c) (fun _ => true) c rfl).mpr ⟨rfl, rfl, .inr hblocked⟩
  exact ⟨hfiles, hparent, by decide, houtcome, hastray, hprepared⟩

end Bootstrap

end TargetBench
