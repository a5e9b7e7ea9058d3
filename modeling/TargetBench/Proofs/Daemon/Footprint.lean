import TargetBench.Daemon.Launch
import TargetBench.Proofs.Endpoint.Listening

/-!
# What a run of a daemon leaves behind

A daemon reports that it starts, and then whether it started. What its run leaves in the file system
are directories on the way to its socket. The socket itself is gone after a run that went well, with
any older one that nobody served; a run that fails leaves in place whatever stands at its path.

## Main definitions

* `Bootstrap.Goes`: the ways in which a start can go
* `Bootstrap.Sound`: starts that nothing stops
* `DaemonRun.Footprint`: what a run reported and what it left in the file system

## Main results

* `Bootstrap.Goes.furnishes`: a start adds directories on the way to the socket
* `DaemonRun.launch_footprint`: the footprint of every run
-/

namespace TargetBench

variable {loaded : Except (List ConfigurationError) Configuration}
  {hasLog : Configuration → Bool} {fs : FileSystem}

/-! ## The start -/

namespace Bootstrap

/-- The ways in which a start can go: it fails at its configuration, its log or its socket, or it
succeeds. -/
inductive Goes (loaded : Except (List ConfigurationError) Configuration)
    (hasLog : Configuration → Bool) (fs : FileSystem) : Bootstrap → Prop
  | configuration {errors : List ConfigurationError} (hloaded : loaded = .error errors) :
    Goes loaded hasLog fs (failed (.configuration errors) fs)
  | telemetry {c : Configuration} (hloaded : loaded = .ok c) (hlog : hasLog c = false) :
    Goes loaded hasLog fs (failed .telemetry fs)
  | socket {c : Configuration} {e : PreparationError} (hloaded : loaded = .ok c)
    (hlog : hasLog c = true) (hprepare : (c.daemonSocket.prepare fs).2 = .error e) :
    Goes loaded hasLog fs (failed (.socket e) (c.daemonSocket.prepare fs).1)
  | started {c : Configuration} (hloaded : loaded = .ok c) (hlog : hasLog c = true)
    (hprepare : (c.daemonSocket.prepare fs).2 = .ok ()) :
    Goes loaded hasLog fs
      ⟨[.bootstrapStarting, .bootstrapSucceeded c], .ok c, (c.daemonSocket.prepare fs).1⟩

theorem goes_run (loaded : Except (List ConfigurationError) Configuration)
    (hasLog : Configuration → Bool) (fs : FileSystem) :
    Goes loaded hasLog fs (run loaded hasLog fs) := by
  cases hloaded : loaded with
  | error errors => exact .configuration rfl
  | ok c =>
    by_cases hlog : hasLog c = true
    · rcases hprepare : c.daemonSocket.prepare fs with ⟨files, e | _⟩
      · have hrun : run (.ok c) hasLog fs = failed (.socket e) (c.daemonSocket.prepare fs).1 := by
          simp only [run, hlog, not_true, if_false, hprepare]
        rw [hrun]
        exact .socket rfl hlog (congrArg Prod.snd hprepare)
      · have hrun : run (.ok c) hasLog fs = ⟨[.bootstrapStarting, .bootstrapSucceeded c], .ok c,
            (c.daemonSocket.prepare fs).1⟩ := by
          simp only [run, hlog, not_true, if_false, hprepare]
        rw [hrun]
        exact .started rfl hlog (congrArg Prod.snd hprepare)
    · have hrun : run (.ok c) hasLog fs = failed .telemetry fs := by
        unfold run
        exact if_pos hlog
      rw [hrun]
      exact .telemetry rfl (by simpa using hlog)

/-- The ways to the socket of a daemon, if it gets so far as to go there. -/
def OnTheWay (loaded : Except (List ConfigurationError) Configuration)
    (hasLog : Configuration → Bool) (way : String) : Prop :=
  ∃ c, loaded = .ok c ∧ hasLog c = true ∧ Path.IsAncestor way c.daemonSocket.path

variable {start : Bootstrap}

/-- **A start adds directories on the way to the socket**, whether it succeeds or not. -/
theorem Goes.furnishes (h : Goes loaded hasLog fs start) :
    fs.Furnishes SocketEndpoint.directoryMode (OnTheWay loaded hasLog) start.files := by
  have hprepared : ∀ {c}, loaded = .ok c → hasLog c = true →
      fs.Furnishes SocketEndpoint.directoryMode (OnTheWay loaded hasLog)
        (c.daemonSocket.prepare fs).1 :=
    fun {c} hloaded hlog =>
      (c.daemonSocket.furnishes_prepare fs).mono fun way hway => ⟨c, hloaded, hlog, hway⟩
  cases h with
  | configuration => exact .refl _ _ fs
  | telemetry => exact .refl _ _ fs
  | socket hloaded hlog => exact hprepared hloaded hlog
  | started hloaded hlog => exact hprepared hloaded hlog

/-- Whoever stops at the configuration or the log has not changed any file. -/
theorem Goes.files_of_unready (h : Goes loaded hasLog fs start)
    (hunready : ∀ c, loaded = .ok c → hasLog c = false) : start.files = fs := by
  have habsurd : ∀ {c}, loaded = .ok c → hasLog c ≠ true := fun hloaded => by
    rw [hunready _ hloaded]
    exact Bool.false_ne_true
  cases h with
  | configuration => rfl
  | telemetry => rfl
  | socket hloaded hlog => exact absurd hlog (habsurd hloaded)
  | started hloaded hlog => exact absurd hlog (habsurd hloaded)

/-- A start that nothing stops: there is a configuration and a log, and the socket is prepared. -/
structure Sound (loaded : Except (List ConfigurationError) Configuration)
    (hasLog : Configuration → Bool) (fs : FileSystem) (c : Configuration) : Prop where
  loaded : loaded = .ok c
  log : hasLog c = true
  prepare : (c.daemonSocket.prepare fs).2 = .ok ()

/-- A start that fails reports why, and something has stopped it. -/
theorem Goes.of_error (h : Goes loaded hasLog fs start) {e : BootstrapError}
    (he : start.outcome = .error e) :
    start.events = [.bootstrapStarting, .bootstrapFailed e] ∧
      ∀ c, ¬ Sound loaded hasLog fs c := by
  cases h with
  | configuration hloaded =>
    cases he
    refine ⟨rfl, fun c hsound => ?_⟩
    cases hloaded.symm.trans hsound.loaded
  | telemetry hloaded hlog =>
    cases he
    refine ⟨rfl, fun c hsound => ?_⟩
    cases hloaded.symm.trans hsound.loaded
    cases hlog.symm.trans hsound.log
  | socket hloaded _ hprepare =>
    cases he
    refine ⟨rfl, fun c hsound => ?_⟩
    cases hloaded.symm.trans hsound.loaded
    cases hprepare.symm.trans hsound.prepare
  | started => cases he

theorem Goes.of_ok (h : Goes loaded hasLog fs start) {c : Configuration}
    (hc : start.outcome = .ok c) :
    start.events = [.bootstrapStarting, .bootstrapSucceeded c] ∧ Sound loaded hasLog fs c ∧
      start.files = (c.daemonSocket.prepare fs).1 := by
  cases h with
  | started hloaded hlog hprepare =>
    cases hc
    exact ⟨rfl, ⟨hloaded, hlog, hprepare⟩, rfl⟩
  | _ => cases hc

theorem Goes.isTree (h : Goes loaded hasLog fs start) (hfs : fs.IsTree) : start.files.IsTree := by
  cases h with
  | configuration => exact hfs
  | telemetry => exact hfs
  | socket => exact SocketEndpoint.isTree_prepare hfs _
  | started => exact SocketEndpoint.isTree_prepare hfs _

end Bootstrap

/-! ## The run -/

namespace DaemonRun

/-- What a run reported and what it left in the file system, given the configuration as it was
loaded, whether a log can be set up for it, and the file system before. -/
structure Footprint (loaded : Except (List ConfigurationError) Configuration)
    (hasLog : Configuration → Bool) (before : FileSystem) (r : DaemonRun) : Prop where
  /-- The start is reported first. Then it is reported either that it went well or why it did not;
  the latter exactly if the run fails for that reason. -/
  reported :
    (∃ c, loaded = .ok c ∧ r.events = [.bootstrapStarting, .bootstrapSucceeded c] ∧
      ∀ e, r.outcome ≠ .error (.bootstrap e)) ∨
    ∃ e, r.events = [.bootstrapStarting, .bootstrapFailed e] ∧ r.outcome = .error (.bootstrap e)
  /-- A run goes well exactly if nothing stops its start and a socket can be made at the path, once
  the directories on the way to it are there. -/
  goes : ∀ c, r.outcome = .ok c ↔ Bootstrap.Sound loaded hasLog before c ∧
    ∃ directory name, SocketEndpoint.Available c.daemonSocket.path
      (c.daemonSocket.prepare before).1 directory name
  /-- After a run that went well, nothing is left at the path of the socket. -/
  gone : ∀ c, r.outcome = .ok c → r.files.entry c.daemonSocket.path = .error .notFound ∧
    r.files.resolve c.daemonSocket.path = .error .notFound
  /-- After a run that failed, whatever stood at the path of the socket still stands there, whether
  a link at its end is followed or not. -/
  stands : ∀ c error l node, loaded = .ok c → r.outcome = .error error →
    before.node? l = some node → r.files.node? l = some node ∧
      (before.entry c.daemonSocket.path = .ok l → r.files.entry c.daemonSocket.path = .ok l) ∧
      (before.resolve c.daemonSocket.path = .ok l → r.files.resolve c.daemonSocket.path = .ok l)
  /-- Besides, there are only new directories on the way to the socket, open to their owner only.
  What a run that went well removed was a socket that nobody served, at the place that the path
  of the daemon's socket names. -/
  elsewhere : ∀ l, r.files.node? l = before.node? l ∨
    (before.node? l = none ∧ r.files.node? l = some (.directory 0o700) ∧
      ∃ c way, loaded = .ok c ∧ hasLog c = true ∧ Path.IsAncestor way c.daemonSocket.path ∧
        r.files.resolve way = .ok l) ∨
    ∃ c directory name, r.outcome = .ok c ∧
      r.files.ending c.daemonSocket.path = .ok (.name directory name false) ∧
      l = directory ++ [name] ∧ before.node? l = some (.socket false) ∧ r.files.node? l = none
  working : r.files.working = before.working
  /-- Nothing at all changes if the configuration or the log fails. -/
  untouched : (∀ c, loaded = .ok c → hasLog c = false) → r.files = before
  /-- What is left can be the file system before another run. -/
  tree : r.files.IsTree

variable {r : DaemonRun} {before : FileSystem}

/-- A run that fails after it has added directories on the way to its socket has a footprint. -/
theorem footprint_of_error
    (hfurnishes : before.Furnishes 0o700 (Bootstrap.OnTheWay loaded hasLog) r.files)
    (htree : r.files.IsTree) {error : LaunchError} (houtcome : r.outcome = .error error)
    (hstops : ∀ c directory name, Bootstrap.Sound loaded hasLog before c →
      ¬ SocketEndpoint.Available c.daemonSocket.path (c.daemonSocket.prepare before).1 directory
        name)
    (hreported : (∃ c, loaded = .ok c ∧ r.events = [.bootstrapStarting, .bootstrapSucceeded c] ∧
        ∀ e, r.outcome ≠ .error (.bootstrap e)) ∨
      ∃ e, r.events = [.bootstrapStarting, .bootstrapFailed e] ∧
        r.outcome = .error (.bootstrap e))
    (huntouched : (∀ c, loaded = .ok c → hasLog c = false) → r.files = before) :
    r.Footprint loaded hasLog before where
  reported := hreported
  goes c := by
    rw [houtcome]
    exact ⟨nofun, fun ⟨hsound, directory, name, h⟩ => absurd h (hstops c directory name hsound)⟩
  gone c hc := by
    rw [houtcome] at hc
    cases hc
  stands c error l node _ _ hnode :=
    have hkeeps := hfurnishes.keeps
    ⟨hkeeps.stands l nofun node hnode, fun hl => hkeeps.entry hl nofun,
      fun hl => hkeeps.resolve hl nofun⟩
  elsewhere l := by
    refine (hfurnishes.node l).imp_right fun ⟨hnone, hmade, way, hway, hl⟩ => .inl ?_
    obtain ⟨c, hloaded, hlog, hancestor⟩ := hway
    exact ⟨hnone, hmade, c, way, hloaded, hlog, hancestor, hl⟩
  working := hfurnishes.working
  untouched := huntouched
  tree := htree

/-- A run that goes well after it has added directories on the way to its socket has a footprint, if
the place of the socket was available and is free again. -/
theorem footprint_of_ok {c : Configuration} {prepared : FileSystem}
    (hfurnishes : before.Furnishes 0o700 (Bootstrap.OnTheWay loaded hasLog) prepared)
    (htree : prepared.IsTree) (hsound : Bootstrap.Sound loaded hasLog before c)
    (hprepared : prepared = (c.daemonSocket.prepare before).1) (houtcome : r.outcome = .ok c)
    (hevents : r.events = [.bootstrapStarting, .bootstrapSucceeded c])
    {directory : Location} {name : String}
    (havailable : SocketEndpoint.Available c.daemonSocket.path prepared directory name)
    (hvacates : prepared.Vacates (directory ++ [name]) r.files) :
    r.Footprint loaded hasLog before := by
  have hending := hvacates.keeps.ending havailable.ending
  refine ⟨.inl ⟨c, hsound.loaded, hevents, fun e he => ?_⟩, fun c' => ⟨fun hc' => ?_, ?_⟩,
    fun c' hc' => ?_, fun c' error l node _ he => ?_, fun l => ?_,
    hvacates.working.trans hfurnishes.working, fun hunready => ?_, hvacates.isTree htree⟩
  · rw [houtcome] at he
    cases he
  · cases houtcome.symm.trans hc'
    exact ⟨hsound, directory, name, hprepared ▸ havailable⟩
  · rintro ⟨hsound', -⟩
    cases hsound.loaded.symm.trans hsound'.loaded
    exact houtcome
  · cases houtcome.symm.trans hc'
    exact ⟨FileSystem.entry_of_none hending hvacates.free,
      FileSystem.resolve_of_none hending hvacates.free⟩
  · rw [houtcome] at he
    cases he
  · by_cases hl : l = directory ++ [name]
    · -- at the place of the socket was nothing before, or what gave way to the socket
      cases hbefore : before.node? l with
      | none => exact .inl (hl ▸ hvacates.free)
      | some node =>
        have hnode := hfurnishes.keeps.stands l nofun node hbefore
        cases hvacates.socket node (hl ▸ hnode)
        exact .inr (.inr ⟨c, directory, name, houtcome, hending, hl, rfl, hl ▸ hvacates.free⟩)
    · rw [hvacates.node l hl]
      refine (hfurnishes.node l).imp_right fun ⟨hnone, hmade, way, hway, hlway⟩ => .inl ?_
      obtain ⟨c', hloaded', hlog', hancestor⟩ := hway
      refine ⟨hnone, hmade, c', way, hloaded', hlog', hancestor, hvacates.keeps.resolve hlway ?_⟩
      exact fun hlost => hl hlost.1
  · have hlog := hsound.log
    rw [hunready c hsound.loaded] at hlog
    cases hlog

variable {settings : DaemonSettings} {activities : List Activity}

theorem launch_of_error {e : BootstrapError}
    (he : (Bootstrap.run loaded settings.hasLog fs).outcome = .error e) :
    launch settings loaded activities fs =
      ⟨(Bootstrap.run loaded settings.hasLog fs).events, [], .error (.bootstrap e),
        (Bootstrap.run loaded settings.hasLog fs).files⟩ := by
  simp only [launch, he]

theorem launch_of_listen_error {c : Configuration} {files : FileSystem} {error : ListenerError}
    (hc : (Bootstrap.run loaded settings.hasLog fs).outcome = .ok c)
    (hlisten : c.daemonSocket.listen (Bootstrap.run loaded settings.hasLog fs).files =
      (files, .error error)) :
    launch settings loaded activities fs =
      ⟨(Bootstrap.run loaded settings.hasLog fs).events, [], .error (.listener error), files⟩ := by
  simp only [launch, hc, hlisten]

theorem launch_of_listen {c : Configuration} {bound : FileSystem}
    (hc : (Bootstrap.run loaded settings.hasLog fs).outcome = .ok c)
    (hlisten : c.daemonSocket.listen (Bootstrap.run loaded settings.hasLog fs).files =
      (bound, .ok ())) :
    launch settings loaded activities fs =
      ⟨(Bootstrap.run loaded settings.hasLog fs).events,
        (c.host bound settings.status settings.elapsed).serve activities, .ok c,
        c.daemonSocket.release bound⟩ := by
  simp only [launch, hc, hlisten]

/-- **The footprint of every run**, wherever it stops. -/
theorem launch_footprint (settings : DaemonSettings)
    (loaded : Except (List ConfigurationError) Configuration) (activities : List Activity)
    (hfs : fs.IsTree) :
    (launch settings loaded activities fs).Footprint loaded settings.hasLog fs := by
  have hgoes := Bootstrap.goes_run loaded settings.hasLog fs
  have htree := hgoes.isTree hfs
  cases houtcome : (Bootstrap.run loaded settings.hasLog fs).outcome with
  | error e =>
    obtain ⟨hevents, hstops⟩ := hgoes.of_error houtcome
    rw [launch_of_error houtcome]
    exact footprint_of_error hgoes.furnishes htree rfl
      (fun c _ _ hsound => absurd hsound (hstops c)) (.inr ⟨e, hevents, rfl⟩)
      hgoes.files_of_unready
  | ok c =>
    obtain ⟨hevents, hsound, hprepared⟩ := hgoes.of_ok houtcome
    rcases hlisten : c.daemonSocket.listen (Bootstrap.run loaded settings.hasLog fs).files with
      ⟨files, error | _⟩
    · -- listening failed, so it left the file system as the start did
      have hfiles : files = (Bootstrap.run loaded settings.hasLog fs).files := by
        rw [← SocketEndpoint.fst_listen_of_error htree (congrArg Prod.snd hlisten), hlisten]
      rw [launch_of_listen_error houtcome hlisten, hfiles]
      refine footprint_of_error hgoes.furnishes htree rfl ?_
        (.inl ⟨c, hsound.loaded, hevents, nofun⟩) hgoes.files_of_unready
      intro c' directory name hsound' havailable
      cases hsound.loaded.symm.trans hsound'.loaded
      rw [← hprepared] at havailable
      cases havailable.snd_listen.symm.trans (congrArg Prod.snd hlisten)
    · have hpath := SocketEndpoint.path_ne_empty_of_prepare hsound.prepare
      obtain ⟨directory, name, havailable, hvacates⟩ :=
        SocketEndpoint.vacates_release htree hpath (congrArg Prod.snd hlisten)
      rw [hlisten] at hvacates
      rw [launch_of_listen houtcome hlisten]
      exact footprint_of_ok hgoes.furnishes htree hsound hprepared rfl hevents havailable hvacates

/-- A socket that nobody serves any more does not keep a daemon from listening in its place. -/
theorem launch_footprint_stale :
    let files : FileSystem :=
      ⟨[(["run"], .directory 0o755), (["run", "d"], .socket false)], ["run"]⟩
    let c : Configuration := ⟨⟨"d"⟩, "info", .json, "specs", .thread, none, "default",
      Unsigned.clamp 64 5000⟩
    let settings : DaemonSettings := ⟨fun _ => true, id, fun _ _ => Unsigned.zero 64⟩
    let r := launch settings (.ok c) [] files
    files.IsTree ∧ r.outcome = .ok c ∧ r.Footprint (.ok c) settings.hasLog files := by
  intro files c settings r
  have hfs : files.IsTree := .of_nodes (by decide) (by decide)
  have h : r.Footprint (.ok c) settings.hasLog files := launch_footprint settings (.ok c) [] hfs
  -- the socket has no directory of its own, so there is nothing to prepare
  have hparent : Path.parent? c.daemonSocket.path = some "" := by decide
  have hprepare : c.daemonSocket.prepare files = (files, .ok ()) := by
    simp only [SocketEndpoint.prepare, hparent]
    rfl
  have hlast : FileSystem.dropEmpty (Path.pieces c.daemonSocket.path).reverse = ["d"] := by decide
  have hstart : files.start c.daemonSocket.path = ["run"] := by decide
  have hname : FileSystem.IsName "d" := ⟨by decide, by decide, by decide⟩
  have havailable : SocketEndpoint.Available c.daemonSocket.path files ["run"] "d" := by
    refine ⟨by decide, FileSystem.ending_eq_ok_iff.mpr ⟨by decide, ?_⟩, fun node hnode => ?_⟩
    · exact .name hlast (hstart ▸ .done) (by decide) hname (by decide)
    · exact (Option.some.inj hnode).symm
  refine ⟨hfs, (h.goes c).mpr ⟨⟨rfl, rfl, ?_⟩, ["run"], "d", ?_⟩, h⟩
  · rw [hprepare]
  · rwa [hprepare]

end DaemonRun

end TargetBench
