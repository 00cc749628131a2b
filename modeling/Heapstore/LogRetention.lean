/-
What the retention period promises, over whole runs of the log module.

A run starts and stops the module, writes, rotates and cleans up, and any of
the renames and openings of a rotation or a start may fail.  A line is readable
from its write on until a cleanup looks back to a later time than that of the
write.  This needs that a rotation finds its name unused, and that a cleanup
finds no open log that was idle for the whole retention period.
-/

import Heapstore.LogOpenFiles
import Heapstore.LogRotation

namespace Heapstore.Log

open ByteText CivilTime OperationRun FileLinks Cleanup KeyedList

/-! ### Start, end and rotation with handles -/

/-- `heapstore_log_init` -/
def Session.init (base : Bytes) (now : Int) (opened : Bool)
    (session : Session) : Session × HeapstoreError :=
  if session.initialized then (session, .errAlreadyInitialized)
  else if opened = false then
    ({ session with mainLogFile := none }, .errFileOpenFailed)
  else
    let path := mainLogPath base
    let created := session.files.openAppend now path
    ({ session with
        initialized := true
        logLevel := levelInfo
        mainLogFile := some { path := path, file := created.2 }
        files := created.1 }, .success)

/-- `heapstore_log_shutdown` -/
def Session.shutdown (session : Session) : Session :=
  if session.initialized then
    { session with initialized := false, mainLogFile := none, serviceLogs := [] }
  else session

/-- `heapstore_log_rotate` -/
def Session.rotate (clock : LocalClock) (calls : RotateCalls)
    (session : Session) : Session × HeapstoreError :=
  if session.initialized = false then (session, .errNotInitialized)
  else
    let closed := { session with mainLogFile := none }
    let oldPath := mainLogPath calls.base
    let newPath := rotatedLogPath calls.base (clock calls.now)
    if calls.replaced = false ∨ session.files.names oldPath = none then
      (closed, .errFileOperationFailed)
    else
      let files := session.files.rename oldPath newPath
      if calls.opened = false then
        ({ closed with files := files }, .errFileOpenFailed)
      else
        let created := files.openAppend calls.now oldPath
        ({ closed with
            mainLogFile := some { path := oldPath, file := created.2 }
            files := created.1 }, .success)

/-! ### The same by paths -/

section Paths

variable {base : Bytes} {session : Session}

theorem filesDisk_eq_none_iff (files : Files Bytes) (path : Bytes) :
    filesDisk files path = none ↔ files.names path = none :=
  Option.map_eq_none_iff

theorem filesDisk_rename (files : Files Bytes) (source target : Bytes) :
    filesDisk (files.rename source target) =
      atomicReplace source target (filesDisk files) := by
  unfold Files.rename atomicReplace
  by_cases same : source = target
  · rw [if_pos same, if_pos same]
  · rw [if_neg same, if_neg same]
    unfold Disk.rename
    split
    · next missing =>
        rw [(filesDisk_eq_none_iff files source).mpr missing]
    · next moved found =>
        have present : filesDisk files source =
            some (.bytes (files.stored moved).content) := by
          unfold filesDisk
          rw [found]
          rfl
        rw [present]
        funext path
        unfold filesDisk Disk.remove
        simp only
        by_cases here : path = source
        · rw [here, Function.update_self, Function.update_self]
          rfl
        · rw [Function.update_of_ne here, Function.update_of_ne here]
          by_cases there : path = target
          · rw [there, Function.update_self, Disk.write_self]
            rfl
          · rw [Function.update_of_ne there, Disk.write_of_ne there]

theorem init_logger (env : Option Bytes) (dataDir : Bytes) (now : Int)
    (opened : Bool) (session : Session) :
    let base := logBasePath env dataDir
    logInit env dataDir opened (session.logger base).log
        (filesDisk session.files) =
      (((session.init base now opened).1.logger base).log,
        filesDisk (session.init base now opened).1.files,
        (session.init base now opened).2) := by
  intro base
  have started : (session.logger base).log.initialized =
      session.initialized := rfl
  unfold logInit Session.init
  rw [started]
  split
  · rfl
  · split
    · rfl
    · rw [filesDisk_openAppend]
      rfl

theorem shutdown_logger (base : Bytes) (session : Session) :
    logShutdown (session.logger base).log =
      (session.shutdown.logger base).log := by
  have started : (session.logger base).log.initialized =
      session.initialized := rfl
  unfold logShutdown Session.shutdown
  rw [started]
  split
  · rfl
  · rfl

theorem rotate_logger (clock : LocalClock) (calls : RotateCalls)
    (session : Session) :
    logRotate clock calls (session.logger calls.base) =
      ((session.rotate clock calls).1.logger calls.base,
        (session.rotate clock calls).2) := by
  have started : (session.logger calls.base).log.initialized =
      session.initialized := rfl
  have disk : (session.logger calls.base).disk = filesDisk session.files := rfl
  unfold logRotate Session.rotate
  rw [started]
  simp only [disk, filesDisk_eq_none_iff, ← filesDisk_rename]
  split
  · rfl
  · split
    · rfl
    · split
      · rfl
      · rw [← filesDisk_openAppend calls.now]
        rfl

end Paths

/-! ### What each function leaves -/

/-- The file of every open log has a name. -/
def Session.Named (session : Session) : Prop :=
  ∀ log ∈ session.openLogs, ∃ name, session.files.names name = some log.file

/-- The files are those from before, or one was opened. -/
def OnlyOpens (before after : Files Bytes) : Prop :=
  after = before ∨ ∃ now path, after = (before.openAppend now path).1

section Steps

variable {base : Bytes} {session : Session} {files : Files Bytes}

theorem OnlyOpens.linked (opens : OnlyOpens session.files files)
    {name : Bytes} {file : Nat} (linked : session.files.names name = some file) :
    files.names name = some file := by
  rcases opens with rfl | ⟨now, path, rfl⟩
  · exact linked
  · exact linked_openAppend linked now path

theorem OnlyOpens.keepsAt (opens : OnlyOpens session.files files)
    {name text : Bytes} {since : Int}
    (keeps : session.files.KeepsAt name since text) :
    files.KeepsAt name since text := by
  rcases opens with rfl | ⟨now, path, rfl⟩
  · exact keeps
  · exact keepsAt_openAppend keeps now path

/-- What the lookup of a file for a write leaves. -/
structure Session.Finds (session : Session)
    (found : Session × Option OpenLog) : Prop where
  opens : OnlyOpens session.files found.1.files
  named : session.Named → found.1.Named
  member : ∀ log, found.2 = some log → log ∈ found.1.openLogs

theorem session_finds_none : session.Finds (session, none) where
  opens := Or.inl rfl
  named named := named
  member _ here := by cases here

theorem session_finds_known {log : OpenLog} (known : log ∈ session.openLogs) :
    session.Finds (session, some log) where
  opens := Or.inl rfl
  named named := named
  member other here := by
    cases here
    exact known

/-- A file was opened for a new handle. -/
theorem session_finds_opened {next : Session} {path : Bytes} {now : Int}
    (files : next.files = (session.files.openAppend now path).1)
    (logs : ∀ log, log ∈ next.openLogs ↔ log ∈ session.openLogs ∨
      log = { path := path, file := (session.files.openAppend now path).2 }) :
    session.Finds (next,
      some { path := path, file := (session.files.openAppend now path).2 }) where
  opens := Or.inr ⟨now, path, files⟩
  named named log member := by
    change ∃ name, next.files.names name = _
    rw [files]
    rcases (logs log).mp member with old | rfl
    · obtain ⟨name, linked⟩ := named log old
      exact ⟨name, linked_openAppend linked now path⟩
    · exact ⟨path, openAppend_linked now path session.files⟩
  member log here := by
    cases here
    exact (logs _).mpr (Or.inr rfl)

theorem getMainLogFile_finds (base : Bytes) (now : Int) (session : Session) :
    session.Finds (session.getMainLogFile base now) := by
  unfold Session.getMainLogFile
  split
  · exact session_finds_none
  · split
    · next log main =>
        apply session_finds_known
        unfold Session.openLogs
        rw [main]
        exact List.mem_append_left _ List.mem_cons_self
    · next main =>
        apply session_finds_opened rfl
        intro log
        unfold Session.openLogs
        rw [main, Option.toList_some, Option.toList_none, List.nil_append,
          List.singleton_append, List.mem_cons, or_comm]

theorem getServiceLogFile_finds (base : Bytes) (now : Int)
    (service : Option Bytes) (session : Session) :
    session.Finds (session.getServiceLogFile base now service) := by
  rcases service with _ | _ | ⟨byte, rest⟩
  · exact getMainLogFile_finds base now session
  · exact getMainLogFile_finds base now session
  · unfold Session.getServiceLogFile
    simp only
    cases pathClean 64 (byte :: rest) with
    | none => exact session_finds_none
    | some safe =>
        simp only
        cases found : session.serviceLogs.find? fun entry =>
            decide (entry.serviceName.text = safe) with
        | some entry =>
            apply session_finds_known
            apply List.mem_append_right
            exact List.mem_map_of_mem (List.mem_of_find?_eq_some found)
        | none =>
            simp only
            split
            · apply session_finds_opened rfl
              intro log
              unfold Session.openLogs
              rw [List.map_append, List.map_singleton, ← List.append_assoc,
                List.mem_append, List.mem_singleton]
            · exact getMainLogFile_finds base now session

theorem goneFrom_recent {cutoff : Int} {stored : Stored}
    (recent : cutoff ≤ stored.modified) (dir path : Bytes) :
    goneFrom cutoff dir path stored = false := by
  unfold goneFrom
  cases nameIn dir path with
  | none => rfl
  | some name =>
      have young : (storedEntry name stored).removable cutoff = false := by
        unfold DirEntry.removable DirEntry.expired storedEntry
        simp only [Option.any_some, decide_eq_false (Int.not_lt.mpr recent),
          Bool.and_false, Bool.false_and]
      simp only [young, Bool.and_false]

theorem cleaned_keepsAt {cutoff since : Int} {name text : Bytes}
    (dirs : List Bytes) (young : cutoff ≤ since)
    (keeps : files.KeepsAt name since text) :
    (dirs.foldl (cleanDirectory cutoff) files).KeepsAt name since text := by
  induction dirs generalizing files with
  | nil => exact keeps
  | cons dir dirs ih =>
      exact ih (keepsAt_unlink keeps fun _ recent =>
        goneFrom_recent (young.trans recent) dir name)

end Steps

/-! ### Runs -/

inductive RetentionCall where
  | init (now : Int) (opened : Bool)
  | shutdown
  | setLevel (level : Level)
  | write (now : Int) (message : LogMessage)
  | rotate (now : Int) (replaced opened : Bool)
  | cleanup (now : Int) (daysToKeep : Int32)

/-- The session, the lines that were written with their times, the times that
cleanups looked back to, and the clock. -/
structure RetainedRun where
  session : Session
  lines : List (Int × Bytes)
  cutoffs : List Int
  now : Int

def retentionStep (clock : LocalClock) (base : Bytes) :
    Machine RetainedRun RetentionCall HeapstoreError :=
  fun run call =>
    match call with
    | .init now opened =>
        let result := run.session.init base now opened
        ({ run with session := result.1, now := now }, result.2)
    | .shutdown => ({ run with session := run.session.shutdown }, .success)
    | .setLevel level =>
        ({ run with session := { run.session with logLevel := level } },
          .success)
    | .write now message =>
        let result := run.session.write base now message
        ({ run with
            session := result.1
            lines := run.lines ++ result.2.toList.map fun line => (now, line)
            now := now }, .success)
    | .rotate now replaced opened =>
        let result := run.session.rotate clock
          { base := base, now := now, replaced := replaced, opened := opened }
        ({ run with session := result.1, now := now }, result.2)
    | .cleanup now daysToKeep =>
        let result := run.session.cleanup base now daysToKeep
        ({ run with
            session := result.1
            cutoffs := run.cutoffs ++
              (preClean run.session.initialized daysToKeep now
                none).2.toOption.toList
            now := now }, result.2)

def retentionStart (session : Session) (now : Int) : RetainedRun where
  session := session
  lines := []
  cutoffs := []
  now := now

/-- The clock does not go back, a rotation finds its name unused, and a cleanup
finds no open log that was last written before the time it looks back to. -/
def Timely (clock : LocalClock) (base : Bytes) (run : RetainedRun) :
    RetentionCall → Prop
  | .init now _ | .write now _ => run.now ≤ now
  | .shutdown | .setLevel _ => True
  | .rotate now _ _ =>
      run.now ≤ now ∧
        run.session.files.names (rotatedLogPath base (clock now)) = none
  | .cleanup now daysToKeep =>
      run.now ≤ now ∧ (0 < daysToKeep → ∀ log ∈ run.session.openLogs,
        Core.retentionCutoff daysToKeep now ≤
          (run.session.files.stored log.file).modified)

instance (clock : LocalClock) (base : Bytes) (run : RetainedRun) :
    (call : RetentionCall) → Decidable (Timely clock base run call)
  | .init now _ | .write now _ => inferInstanceAs (Decidable (run.now ≤ now))
  | .shutdown | .setLevel _ => inferInstanceAs (Decidable True)
  | .rotate now _ _ =>
      inferInstanceAs (Decidable (run.now ≤ now ∧
        run.session.files.names (rotatedLogPath base (clock now)) = none))
  | .cleanup now daysToKeep =>
      inferInstanceAs (Decidable (run.now ≤ now ∧
        (0 < daysToKeep → ∀ log ∈ run.session.openLogs,
          Core.retentionCutoff daysToKeep now ≤
            (run.session.files.stored log.file).modified)))

/-- The line is in a file that has a name. -/
def Readable (files : Files Bytes) (line : Bytes) : Prop :=
  ∃ path file, files.names path = some file ∧
    line <:+: (files.stored file).content

/-- Every open log has a name, and every line that no cleanup looked back
beyond is kept under one. -/
structure RetainedRun.Keeps (run : RetainedRun) : Prop where
  named : run.session.Named
  past : ∀ written ∈ run.lines, written.1 ≤ run.now
  kept : ∀ written ∈ run.lines, (∀ cutoff ∈ run.cutoffs, cutoff ≤ written.1) →
    ∃ name, run.session.files.KeepsAt name written.1 written.2

section Runs

variable {clock : LocalClock} {base : Bytes} {run : RetainedRun}

theorem preClean_cases (initialized : Bool) (now : Int) (daysToKeep : Int32) :
    (∃ status, (preClean initialized daysToKeep now none).2 = .error status) ∨
      (0 < daysToKeep ∧ (preClean initialized daysToKeep now none).2 =
        .ok (Core.retentionCutoff daysToKeep now)) := by
  unfold preClean
  by_cases stopped : initialized = false
  · rw [if_pos stopped]
    exact Or.inl ⟨_, rfl⟩
  · rw [if_neg stopped]
    by_cases never : daysToKeep ≤ 0
    · rw [if_pos never]
      exact Or.inl ⟨_, rfl⟩
    · rw [if_neg never]
      exact Or.inr ⟨Int32.not_le.mp never, rfl⟩

theorem init_keeps (now : Int) (opened : Bool) (keeps : run.Keeps)
    (timely : Timely clock base run (.init now opened)) :
    (retentionStep clock base run (.init now opened)).1.Keeps := by
  have opens : OnlyOpens run.session.files
      (run.session.init base now opened).1.files := by
    unfold Session.init
    split
    · exact Or.inl rfl
    · split
      · exact Or.inl rfl
      · exact Or.inr ⟨now, mainLogPath base, rfl⟩
  refine ⟨?_, fun written member => (keeps.past written member).trans timely,
    ?_⟩
  · change (run.session.init base now opened).1.Named
    unfold Session.init
    split
    · exact keeps.named
    · split
      · intro log member
        exact keeps.named log (List.mem_append_right _ member)
      · intro log member
        rcases List.mem_append.mp member with main | service
        · cases List.mem_singleton.mp main
          exact ⟨_, openAppend_linked now _ run.session.files⟩
        · obtain ⟨name, linked⟩ :=
            keeps.named log (List.mem_append_right _ service)
          exact ⟨name, linked_openAppend linked now _⟩
  · intro written member young
    obtain ⟨name, kept⟩ := keeps.kept written member young
    exact ⟨name, opens.keepsAt kept⟩

theorem shutdown_keeps (keeps : run.Keeps) :
    (retentionStep clock base run .shutdown).1.Keeps := by
  have files : run.session.shutdown.files = run.session.files := by
    unfold Session.shutdown
    split <;> rfl
  refine ⟨?_, keeps.past, ?_⟩
  · change run.session.shutdown.Named
    unfold Session.shutdown
    split
    · intro log member
      cases member
    · exact keeps.named
  · intro written member young
    change ∃ name, run.session.shutdown.files.KeepsAt name _ _
    rw [files]
    exact keeps.kept written member young

/-- A write opens at most one file and appends its line to a file that has a
name. -/
theorem write_keeps_lines (now : Int) (message : LogMessage)
    (keeps : run.Keeps) (later : run.now ≤ now) :
    (retentionStep clock base run (.write now message)).1.Keeps := by
  have idle {session : Session} (finds : session.Named)
      (opens : OnlyOpens run.session.files session.files) :
      RetainedRun.Keeps { run with
        session := session
        lines := run.lines ++ ([] : List Bytes).map fun line => (now, line)
        now := now } := by
    rw [List.map_nil, List.append_nil]
    refine ⟨finds, fun written member => (keeps.past written member).trans
      later, ?_⟩
    intro written member young
    obtain ⟨name, kept⟩ := keeps.kept written member young
    exact ⟨name, opens.keepsAt kept⟩
  unfold retentionStep Session.write
  simp only
  split
  · exact idle keeps.named (Or.inl rfl)
  · split
    · exact idle keeps.named (Or.inl rfl)
    · have finds := getServiceLogFile_finds base now message.service run.session
      split
      · exact idle (finds.named keeps.named) finds.opens
      · next log found =>
          obtain ⟨place, linked⟩ :=
            finds.named keeps.named log (finds.member log found)
          refine ⟨finds.named keeps.named, ?_, ?_⟩
          · intro written member
            rcases List.mem_append.mp member with old | new
            · exact (keeps.past written old).trans later
            · cases List.mem_singleton.mp new
              exact le_rfl
          · intro written member young
            rcases List.mem_append.mp member with old | new
            · obtain ⟨name, kept⟩ := keeps.kept written old young
              exact ⟨name, keepsAt_append (finds.opens.keepsAt kept)
                ((keeps.past written old).trans later) log.file _⟩
            · cases List.mem_singleton.mp new
              exact ⟨place, keepsAt_appended linked now _⟩

theorem closed_named {session : Session} (named : session.Named)
    {files : Files Bytes}
    (moved : ∀ name file, session.files.names name = some file →
      ∃ other, files.names other = some file) :
    Session.Named { session with mainLogFile := none, files := files } := by
  intro log member
  obtain ⟨name, linked⟩ := named log (List.mem_append_right _ member)
  exact moved name log.file linked

/-- A rotation moves the main file to an unused name, and opens a new one. -/
theorem rotate_keeps_lines (now : Int) (replaced opened : Bool)
    (keeps : run.Keeps)
    (timely : Timely clock base run (.rotate now replaced opened)) :
    (retentionStep clock base run (.rotate now replaced opened)).1.Keeps := by
  obtain ⟨later, unused⟩ := timely
  let source := mainLogPath base
  let target := rotatedLogPath base (clock now)
  have moved (name : Bytes) (file : Nat)
      (linked : run.session.files.names name = some file) :
      ∃ other, (run.session.files.rename source target).names other =
        some file := ⟨_, linked_rename linked unused⟩
  have carried (written : Int × Bytes) (member : written ∈ run.lines)
      (young : ∀ cutoff ∈ run.cutoffs, cutoff ≤ written.1) :
      ∃ name, (run.session.files.rename source target).KeepsAt name
        written.1 written.2 := by
    obtain ⟨name, kept⟩ := keeps.kept written member young
    exact ⟨_, keepsAt_rename kept unused⟩
  have past (written : Int × Bytes) (member : written ∈ run.lines) :
      written.1 ≤ now := (keeps.past written member).trans later
  unfold retentionStep Session.rotate
  simp only
  split
  · exact ⟨keeps.named, past, keeps.kept⟩
  · split
    · refine ⟨?_, past, keeps.kept⟩
      exact closed_named keeps.named fun name _ linked => ⟨name, linked⟩
    · split
      · exact ⟨closed_named keeps.named moved, past, carried⟩
      · refine ⟨?_, past, ?_⟩
        · intro log member
          rcases List.mem_append.mp member with main | service
          · cases List.mem_singleton.mp main
            exact ⟨_, openAppend_linked now _ _⟩
          · obtain ⟨name, linked⟩ :=
              keeps.named log (List.mem_append_right _ service)
            obtain ⟨other, linked⟩ := moved name _ linked
            exact ⟨other, linked_openAppend linked now _⟩
        · intro written member young
          obtain ⟨name, kept⟩ := carried written member young
          exact ⟨name, keepsAt_openAppend kept now _⟩

/-- A cleanup unlinks no file that was written to since the time it looks back
to: neither one of an open log nor one of a line from after it. -/
theorem cleanup_keeps_lines (now : Int) (daysToKeep : Int32)
    (keeps : run.Keeps)
    (timely : Timely clock base run (.cleanup now daysToKeep)) :
    (retentionStep clock base run (.cleanup now daysToKeep)).1.Keeps := by
  obtain ⟨later, spared⟩ := timely
  have past (written : Int × Bytes) (member : written ∈ run.lines) :
      written.1 ≤ now := (keeps.past written member).trans later
  unfold retentionStep Session.cleanup
  simp only
  rcases preClean_cases run.session.initialized now daysToKeep with
    ⟨status, refused⟩ | ⟨days, cutoff⟩
  · simp only [refused, Except.toOption, Option.toList_none, List.append_nil]
    exact ⟨keeps.named, past, keeps.kept⟩
  · simp only [cutoff, Except.toOption, Option.toList_some]
    refine ⟨?_, past, ?_⟩
    · intro log member
      obtain ⟨name, linked⟩ := keeps.named log member
      refine ⟨name, (cleaned_names_iff _ _ _).mpr ⟨linked, ?_⟩⟩
      exact fun dir _ => goneFrom_recent (spared days log member) dir name
    · intro written member young
      obtain ⟨name, kept⟩ := keeps.kept written member fun other earlier =>
        young other (List.mem_append_left _ earlier)
      have recent := young _ (List.mem_append_right _ List.mem_cons_self)
      exact ⟨name, cleaned_keepsAt _ recent kept⟩

theorem retentionStep_keeps (run : RetainedRun) (call : RetentionCall)
    (keeps : run.Keeps) (timely : Timely clock base run call) :
    (retentionStep clock base run call).1.Keeps := by
  cases call with
  | init now opened => exact init_keeps now opened keeps timely
  | shutdown => exact shutdown_keeps keeps
  | setLevel level => exact ⟨keeps.named, keeps.past, keeps.kept⟩
  | write now message => exact write_keeps_lines now message keeps timely
  | rotate now replaced opened =>
      exact rotate_keeps_lines now replaced opened keeps timely
  | cleanup now daysToKeep =>
      exact cleanup_keeps_lines now daysToKeep keeps timely

/-- A session whose module was not started, on any files. -/
def stoppedSession (level : Level) (files : Files Bytes) : Session where
  initialized := false
  logLevel := level
  mainLogFile := none
  serviceLogs := []
  files := files

/-- In every run from a stopped module, a line that was written can be read
under some name as long as no cleanup looked back to a later time. -/
theorem young_lines_readable (level : Level) (files : Files Bytes) (now : Int)
    (calls : List RetentionCall)
    (timely : Meets (retentionStep clock base) (Timely clock base)
      (retentionStart (stoppedSession level files) now) calls) :
    let run := final (retentionStep clock base)
      (retentionStart (stoppedSession level files) now) calls
    ∀ written ∈ run.lines, (∀ cutoff ∈ run.cutoffs, cutoff ≤ written.1) →
      Readable run.session.files written.2 := by
  intro run written member young
  have keeps : run.Keeps := by
    apply guarded_invariant (retentionStep clock base) (Timely clock base)
      RetainedRun.Keeps retentionStep_keeps _ calls _ timely
    exact ⟨nofun, nofun, nofun⟩
  obtain ⟨name, file, linked, inside, _⟩ := keeps.kept written member young
  exact ⟨name, file, linked, inside⟩

/-- A line is rotated away, the module restarts, and a cleanup a day later
keeps one day. -/
def rotatedDay : List RetentionCall :=
  [.init 0 true, .write 10 (mainLine "a").message, .rotate 20 true true,
    .write 30 (mainLine "b").message, .shutdown, .init 40 true,
    .cleanup 86410 1]

example :
    let run := final (retentionStep gmtime (ofString "/logs"))
      (retentionStart (stoppedSession levelInfo noFiles) 0) rotatedDay
    run.lines.length = 2 ∧ run.cutoffs = [10] := by decide

theorem young_lines_readable_day :
    let run := final (retentionStep gmtime (ofString "/logs"))
      (retentionStart (stoppedSession levelInfo noFiles) 0) rotatedDay
    ∀ written ∈ run.lines, (∀ cutoff ∈ run.cutoffs, cutoff ≤ written.1) →
      Readable run.session.files written.2 :=
  young_lines_readable levelInfo noFiles 0 rotatedDay
    ⟨by decide, by decide, by decide, by decide, by decide, by decide,
      by decide, trivial⟩

end Runs

end Heapstore.Log
