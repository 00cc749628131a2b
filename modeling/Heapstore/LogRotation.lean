/-
Rotation of the main log, over runs of writes and rotations.

A rotation renames the main file to a name made of the second on the local
clock and opens a new main file.  A rename onto a file replaces it, so two
rotations with one name lose what the first of them put away.
-/

import Heapstore.Foundation.CivilTime
import Heapstore.Foundation.SealedPieces
import Heapstore.LogRouting

namespace Heapstore.Log

open ByteText CivilTime OperationRun SealedPieces

def rotatedLogPath (base : Bytes) (time : Tm) : Bytes :=
  printTo logMaxPath (base ++ ofString "/kernel/airy_" ++ dateStamp time ++
    ofString "_" ++ timeStamp time ++ ofString ".log")

/-- `heapstore_atomic_replace`; a file that replaces itself stays as it is. -/
def atomicReplace (source target : Bytes) (disk : Disk) : Disk :=
  if source = target then disk else disk.rename source target

/-- The base path, the clock and the results of the two file operations. -/
structure RotateCalls where
  base : Bytes
  now : Int
  replaced : Bool
  opened : Bool

/-- `heapstore_log_rotate` -/
def logRotate (clock : LocalClock) (calls : RotateCalls) (logger : Logger) :
    Logger × HeapstoreError :=
  if logger.log.initialized = false then (logger, .errNotInitialized)
  else
    let closed := { logger with log := { logger.log with mainLogFile := none } }
    let oldPath := mainLogPath calls.base
    let newPath := rotatedLogPath calls.base (clock calls.now)
    if calls.replaced = false ∨ logger.disk oldPath = none then
      (closed, .errFileOperationFailed)
    else
      let disk := atomicReplace oldPath newPath logger.disk
      if calls.opened = false then
        ({ closed with disk := disk }, .errFileOpenFailed)
      else
        ({ closed with
            log := { closed.log with mainLogFile := some oldPath }
            disk := openAppend disk oldPath }, .success)

/-! ### Runs -/

/-- A message for the main log: its service is null or empty. -/
structure MainMessage where
  message : LogMessage
  main : message.service = none ∨ message.service = some []

inductive RotationCall where
  | write (message : MainMessage)
  | setLevel (level : Level)
  | rotate (now : Int)

/-- The logger, the rotated files in the order of their rotations, and the
lines of the main log. -/
structure RotationRun where
  logger : Logger
  rotated : List Bytes
  lines : List Bytes

def RotationRun.rotate (base path : Bytes) (run : RotationRun) : List Bytes :=
  if path = mainLogPath base then run.rotated else resealed run.rotated path

/-- One call, with all file operations succeeding. -/
def rotationStep (clock : LocalClock) (base : Bytes) :
    Machine RotationRun RotationCall HeapstoreError := fun run call =>
  match call with
  | .write message =>
      let result := sendMessage base message.message run.logger
      ({ run with
          logger := result.1
          lines := run.lines ++ result.2.toList.map Prod.snd }, .success)
  | .setLevel level =>
      ({ run with logger := logSetLevel level run.logger }, .success)
  | .rotate now =>
      let result := logRotate clock
        { base := base, now := now, replaced := true, opened := true } run.logger
      ({ run with
          logger := result.1
          rotated := run.rotate base (rotatedLogPath base (clock now)) },
        result.2)

/-- A run starts from a logger that was just initialized; what the main file
already held counts as one line. -/
def rotationStart (env : Option Bytes) (dataDir : Bytes) (disk : Disk) :
    RotationRun where
  logger := (routingStart env dataDir disk).logger
  rotated := []
  lines :=
    let before := contentOf disk (mainLogPath (logBasePath env dataDir))
    if before = [] then [] else [before]

/-- The rotated files followed by the current one hold the lines in order, each
line whole in one file. -/
def LinesKept (base : Bytes) (run : RotationRun) : Prop :=
  Holds (contentOf run.logger.disk) run.rotated
    (contentOf run.logger.disk (mainLogPath base)) run.lines

/-- A rotation does not reuse the name of a rotated file that has content. -/
def RotatesFresh (clock : LocalClock) (base : Bytes) (run : RotationRun)
    (call : RotationCall) : Prop :=
  ∀ now, call = .rotate now →
    rotatedLogPath base (clock now) ∈ run.rotated →
      contentOf run.logger.disk (rotatedLogPath base (clock now)) = []

/-- The main log is open, and the rotated files are other files. -/
structure Rotating (base : Bytes) (run : RotationRun) : Prop where
  started : run.logger.log.initialized = true
  main : run.logger.log.mainLogFile = some (mainLogPath base)
  present : run.logger.disk (mainLogPath base) ≠ none
  distinct : run.rotated.Nodup
  apart : mainLogPath base ∉ run.rotated
  filled : ∀ line ∈ run.lines, line ≠ []

section Steps

variable {clock : LocalClock} {base : Bytes} {run : RotationRun}

/-! ### Writes -/

theorem line_ne_nil (base : Bytes) (message : LogMessage) :
    message.line base ≠ [] := by
  unfold LogMessage.line logBody
  intro empty
  have last := (List.append_eq_nil_iff.mp empty).2
  exact List.append_ne_nil_of_right_ne_nil _ (List.cons_ne_nil 10 []) last

theorem sendMessage_main (rotating : Rotating base run)
    (message : MainMessage) :
    sendMessage base message.message run.logger =
      if message.message.level > run.logger.log.logLevel then (run.logger, none)
      else
        ({ run.logger with
            disk := appendTo run.logger.disk (mainLogPath base)
              (message.message.line base) },
          some (mainLogPath base, message.message.line base)) := by
  have found : getServiceLogFile (message.message.calls base)
      message.message.service run.logger =
        (run.logger, some (mainLogPath base)) := by
    have opened : getMainLogFile (message.message.calls base) run.logger =
        (run.logger, some (mainLogPath base)) := by
      unfold getMainLogFile
      rw [rotating.started, if_neg nofun, rotating.main]
    rcases message.main with null | empty
    · rw [null]
      exact opened
    · rw [empty]
      exact opened
  unfold sendMessage logWrite
  rw [rotating.started, if_neg nofun, found]
  rfl

theorem write_keeps (rotating : Rotating base run) (message : MainMessage) :
    Rotating base (rotationStep clock base run (.write message)).1 ∧
      (LinesKept base run →
        LinesKept base (rotationStep clock base run (.write message)).1) := by
  obtain ⟨started, main, present, distinct, apart, filled⟩ := rotating
  unfold rotationStep LinesKept
  simp only
  rw [sendMessage_main ⟨started, main, present, distinct, apart, filled⟩]
  split
  · simp only [Option.toList_none, List.map_nil, List.append_nil]
    exact ⟨⟨started, main, present, distinct, apart, filled⟩, id⟩
  · simp only [Option.toList_some, List.map_cons, List.map_nil]
    constructor
    · refine ⟨started, main, present_appendTo _ present, distinct, apart, ?_⟩
      intro line member
      rcases List.mem_append.mp member with old | new
      · exact filled line old
      · rw [List.mem_singleton.mp new]
        exact line_ne_nil base message.message
    · intro kept
      rw [contentOf_appendTo _ _ present, if_pos rfl]
      apply kept.extend
      intro path member
      have different : path ≠ mainLogPath base :=
        fun same => apart (same ▸ member)
      rw [contentOf_appendTo _ _ present, if_neg different, List.append_nil]

/-! ### Rotations -/

theorem contentOf_rename {disk : Disk} {source target : Bytes}
    (present : disk source ≠ none) (different : source ≠ target)
    (other : Bytes) :
    contentOf (disk.rename source target) other =
      if other = source then []
      else if other = target then contentOf disk source
      else contentOf disk other := by
  obtain ⟨data, found⟩ := Option.ne_none_iff_exists'.mp present
  unfold contentOf
  split
  · next same =>
      subst same
      unfold Disk.rename Disk.remove
      simp only [found, Function.update_self]
      rfl
  · next apart =>
      split
      · next same =>
          subst same
          rw [Disk.rename_target found (Ne.symm different), found]
      · next other_ => rw [Disk.rename_of_ne apart other_]

/-- A rotation leaves an open main log and moves its content. -/
theorem rotate_outcome (rotating : Rotating base run) (now : Int) :
    let after := (rotationStep clock base run (.rotate now)).1.logger
    let path := rotatedLogPath base (clock now)
    (after.log.initialized = true ∧
        after.log.mainLogFile = some (mainLogPath base) ∧
        after.disk (mainLogPath base) ≠ none) ∧
      (path = mainLogPath base → ∀ other,
        contentOf after.disk other = contentOf run.logger.disk other) ∧
      (path ≠ mainLogPath base → ∀ other,
        contentOf after.disk other =
          if other = mainLogPath base then []
          else if other = path then
            contentOf run.logger.disk (mainLogPath base)
          else contentOf run.logger.disk other) := by
  intro after path
  have rotates : after =
      { run.logger with
          log := { run.logger.log with mainLogFile := some (mainLogPath base) }
          disk := openAppend
            (atomicReplace (mainLogPath base) path run.logger.disk)
            (mainLogPath base) } := by
    unfold after rotationStep logRotate
    simp only
    rw [rotating.started, if_neg nofun,
      if_neg (not_or.mpr ⟨nofun, rotating.present⟩), if_neg nofun]
  rw [rotates]
  refine ⟨⟨rotating.started, rfl, openAppend_present _ _⟩, ?_, ?_⟩
  · intro same other
    simp only
    rw [contentOf_openAppend, atomicReplace, if_pos same.symm]
  · intro different other
    simp only
    rw [contentOf_openAppend, atomicReplace, if_neg (Ne.symm different),
      contentOf_rename rotating.present (Ne.symm different)]

theorem rotate_rotating (rotating : Rotating base run) (now : Int) :
    Rotating base (rotationStep clock base run (.rotate now)).1 := by
  obtain ⟨⟨started, main, present⟩, _, _⟩ :=
    @rotate_outcome clock base run rotating now
  have list : (rotationStep clock base run (.rotate now)).1.rotated =
      run.rotate base (rotatedLogPath base (clock now)) := rfl
  refine ⟨started, main, present, ?_, ?_, rotating.filled⟩
  · rw [list]
    unfold RotationRun.rotate
    split
    · exact rotating.distinct
    · exact nodup_resealed rotating.distinct _
  · rw [list]
    unfold RotationRun.rotate
    split
    · exact rotating.apart
    · next different =>
        intro member
        rcases mem_resealed member with old | new
        · exact rotating.apart old
        · exact different new.symm

theorem rotate_keeps_iff (rotating : Rotating base run) (now : Int)
    (kept : LinesKept base run) :
    LinesKept base (rotationStep clock base run (.rotate now)).1 ↔
      (rotatedLogPath base (clock now) ∈ run.rotated →
        contentOf run.logger.disk (rotatedLogPath base (clock now)) = []) := by
  obtain ⟨_, onto, away⟩ := @rotate_outcome clock base run rotating now
  generalize path_ : rotatedLogPath base (clock now) = path at onto away ⊢
  have list : (rotationStep clock base run (.rotate now)).1.rotated =
      run.rotate base path := by
    rw [← path_]
    rfl
  have lines : (rotationStep clock base run (.rotate now)).1.lines =
      run.lines := rfl
  unfold LinesKept
  rw [list, lines]
  unfold RotationRun.rotate
  by_cases same : path = mainLogPath base
  · -- The main file is renamed onto itself.
    rw [if_pos same]
    apply iff_of_true
    · have unchanged := funext (onto same)
      unfold LinesKept at kept
      rw [← unchanged] at kept
      exact kept
    · intro member
      exact absurd (same ▸ member) rotating.apart
  · rw [if_neg same]
    have contents := away same
    have emptied := contents (mainLogPath base)
    rw [if_pos rfl] at emptied
    have taken := contents path
    rw [if_neg same, if_pos rfl] at taken
    have others : ∀ other ∈ run.rotated, other ≠ path →
        contentOf (rotationStep clock base run (.rotate now)).1.logger.disk
          other = contentOf run.logger.disk other := by
      intro other member different
      have notMain : other ≠ mainLogPath base :=
        fun equal => rotating.apart (equal ▸ member)
      rw [contents other, if_neg notMain, if_neg different]
    rw [emptied]
    constructor
    · intro after member
      by_contra lost
      exact kept.not_sealed rotating.distinct member lost taken others after
    · intro empty
      exact kept.sealed rotating.distinct rotating.filled empty taken others

/-! ### One call -/

theorem rotating_step (call : RotationCall) (rotating : Rotating base run) :
    Rotating base (rotationStep clock base run call).1 := by
  cases call with
  | write message => exact (write_keeps rotating message).1
  | setLevel level =>
      exact ⟨rotating.started, rotating.main, rotating.present,
        rotating.distinct, rotating.apart, rotating.filled⟩
  | rotate now => exact rotate_rotating rotating now

theorem linesKept_step_iff (call : RotationCall) (rotating : Rotating base run)
    (kept : LinesKept base run) :
    LinesKept base (rotationStep clock base run call).1 ↔
      RotatesFresh clock base run call := by
  cases call with
  | write message =>
      exact iff_of_true ((write_keeps rotating message).2 kept) nofun
  | setLevel level => exact iff_of_true kept nofun
  | rotate now =>
      apply (rotate_keeps_iff rotating now kept).trans
      constructor
      · intro fresh other same
        cases same
        exact fresh
      · intro fresh
        exact fresh now rfl

end Steps

/-! ### Every run -/

theorem rotating_start (env : Option Bytes) (dataDir : Bytes) (disk : Disk) :
    let base := logBasePath env dataDir
    Rotating base (rotationStart env dataDir disk) ∧
      LinesKept base (rotationStart env dataDir disk) := by
  intro base
  have content : contentOf (rotationStart env dataDir disk).logger.disk
      (mainLogPath base) = contentOf disk (mainLogPath base) :=
    contentOf_openAppend disk _ _
  constructor
  · refine ⟨rfl, rfl, openAppend_present _ _, List.nodup_nil, nofun, ?_⟩
    intro line member
    unfold rotationStart at member
    simp only at member
    split at member
    · cases member
    · next some_ =>
        rw [List.mem_singleton.mp member]
        exact some_
  · refine ⟨[], (rotationStart env dataDir disk).lines, List.Forall₂.nil, ?_,
      rfl⟩
    rw [content]
    unfold rotationStart
    simp only
    split
    · next none_ => exact none_
    · exact (List.flatten_singleton).symm

/-- At every point of a run the rotated files followed by the current one hold
the lines of the main log in order, each in one file, exactly if no rotation
reuses the name of a rotated file that has content. -/
theorem log_rotations_keep_iff (clock : LocalClock) (env : Option Bytes)
    (dataDir : Bytes) (disk : Disk) (calls : List RotationCall) :
    (∀ done, done <+: calls → LinesKept (logBasePath env dataDir)
        (final (rotationStep clock (logBasePath env dataDir))
          (rotationStart env dataDir disk) done)) ↔
      Meets (rotationStep clock (logBasePath env dataDir))
        (RotatesFresh clock (logBasePath env dataDir))
        (rotationStart env dataDir disk) calls :=
  prefixes_iff_meets (rotationStep clock (logBasePath env dataDir))
    (RotatesFresh clock (logBasePath env dataDir))
    (Rotating (logBasePath env dataDir)) (LinesKept (logBasePath env dataDir))
    (fun _ call => rotating_step call) (fun _ call => linesKept_step_iff call)
    (rotationStart env dataDir disk) calls (rotating_start env dataDir disk).1
    (rotating_start env dataDir disk).2

/-- The time a rotation reads from the clock. -/
def RotationCall.now : RotationCall → Option Int
  | .rotate now => some now
  | _ => none

def mainLine (printed : String) : MainMessage where
  message :=
    { date := ofString "1970-01-01"
      time := ofString "00:00:00"
      level := levelInfo
      service := none
      traceId := none
      place := nullPlace
      printed := ofString printed }
  main := Or.inl rfl

/-- Two lines rotated away within one second: the first is lost. -/
theorem log_rotations_lose_line :
    ¬∀ (clock : LocalClock) (env : Option Bytes) (dataDir : Bytes)
      (disk : Disk) (calls : List RotationCall),
      (calls.filterMap RotationCall.now).Pairwise (· ≤ ·) →
      ∀ done, done <+: calls → LinesKept (logBasePath env dataDir)
        (final (rotationStep clock (logBasePath env dataDir))
          (rotationStart env dataDir disk) done) := by
  intro always
  let calls : List RotationCall :=
    [.write (mainLine "a"), .rotate 0, .write (mainLine "b"), .rotate 0]
  have kept := always gmtime none (ofString "/var/lib") (fun _ => none) calls
    (by decide) calls List.prefix_rfl
  have lengths := congrArg List.length kept.text
  revert lengths
  decide

end Heapstore.Log
