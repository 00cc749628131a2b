/-
Writing the version file, call by call.

A write opens the temporary file, prints, flushes, syncs, closes it and renames
it over the version file.  Each call may fail, and a crash may come between any
two of them; until the sync the bytes of the temporary file are whatever has
reached the disk.
-/

import Heapstore.MigrationVersionGrammar
import Heapstore.Foundation.OperationRun

namespace Heapstore.Migration

open ByteText

/-! ### The calls of one write -/

/-- The call that a write makes next. -/
inductive WriteStage where
  | opening
  | printing
  | flushing
  | syncing
  | closing
  | replacing
  /-- The file is closed, its removal is next. -/
  | removing
  | returned (error : HeapstoreError)
  deriving DecidableEq

structure WriteState where
  disk : Disk
  stage : WriteStage

inductive WriteEvent where
  | call (succeeds : Bool)
  /-- Bytes of the temporary file reach the disk, or are lost. -/
  | drift (content : Bytes)
  deriving DecidableEq

def temporaryPath (root : Bytes) : Bytes :=
  versionFilePath root ++ ofString ".tmp"

def writeStart (disk : Disk) : WriteState :=
  { disk := disk, stage := .opening }

/-- The next call of `heapstore_migration_set_version` with its outcome. -/
def writeCall (ready : Bool) (root : Bytes) (version : UInt32)
    (succeeds : Bool) (state : WriteState) : WriteState :=
  let temporary := temporaryPath root
  match state.stage with
  | .opening =>
      if ready = false then { state with stage := .returned .errNotInitialized }
      else if maxPathLen ≤ temporary.length then
        { state with stage := .returned .errConfigInvalid }
      else if succeeds then
        { disk := state.disk.write temporary (.bytes []), stage := .printing }
      else { state with stage := .returned .errFileOpenFailed }
  | .printing =>
      { state with stage := if succeeds then .flushing else .removing }
  | .flushing =>
      { state with stage := if succeeds then .syncing else .removing }
  | .syncing =>
      -- Only a sync that succeeds says what the file holds.
      if succeeds then
        { disk := state.disk.write temporary (.bytes (versionText version))
          stage := .closing }
      else { state with stage := .removing }
  | .closing =>
      { state with stage := if succeeds then .replacing else .removing }
  | .replacing =>
      if succeeds then
        { disk := state.disk.rename temporary (versionFilePath root)
          stage := .returned .success }
      else { state with stage := .removing }
  | .removing =>
      { disk := if succeeds then state.disk.remove temporary else state.disk
        stage := .returned .errFileOperationFailed }
  | .returned _ => state

/-- Whether the bytes of the temporary file may still change by themselves. -/
def WriteStage.unsynced : WriteStage → Bool
  | .printing | .flushing | .syncing | .removing => true
  | .opening | .closing | .replacing | .returned _ => false

def writeStep (ready : Bool) (root : Bytes) (version : UInt32) :
    OperationRun.Machine WriteState WriteEvent Unit :=
  fun state event =>
    match event with
    | .call succeeds => (writeCall ready root version succeeds state, ())
    | .drift content =>
        if state.stage.unsynced then
          ({ state with
              disk := state.disk.write (temporaryPath root) (.bytes content) },
            ())
        else (state, ())

/-- The state after any number of calls: here a crash may end the write. -/
def writeReached (ready : Bool) (root : Bytes) (version : UInt32) (disk : Disk)
    (events : List WriteEvent) : WriteState :=
  OperationRun.final (writeStep ready root version) (writeStart disk) events

/-! ### What every crash leaves -/

/-- The version file keeps its content until the rename, and the rename finds
the complete numeral in the temporary file. -/
def WriteInvariant (root : Bytes) (version : UInt32) (old : Option FileData)
    (state : WriteState) : Prop :=
  match state.stage with
  | .opening | .printing | .flushing | .syncing | .removing =>
      state.disk (versionFilePath root) = old
  | .closing | .replacing =>
      state.disk (versionFilePath root) = old ∧
        state.disk (temporaryPath root) = some (.bytes (versionText version))
  | .returned error =>
      if error = .success then
        state.disk (versionFilePath root) = some (.bytes (versionText version)) ∧
          state.disk (temporaryPath root) = none
      else state.disk (versionFilePath root) = old

theorem versionFilePath_ne_temporaryPath (root : Bytes) :
    versionFilePath root ≠ temporaryPath root := by
  intro same
  have lengths := congrArg List.length same
  unfold temporaryPath at lengths
  rw [List.length_append] at lengths
  change _ = _ + 4 at lengths
  omega

private theorem write_temporary {root : Bytes} {disk : Disk}
    {data : FileData} :
    disk.write (temporaryPath root) data (versionFilePath root) =
      disk (versionFilePath root) :=
  Disk.write_of_ne (versionFilePath_ne_temporaryPath root)

theorem writeInvariant_call (ready : Bool) {root : Bytes} {version : UInt32}
    {old : Option FileData} (succeeds : Bool) {state : WriteState}
    (kept : WriteInvariant root version old state) :
    WriteInvariant root version old
      (writeCall ready root version succeeds state) := by
  obtain ⟨disk, stage⟩ := state
  unfold writeCall
  cases stage with
  | opening =>
      simp only
      split
      · exact kept
      · split
        · exact kept
        · split
          · exact write_temporary.trans kept
          · exact kept
  | printing => cases succeeds <;> exact kept
  | flushing => cases succeeds <;> exact kept
  | syncing =>
      cases succeeds with
      | false => exact kept
      | true => exact ⟨write_temporary.trans kept, Disk.write_self ..⟩
  | closing =>
      cases succeeds with
      | false => exact kept.1
      | true => exact kept
  | replacing =>
      cases succeeds with
      | false => exact kept.1
      | true =>
          exact ⟨Disk.rename_target kept.2
            (versionFilePath_ne_temporaryPath root),
            Disk.rename_source kept.2⟩
  | removing =>
      cases succeeds with
      | false => exact kept
      | true =>
          exact (Disk.remove_of_ne
            (versionFilePath_ne_temporaryPath root)).trans kept
  | returned error => exact kept

theorem writeInvariant_drift {root : Bytes} {version : UInt32}
    {old : Option FileData} (content : Bytes) {state : WriteState}
    (unsynced : state.stage.unsynced = true)
    (kept : WriteInvariant root version old state) :
    WriteInvariant root version old
      { state with
        disk := state.disk.write (temporaryPath root) (.bytes content) } := by
  obtain ⟨disk, stage⟩ := state
  cases stage with
  | printing => exact write_temporary.trans kept
  | flushing => exact write_temporary.trans kept
  | syncing => exact write_temporary.trans kept
  | removing => exact write_temporary.trans kept
  | opening => cases unsynced
  | closing => cases unsynced
  | replacing => cases unsynced
  | returned error => cases unsynced

theorem writeInvariant_step (ready : Bool) (root : Bytes) (version : UInt32)
    (old : Option FileData) (state : WriteState) (event : WriteEvent)
    (kept : WriteInvariant root version old state) :
    WriteInvariant root version old
      (writeStep ready root version state event).1 := by
  unfold writeStep
  cases event with
  | call succeeds => exact writeInvariant_call ready succeeds kept
  | drift content =>
      simp only
      split
      · next unsynced => exact writeInvariant_drift content unsynced kept
      · exact kept

theorem writeInvariant_reached (ready : Bool) (root : Bytes) (version : UInt32)
    (disk : Disk) (events : List WriteEvent) :
    WriteInvariant root version (disk (versionFilePath root))
      (writeReached ready root version disk events) :=
  OperationRun.invariant (writeStep ready root version) _
    (writeInvariant_step ready root version (disk (versionFilePath root)))
    (writeStart disk) events rfl

theorem WriteInvariant.oldOrNew {root : Bytes} {version : UInt32}
    {old : Option FileData} {state : WriteState}
    (kept : WriteInvariant root version old state) :
    state.disk (versionFilePath root) = old ∨
      state.disk (versionFilePath root) = some (.bytes (versionText version)) := by
  obtain ⟨disk, stage⟩ := state
  cases stage with
  | opening => exact Or.inl kept
  | printing => exact Or.inl kept
  | flushing => exact Or.inl kept
  | syncing => exact Or.inl kept
  | removing => exact Or.inl kept
  | closing => exact Or.inl kept.1
  | replacing => exact Or.inl kept.1
  | returned error =>
      unfold WriteInvariant at kept
      simp only at kept
      split at kept
      · exact Or.inr kept.1
      · exact Or.inl kept

/-- Wherever a write ends, the version file is the old one or holds the whole
new numeral; success means the second, without a temporary file, and an error
the first. -/
theorem setVersion_crash_atomic (ready : Bool) (root : Bytes)
    (version : UInt32) (disk : Disk) (events : List WriteEvent) :
    let reached := writeReached ready root version disk events
    (reached.disk (versionFilePath root) = disk (versionFilePath root) ∨
      reached.disk (versionFilePath root) =
        some (.bytes (versionText version))) ∧
    (reached.stage = .returned .success →
      reached.disk (versionFilePath root) =
          some (.bytes (versionText version)) ∧
        reached.disk (temporaryPath root) = none) ∧
    ∀ error, error ≠ .success → reached.stage = .returned error →
      reached.disk (versionFilePath root) = disk (versionFilePath root) := by
  intro reached
  have kept : WriteInvariant root version (disk (versionFilePath root)) reached :=
    writeInvariant_reached ready root version disk events
  refine ⟨kept.oldOrNew, fun ended => ?_, fun error failed ended => ?_⟩
  · unfold WriteInvariant at kept
    rw [ended] at kept
    exact kept
  · unfold WriteInvariant at kept
    rw [ended] at kept
    simp only [if_neg failed] at kept
    exact kept

/-- What a later start reads after a crash: the old version or the new one. -/
theorem recordedVersion_of_crash {ready : Bool} {root : Bytes}
    {version recorded : UInt32} {disk : Disk} {events : List WriteEvent}
    (short : root.length < 510)
    (read : RecordedVersion root
      (writeReached ready root version disk events).disk recorded) :
    RecordedVersion root disk recorded ∨ recorded = version := by
  rcases (writeInvariant_reached ready root version disk events).oldOrNew with
    old | new
  · exact Or.inl ((recordedVersion_congr old recorded).mp read)
  · exact Or.inr
      (recordedVersion_unique read (recordedVersion_of_text short new))

/-! ### The whole call -/

/-- The events of a call that runs to its end. -/
def VersionWriteCalls.events (calls : VersionWriteCalls) (version : UInt32) :
    List WriteEvent :=
  let torn : WriteEvent := .drift ((versionText version).take calls.written)
  if calls.opened = false then [.call false]
  else if calls.printed = false then
    [.call true, torn, .call false, .call calls.removed]
  else if calls.synced = false then
    [.call true, .call true, .call true, torn, .call false,
      .call calls.removed]
  else if calls.closed = false then
    [.call true, .call true, .call true, .call true, .call false,
      .call calls.removed]
  else if calls.renamed = false then
    [.call true, .call true, .call true, .call true, .call true, .call false,
      .call calls.removed]
  else
    [.call true, .call true, .call true, .call true, .call true, .call true]

private theorem reached_returned {ready : Bool} {root : Bytes}
    {version : UInt32} (state : WriteState) {error : HeapstoreError}
    (returned : state.stage = .returned error) (events : List WriteEvent) :
    OperationRun.final (writeStep ready root version) state events = state := by
  induction events with
  | nil => rfl
  | cons event rest ih =>
      have stays : (writeStep ready root version state event).1 = state := by
        obtain ⟨disk, stage⟩ := state
        cases returned
        cases event <;> rfl
      rw [OperationRun.final_cons, stays]
      exact ih

/-- A write that ends at its first call. -/
private theorem reached_rejected {ready : Bool} {root : Bytes}
    {version : UInt32} {disk : Disk} (calls : VersionWriteCalls)
    {error : HeapstoreError}
    (rejected : writeCall ready root version calls.opened (writeStart disk) =
      { disk := disk, stage := .returned error }) :
    writeReached ready root version disk (calls.events version) =
      { disk := disk, stage := .returned error } := by
  obtain ⟨rest, first⟩ :
      ∃ rest, calls.events version = .call calls.opened :: rest := by
    unfold VersionWriteCalls.events
    cases calls.opened with
    | false => exact ⟨[], rfl⟩
    | true => cases calls.printed <;> cases calls.synced <;>
        cases calls.closed <;> cases calls.renamed <;> exact ⟨_, rfl⟩
  have step : (writeStep ready root version (writeStart disk)
      (.call calls.opened)).1 = { disk := disk, stage := .returned error } :=
    rejected
  unfold writeReached
  rw [first, OperationRun.final_cons, step]
  exact reached_returned _ rfl rest

/-- A call as a whole is one run of its steps. -/
theorem migrationSetVersion_reached (ready : Bool) (root : Bytes)
    (calls : VersionWriteCalls) (version : UInt32) (disk : Disk) :
    writeReached ready root version disk (calls.events version) =
      { disk := (migrationSetVersion ready root calls version disk).1
        stage :=
          .returned (migrationSetVersion ready root calls version disk).2 } := by
  cases ready with
  | false => exact reached_rejected calls rfl
  | true =>
      by_cases long : maxPathLen ≤ (temporaryPath root).length
      · have rejected : migrationSetVersion true root calls version disk =
            (disk, .errConfigInvalid) := if_pos long
        rw [rejected]
        apply reached_rejected
        unfold writeCall
        simp only [writeStart, Bool.true_eq_false, if_false, if_pos long]
      · have opened (rest : List WriteEvent) :
            writeReached true root version disk (.call true :: rest) =
              OperationRun.final (writeStep true root version)
                { disk := disk.write (temporaryPath root) (.bytes [])
                  stage := .printing } rest := by
          unfold writeReached
          rw [OperationRun.final_cons]
          unfold writeStep writeCall
          simp only [writeStart, Bool.true_eq_false, if_false, if_neg long,
            if_true]
        have fold : versionFilePath root ++ ofString ".tmp" =
            temporaryPath root := rfl
        have torn (content : Bytes) :
            (disk.write (temporaryPath root) (.bytes [])).write
                (temporaryPath root) (.bytes content) =
              disk.write (temporaryPath root) (.bytes content) :=
          Disk.write_write ..
        unfold migrationSetVersion
        simp only [fold, if_neg long, Bool.true_eq_false, if_false]
        obtain ⟨isOpened, printed, synced, closed, renamed, removed, written⟩ :=
          calls
        cases isOpened with
        | false =>
            apply reached_rejected
            unfold writeCall
            simp only [writeStart, Bool.true_eq_false, Bool.false_eq_true,
              if_false, if_neg long, if_true]
        | true =>
            cases printed with
            | false =>
                refine (opened _).trans ?_
                rw [← torn ((versionText version).take written)]
                cases removed <;> rfl
            | true =>
                cases synced with
                | false =>
                    refine (opened _).trans ?_
                    rw [← torn ((versionText version).take written)]
                    cases removed <;> rfl
                | true =>
                    rw [← torn (versionText version)]
                    cases closed with
                    | false =>
                        refine (opened _).trans ?_
                        cases removed <;> rfl
                    | true =>
                        cases renamed with
                        | false =>
                            refine (opened _).trans ?_
                            cases removed <;> rfl
                        | true => exact opened _

/-! ### Writing and reading back -/

/-- After a write that succeeded, reading gives exactly the written version,
and no reader is given another one. -/
theorem getVersion_after_setVersion {ready : Bool} {root : Bytes}
    {calls : VersionWriteCalls} {version : UInt32} {disk : Disk}
    (succeeded :
      (migrationSetVersion ready root calls version disk).2 = .success)
    (prior : UInt32) :
    let written := (migrationSetVersion ready root calls version disk).1
    migrationGetVersionInto prior true ready root .ok written =
        (.success, version) ∧
      ∀ out isReady readCalls,
        (migrationGetVersionInto prior out isReady root readCalls written).1 =
            .success →
          migrationGetVersionInto prior out isReady root readCalls written =
            (.success, version) := by
  have recorded := recordedVersion_of_write succeeded
  have isReady : ready = true := by
    rcases migrationSetVersion_outcome ready root calls version disk with
      ⟨failed, _⟩ | ⟨_, isReady, _⟩
    · exact absurd succeeded failed
    · exact isReady
  subst isReady
  intro written
  have read : migrationGetVersion true true root .ok written = .ok version :=
    recorded
  constructor
  · unfold migrationGetVersionInto
    rw [read]
  · intro out isReady readCalls accepted
    unfold migrationGetVersionInto at accepted ⊢
    cases other : migrationGetVersion out isReady root readCalls written with
    | error error =>
        rw [other] at accepted
        exact absurd accepted (migrationGetVersion_error_ne other)
    | ok value =>
        rw [recordedVersion_unique (recordedVersion_of_read other) recorded]

theorem getVersion_after_setVersion_largest :
    let written := (migrationSetVersion true (ofString "/data") .ok 4294967295
      fun _ => none).1
    migrationGetVersionInto 7 true true (ofString "/data") .ok written =
        (.success, 4294967295) ∧
      ∀ out isReady readCalls,
        (migrationGetVersionInto 7 out isReady (ofString "/data") readCalls
            written).1 = .success →
          migrationGetVersionInto 7 out isReady (ofString "/data") readCalls
            written = (.success, 4294967295) :=
  getVersion_after_setVersion (by decide) 7

end Heapstore.Migration
