/-
Migration steps and the engine that runs them.

A step backs the registry database up, adds columns to it and restores the
backup when one of them fails.  The engine selects the applicable steps, runs
them in order and records the target version after the last one.
-/

import Heapstore.MigrationVersionFile

namespace Heapstore.Migration

open ByteText SqlTable SqlConnection

/-! ### The registry database of a step -/

def migDbPath (root : Bytes) : Bytes :=
  printTo maxPathLen (root ++ ofString "/registry/registry.db")

def backupPath (path : Bytes) : Bytes :=
  printTo maxPathLen (path ++ ofString ".pre_migration_bak")

/-- The outcomes of one backup.  `torn` is what the backup file holds when
copying or syncing fails. -/
structure BackupCalls where
  sourceOpened : Bool
  targetOpened : Bool
  copied : Bool
  torn : FileData

/-- `mig_backup_data_file`: opening the backup truncates it before the copy. -/
def migBackupDataFile (root : Bytes) (calls : BackupCalls) (path : Bytes)
    (disk : Disk) : Disk × HeapstoreError :=
  match disk.find root path with
  | .missing => (disk, .errFileOpenFailed)
  | .directory => (disk, .errFileOpenFailed)
  | .file _ =>
      if calls.sourceOpened = false ∨ calls.targetOpened = false then
        (disk, .errFileOpenFailed)
      else
        let opened := disk.write (backupPath path) (.bytes [])
        if calls.copied = false then
          (opened.write (backupPath path) calls.torn, .errFileOperationFailed)
        else
          match opened path with
          | none => (opened, .errFileOperationFailed)
          | some data => (opened.write (backupPath path) data, .success)

/-- `mig_restore_data_file`, whose result the callers ignore. -/
def migRestoreDataFile (renamed : Bool) (path : Bytes) (disk : Disk) : Disk :=
  if renamed then disk.rename (backupPath path) path else disk

def migCleanupBackupFile (removed : Bool) (path : Bytes) (disk : Disk) : Disk :=
  if removed then disk.remove (backupPath path) else disk

structure ColOp where
  table : String
  column : Column
  deriving DecidableEq

structure ColumnCalls where
  info : Bool
  alter : Bool
  counted : Bool
  deriving DecidableEq

def migTableHasColumn (info : Bool) (database : Database) (op : ColOp) : Bool :=
  info &&
    match database op.table with
    | none => false
    | some table => decide (op.column.name ∈ table.names)

/-- `mig_add_column`, with the number of affected records. -/
def migAddColumn (calls : ColumnCalls) (op : ColOp) (database : Database) :
    Database × HeapstoreError × UInt64 :=
  if migTableHasColumn calls.info database op then (database, .success, 0)
  else if calls.alter = false then (database, .errDbQueryFailed, 0)
  else
    match database op.table with
    | none => (database, .errDbQueryFailed, 0)
    | some table =>
        match table.addColumn op.column with
        | none => (database, .errDbQueryFailed, 0)
        | some altered =>
            (Function.update database op.table (some altered), .success,
              if calls.counted then UInt64.ofNat altered.rows.length else 0)

/-- The operation loop of `mig_apply_cols` on the open database. -/
def runColumnOps : (Nat → ColumnCalls) → List ColOp → Database → UInt64 →
    Database × HeapstoreError × UInt64
  | _, [], database, affected => (database, .success, affected)
  | calls, op :: rest, database, affected =>
      let added := migAddColumn (calls 0) op database
      if added.2.1 = .success then
        runColumnOps (fun index => calls (index + 1)) rest added.1
          (affected + added.2.2)
      else (added.1, added.2.1, affected)

structure ApplyCalls where
  backup : BackupCalls
  opened : Bool
  column : Nat → ColumnCalls
  restored : Bool
  removed : Bool

structure ApplyResult where
  disk : Disk
  error : HeapstoreError
  recordsAffected : UInt64

def totalRecords (counts : List UInt64) : UInt64 :=
  counts.foldr (· + ·) 0

/-- `mig_apply_cols` in the build with SQLite. -/
def migApplyCols (root : Bytes) (calls : ApplyCalls) (ops : List ColOp)
    (disk : Disk) : ApplyResult :=
  let path := migDbPath root
  match disk.find root path with
  | .missing => { disk := disk, error := .success, recordsAffected := 0 }
  | _ =>
      let backed := migBackupDataFile root calls.backup path disk
      if backed.2 ≠ .success then
        { disk := backed.1, error := backed.2, recordsAffected := 0 }
      else if calls.opened = false then
        { disk := migRestoreDataFile calls.restored path backed.1
          error := .errDbInitFailed
          recordsAffected := 0 }
      else
        match (backed.1 path).bind FileData.tables with
        | none =>
            -- The file is no database: opening succeeds, every statement fails.
            if ops = [] then
              { disk := migCleanupBackupFile calls.removed path backed.1
                error := .success
                recordsAffected := 0 }
            else
              { disk := migRestoreDataFile calls.restored path backed.1
                error := .errDbQueryFailed
                recordsAffected := 0 }
        | some database =>
            let ran := runColumnOps calls.column ops database 0
            let written := backed.1.write path (.database ran.1)
            if ran.2.1 = .success then
              { disk := migCleanupBackupFile calls.removed path written
                error := .success
                recordsAffected := ran.2.2 }
            else
              { disk := migRestoreDataFile calls.restored path written
                error := ran.2.1
                recordsAffected := 0 }

structure MigrationStepDef where
  name : String
  execute : Bytes → ApplyCalls → Disk → ApplyResult
  fromVersion : UInt32
  toVersion : UInt32

/-! ### The engine -/

def maxSteps : Nat := 64

structure StepCalls where
  apply : ApplyCalls
  durationMs : UInt64

/-- The outcomes of one engine run; `allocated` is the report's step array. -/
structure RunCalls where
  step : Nat → StepCalls
  setVersion : VersionWriteCalls
  allocated : Bool
  totalMs : UInt64

structure MigrationStep where
  name : CharArray 128
  result : HeapstoreError
  recordsAffected : UInt64
  durationMs : UInt64
  deriving DecidableEq

def zeroedStep : MigrationStep where
  name := CharArray.copy []
  result := .success
  recordsAffected := 0
  durationMs := 0

structure MigrationReport where
  fromVersion : UInt32
  toVersion : UInt32
  stepCount : Nat
  steps : Option (List MigrationStep)
  success : Bool
  totalDurationMs : UInt64
  totalRecordsAffected : UInt64
  deriving DecidableEq

structure ExecutedStep where
  step : MigrationStepDef
  outcome : MigrationStep

def applicableSteps (steps : List MigrationStepDef)
    (current target : UInt32) : List MigrationStepDef :=
  (steps.filter fun step =>
    decide (current ≤ step.fromVersion) && decide (step.toVersion ≤ target)).take
      maxSteps

/-- The execution loop of `mig_run_steps`: the first failure ends it. -/
def runSteps (root : Bytes) : (Nat → StepCalls) → List MigrationStepDef →
    Disk → Disk × List ExecutedStep
  | _, [], disk => (disk, [])
  | calls, step :: rest, disk =>
      let applied := step.execute root (calls 0).apply disk
      let executed : ExecutedStep :=
        { step := step
          outcome :=
            { name := CharArray.copy (ofString step.name)
              result := applied.error
              recordsAffected := applied.recordsAffected
              durationMs := (calls 0).durationMs } }
      if applied.error = .success then
        let later := runSteps root (fun index => calls (index + 1)) rest
          applied.disk
        (later.1, executed :: later.2)
      else (applied.disk, [executed])

structure RunResult where
  disk : Disk
  error : HeapstoreError
  report : Option MigrationReport
  executed : List ExecutedStep

/-- `mig_run_steps`; `wanted` is whether the caller passed a report. -/
def migRunSteps (ready : Bool) (root : Bytes) (calls : RunCalls)
    (wanted : Bool) (steps : List MigrationStepDef)
    (current target : UInt32) (disk : Disk) : RunResult :=
  let applicable := applicableSteps steps current target
  let ran := runSteps root calls.step applicable disk
  let stepsSucceeded :=
    ran.2.all fun executed => executed.outcome.result = .success
  let recorded :=
    if stepsSucceeded then
      migrationSetVersion ready root calls.setVersion target ran.1
    else (ran.1, .errInternal)
  let succeeded := stepsSucceeded && decide (recorded.2 = .success)
  let entries := ran.2.map ExecutedStep.outcome
  let report : MigrationReport :=
    { fromVersion := current
      toVersion := target
      stepCount := applicable.length
      steps :=
        if calls.allocated then
          some (entries ++
            List.replicate (applicable.length - entries.length) zeroedStep)
        else none
      success := succeeded
      totalDurationMs := calls.totalMs
      totalRecordsAffected := 0 }
  { disk := recorded.1
    error := if succeeded then .success else .errInternal
    report := if wanted then some report else none
    executed := ran.2 }

/-! ### What a step leaves alone -/

section Frames

variable {root path other : Bytes} {disk : Disk}

private theorem backup_of_ne {calls : BackupCalls}
    (notBackup : other ≠ backupPath path) :
    (migBackupDataFile root calls path disk).1 other = disk other := by
  unfold migBackupDataFile
  cases disk.find root path with
  | missing => rfl
  | directory => rfl
  | file _ =>
      simp only
      split
      · rfl
      · split
        · exact (Disk.write_of_ne notBackup).trans (Disk.write_of_ne notBackup)
        · split
          · exact Disk.write_of_ne notBackup
          · exact (Disk.write_of_ne notBackup).trans
              (Disk.write_of_ne notBackup)

private theorem restore_of_ne {renamed : Bool} (notPath : other ≠ path)
    (notBackup : other ≠ backupPath path) :
    migRestoreDataFile renamed path disk other = disk other := by
  unfold migRestoreDataFile
  split
  · exact Disk.rename_of_ne notBackup notPath
  · rfl

private theorem cleanup_of_ne {removed : Bool}
    (notBackup : other ≠ backupPath path) :
    migCleanupBackupFile removed path disk other = disk other := by
  unfold migCleanupBackupFile
  split
  · exact Disk.remove_of_ne notBackup
  · rfl

/-- Column operations touch the registry database and its backup only. -/
theorem migApplyCols_of_ne {calls : ApplyCalls} {ops : List ColOp}
    (notPath : other ≠ migDbPath root)
    (notBackup : other ≠ backupPath (migDbPath root)) :
    (migApplyCols root calls ops disk).disk other = disk other := by
  have backed : ∀ outcomes,
      (migBackupDataFile root outcomes (migDbPath root) disk).1 other =
        disk other :=
    fun outcomes => backup_of_ne notBackup
  unfold migApplyCols
  simp only
  split
  · rfl
  · split
    · exact backed _
    · split
      · exact (restore_of_ne notPath notBackup).trans (backed _)
      · split
        · split
          · exact (cleanup_of_ne notBackup).trans (backed _)
          · exact (restore_of_ne notPath notBackup).trans (backed _)
        · split
          · exact (cleanup_of_ne notBackup).trans
              ((Disk.write_of_ne notPath).trans (backed _))
          · exact (restore_of_ne notPath notBackup).trans
              ((Disk.write_of_ne notPath).trans (backed _))

end Frames

/-! ### What a run executes -/

def MigrationStepDef.LeavesAlone (root path : Bytes) (step : MigrationStepDef) :
    Prop :=
  ∀ calls disk, (step.execute root calls disk).disk path = disk path

theorem runSteps_of_leavesAlone {root path : Bytes}
    {steps : List MigrationStepDef} (calls : Nat → StepCalls) (disk : Disk)
    (alone : ∀ step ∈ steps, step.LeavesAlone root path) :
    (runSteps root calls steps disk).1 path = disk path := by
  induction steps generalizing calls disk with
  | nil => rfl
  | cons step rest ih =>
      have here := alone step List.mem_cons_self (calls 0).apply disk
      unfold runSteps
      simp only
      split
      · exact (ih _ _ fun other member =>
          alone other (List.mem_cons_of_mem step member)).trans here
      · exact here

/-- A run whose executed steps all succeeded executed every step. -/
theorem runSteps_complete {root : Bytes} {steps : List MigrationStepDef}
    (calls : Nat → StepCalls) (disk : Disk)
    (succeeded : ∀ executed ∈ (runSteps root calls steps disk).2,
      executed.outcome.result = .success) :
    (runSteps root calls steps disk).2.map ExecutedStep.step = steps := by
  induction steps generalizing calls disk with
  | nil => rfl
  | cons step rest ih =>
      unfold runSteps at succeeded ⊢
      simp only at succeeded ⊢
      by_cases here : (step.execute root (calls 0).apply disk).error = .success
      · rw [if_pos here] at succeeded ⊢
        rw [List.map_cons]
        congr 1
        exact ih _ _ fun executed member =>
          succeeded executed (List.mem_cons_of_mem _ member)
      · rw [if_neg here] at succeeded
        exact absurd (succeeded _ List.mem_cons_self) here

/-- A failed run leaves the version file as it was; a successful run executed
every applicable step and recorded the target. -/
theorem migRunSteps_outcome {ready : Bool} {root : Bytes} {calls : RunCalls}
    {wanted : Bool} {steps : List MigrationStepDef} {current target : UInt32}
    {disk : Disk}
    (alone : ∀ step ∈ steps, step.LeavesAlone root (versionFilePath root)) :
    let result := migRunSteps ready root calls wanted steps current target disk
    (result.error ≠ .success ∧
        result.disk (versionFilePath root) = disk (versionFilePath root)) ∨
      (result.error = .success ∧ RecordedVersion root result.disk target ∧
        result.executed.map ExecutedStep.step =
          applicableSteps steps current target ∧
        ∀ executed ∈ result.executed, executed.outcome.result = .success) := by
  have selectedAlone : ∀ step ∈ applicableSteps steps current target,
      step.LeavesAlone root (versionFilePath root) := by
    intro step member
    exact alone step (List.mem_filter.mp (List.mem_of_mem_take member)).1
  have frame := runSteps_of_leavesAlone calls.step disk selectedAlone
  unfold migRunSteps
  simp only
  generalize ran : runSteps root calls.step
    (applicableSteps steps current target) disk = result at frame
  cases all : result.2.all fun executed =>
      decide (executed.outcome.result = .success) with
  | false => exact Or.inl ⟨nofun, frame⟩
  | true =>
      have succeeded : ∀ executed ∈ result.2,
          executed.outcome.result = .success := by
        intro executed member
        exact of_decide_eq_true (List.all_eq_true.mp all executed member)
      simp only [if_true, Bool.true_and]
      by_cases recorded : (migrationSetVersion ready root calls.setVersion
          target result.1).2 = .success
      · refine Or.inr ⟨by rw [decide_eq_true recorded]; rfl,
          recordedVersion_of_write recorded, ?_, succeeded⟩
        rw [← ran] at succeeded ⊢
        exact runSteps_complete calls.step disk succeeded
      · refine Or.inl ⟨by rw [decide_eq_false recorded]; nofun, ?_⟩
        rcases migrationSetVersion_outcome ready root calls.setVersion target
            result.1 with ⟨_, unchanged⟩ | ⟨done, _⟩
        · exact unchanged.trans frame
        · exact absurd done recorded

theorem migRunSteps_of_nil {ready : Bool} {root : Bytes} {calls : RunCalls}
    {wanted : Bool} {steps : List MigrationStepDef} {current target : UInt32}
    {disk : Disk} (nothing : applicableSteps steps current target = []) :
    let written := migrationSetVersion ready root calls.setVersion target disk
    let result := migRunSteps ready root calls wanted steps current target disk
    result.disk = written.1 ∧
      (result.error = .success ↔ written.2 = .success) := by
  intro written result
  unfold result migRunSteps
  simp only [nothing, runSteps, List.all_nil, if_true, Bool.true_and]
  refine ⟨rfl, ?_⟩
  by_cases done : written.2 = .success
  · rw [decide_eq_true done]
    exact ⟨fun _ => done, fun _ => rfl⟩
  · rw [decide_eq_false done]
    exact ⟨nofun, fun other => absurd other done⟩

end Heapstore.Migration
