/-
Repeated attempts at a forward migration.

A failed attempt may have completed some steps and taken another one back, so
the next one starts from a mixture of schemas under the old version.  What the
column operations do to a database is first stated without failures; then the
database behind any sequence of failed attempts is the original one with the
operations of some first steps, and an operation whose column is there already
does nothing.
-/

import Heapstore.MigrationForwardRuns
import Heapstore.RegistrySqlite

namespace Heapstore.Migration

open ByteText OperationRun SqlTable SqlConnection

/-! ### Column operations without failures -/

/-- The column of the operation is there. -/
def ColOp.Done (op : ColOp) (database : Database) : Prop :=
  migTableHasColumn true database op = true

def addMissing (op : ColOp) (database : Database) : Option Database :=
  if migTableHasColumn true database op then some database
  else
    (database op.table).bind fun table =>
      (table.addColumn op.column).map fun altered =>
        Function.update database op.table (some altered)

def addColumns : List ColOp → Database → Option Database
  | [], database => some database
  | op :: rest, database => (addMissing op database).bind (addColumns rest)

theorem addColumns_append (first second : List ColOp) (database : Database) :
    addColumns (first ++ second) database =
      (addColumns first database).bind (addColumns second) := by
  induction first generalizing database with
  | nil => rfl
  | cons op rest ih =>
      rw [List.cons_append, addColumns, addColumns, Option.bind_assoc]
      congr 1
      funext next
      exact ih next

theorem done_iff {op : ColOp} {database : Database} :
    op.Done database ↔
      ∃ table, database op.table = some table ∧
        op.column.name ∈ table.names := by
  unfold ColOp.Done migTableHasColumn
  rw [Bool.true_and]
  cases held : database op.table with
  | none => simp
  | some table => simp

theorem addColumn_names {table altered : Table} {column : Column}
    (added : table.addColumn column = some altered) :
    altered.names = table.names ++ [column.name] ∧
      column.name ∉ table.names := by
  unfold Table.addColumn at added
  split at added
  · cases added
  · next fresh =>
      simp only at added
      split at added
      · cases added
        exact ⟨List.map_append, fun taken => fresh (Or.inl taken)⟩
      · cases added

/-- Adding a column keeps every column that is there. -/
theorem addMissing_outcome {op : ColOp} {database after : Database}
    (added : addMissing op database = some after) :
    op.Done after ∧ ∀ other : ColOp, other.Done database → other.Done after := by
  unfold addMissing at added
  split at added
  · next present =>
      cases added
      exact ⟨present, fun other done => done⟩
  · obtain ⟨table, held, altering⟩ := Option.bind_eq_some_iff.mp added
    obtain ⟨altered, here, rfl⟩ := Option.map_eq_some_iff.mp altering
    obtain ⟨names, _⟩ := addColumn_names here
    constructor
    · refine done_iff.mpr ⟨altered, Function.update_self .., ?_⟩
      rw [names]
      exact List.mem_append_right _ (List.mem_singleton.mpr rfl)
    · intro other done
      obtain ⟨otherTable, otherHeld, named⟩ := done_iff.mp done
      by_cases same : other.table = op.table
      · rw [same, held] at otherHeld
        cases otherHeld
        refine done_iff.mpr ⟨altered, ?_, ?_⟩
        · rw [same, Function.update_self]
        · rw [names]
          exact List.mem_append_left _ named
      · exact done_iff.mpr ⟨otherTable,
          (Function.update_of_ne same ..).trans otherHeld, named⟩

theorem addColumns_keep {ops : List ColOp} {database after : Database}
    (added : addColumns ops database = some after) (other : ColOp)
    (done : other.Done database) : other.Done after := by
  induction ops generalizing database with
  | nil =>
      cases added
      exact done
  | cons op rest ih =>
      obtain ⟨next, first, later⟩ := Option.bind_eq_some_iff.mp added
      exact ih later ((addMissing_outcome first).2 other done)

theorem addColumns_done {ops : List ColOp} {database after : Database}
    (added : addColumns ops database = some after) :
    ∀ op ∈ ops, op.Done after := by
  induction ops generalizing database with
  | nil => exact fun _ => nofun
  | cons op rest ih =>
      obtain ⟨next, first, later⟩ := Option.bind_eq_some_iff.mp added
      intro other member
      rcases List.mem_cons.mp member with here | behind
      · rw [here]
        exact addColumns_keep later op (addMissing_outcome first).1
      · exact ih later other behind

/-- Operations whose columns are all there do nothing. -/
theorem addColumns_of_done {ops : List ColOp} {database : Database}
    (done : ∀ op ∈ ops, op.Done database) :
    addColumns ops database = some database := by
  induction ops with
  | nil => rfl
  | cons op rest ih =>
      have here : addMissing op database = some database :=
        if_pos (done op List.mem_cons_self)
      rw [addColumns, here, Option.bind_some]
      exact ih fun other later => done other (List.mem_cons_of_mem op later)

/-! ### Column operations that may fail -/

theorem migAddColumn_success {calls : ColumnCalls} {op : ColOp}
    {database : Database}
    (succeeded : (migAddColumn calls op database).2.1 = .success) :
    addMissing op database = some (migAddColumn calls op database).1 := by
  unfold migAddColumn at succeeded ⊢
  by_cases seen : migTableHasColumn calls.info database op = true
  · have present : migTableHasColumn true database op = true := by
      unfold migTableHasColumn at seen ⊢
      exact (Bool.and_eq_true _ _ ▸ seen).2
    rw [if_pos seen]
    exact if_pos present
  · rw [if_neg seen] at succeeded ⊢
    split at succeeded
    · cases succeeded
    · next altered_ =>
        rw [if_neg altered_]
        cases held : database op.table with
        | none =>
            rw [held] at succeeded
            cases succeeded
        | some table =>
            rw [held] at succeeded
            simp only at succeeded ⊢
            cases added : table.addColumn op.column with
            | none =>
                rw [added] at succeeded
                cases succeeded
            | some altered =>
                -- The engine accepts the column, so it was not there.
                have absent :
                    ¬migTableHasColumn true database op = true := by
                  intro done
                  obtain ⟨other, otherHeld, named⟩ := done_iff.mp done
                  rw [held] at otherHeld
                  cases otherHeld
                  exact (addColumn_names added).2 named
                unfold addMissing
                rw [if_neg absent, held, Option.bind_some, added]
                rfl

theorem runColumnOps_success {calls : Nat → ColumnCalls} {ops : List ColOp}
    {database : Database} {affected : UInt64}
    (succeeded : (runColumnOps calls ops database affected).2.1 = .success) :
    addColumns ops database =
      some (runColumnOps calls ops database affected).1 := by
  induction ops generalizing calls database affected with
  | nil => rfl
  | cons op rest ih =>
      rw [runColumnOps] at succeeded ⊢
      by_cases here : (migAddColumn (calls 0) op database).2.1 = .success
      · rw [if_pos here] at succeeded ⊢
        rw [addColumns, migAddColumn_success here, Option.bind_some]
        exact ih succeeded
      · rw [if_neg here] at succeeded
        exact absurd succeeded here

/-! ### One step -/

theorem migDbPath_room {root : Bytes} {dataDir : Option Bytes}
    (shared : RegistrySqlite.registryFilePath
      (RegistrySqlite.registryRootPath (some root) dataDir) = migDbPath root) :
    (migDbPath root).length ≤ 276 := by
  have bounded : ∀ directory : Bytes, (printTo 256 directory).length ≤ 255 :=
    fun directory => Nat.lt_succ_iff.mp (length_printTo_lt (by decide) directory)
  have rootBound : (RegistrySqlite.registryRootPath (some root) dataDir).length ≤
      255 := by
    unfold RegistrySqlite.registryRootPath
    simp only
    split
    · exact bounded _
    · split
      · exact bounded _
      · exact bounded _
  rw [← shared]
  unfold RegistrySqlite.registryFilePath RegistrySqlite.registryDirPath printTo
  rw [List.length_take, List.length_append, List.length_take,
    List.length_append]
  change min 511 (min 511 (_ + 9) + 12) ≤ 276
  omega

section Step

variable {root : Bytes} {disk : Disk} {data : FileData}

theorem migDbPath_whole (room : (migDbPath root).length ≤ 276) :
    migDbPath root = root ++ ofString "/registry/registry.db" := by
  have printed : printTo maxPathLen
      (root ++ ofString "/registry/registry.db") = migDbPath root := rfl
  apply (eq_of_printTo printed _).symm
  change (migDbPath root).length < 511
  omega

theorem root_short (room : (migDbPath root).length ≤ 276) :
    root.length ≤ 255 := by
  have whole := congrArg List.length (migDbPath_whole room)
  rw [List.length_append] at whole
  change _ = root.length + 21 at whole
  omega

theorem backupPath_ne (room : (migDbPath root).length ≤ 276) :
    migDbPath root ≠ backupPath (migDbPath root) := by
  intro same
  have whole : backupPath (migDbPath root) =
      migDbPath root ++ ofString ".pre_migration_bak" := by
    apply printTo_of_fits
    rw [List.length_append]
    change (migDbPath root).length + 18 < 512
    omega
  have lengths := congrArg List.length (same.trans whole)
  rw [List.length_append] at lengths
  change (migDbPath root).length = (migDbPath root).length + 18 at lengths
  omega

theorem find_migDbPath (room : (migDbPath root).length ≤ 276)
    (held : disk (migDbPath root) = some data) :
    disk.find root (migDbPath root) = .file data := by
  rw [Disk.find_below, held]
  rw [migDbPath_whole room, List.length_append]
  change root.length + 1 < root.length + 21
  omega

/-- A backup leaves the file, and a backup that succeeds is a copy of it. -/
theorem migBackupDataFile_outcome (room : (migDbPath root).length ≤ 276)
    (held : disk (migDbPath root) = some data) (calls : BackupCalls) :
    let backed := migBackupDataFile root calls (migDbPath root) disk
    backed.1 (migDbPath root) = some data ∧
      (backed.2 = .success →
        backed.1 (backupPath (migDbPath root)) = some data) := by
  have different := backupPath_ne room
  intro backed
  unfold backed migBackupDataFile
  simp only [find_migDbPath room held]
  split
  · exact ⟨held, fun failed => nomatch failed⟩
  · have opened : disk.write (backupPath (migDbPath root)) (.bytes [])
        (migDbPath root) = some data :=
      (Disk.write_of_ne different).trans held
    split
    · exact ⟨(Disk.write_of_ne different).trans opened,
        fun failed => nomatch failed⟩
    · rw [opened]
      exact ⟨(Disk.write_of_ne different).trans opened,
        fun _ => Disk.write_self ..⟩

theorem restored_file (room : (migDbPath root).length ≤ 276)
    (copied : disk (backupPath (migDbPath root)) = some data) :
    migRestoreDataFile true (migDbPath root) disk (migDbPath root) =
      some data :=
  Disk.rename_target copied (backupPath_ne room)

theorem cleaned_file (room : (migDbPath root).length ≤ 276) (removed : Bool) :
    migCleanupBackupFile removed (migDbPath root) disk (migDbPath root) =
      disk (migDbPath root) := by
  unfold migCleanupBackupFile
  split
  · exact Disk.remove_of_ne (backupPath_ne room)
  · rfl

/-- A step either fails and leaves the tables, or succeeds and has added the
columns that were missing. -/
theorem migApplyCols_outcome (room : (migDbPath root).length ≤ 276)
    {database : Database}
    (held : disk (migDbPath root) = some (.database database))
    (calls : ApplyCalls) (renames : calls.restored = true)
    (ops : List ColOp) :
    let result := migApplyCols root calls ops disk
    (result.error ≠ .success ∧
        result.disk (migDbPath root) = some (.database database)) ∨
      (result.error = .success ∧ ∃ after,
        addColumns ops database = some after ∧
          result.disk (migDbPath root) = some (.database after)) := by
  obtain ⟨kept, copied⟩ := migBackupDataFile_outcome room held calls.backup
  have different := backupPath_ne room
  intro result
  unfold result migApplyCols
  simp only [find_migDbPath room held, renames]
  generalize migBackupDataFile root calls.backup (migDbPath root) disk =
    backed at kept copied
  by_cases saved : backed.2 = .success
  · have copy := copied saved
    rw [if_neg (not_not_intro saved)]
    by_cases opened : calls.opened = false
    · rw [if_pos opened]
      exact Or.inl ⟨(fun failed => nomatch failed), restored_file room copy⟩
    · have tables : (backed.1 (migDbPath root)).bind FileData.tables =
          some database := by
        rw [kept]
        rfl
      rw [if_neg opened, tables]
      simp only
      by_cases ran : (runColumnOps calls.column ops database 0).2.1 = .success
      · rw [if_pos ran]
        refine Or.inr ⟨rfl, _, runColumnOps_success ran, ?_⟩
        exact (cleaned_file room calls.removed).trans (Disk.write_self ..)
      · rw [if_neg ran]
        refine Or.inl ⟨ran, restored_file room ?_⟩
        exact (Disk.write_of_ne different.symm).trans copy
  · rw [if_pos saved]
    exact Or.inl ⟨saved, kept⟩

end Step

/-! ### The steps of a run -/

/-- The columns a forward step adds. -/
def forwardOps (step : MigrationStepDef) : List ColOp :=
  if step.fromVersion = 10000 then agentFieldOps else sessionMetadataOps

theorem execute_forward {step : MigrationStepDef} (member : step ∈ gForwardSteps)
    (root : Bytes) (calls : ApplyCalls) (disk : Disk) :
    step.execute root calls disk =
      migApplyCols root calls (forwardOps step) disk := by
  rcases List.mem_cons.mp member with rfl | last
  · rfl
  · cases List.mem_singleton.mp last
    rfl

def stepColumns (steps : List MigrationStepDef) : List ColOp :=
  steps.flatMap forwardOps

/-- The second database is the first one with some first steps done. -/
def Partway (steps : List MigrationStepDef) (start reached : Database) : Prop :=
  ∃ front, front <+: steps ∧
    addColumns (stepColumns front) start = some reached

theorem Partway.refl (steps : List MigrationStepDef) (start : Database) :
    Partway steps start start :=
  ⟨[], List.nil_prefix, rfl⟩

theorem addColumns_step {step : MigrationStepDef}
    {rest : List MigrationStepDef} {start middle : Database}
    (here : addColumns (forwardOps step) start = some middle) :
    addColumns (stepColumns (step :: rest)) start =
      addColumns (stepColumns rest) middle := by
  unfold stepColumns
  rw [List.flatMap_cons, addColumns_append, here, Option.bind_some]

theorem Partway.cons {step : MigrationStepDef} {rest : List MigrationStepDef}
    {start middle reached : Database}
    (here : addColumns (forwardOps step) start = some middle)
    (later : Partway rest middle reached) :
    Partway (step :: rest) start reached := by
  obtain ⟨front, isPrefix, added⟩ := later
  refine ⟨step :: front, (List.prefix_cons_inj step).mpr isPrefix, ?_⟩
  rw [addColumns_step here]
  exact added

/-- A first step that succeeds: done before, it has done nothing now. -/
theorem Partway.step {step : MigrationStepDef} {rest : List MigrationStepDef}
    {start reached next : Database}
    (partway : Partway (step :: rest) start reached)
    (succeeded : addColumns (forwardOps step) reached = some next) :
    ∃ middle, addColumns (forwardOps step) start = some middle ∧
      Partway rest middle next := by
  obtain ⟨front, isPrefix, added⟩ := partway
  cases front with
  | nil =>
      cases added
      exact ⟨next, succeeded, Partway.refl rest next⟩
  | cons first front =>
      obtain ⟨rfl, others⟩ := List.cons_prefix_cons.mp isPrefix
      unfold stepColumns at added
      rw [List.flatMap_cons, addColumns_append] at added
      obtain ⟨middle, here, later⟩ := Option.bind_eq_some_iff.mp added
      have done : ∀ op ∈ forwardOps first, op.Done reached :=
        fun op member =>
          addColumns_keep later op (addColumns_done here op member)
      rw [addColumns_of_done done] at succeeded
      cases succeeded
      exact ⟨middle, here, front, others, later⟩

theorem runSteps_partway {root : Bytes}
    (room : (migDbPath root).length ≤ 276) {steps : List MigrationStepDef}
    (known : ∀ step ∈ steps, step ∈ gForwardSteps) {calls : Nat → StepCalls}
    (renames : ∀ index, (calls index).apply.restored = true)
    {start reached : Database} (partway : Partway steps start reached)
    {disk : Disk} (held : disk (migDbPath root) = some (.database reached)) :
    ∃ after, (runSteps root calls steps disk).1 (migDbPath root) =
        some (.database after) ∧
      Partway steps start after ∧
      ((∀ executed ∈ (runSteps root calls steps disk).2,
          executed.outcome.result = .success) →
        addColumns (stepColumns steps) start = some after) := by
  induction steps generalizing calls start reached disk with
  | nil =>
      refine ⟨reached, held, partway, fun _ => ?_⟩
      obtain ⟨front, isPrefix, added⟩ := partway
      rw [List.prefix_nil.mp isPrefix] at added
      exact added
  | cons step rest ih =>
      have outcome := migApplyCols_outcome room held (calls 0).apply (renames 0)
        (forwardOps step)
      rw [← execute_forward (known step List.mem_cons_self)] at outcome
      unfold runSteps
      simp only
      rcases outcome with ⟨failed, same⟩ | ⟨succeeded, next, added, stored⟩
      · rw [if_neg failed]
        refine ⟨reached, same, partway, fun all => ?_⟩
        exact absurd (all _ (List.mem_singleton.mpr rfl)) failed
      · rw [if_pos succeeded]
        obtain ⟨middle, here, later⟩ := partway.step added
        obtain ⟨after, final_, way, complete⟩ :=
          ih (fun other member => known other (List.mem_cons_of_mem step member))
            (fun index => renames (index + 1)) later stored
        refine ⟨after, final_, way.cons here, fun all => ?_⟩
        rw [addColumns_step here]
        exact complete fun executed member =>
          all executed (List.mem_cons_of_mem _ member)

/-! ### One attempt -/

/-- The steps an attempt has to run. -/
def pendingSteps (current target : UInt32) : List MigrationStepDef :=
  if effectiveTarget target ≤ current then []
  else applicableSteps gForwardSteps current (effectiveTarget target)

/-- The version a successful attempt leaves recorded. -/
def versionAfter (current target : UInt32) : UInt32 :=
  if effectiveTarget target ≤ current then current else effectiveTarget target

theorem applicable_known (current target : UInt32) :
    ∀ step ∈ applicableSteps gForwardSteps current target,
      step ∈ gForwardSteps :=
  fun _ member => (List.mem_filter.mp (List.mem_of_mem_take member)).1

/-- Recording the version touches no other file. -/
theorem migRunSteps_of_ne {ready : Bool} {root other : Bytes}
    {calls : RunCalls} {wanted : Bool} {steps : List MigrationStepDef}
    {current target : UInt32} {disk : Disk}
    (notVersion : other ≠ versionFilePath root)
    (notTemporary : other ≠ versionFilePath root ++ ofString ".tmp") :
    (migRunSteps ready root calls wanted steps current target disk).disk other =
      (runSteps root calls.step (applicableSteps steps current target)
        disk).1 other := by
  unfold migRunSteps
  simp only
  split
  · exact migrationSetVersion_of_ne notVersion notTemporary
  · rfl

def ForwardCalls.RenamesSucceed (calls : ForwardCalls) : Prop :=
  ∀ index, (calls.run.step index).apply.restored = true

section Attempt

variable {root : Bytes} {ready wanted : Bool} {calls : ForwardCalls}
  {current target : UInt32} {start reached : Database} {disk : Disk}

/-- An attempt leaves the database part of the way, a failed one with the
version file as it was, a successful one at the end. -/
theorem migrationForward_partway (room : (migDbPath root).length ≤ 276)
    (renames : calls.RenamesSucceed)
    (recorded : ∀ version, RecordedVersion root disk version →
      version = current)
    (partway : Partway (pendingSteps current target) start reached)
    (held : disk (migDbPath root) = some (.database reached)) :
    let result := migrationForward ready root calls wanted target disk
    ∃ after, result.disk (migDbPath root) = some (.database after) ∧
      Partway (pendingSteps current target) start after ∧
      (result.error ≠ .success →
        result.disk (versionFilePath root) = disk (versionFilePath root)) ∧
      (result.error = .success →
        addColumns (stepColumns (pendingSteps current target)) start =
            some after ∧
          RecordedVersion root result.disk (versionAfter current target)) := by
  intro result
  unfold result migrationForward
  cases read : migrationGetVersion true ready root calls.read disk with
  | error error =>
      exact ⟨reached, held, partway, fun _ => rfl,
        fun succeeded => absurd succeeded (migrationGetVersion_error_ne read)⟩
  | ok version =>
      have here := recordedVersion_of_read read
      have same := recorded version here
      subst same
      simp only
      unfold pendingSteps at partway ⊢
      unfold versionAfter
      by_cases reachedTarget : effectiveTarget target ≤ version
      · simp only [reachedTarget, if_true] at partway ⊢
        refine ⟨reached, held, partway, fun _ => trivial, fun _ => ⟨?_, here⟩⟩
        obtain ⟨front, isPrefix, added⟩ := partway
        rw [List.prefix_nil.mp isPrefix] at added
        exact added
      · simp only [reachedTarget, if_false] at partway ⊢
        have short : root.length < 510 := by
          have bound := root_short room
          omega
        obtain ⟨after, stored, way, complete⟩ := runSteps_partway room
          (applicable_known version (effectiveTarget target)) renames partway
          held
        have frame := @migRunSteps_of_ne ready root (migDbPath root) calls.run
          wanted gForwardSteps version (effectiveTarget target) disk
          (versionFilePath_ne_migDbPath short).symm
          (migDbPath_ne_temporary short)
        refine ⟨after, frame.trans stored, way, ?_⟩
        rcases @migRunSteps_outcome ready root calls.run wanted gForwardSteps
            version (effectiveTarget target) disk
            (gForwardSteps_leaveAlone short) with
          ⟨failed, unchanged⟩ | ⟨succeeded, recordedAfter, _, all⟩
        · exact ⟨fun _ => unchanged, fun done => absurd done failed⟩
        · exact ⟨fun failed => absurd succeeded failed,
            fun _ => ⟨complete all, recordedAfter⟩⟩

end Attempt

/-! ### Every sequence of attempts -/

section Attempts

variable {root : Bytes} {ready : Bool} {target : UInt32} {disk : Disk}
  {start : Database}

def ForwardCall.Attempts (target : UInt32) (call : ForwardCall) : Prop :=
  call.target = target ∧ call.calls.RenamesSucceed

theorem forwardStep_partway (room : (migDbPath root).length ≤ 276)
    {current : UInt32} {reached : Database} {state : ForwardState}
    {call : ForwardCall} (attempting : call.Attempts target)
    (recorded : ∀ version, RecordedVersion root state.disk version →
      version = current)
    (partway : Partway (pendingSteps current target) start reached)
    (held : state.disk (migDbPath root) = some (.database reached)) :
    let next := forwardStep ready root state call
    ∃ after, next.1.disk (migDbPath root) = some (.database after) ∧
      Partway (pendingSteps current target) start after ∧
      (next.2 ≠ .success → next.1.disk (versionFilePath root) =
        state.disk (versionFilePath root)) ∧
      (next.2 = .success →
        addColumns (stepColumns (pendingSteps current target)) start =
            some after ∧
          RecordedVersion root next.1.disk (versionAfter current target)) := by
  obtain ⟨aimed, renames⟩ := attempting
  subst aimed
  exact migrationForward_partway room renames recorded partway held

/-- What holds between failed attempts: the version file of the start, and its
database part of the way. -/
structure Unfinished (root : Bytes) (target current : UInt32) (disk : Disk)
    (start : Database) (state : ForwardState) : Prop where
  version : state.disk (versionFilePath root) = disk (versionFilePath root)
  database : ∃ reached, state.disk (migDbPath root) =
      some (.database reached) ∧
    Partway (pendingSteps current target) start reached

theorem unfinished_attempts (room : (migDbPath root).length ≤ 276)
    {current : UInt32}
    (recorded : ∀ version, RecordedVersion root disk version →
      version = current)
    (attempts : List ForwardCall)
    (attempting : ∀ attempt ∈ attempts, attempt.Attempts target)
    (state : ForwardState)
    (unfinished : Unfinished root target current disk start state)
    (failed : ∀ answer ∈ answers (forwardStep ready root) state attempts,
      answer ≠ .success) :
    Unfinished root target current disk start
      (final (forwardStep ready root) state attempts) := by
  induction attempts generalizing state with
  | nil => exact unfinished
  | cons attempt rest ih =>
      obtain ⟨version, reached, held, partway⟩ := unfinished
      have same : ∀ other, RecordedVersion root state.disk other →
          other = current :=
        fun other found =>
          recorded other ((recordedVersion_congr version other).mp found)
      obtain ⟨after, stored, way, kept, _⟩ :=
        @forwardStep_partway root ready target start room current reached state
          attempt (attempting attempt List.mem_cons_self) same partway held
      rw [answers_cons, List.forall_mem_cons] at failed
      obtain ⟨here, later⟩ := failed
      apply ih (fun other member =>
        attempting other (List.mem_cons_of_mem attempt member)) _ _ later
      exact ⟨(kept here).trans version, after, stored, way⟩

end Attempts

/-- The tables of the registry database and the recorded version of two disks
are the same. -/
def SameStore (root : Bytes) (left right : Disk) : Prop :=
  left (migDbPath root) = right (migDbPath root) ∧
    ∀ version, RecordedVersion root left version ↔
      RecordedVersion root right version

theorem recorded_candidate (root : Bytes) (disk : Disk) :
    ∃ current, ∀ version, RecordedVersion root disk version →
      version = current := by
  by_cases recorded : ∃ current, RecordedVersion root disk current
  · obtain ⟨current, here⟩ := recorded
    exact ⟨current, fun version found => recordedVersion_unique found here⟩
  · exact ⟨0, fun version found => absurd ⟨version, found⟩ recorded⟩

/-- Failed attempts leave the recorded version, and the first one that succeeds
leaves what a single successful run on the original store leaves. -/
theorem migration_retries_converge (ready : Bool) {root : CharArray maxPathLen}
    {dataDir : Option Bytes} {disk : Disk} {database : Database}
    (shared : RegistrySqlite.registryFilePath
      (RegistrySqlite.registryRootPath (some root.text) dataDir) =
        migDbPath root.text)
    (held : disk (migDbPath root.text) = some (.database database))
    (target : UInt32) (attempts : List ForwardCall)
    (attempting : ∀ attempt ∈ attempts, attempt.Attempts target)
    (failed : ∀ answer ∈
      answers (forwardStep ready root.text) (forwardStart disk) attempts,
        answer ≠ .success) :
    let retried :=
      final (forwardStep ready root.text) (forwardStart disk) attempts
    (∀ version, RecordedVersion root.text retried.disk version ↔
        RecordedVersion root.text disk version) ∧
      ∀ last once : ForwardCall, last.Attempts target → once.Attempts target →
        (forwardStep ready root.text retried last).2 = .success →
        (forwardStep ready root.text (forwardStart disk) once).2 = .success →
        SameStore root.text (forwardStep ready root.text retried last).1.disk
          (forwardStep ready root.text (forwardStart disk) once).1.disk := by
  have room := migDbPath_room shared
  intro retried
  obtain ⟨current, recorded⟩ := recorded_candidate root.text disk
  have unfinished :
      Unfinished root.text target current disk database retried :=
    unfinished_attempts room recorded attempts attempting (forwardStart disk)
      ⟨rfl, database, held, Partway.refl _ database⟩ failed
  obtain ⟨version, reached, stored, partway⟩ := unfinished
  have sameVersion := recordedVersion_congr version
  refine ⟨sameVersion, ?_⟩
  intro last once lastAttempts onceAttempts lastSucceeded onceSucceeded
  obtain ⟨after, lastStored, _, _, lastDone⟩ :=
    @forwardStep_partway root.text ready target database room current reached
      retried last lastAttempts
      (fun other found => recorded other ((sameVersion other).mp found))
      partway stored
  obtain ⟨single, onceStored, _, _, onceDone⟩ :=
    @forwardStep_partway root.text ready target database room current database
      (forwardStart disk) once onceAttempts recorded (Partway.refl _ database)
      held
  obtain ⟨lastAdded, lastRecorded⟩ := lastDone lastSucceeded
  obtain ⟨onceAdded, onceRecorded⟩ := onceDone onceSucceeded
  rw [lastAdded] at onceAdded
  cases onceAdded
  refine ⟨lastStored.trans onceStored.symm, fun other => ⟨?_, ?_⟩⟩
  · intro found
    rw [recordedVersion_unique found lastRecorded]
    exact onceRecorded
  · intro found
    rw [recordedVersion_unique found onceRecorded]
    exact lastRecorded

/-- A registry of the first version with one agent. -/
def oldDatabase : Database := fun name =>
  if name = "agents" then
    some
      { columns := [RegistrySqlite.keyColumn "id",
          RegistrySqlite.requiredColumn "name"]
        rows := [[.text (ofString "a"), .text (ofString "A")]]
        admissible := by decide }
  else if name = "sessions" then
    some (Table.empty [RegistrySqlite.keyColumn "id"])
  else none

def oldDisk : Disk :=
  recordedDisk.write (migDbPath recordedRoot.text) (.database oldDatabase)

/-- All columns are added, and the version cannot be written. -/
def unrecordedAttempt : ForwardCall where
  target := 20000
  wanted := false
  calls :=
    { ForwardCalls.ok with
      run :=
        { ForwardCalls.ok.run with
          setVersion := { VersionWriteCalls.ok with opened := false } } }

theorem migration_retries_converge_unrecorded :
    let retried := final (forwardStep true recordedRoot.text)
      (forwardStart oldDisk) [unrecordedAttempt]
    (∀ version, RecordedVersion recordedRoot.text retried.disk version ↔
        RecordedVersion recordedRoot.text oldDisk version) ∧
      ∀ last once : ForwardCall, last.Attempts 20000 → once.Attempts 20000 →
        (forwardStep true recordedRoot.text retried last).2 = .success →
        (forwardStep true recordedRoot.text (forwardStart oldDisk) once).2 =
          .success →
        SameStore recordedRoot.text
          (forwardStep true recordedRoot.text retried last).1.disk
          (forwardStep true recordedRoot.text (forwardStart oldDisk)
            once).1.disk :=
  @migration_retries_converge true recordedRoot none oldDisk oldDatabase
    (by decide) (Disk.write_self ..) 20000 [unrecordedAttempt]
    (by
      intro attempt member
      cases List.mem_singleton.mp member
      exact ⟨rfl, fun _ => rfl⟩)
    (by decide +kernel)

end Heapstore.Migration
