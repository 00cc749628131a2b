/-
What a start leaves behind.

Each stage of a start that succeeds has one description, and a successful start
has the descriptions of all its stages.  The circuit breaker is followed over
runs of starts and stops, whatever fails in them.
-/

import Heapstore.CoreInit
import Heapstore.Foundation.OperationRun

namespace Heapstore.Core

open ByteText SqlConnection
open Migration RegistrySqlite Trace Memory Log Circuit

/-! ### What each stage leaves -/

theorem stage_success {ran : Process × HeapstoreError}
    {undo : Process → Process} {next : Process → Process × HeapstoreError}
    (succeeded : (stage ran undo next).2 = .success) :
    ran.2 = .success ∧ stage ran undo next = next ran.1 := by
  unfold stage at succeeded ⊢
  by_cases done : ran.2 = .success
  · exact ⟨done, if_pos done⟩
  · rw [if_neg done] at succeeded
    exact absurd succeeded done

section Stages

variable {platform : Platform} {calls : InitCalls} {process : Process}
  {root : Bytes}

theorem getRoot_of_rooted (rooted : root ≠ []) (here : process.rootPath = root) :
    getRoot platform process = (process, root) := by
  unfold getRoot
  rw [here, if_neg rooted]

theorem applicableSteps_current (current : UInt32) :
    applicableSteps gForwardSteps current schemaVersionCurrent = [] := by
  unfold applicableSteps
  rw [List.filter_eq_nil_iff.mpr, List.take_nil]
  intro step member
  have beyond : ∀ step ∈ gForwardSteps,
      ¬step.toVersion ≤ schemaVersionCurrent := by
    decide
  rw [decide_eq_false (beyond step member), Bool.and_false]
  exact Bool.false_ne_true

theorem migrationForward_zero {ready wanted : Bool} {root : Bytes}
    {forward : ForwardCalls} {disk : Disk}
    (succeeded :
      (migrationForward ready root forward wanted 0 disk).error = .success) :
    ∃ version, RecordedVersion root disk version ∧
      ((version < schemaVersionCurrent ∧
          (migrationSetVersion ready root forward.run.setVersion
            schemaVersionCurrent disk).2 = .success ∧
          (migrationForward ready root forward wanted 0 disk).disk =
            (migrationSetVersion ready root forward.run.setVersion
              schemaVersionCurrent disk).1) ∨
        (schemaVersionCurrent ≤ version ∧
          (migrationForward ready root forward wanted 0 disk).disk = disk)) := by
  unfold migrationForward at succeeded ⊢
  cases read : migrationGetVersion true ready root forward.read disk with
  | error error =>
      rw [read] at succeeded
      exact absurd succeeded (migrationGetVersion_error_ne read)
  | ok version =>
      have recorded := recordedVersion_of_read read
      refine ⟨version, recorded, ?_⟩
      rw [read] at succeeded
      have target : effectiveTarget 0 = schemaVersionCurrent := rfl
      simp only [target] at succeeded ⊢
      by_cases reached : schemaVersionCurrent ≤ version
      · right
        rw [if_pos reached]
        exact ⟨reached, rfl⟩
      · left
        rw [if_neg reached] at succeeded ⊢
        obtain ⟨disk', error⟩ := @migRunSteps_of_nil ready root forward.run
          wanted gForwardSteps version schemaVersionCurrent disk
          (applicableSteps_current version)
        exact ⟨UInt32.not_le.mp reached, error.mp succeeded, disk'⟩

/-- The schema stage either leaves the disk alone, when the recorded version is
the current one or above, or records the current version. -/
theorem schemaStage_success (rooted : root ≠ []) (here : process.rootPath = root)
    (ready : process.initialized = true)
    (succeeded : (schemaStage platform calls process).2 = .success) :
    ∃ version disk, RecordedVersion root process.disk version ∧
      (schemaStage platform calls process).1 = { process with disk := disk } ∧
      ((version < schemaVersionCurrent ∧ ∃ written,
          migrationSetVersion true root written
            schemaVersionCurrent process.disk = (disk, .success)) ∨
        (schemaVersionCurrent ≤ version ∧ disk = process.disk)) := by
  unfold schemaStage migrationCheck at succeeded ⊢
  simp only [getRoot_of_rooted rooted here, ready, Bool.true_eq_false, if_false]
    at succeeded ⊢
  cases read : migrationGetVersion true true root calls.read
      process.disk with
  | error error =>
      simp only [read] at succeeded
      rw [if_pos (migrationGetVersion_error_ne read)] at succeeded
      exact absurd succeeded (migrationGetVersion_error_ne read)
  | ok version =>
      have recorded := recordedVersion_of_read read
      simp only [read] at succeeded ⊢
      by_cases fresh : version = 0
      · -- A directory without a version is stamped.
        simp only [if_pos fresh] at succeeded ⊢
        by_cases written : (migrationSetVersion true root
            calls.stamp schemaVersionCurrent process.disk).2 = .success
        · simp only [written, ne_eq, not_true_eq_false, if_false, if_true]
          refine ⟨version, _, recorded, rfl, Or.inl ⟨?_, calls.stamp, ?_⟩⟩
          · rw [fresh]
            decide
          · rw [← written]
        · rw [if_pos written] at succeeded
          exact absurd succeeded written
      · simp only [if_neg fresh, ne_eq, not_true_eq_false, if_false]
          at succeeded ⊢
        by_cases old : version < schemaVersionCurrent
        · simp only [decide_eq_true old, Bool.true_eq_false, if_false]
            at succeeded ⊢
          have ran : (migrationForward true root calls.forward true
              0 process.disk).error = .success := by
            by_contra failed
            rw [if_neg failed] at succeeded
            cases succeeded
          obtain ⟨again, reread, outcome⟩ := migrationForward_zero ran
          cases recordedVersion_unique recorded reread
          rcases outcome with ⟨_, written, disk⟩ | ⟨reached, _⟩
          · refine ⟨version, _, recorded, rfl,
              Or.inl ⟨old, calls.forward.run.setVersion, ?_⟩⟩
            rw [disk, ← written]
          · exact absurd old (UInt32.not_lt.mpr reached)
        · simp only [decide_eq_false old, if_true]
          exact ⟨version, process.disk, recorded, rfl,
            Or.inr ⟨UInt32.not_lt.mp old, rfl⟩⟩

theorem initDatabase_refused {succeeds : Nat → Bool}
    (refused : ∀ index, succeeds index = false) (database : Database) :
    (initDatabase succeeds database).2 ≠ .success := by
  unfold initDatabase schemaScript executeScript
  simp [refused 0]

def OpenedRegistry (platform : Platform) (root : Bytes) (disk : Disk)
    (registry : SqlRegistry) : Prop :=
  ∃ database script,
    (disk.find root (registryPath platform root)).tables = some database ∧
    registry =
      { db := some
          { committed := (executeScript script schemaScript database).1
            working := none }
        dbPath := registryPath platform root
        initialized := true }

/-- The registry stage writes its database file only, and opens a registry that
was not running. -/
theorem registryStage_success (rooted : root ≠ [])
    (here : process.rootPath = root)
    (succeeded : (registryStage platform calls process).2 = .success) :
    ∃ registry disk, (registryStage platform calls process).1 =
        { process with registry := registry, disk := disk } ∧
      registry.initialized = true ∧
      (∀ other, other ≠ registryPath platform root →
        disk other = process.disk other) ∧
      (process.registry.initialized = false →
        OpenedRegistry platform root process.disk registry) := by
  unfold registryStage at succeeded ⊢
  simp only [getRoot_of_rooted rooted here] at succeeded ⊢
  refine ⟨_, _, rfl, registryInit_success succeeded, ?_, ?_⟩
  · intro other different
    split
    · rfl
    · cases openDatabase calls.registryOpened _ with
      | none => rfl
      | some database => exact Disk.write_of_ne different
  intro stopped
  unfold OpenedRegistry
  generalize process.disk.find root (registryPath platform root) = found
    at succeeded ⊢
  unfold registryInit at succeeded ⊢
  simp only [stopped, Bool.false_eq_true, if_false] at succeeded ⊢
  cases opened : openDatabase calls.registryOpened found with
  | none =>
      rw [opened] at succeeded
      cases succeeded
  | some database =>
      simp only [opened] at succeeded ⊢
      by_cases created : (initDatabase
          (fun index => calls.script index && found.tables.isSome)
          database).2 = .success
      · rw [if_pos created]
        cases present : found.tables with
        | none =>
            refine absurd created (initDatabase_refused ?_ database)
            intro index
            rw [present]
            exact Bool.and_false _
        | some tables =>
            have same : database = tables := by
              unfold openDatabase at opened
              rw [present] at opened
              cases found with
              | directory => cases opened
              | missing =>
                  simp only [Option.getD_some] at opened
                  split at opened <;> cases opened
                  rfl
              | file data =>
                  simp only [Option.getD_some] at opened
                  split at opened <;> cases opened
                  rfl
            rw [same]
            exact ⟨tables, _, rfl, rfl⟩
      · rw [if_neg created] at succeeded
        exact absurd succeeded created

theorem traceStage_success (rooted : root ≠ []) (here : process.rootPath = root)
    (succeeded : (traceStage platform calls process).2 = .success) :
    ∃ trace, (traceStage platform calls process).1 =
        { process with trace := trace } ∧ trace.initialized = true ∧
      (process.trace.initialized = false →
        trace.tracePath = traceBasePath root) := by
  unfold traceStage at succeeded ⊢
  rw [getRoot_of_rooted rooted here] at succeeded ⊢
  refine ⟨_, rfl, ?_⟩
  unfold traceInit at succeeded ⊢
  by_cases running : process.trace.initialized = true
  · rw [if_pos running]
    exact ⟨running, fun stopped => by rw [running] at stopped; cases stopped⟩
  · simp only [if_neg running] at succeeded ⊢
    cases allocated : calls.traceAllocated with
    | false =>
        rw [allocated] at succeeded
        cases succeeded
    | true => exact ⟨rfl, fun _ => rfl⟩

theorem memoryStage_success (rooted : root ≠ []) (here : process.rootPath = root)
    (succeeded : (memoryStage platform calls process).2 = .success) :
    ∃ memory, (memoryStage platform calls process).1 =
        { process with memory := memory } ∧ memory.initialized = true ∧
      (process.memory.initialized = false →
        memory.memoryPath = memoryBasePath root platform.dataDir) := by
  unfold memoryStage at succeeded ⊢
  rw [getRoot_of_rooted rooted here] at succeeded ⊢
  refine ⟨_, rfl, ?_⟩
  cases running : process.memory.initialized with
  | true =>
      unfold memoryInit
      rw [if_pos running]
      exact ⟨running, nofun⟩
  | false =>
      rw [memoryInit_success running succeeded]
      exact ⟨rfl, fun _ => rfl⟩

theorem logStage_success
    (succeeded : (logStage platform calls process).2 = .success) :
    ∃ log, (logStage platform calls process).1 =
        { process with
            log := log
            disk := openAppend process.disk
              (mainLogPath (logBasePath platform.env platform.dataDir)) } ∧
      log.initialized = true ∧ log.mainLogFile =
        some (mainLogPath (logBasePath platform.env platform.dataDir)) := by
  unfold logStage at succeeded ⊢
  obtain ⟨running, main, disk⟩ := logInit_success succeeded
  refine ⟨_, ?_, running, main⟩
  simp only [disk]

end Stages

/-! ### What a successful start left -/

theorem createDirectoryStructure_success {ensured : Bytes → Bool} {root : Bytes}
    (succeeded : createDirectoryStructure ensured root = .success) :
    root ≠ [] := by
  rintro rfl
  unfold createDirectoryStructure dirEnsure at succeeded
  simp at succeeded

section Started

variable {platform : Platform} {manager : Option HeapstoreConfig}
  {calls : InitCalls} {process : Process}

theorem heapstoreInit_stages
    (succeeded :
      (heapstoreInit platform manager calls process).2 = .success) :
    let armed := arm platform manager calls process
    let migrated := schemaStage platform calls armed
    let opened := registryStage platform calls migrated.1
    let traced := traceStage platform calls opened.1
    let remembered := memoryStage platform calls traced.1
    let logged := logStage platform calls remembered.1
    armed.rootPath ≠ [] ∧ migrated.2 = .success ∧ opened.2 = .success ∧
      traced.2 = .success ∧ remembered.2 = .success ∧ logged.2 = .success ∧
      (heapstoreInit platform manager calls process).1 = logged.1 := by
  intro armed migrated opened traced remembered logged
  unfold heapstoreInit at succeeded ⊢
  by_cases running : process.initialized = true
  · rw [if_pos running] at succeeded
    cases succeeded
  · simp only [if_neg running] at succeeded ⊢
    by_cases created : createDirectoryStructure calls.structureEnsured
        (configure platform manager calls process).rootPath = .success
    · simp only [created, ne_eq, not_true_eq_false, if_false] at succeeded ⊢
      obtain ⟨migratedOk, rest⟩ := stage_success succeeded
      rw [rest] at succeeded ⊢
      obtain ⟨openedOk, rest⟩ := stage_success succeeded
      rw [rest] at succeeded ⊢
      obtain ⟨tracedOk, rest⟩ := stage_success succeeded
      rw [rest] at succeeded ⊢
      obtain ⟨rememberedOk, rest⟩ := stage_success succeeded
      rw [rest] at succeeded ⊢
      obtain ⟨loggedOk, rest⟩ := stage_success succeeded
      rw [rest]
      exact ⟨createDirectoryStructure_success created, migratedOk, openedOk,
        tracedOk, rememberedOk, loggedOk, rfl⟩
    · rw [if_pos created] at succeeded
      exact absurd succeeded created

theorem arm_frame :
    ∃ config defaultRoot circuit,
      arm platform manager calls process =
        { process with
            initialized := true
            rootPath := (configure platform manager calls process).rootPath
            config := config
            defaultRoot := defaultRoot
            circuit := circuit } := by
  have resolved : ∃ defaultRoot, (getDefaultRoot platform process).1 =
      { process with defaultRoot := defaultRoot } := by
    unfold getDefaultRoot
    cases process.defaultRoot with
    | none => exact ⟨_, rfl⟩
    | some root => exact ⟨process.defaultRoot, rfl⟩
  obtain ⟨defaultRoot, resolved⟩ := resolved
  have applied : ∀ base : Process, ∃ config circuit,
      applyUserConfig calls.applied manager base =
        { base with config := config, circuit := circuit } := by
    intro base
    unfold applyUserConfig
    split
    · exact ⟨base.config, base.circuit, rfl⟩
    · split
      · exact ⟨base.config, base.circuit, rfl⟩
      · exact ⟨_, _, rfl⟩
  obtain ⟨config, circuit, applied⟩ :=
    applied (setDefaultConfig platform process)
  refine ⟨config, defaultRoot, coreCircuitInit calls.armed circuit, ?_⟩
  unfold arm configure
  simp only [applied]
  unfold setDefaultConfig
  simp only [resolved]

/-- What a successful start on a root made of the process before it, with the
disk after the schema stage and after the registry stage. -/
structure Started (platform : Platform) (root : Bytes) (version : UInt32)
    (migrated opened : Disk) (before after : Process) : Prop where
  rootPath : after.rootPath = root
  running : after.initialized = true ∧ after.registry.initialized = true ∧
    after.trace.initialized = true ∧ after.memory.initialized = true ∧
    after.log.initialized = true
  recorded : RecordedVersion root before.disk version
  schema :
    (version < schemaVersionCurrent ∧ ∃ written,
        migrationSetVersion true root written schemaVersionCurrent before.disk =
          (migrated, .success)) ∨
      (schemaVersionCurrent ≤ version ∧ migrated = before.disk)
  registryFile : ∀ other, other ≠ registryPath platform root →
    opened other = migrated other
  logFile : after.disk = openAppend opened
    (mainLogPath (logBasePath platform.env platform.dataDir))
  registry : before.registry.initialized = false →
    OpenedRegistry platform root migrated after.registry
  trace : before.trace.initialized = false →
    after.trace.tracePath = traceBasePath root
  memory : before.memory.initialized = false →
    after.memory.memoryPath = memoryBasePath root platform.dataDir
  log : after.log.mainLogFile =
    some (mainLogPath (logBasePath platform.env platform.dataDir))

theorem heapstoreInit_started
    (succeeded :
      (heapstoreInit platform manager calls process).2 = .success) :
    ∃ version migrated opened,
      Started platform (configure platform manager calls process).rootPath
        version migrated opened process
        (heapstoreInit platform manager calls process).1 := by
  obtain ⟨rooted, migratedOk, openedOk, tracedOk, rememberedOk, loggedOk,
    last⟩ := heapstoreInit_stages succeeded
  obtain ⟨config, defaultRoot, circuit, armed⟩ :=
    @arm_frame platform manager calls process
  rw [last]
  rw [armed] at rooted migratedOk openedOk tracedOk rememberedOk loggedOk ⊢
  generalize (configure platform manager calls process).rootPath = root at *
  obtain ⟨version, migrated, recorded, left, schema⟩ :=
    schemaStage_success rooted rfl rfl migratedOk
  rw [left] at openedOk tracedOk rememberedOk loggedOk ⊢
  obtain ⟨registry, opened, left, registryRuns, registryFile, registryOpened⟩ :=
    registryStage_success rooted rfl openedOk
  rw [left] at tracedOk rememberedOk loggedOk ⊢
  obtain ⟨trace, left, traceRuns, tracePath⟩ :=
    traceStage_success rooted rfl tracedOk
  rw [left] at rememberedOk loggedOk ⊢
  obtain ⟨memory, left, memoryRuns, memoryPath⟩ :=
    memoryStage_success rooted rfl rememberedOk
  rw [left] at loggedOk ⊢
  obtain ⟨log, left, logRuns, mainLog⟩ := logStage_success loggedOk
  rw [left]
  exact ⟨version, migrated, opened,
    { rootPath := rfl
      running := ⟨rfl, registryRuns, traceRuns, memoryRuns, logRuns⟩
      recorded := recorded
      schema := schema
      registryFile := registryFile
      logFile := rfl
      registry := registryOpened
      trace := tracePath
      memory := memoryPath
      log := mainLog }⟩

end Started

/-! ### What a start keeps -/

/-- What every failing and every succeeding stage keeps, a start keeps. -/
theorem stage_keeps {Keeps : Process → Prop} {ran : Process × HeapstoreError}
    {undo : Process → Process} {next : Process → Process × HeapstoreError}
    (first : Keeps ran.1)
    (undone : ∀ failed, Keeps failed →
      Keeps { undo failed with initialized := false })
    (later : ∀ done, Keeps done → Keeps (next done).1) :
    Keeps (stage ran undo next).1 := by
  unfold stage
  split
  · exact later _ first
  · exact undone _ first

/-- The stages of a start, from the armed process on. -/
def startStages (platform : Platform) (calls : InitCalls) (process : Process) :
    Process × HeapstoreError :=
  stage (schemaStage platform calls process) id fun migrated =>
  stage (registryStage platform calls migrated) id fun opened =>
  stage (traceStage platform calls opened) stopRegistry fun traced =>
  stage (memoryStage platform calls traced)
    (fun failed => stopRegistry (stopTrace failed)) fun remembered =>
  stage (logStage platform calls remembered)
    (fun failed => stopRegistry (stopTrace (stopMemory failed)))
    fun logged => (logged, .success)

section Kept

variable {platform : Platform} {manager : Option HeapstoreConfig}
  {calls : InitCalls} {process : Process}

theorem heapstoreInit_eq :
    heapstoreInit platform manager calls process =
      if process.initialized then (process, .errAlreadyInitialized)
      else if createDirectoryStructure calls.structureEnsured
          (configure platform manager calls process).rootPath ≠ .success then
        (configure platform manager calls process,
          createDirectoryStructure calls.structureEnsured
            (configure platform manager calls process).rootPath)
      else startStages platform calls (arm platform manager calls process) :=
  rfl

/-- The stages change the roots, the subsystems, the disk and the flag of the
store, and nothing else. -/
theorem startStages_keeps {Keeps : Process → Prop}
    (rooted : ∀ other, Keeps other → Keeps (getRoot platform other).1)
    (untouched : ∀ other registry trace memory log disk, Keeps other →
      Keeps { other with
        registry := registry
        trace := trace
        memory := memory
        log := log
        disk := disk })
    (down : ∀ other, Keeps other → Keeps { other with initialized := false })
    (armed : Keeps process) :
    Keeps (startStages platform calls process).1 := by
  have schema : Keeps (schemaStage platform calls process).1 := by
    have here := rooted process armed
    unfold schemaStage
    simp only
    split
    · exact untouched _ _ _ _ _ _ here
    · split <;> exact untouched _ _ _ _ _ _ here
  apply stage_keeps schema down
  intro migrated kept
  apply stage_keeps (untouched (getRoot platform migrated).1 _ _ _ _ _
    (rooted migrated kept)) down
  intro opened kept
  apply stage_keeps (untouched (getRoot platform opened).1 _ _ _ _ _
    (rooted opened kept))
  · intro failed kept
    exact down _ (untouched failed _ _ _ _ _ kept)
  intro traced kept
  apply stage_keeps (untouched (getRoot platform traced).1 _ _ _ _ _
    (rooted traced kept))
  · intro failed kept
    exact down _ (untouched failed _ _ _ _ _ kept)
  intro remembered kept
  apply stage_keeps (untouched remembered _ _ _ _ _ kept)
  · intro failed kept
    exact down _ (untouched failed _ _ _ _ _ kept)
  intro logged kept
  exact kept

theorem heapstoreInit_keeps {Keeps : Process → Prop}
    (configured : Keeps (configure platform manager calls process))
    (stages : Keeps
      (startStages platform calls (arm platform manager calls process)).1)
    (running : Keeps process) :
    Keeps (heapstoreInit platform manager calls process).1 := by
  rw [heapstoreInit_eq]
  split
  · exact running
  · split
    · exact configured
    · exact stages

/-- A start that succeeds has gone through all its stages. -/
theorem heapstoreInit_success
    (succeeded :
      (heapstoreInit platform manager calls process).2 = .success) :
    process.initialized = false ∧
      createDirectoryStructure calls.structureEnsured
        (configure platform manager calls process).rootPath = .success ∧
      heapstoreInit platform manager calls process =
        startStages platform calls (arm platform manager calls process) := by
  rw [heapstoreInit_eq] at succeeded ⊢
  cases running : process.initialized with
  | true =>
      rw [running] at succeeded
      cases succeeded
  | false =>
      simp only [running, Bool.false_eq_true, if_false] at succeeded ⊢
      by_cases created : createDirectoryStructure calls.structureEnsured
          (configure platform manager calls process).rootPath = .success
      · rw [if_neg (not_not.mpr created)]
        exact ⟨trivial, created, rfl⟩
      · rw [if_pos created] at succeeded
        exact absurd succeeded created

end Kept

/-! ### The breaker over starts and stops -/

section Circuit

variable {platform : Platform} {calls : InitCalls} {process : Process}

theorem getRoot_circuit :
    (getRoot platform process).1.circuit = process.circuit := by
  unfold getRoot getDefaultRoot
  split
  · cases process.defaultRoot <;> rfl
  · rfl

theorem configure_mirrored {manager : Option HeapstoreConfig}
    (mirrored : process.circuit.Mirrored) :
    (configure platform manager calls process).circuit.Mirrored := by
  have default : (setDefaultConfig platform process).circuit =
      process.circuit := by
    unfold setDefaultConfig getDefaultRoot
    cases process.defaultRoot <;> rfl
  rw [← default] at mirrored
  unfold configure applyUserConfig
  simp only
  split
  · exact mirrored
  · split
    · exact mirrored
    · exact coreCircuitApplyConfig_mirrored _ _ _ mirrored

theorem heapstoreInit_mirrored {manager : Option HeapstoreConfig}
    (mirrored : process.circuit.Mirrored) :
    (heapstoreInit platform manager calls process).1.circuit.Mirrored := by
  let Keeps (process : Process) : Prop := process.circuit.Mirrored
  have configured : Keeps (configure platform manager calls process) :=
    configure_mirrored mirrored
  have rooted : ∀ other, Keeps other → Keeps (getRoot platform other).1 := by
    intro other kept
    change (getRoot platform other).1.circuit.Mirrored
    rw [getRoot_circuit]
    exact kept
  refine @heapstoreInit_keeps _ _ _ _ Keeps configured ?_ mirrored
  exact startStages_keeps rooted (fun _ _ _ _ _ _ kept => kept)
    (fun _ kept => kept) (coreCircuitInit_mirrored calls.armed configured)

theorem heapstoreShutdown_mirrored (mirrored : process.circuit.Mirrored) :
    (heapstoreShutdown process).circuit.Mirrored := by
  unfold heapstoreShutdown
  split
  · exact circStop_mirrored mirrored
  · exact mirrored

end Circuit

inductive CoreCall where
  | start (platform : Platform) (manager : Option HeapstoreConfig)
      (calls : InitCalls)
  | stop

def coreStep : OperationRun.Machine Process CoreCall HeapstoreError :=
  fun process call =>
    match call with
    | .start platform manager calls =>
        heapstoreInit platform manager calls process
    | .stop => (heapstoreShutdown process, .success)

/-- Whatever fails in a run of starts and stops, a live breaker was created
from the threshold and the timeout that the adapter mirrors. -/
theorem core_runs_mirrored (disk : Disk) (calls : List CoreCall) :
    (OperationRun.final coreStep (freshProcess disk) calls).circuit.Mirrored := by
  apply OperationRun.invariant coreStep fun process => process.circuit.Mirrored
  · intro process call mirrored
    cases call with
    | start platform manager calls => exact heapstoreInit_mirrored mirrored
    | stop => exact heapstoreShutdown_mirrored mirrored
  · exact clearedCircuit_mirrored

end Heapstore.Core
