/-
The store can always be started again.

Whatever failed before, the version file stays readable and the database file
keeps tables that the schema script accepts.  So a start in which nothing fails
succeeds on what is left, provided it succeeds on an empty disk.
-/

import Heapstore.StoreDurability

namespace Heapstore.Durability

open ByteText CivilTime SqlTable SqlConnection OperationRun
open Migration RegistrySqlite RegistryBackendAgreement Trace Memory Log
open Heapstore.Core

/-! ### The version file -/

/-- The version file is missing or has a version. -/
def Readable (root : Bytes) (disk : Disk) : Prop :=
  ∃ version, RecordedVersion root disk version

section Version

variable {platform : Platform} {calls : InitCalls} {process : Process}
  {root : Bytes}

theorem Readable.congr {disk other : Disk} (readable : Readable root disk)
    (same : other (versionFilePath root) = disk (versionFilePath root)) :
    Readable root other := by
  obtain ⟨version, recorded⟩ := readable
  exact ⟨version, (recordedVersion_congr same version).mpr recorded⟩

theorem migrationSetVersion_readable {ready : Bool} {stamp : VersionWriteCalls}
    {version : UInt32} {disk : Disk} (readable : Readable root disk) :
    Readable root (migrationSetVersion ready root stamp version disk).1 := by
  by_cases written :
      (migrationSetVersion ready root stamp version disk).2 = .success
  · exact ⟨version, recordedVersion_of_write written⟩
  · rcases migrationSetVersion_outcome ready root stamp version disk with
      ⟨_, same⟩ | ⟨succeeded, _⟩
    · exact readable.congr same
    · exact absurd succeeded written

theorem schemaStage_readable (rooted : root ≠ [])
    (here : process.rootPath = root) (readable : Readable root process.disk) :
    Readable root (schemaStage platform calls process).1.disk := by
  have checked : Readable root (migrationCheck true process.initialized root
      calls.read calls.stamp process.disk).disk := by
    unfold migrationCheck
    rw [if_neg nofun]
    split
    · exact readable
    · split
      · exact migrationSetVersion_readable readable
      · exact readable
  unfold schemaStage
  rw [getRoot_of_rooted rooted here]
  simp only
  split
  · exact checked
  · split
    · exact checked
    · change Readable root (migrationForward ..).disk
      unfold migrationForward
      split
      · exact checked
      · next current _ =>
          split
          · exact checked
          · have nothing : applicableSteps gForwardSteps current
                (effectiveTarget 0) = [] := applicableSteps_current current
            rw [(migRunSteps_of_nil nothing).1]
            exact migrationSetVersion_readable checked

/-- A schema stage that succeeds leaves a version file. -/
theorem schemaStage_present (rooted : root ≠ [])
    (here : process.rootPath = root) (ready : process.initialized = true)
    (succeeded : (schemaStage platform calls process).2 = .success) :
    (schemaStage platform calls process).1.disk (versionFilePath root) ≠
      none := by
  obtain ⟨version, disk, recorded, left, outcome⟩ :=
    schemaStage_success rooted here ready succeeded
  rw [left]
  change disk (versionFilePath root) ≠ none
  rcases outcome with ⟨_, written, stamped⟩ | ⟨reached, rfl⟩
  · rcases migrationSetVersion_outcome true root written schemaVersionCurrent
        process.disk with ⟨failed, _⟩ | ⟨_, _, _, text⟩
    · rw [stamped] at failed
      exact absurd rfl failed
    · rw [stamped] at text
      change disk (versionFilePath root) = _ at text
      rw [text]
      nofun
  · rcases recordedVersion_iff.mp recorded with
      ⟨_, zero⟩ | ⟨_, ⟨data, found, _⟩, _⟩
    · rw [zero] at reached
      exact absurd reached (by decide)
    · rw [Disk.of_find_file found]
      nofun

theorem stage_disk {path : Bytes} {data : Option FileData}
    {ran : Process × HeapstoreError} {undo : Process → Process}
    {next : Process → Process × HeapstoreError}
    (undone : (undo ran.1).disk path = data)
    (later : ran.2 = .success → (next ran.1).1.disk path = data) :
    (stage ran undo next).1.disk path = data := by
  unfold stage
  by_cases done : ran.2 = .success
  · rw [if_pos done]
    exact later done
  · rw [if_neg done]
    exact undone

theorem registryStage_frame (rooted : root ≠ []) (here : process.rootPath = root) :
    ∃ registry disk, (registryStage platform calls process).1 =
        { process with registry := registry, disk := disk } ∧
      ∀ other, other ≠ registryPath platform root →
        disk other = process.disk other := by
  unfold registryStage
  rw [getRoot_of_rooted rooted here]
  refine ⟨_, _, rfl, ?_⟩
  intro other different
  split
  · rfl
  · cases openDatabase calls.registryOpened _ with
    | none => rfl
    | some database => exact Disk.write_of_ne different

theorem traceStage_frame (rooted : root ≠ []) (here : process.rootPath = root) :
    ∃ trace, (traceStage platform calls process).1 =
      { process with trace := trace } := by
  unfold traceStage
  rw [getRoot_of_rooted rooted here]
  exact ⟨_, rfl⟩

/-- Behind the schema stage a start touches the registry's file and, when it is
missing, that of the log. -/
theorem startStages_disk (rooted : root ≠ []) (here : process.rootPath = root)
    {path : Bytes} (different : path ≠ registryPath platform root)
    (present : (schemaStage platform calls process).2 = .success →
      (schemaStage platform calls process).1.disk path ≠ none) :
    (startStages platform calls process).1.disk path =
      (schemaStage platform calls process).1.disk path := by
  obtain ⟨disk, migrated, _⟩ :=
    @schemaStage_left platform calls process root rooted here
  unfold startStages
  apply stage_disk rfl
  intro schemaOk
  have kept := present schemaOk
  rw [migrated] at kept ⊢
  obtain ⟨registry, files, opened, others⟩ := @registryStage_frame platform calls
    { process with disk := disk } root rooted here
  have same : files path = disk path := others path different
  apply stage_disk
  · rw [id, opened]
    exact same
  intro _
  rw [opened]
  obtain ⟨trace, traced⟩ := @traceStage_frame platform calls
    { process with registry := registry, disk := files } root rooted here
  apply stage_disk
  · rw [traced]
    exact same
  intro _
  rw [traced]
  obtain ⟨memory, remembered⟩ := @memoryStage_left platform calls
    { process with registry := registry, trace := trace, disk := files } root
    rooted here
  apply stage_disk
  · rw [remembered]
    exact same
  intro _
  rw [remembered]
  have still : files path ≠ none := by
    rw [same]
    exact kept
  obtain ⟨log, last, logged, left⟩ := @logStage_left platform calls
    { process with
        registry := registry
        trace := trace
        memory := memory
        disk := files } path still
  apply stage_disk
  · rw [logged]
    exact left.trans same
  intro _
  rw [logged]
  exact left.trans same

theorem heapstoreInit_readable {manager : Option HeapstoreConfig}
    (down : process.initialized = false)
    (here : (configure platform manager calls process).rootPath = root)
    (readable : Readable root process.disk) :
    Readable root (heapstoreInit platform manager calls process).1.disk := by
  have disk := (@configure_kept platform calls process manager).1
  rw [heapstoreInit_eq, down]
  simp only [Bool.false_eq_true, if_false]
  by_cases created : createDirectoryStructure calls.structureEnsured
      (configure platform manager calls process).rootPath = .success
  · rw [if_neg (not_not.mpr created)]
    have rooted := createDirectoryStructure_success created
    rw [here] at rooted
    have armed : Readable root (arm platform manager calls process).disk := by
      change Readable root (configure platform manager calls process).disk
      rw [disk]
      exact readable
    generalize armed_eq : arm platform manager calls process = begun at armed ⊢
    have begunRoot : begun.rootPath = root := by
      rw [← armed_eq]
      exact here
    have ready : begun.initialized = true := by
      rw [← armed_eq]
      rfl
    have kept := @startStages_disk platform calls begun root rooted begunRoot
      (versionFilePath root) (versionFilePath_ne_registryPath rooted)
      (schemaStage_present rooted begunRoot ready)
    exact (schemaStage_readable rooted begunRoot armed).congr kept
  · rw [if_pos created]
    change Readable root (configure platform manager calls process).disk
    rw [disk]
    exact readable

end Version

/-! ### A start in which nothing fails -/

/-- On an empty disk such a start on the root succeeds. -/
def Usable (platform : Platform) (root : Bytes) : Prop :=
  ∃ manager, (configure platform manager .ok (freshProcess fun _ => none)).rootPath =
      root ∧
    (heapstoreInit platform manager .ok (freshProcess fun _ => none)).2 =
      .success

/-- What of a root, and of a platform, decides whether such a start succeeds. -/
structure Fits (platform : Platform) (root : Bytes) : Prop where
  created : createDirectoryStructure (fun _ => true) root = .success
  version : (versionFilePath root ++ ofString ".tmp").length < maxPathLen
  registry : Disk.find root (fun _ => none) (registryPath platform root) ≠
    .directory
  memory : (memoryInit root platform.dataDir (fun _ => true) clearedMemory).2 =
    .success

section Fits

variable {platform : Platform} {process : Process} {root : Bytes}

theorem recordedVersion_blank {version : UInt32}
    (recorded : RecordedVersion root (fun _ => none) version) :
    version < schemaVersionCurrent := by
  rcases recordedVersion_iff.mp recorded with ⟨_, rfl⟩ | ⟨_, ⟨data, found, _⟩, _⟩
  · decide
  · cases Disk.of_find_file found

theorem migrationSetVersion_ok (fits : Fits platform root) (version : UInt32)
    (disk : Disk) :
    (migrationSetVersion true root .ok version disk).2 = .success := by
  unfold migrationSetVersion
  simp only [Bool.true_eq_false, if_false]
  rw [if_neg (Nat.not_le_of_lt fits.version)]
  rfl

theorem schemaStage_ok (fits : Fits platform root)
    (here : process.rootPath = root) (ready : process.initialized = true)
    (readable : Readable root process.disk) :
    (schemaStage platform .ok process).2 = .success := by
  have rooted := createDirectoryStructure_success fits.created
  obtain ⟨version, recorded⟩ := readable
  have read : migrationGetVersion true true root InitCalls.ok.read
      process.disk = .ok version := recorded
  have again : migrationGetVersion true true root InitCalls.ok.forward.read
      process.disk = .ok version := recorded
  unfold schemaStage migrationCheck
  rw [getRoot_of_rooted rooted here]
  simp only [ready, read, Bool.true_eq_false, if_false]
  by_cases fresh : version = 0
  · have stamped := migrationSetVersion_ok fits schemaVersionCurrent process.disk
    change (migrationSetVersion true root InitCalls.ok.stamp _ _).2 = _
      at stamped
    simp only [if_pos fresh, stamped, ne_eq, not_true_eq_false, if_false,
      if_true]
  · simp only [if_neg fresh, ne_eq, not_true_eq_false, if_false]
    by_cases old : version < schemaVersionCurrent
    · have nothing : applicableSteps gForwardSteps version
          (effectiveTarget 0) = [] := applicableSteps_current version
      have ran : (migrationForward true root InitCalls.ok.forward true 0
          process.disk).error = .success := by
        unfold migrationForward
        rw [again]
        simp only
        have beyond : ¬effectiveTarget 0 ≤ version := UInt32.not_le.mpr old
        rw [if_neg beyond]
        exact (migRunSteps_of_nil nothing).2.mpr
          (migrationSetVersion_ok fits _ process.disk)
      simp only [decide_eq_true old, Bool.true_eq_false, if_false, ran, if_true]
    · simp only [decide_eq_false old, if_true]

theorem createTable_total (name : String) (columns : List Column)
    (database : Database) :
    ∃ next,
      (SchemaStatement.createTable name columns).execute database =
        some next := by
  unfold SchemaStatement.execute
  cases present : database name with
  | none =>
      simp only [present]
      exact ⟨_, rfl⟩
  | some table =>
      simp only [present]
      exact ⟨_, rfl⟩

theorem createIndex_total {name column : String} {database : Database}
    {table : Table} (present : database name = some table)
    (named : column ∈ table.names) :
    (SchemaStatement.createIndex name column).execute database =
      some database := by
  unfold SchemaStatement.execute
  simp only [present]
  rw [if_pos named]

/-- The indexes are on columns of the kinds. -/
theorem stores_index {kind : RecordKind} {database : Database}
    {map : RegistryMemory.RecordMap kind.Record} {column : String}
    (stores : Stores kind.shape database map)
    (named : column ∈ kind.shape.columns.map Column.name) :
    (SchemaStatement.createIndex kind.shape.table column).execute database =
      some database := by
  obtain ⟨table, _, present, columns, _⟩ := stores
  apply createIndex_total present
  unfold Table.names
  rw [columns]
  exact named

theorem executeScript_cons {statement : SchemaStatement}
    {rest : List SchemaStatement} {database next : Database}
    (executed : statement.execute database = some next) :
    executeScript (fun _ => true) (statement :: rest) database =
      executeScript (fun _ => true) rest next := by
  rw [executeScript, if_neg nofun, executed]

/-- The script creates what is missing, and then its indexes find their
columns. -/
theorem PartlyHolds.scripted {database : Database} {maps : RecordMaps}
    (partly : PartlyHolds database maps) :
    (initDatabase (fun _ => true) database).2 = .success := by
  obtain ⟨first, agents⟩ := createTable_total "agents" agentColumns database
  obtain ⟨second, capabilities⟩ :=
    createTable_total "agent_capabilities" capabilityColumns first
  obtain ⟨third, skills⟩ := createTable_total "skills" skillColumns second
  obtain ⟨last, sessions⟩ := createTable_total "sessions" sessionColumns third
  have firstPartly := partly.execute (by decide) agents
  have secondPartly := firstPartly.execute (by decide) capabilities
  have thirdPartly := secondPartly.execute (by decide) skills
  have lastPartly := thirdPartly.execute (by decide) sessions
  let tables : List SchemaStatement := schemaScript.take 4
  have ran : executeScript (fun _ => true) tables database = (last, true) := by
    change executeScript (fun _ => true) [.createTable "agents" agentColumns,
      .createTable "agent_capabilities" capabilityColumns,
      .createTable "skills" skillColumns,
      .createTable "sessions" sessionColumns] database = _
    rw [executeScript_cons agents, executeScript_cons capabilities,
      executeScript_cons skills, executeScript_cons sessions]
    rfl
  have holds : Holds last maps := by
    intro kind
    rcases lastPartly kind with stores | ⟨missing, _⟩
    · exact stores
    · have created := @executeScript_created database kind.shape.table
        kind.shape.columns tables (fun _ => true)
        (by cases kind <;> decide) (by rw [ran])
      rw [ran] at created
      exact absurd missing created
  have types := @stores_index .agent last _ "type" (holds .agent) (by decide)
  have names := @stores_index .skill last _ "name" (holds .skill) (by decide)
  have users := @stores_index .session last _ "user_id" (holds .session)
    (by decide)
  have whole : executeScript (fun _ => true) schemaScript database =
      (last, true) := by
    unfold schemaScript
    rw [executeScript_cons agents, executeScript_cons capabilities,
      executeScript_cons skills, executeScript_cons sessions]
    exact (executeScript_cons types).trans
      ((executeScript_cons names).trans (executeScript_cons users))
  unfold initDatabase
  rw [whole]
  rfl

/-- Which paths are the directory of the root does not depend on the files. -/
theorem find_directory_iff (root : Bytes) (disk : Disk) (path : Bytes) :
    Disk.find root disk path = .directory ↔
      (path = root ∨ path = root ++ ofString "/") := by
  unfold Disk.find
  constructor
  · intro directory
    split at directory
    · assumption
    · split at directory <;> cases directory
  · exact fun own => if_pos own

theorem registryStage_ok (fits : Fits platform root)
    (here : process.rootPath = root)
    (stopped : process.registry.initialized = false) {maps : RecordMaps}
    (filed : Filed (process.disk (registryPath platform root)) maps) :
    (registryStage platform .ok process).2 = .success := by
  have rooted := createDirectoryStructure_success fits.created
  have reachable : Disk.find root process.disk (registryPath platform root) ≠
      .directory := by
    intro directory
    exact fits.registry ((find_directory_iff root _ _).mpr
      ((find_directory_iff root _ _).mp directory))
  obtain directory | ⟨database, tables, partly⟩ :=
    @Filed.find_tables root maps process.disk (registryPath platform root) filed
  · exact absurd directory reachable
  have opened : openDatabase InitCalls.ok.registryOpened
      (Disk.find root process.disk (registryPath platform root)) =
        some database := by
    generalize Disk.find root process.disk (registryPath platform root) = found
      at reachable tables ⊢
    cases found with
    | directory => exact absurd rfl reachable
    | missing => exact tables
    | file data =>
        change data.tables = some database at tables
        change some (data.tables.getD _) = some database
        rw [tables, Option.getD_some]
  unfold registryStage
  rw [getRoot_of_rooted rooted here]
  have scripted := partly.scripted
  simp only [registryInit, stopped, Bool.false_eq_true, if_false, opened,
    tables]
  change (if (initDatabase (fun _ => true) database).2 = .success then _
    else _ : SqlRegistry × HeapstoreError).2 = .success
  rw [if_pos scripted]

theorem traceStage_ok (rooted : root ≠ []) (here : process.rootPath = root)
    (stopped : process.trace.initialized = false) :
    (traceStage platform .ok process).2 = .success := by
  unfold traceStage traceInit
  rw [getRoot_of_rooted rooted here]
  simp only [stopped, Bool.false_eq_true, if_false]
  rfl

/-- The code of a memory start does not depend on what the module held. -/
theorem memoryInit_code {dataDir : Bytes} {ensured : Bytes → Bool}
    {state other : MemoryState} (stopped : state.initialized = false)
    (otherStopped : other.initialized = false) :
    (memoryInit root dataDir ensured state).2 =
      (memoryInit root dataDir ensured other).2 := by
  unfold memoryInit
  simp only [stopped, otherStopped, Bool.false_eq_true, if_false]
  split
  · rfl
  · split <;> rfl

theorem memoryStage_code {calls : InitCalls} (rooted : root ≠ [])
    (here : process.rootPath = root) :
    (memoryStage platform calls process).2 =
      (memoryInit root platform.dataDir calls.memoryEnsured
        process.memory).2 := by
  unfold memoryStage
  rw [getRoot_of_rooted rooted here]

theorem memoryStage_ok (fits : Fits platform root)
    (here : process.rootPath = root)
    (stopped : process.memory.initialized = false) :
    (memoryStage platform .ok process).2 = .success := by
  rw [memoryStage_code (createDirectoryStructure_success fits.created) here]
  exact (memoryInit_code stopped rfl).trans fits.memory

theorem logStage_ok (stopped : process.log.initialized = false) :
    (logStage platform .ok process).2 = .success := by
  unfold logStage logInit
  simp only [stopped, Bool.false_eq_true, if_false]
  rfl

theorem Usable.fits (usable : Usable platform root) :
    Fits platform root := by
  obtain ⟨manager, here, succeeded⟩ := usable
  obtain ⟨created, schemaOk, registryOk, _, memoryOk, _⟩ :=
    (heapstoreInit_success_iff rfl).mp succeeded
  rw [here] at created
  have rooted := createDirectoryStructure_success created
  have armedFlags : (arm platform manager .ok
      (freshProcess fun _ => none)).flags =
      { Flags.all false with store := true } := by
    have configured := @configure_flags platform manager .ok
      (freshProcess fun _ => none)
    exact congrArg (fun flags => { flags with store := true }) configured
  have armedRoot : (arm platform manager .ok
      (freshProcess fun _ => none)).rootPath = root := here
  have armedDisk : (arm platform manager .ok
      (freshProcess fun _ => none)).disk = fun _ => none :=
    (@configure_kept platform .ok (freshProcess fun _ => none) manager).1
  generalize arm platform manager .ok (freshProcess fun _ => none) = armed
    at armedFlags armedRoot armedDisk schemaOk registryOk memoryOk
  have ready : armed.initialized = true := congrArg Flags.store armedFlags
  obtain ⟨version, disk, recorded, migrated, outcome⟩ :=
    schemaStage_success rooted armedRoot ready schemaOk
  rw [armedDisk] at recorded outcome
  have old := recordedVersion_blank recorded
  rw [migrated] at registryOk memoryOk
  have registryStopped := congrArg Flags.registry armedFlags
  have memoryStopped := congrArg Flags.memory armedFlags
  obtain ⟨registry, files, opened, _, _, found⟩ := @registryStage_success platform .ok
    { armed with disk := disk } root rooted armedRoot registryOk
  obtain ⟨database, _, tables, _⟩ := found registryStopped
  rw [opened] at memoryOk
  obtain ⟨trace, traced⟩ := @traceStage_frame platform .ok
    { armed with registry := registry, disk := files } root rooted armedRoot
  rw [traced] at memoryOk
  constructor
  · exact created
  · rcases outcome with ⟨_, written, stamped⟩ | ⟨reached, _⟩
    · rcases migrationSetVersion_outcome true root written schemaVersionCurrent
          (fun _ => none) with ⟨failed, _⟩ | ⟨_, _, fits, _⟩
      · rw [stamped] at failed
        exact absurd rfl failed
      · exact fits
    · exact absurd old (UInt32.not_lt.mpr reached)
  · intro directory
    rw [(find_directory_iff root disk _).mpr
      ((find_directory_iff root _ _).mp directory)] at tables
    cases tables
  · have code := @memoryStage_code platform
      { armed with registry := registry, trace := trace, disk := files } root
      .ok rooted armedRoot
    exact (memoryInit_code rfl memoryStopped).trans (code.symm.trans memoryOk)

/-- A start in which nothing fails succeeds from every stopped store whose
files a store left. -/
theorem heapstoreInit_ok (fits : Fits platform root)
    {manager : Option HeapstoreConfig} (down : process.initialized = false)
    (inStep : process.InStep)
    (here : (configure platform manager .ok process).rootPath = root)
    (readable : Readable root process.disk) {maps : RecordMaps}
    (filed : Filed (process.disk (registryPath platform root)) maps) :
    (heapstoreInit platform manager .ok process).2 = .success := by
  have rooted := createDirectoryStructure_success fits.created
  have disk := (@configure_kept platform .ok process manager).1
  have flags : (arm platform manager .ok process).flags =
      { Flags.all false with store := true } := by
    have flags := inStep
    unfold Process.InStep at flags
    rw [down, ← @configure_flags platform manager .ok process] at flags
    exact congrArg (fun flags => { flags with store := true }) flags
  rw [← disk] at readable filed
  apply (heapstoreInit_success_iff down).mpr
  unfold StagesSucceed
  rw [here]
  refine ⟨fits.created, ?_⟩
  change Readable root (arm platform manager .ok process).disk at readable
  change Filed ((arm platform manager .ok process).disk _) maps at filed
  change (arm platform manager .ok process).rootPath = root at here
  generalize arm platform manager .ok process = armed
    at flags readable filed here ⊢
  have schemaOk := schemaStage_ok fits here (congrArg Flags.store flags) readable
  obtain ⟨migratedDisk, migrated, kept⟩ :=
    @schemaStage_left platform .ok armed root rooted here
  refine ⟨schemaOk, ?_⟩
  rw [migrated]
  rw [← kept] at filed
  have registryOk := @registryStage_ok platform
    { armed with disk := migratedDisk } root fits here
    (congrArg Flags.registry flags) maps filed
  obtain ⟨registry, files, opened, _⟩ := @registryStage_frame platform .ok
    { armed with disk := migratedDisk } root rooted here
  refine ⟨registryOk, ?_⟩
  rw [opened]
  have traceOk := @traceStage_ok platform
    { armed with registry := registry, disk := files } root rooted here
    (congrArg Flags.trace flags)
  obtain ⟨trace, traced⟩ := @traceStage_frame platform .ok
    { armed with registry := registry, disk := files } root rooted here
  refine ⟨traceOk, ?_⟩
  rw [traced]
  have memoryOk := @memoryStage_ok platform
    { armed with registry := registry, trace := trace, disk := files } root
    fits here (congrArg Flags.memory flags)
  obtain ⟨memory, remembered⟩ := @memoryStage_left platform .ok
    { armed with registry := registry, trace := trace, disk := files } root
    rooted here
  refine ⟨memoryOk, ?_⟩
  rw [remembered]
  exact logStage_ok (congrArg Flags.log flags)

end Fits

/-! ### Runs -/

section Runs

variable {platform : Platform} {clock : LocalClock} {root : Bytes}

theorem serviceStep_readable (process : Process) (call : ServiceCall)
    (rooted : root ≠ []) {model : StoreModel}
    (related : Related (registryPath platform root) process model)
    (readable : Readable root process.disk)
    (startsAt : StartsAt platform root process call) :
    Readable root (serviceStep platform clock process call).1.disk := by
  cases call with
  | start manager calls =>
      cases running : process.initialized with
      | true =>
          have refused : heapstoreInit platform manager calls process =
              (process, .errAlreadyInitialized) := by
            unfold heapstoreInit
            rw [running, if_pos rfl]
          change Readable root (heapstoreInit ..).1.disk
          rw [refused]
          exact readable
      | false => exact heapstoreInit_readable running startsAt readable
  | stop =>
      change Readable root (heapstoreShutdown process).disk
      unfold heapstoreShutdown
      split <;> exact readable
  | exit => exact readable
  | reload manager calls =>
      change Readable root (heapstoreReloadConfig ..).1.disk
      unfold heapstoreReloadConfig
      split
      · exact readable
      · cases manager <;> exact readable
  | record kind call =>
      obtain ⟨keeps, _⟩ := call.run_meant related.registry
      change Readable root (filed { process with
        registry := (call.run process.registry).1 }).disk
      generalize (call.run process.registry).1 = registry at keeps ⊢
      unfold filed
      cases opened : registry.db with
      | none => exact readable
      | some connection =>
          -- The registry's file is not the version file.
          have dbPath : registry.dbPath = registryPath platform root := by
            cases running : model.up with
            | true => exact (keeps.opened running).1
            | false =>
                have closed := (keeps.closed running).1
                rw [opened] at closed
                cases closed
          apply readable.congr
          rw [dbPath]
          exact Disk.write_of_ne (versionFilePath_ne_registryPath rooted)
  | buffer call => exact readable

/-- After every run, whatever failed in it, a store that is not running starts
again when nothing fails any more. -/
theorem store_always_restarts (usable : Usable platform root) (disk : Disk)
    (maps : RecordMaps)
    (file : Filed (disk (registryPath platform root)) maps)
    (version : Readable root disk) (calls : List ServiceCall)
    (startsAt : Meets (serviceStep platform clock) (StartsAt platform root)
      (freshProcess disk) calls)
    (manager : Option HeapstoreConfig) :
    let process := final (serviceStep platform clock) (freshProcess disk) calls
    (configure platform manager .ok process).rootPath = root →
      process.initialized = false →
      (heapstoreInit platform manager .ok process).2 = .success := by
  intro process here down
  have fits := usable.fits
  have rooted := createDirectoryStructure_success fits.created
  obtain ⟨⟨model, related⟩, readable⟩ := guarded_invariant
    (serviceStep platform clock) (StartsAt platform root)
    (fun process =>
      (∃ model, Related (registryPath platform root) process model) ∧
        Readable root process.disk)
    (by
      rintro process call ⟨⟨model, related⟩, readable⟩ startsAt
      obtain ⟨next, _, after⟩ := @service_permitted platform clock root process
        model related call startsAt
      exact ⟨⟨next, after⟩,
        serviceStep_readable process call rooted related readable startsAt⟩)
    (freshProcess disk) calls ⟨⟨_, related_fresh file⟩, version⟩ startsAt
  exact heapstoreInit_ok fits down related.inStep here readable related.file

end Runs

theorem plainRoot_usable : Usable plainPlatform plainRoot :=
  ⟨some (defConfig (some plainRoot)), rfl, rfl⟩

/-- A start that cannot create its tables, and a call on what it left. -/
def failedCalls : List ServiceCall :=
  [plainStart { InitCalls.ok with script := fun index => decide (index = 0) },
    addedAgent "a"]

theorem store_always_restarts_failed :
    (heapstoreInit plainPlatform (some (defConfig (some plainRoot))) .ok
      (final (serviceStep plainPlatform gmtime) (freshProcess fun _ => none)
        failedCalls)).2 = .success :=
  @store_always_restarts plainPlatform gmtime plainRoot plainRoot_usable
    (fun _ => none) emptyRecords filed_missing ⟨0, rfl⟩ failedCalls
    ⟨rfl, trivial, trivial⟩ _ rfl rfl

end Heapstore.Durability
