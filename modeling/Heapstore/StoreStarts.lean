/-
The database file and the starts of the store.

While no connection is open the file holds the committed records, as far as its
tables were created.  A start that fails keeps them there, one that succeeds
opens them.
-/

import Heapstore.CoreSchema
import Heapstore.StoreRecords

namespace Heapstore.Durability

open ByteText SqlTable SqlConnection
open Migration RegistrySqlite RegistryBackendAgreement Trace Log
open Heapstore.Core

/-! ### The database file -/

/-- The tables that exist hold their maps, and a map without a table is
empty. -/
def PartlyHolds (database : Database) (maps : RecordMaps) : Prop :=
  ∀ kind : RecordKind, Stores kind.shape database (maps kind) ∨
    (database kind.shape.table = none ∧ maps kind = fun _ => none)

/-- A file that is missing or empty has no tables. -/
def fileTables : Option FileData → Option Database
  | none => some fun _ => none
  | some data => data.tables

def Filed (data : Option FileData) (maps : RecordMaps) : Prop :=
  ∃ database, fileTables data = some database ∧ PartlyHolds database maps

theorem Holds.partly {database : Database} {maps : RecordMaps}
    (holds : Holds database maps) : PartlyHolds database maps :=
  fun kind => Or.inl (holds kind)

theorem schemaScript_columns {name : String} {columns : List Column}
    (listed : SchemaStatement.createTable name columns ∈ schemaScript)
    {kind : RecordKind} (own : kind.shape.table = name) :
    columns = kind.shape.columns := by
  cases kind <;> cases own <;> simp_all [schemaScript, RecordKind.shape,
    agentShape, skillShape, sessionShape]

theorem schemaScript_creates (kind : RecordKind) :
    SchemaStatement.createTable kind.shape.table kind.shape.columns ∈
      schemaScript := by
  cases kind <;> decide

theorem stores_empty {kind : RecordKind} {database : Database}
    (created : database kind.shape.table =
      some (Table.empty kind.shape.columns)) :
    Stores kind.shape database fun _ => none :=
  ⟨_, [], created, rfl, rfl, List.nodup_nil, rfl⟩

section Script

variable {database next : Database} {maps : RecordMaps} {name : String}
  {columns : List Column}

theorem createTable_cases
    (executed :
      (SchemaStatement.createTable name columns).execute database =
        some next) :
    (database name ≠ none ∧ next = database) ∨
      (database name = none ∧
        next = Function.update database name (some (Table.empty columns))) := by
  unfold SchemaStatement.execute at executed
  cases present : database name with
  | some table =>
      simp only [present, Option.some.injEq] at executed
      exact Or.inl ⟨nofun, executed.symm⟩
  | none =>
      simp only [present, Option.some.injEq] at executed
      exact Or.inr ⟨rfl, executed.symm⟩

theorem createIndex_same {column : String}
    (executed :
      (SchemaStatement.createIndex name column).execute database =
        some next) : next = database := by
  unfold SchemaStatement.execute at executed
  cases present : database name with
  | none => simp [present] at executed
  | some table =>
      simp only [present] at executed
      split at executed
      · exact (Option.some.inj executed).symm
      · cases executed

theorem PartlyHolds.execute (partly : PartlyHolds database maps)
    {statement : SchemaStatement} (listed : statement ∈ schemaScript)
    (executed : statement.execute database = some next) :
    PartlyHolds next maps := by
  cases statement with
  | createIndex table column =>
      rw [createIndex_same executed]
      exact partly
  | createTable name columns =>
      rcases createTable_cases executed with ⟨_, rfl⟩ | ⟨absent, rfl⟩
      · exact partly
      intro kind
      by_cases own : kind.shape.table = name
      · subst own
        rcases partly kind with stores | ⟨_, empty⟩
        · obtain ⟨table, _, present, _⟩ := stores
          rw [absent] at present
          cases present
        · left
          rw [empty, schemaScript_columns listed rfl]
          exact stores_empty (Function.update_self ..)
      · have same := Function.update_of_ne own (some (Table.empty columns))
          database
        rcases partly kind with stores | ⟨missing, empty⟩
        · exact Or.inl (Stores.of_same stores same)
        · exact Or.inr ⟨same.trans missing, empty⟩

theorem PartlyHolds.script {script : List SchemaStatement}
    (listed : ∀ statement ∈ script, statement ∈ schemaScript)
    (succeeds : Nat → Bool) (partly : PartlyHolds database maps) :
    PartlyHolds (executeScript succeeds script database).1 maps := by
  induction script generalizing succeeds database with
  | nil => exact partly
  | cons statement rest ih =>
      unfold executeScript
      split
      · exact partly
      · cases executed : statement.execute database with
        | none => exact partly
        | some next =>
            apply ih
            · exact fun other member =>
                listed other (List.mem_cons_of_mem _ member)
            · exact partly.execute (listed _ List.mem_cons_self) executed

/-- A script that succeeds has created the tables it names. -/
theorem executeScript_created {script : List SchemaStatement}
    {succeeds : Nat → Bool}
    (member : SchemaStatement.createTable name columns ∈ script)
    (succeeded : (executeScript succeeds script database).2 = true) :
    (executeScript succeeds script database).1 name ≠ none := by
  induction script generalizing succeeds database with
  | nil => cases member
  | cons statement rest ih =>
      unfold executeScript at succeeded ⊢
      split at succeeded
      · cases succeeded
      · next running =>
          rw [if_neg running]
          cases executed : statement.execute database with
          | none =>
              rw [executed] at succeeded
              cases succeeded
          | some next =>
              simp only [executed] at succeeded ⊢
              rcases List.mem_cons.mp member with rfl | later
              · have present : next name ≠ none := by
                  rcases createTable_cases executed with
                    ⟨found, rfl⟩ | ⟨_, rfl⟩
                  · exact found
                  · rw [Function.update_self]
                    exact Option.some_ne_none _
                obtain ⟨table, present⟩ := Option.ne_none_iff_exists'.mp present
                rw [executeScript_existing _ _ present]
                exact Option.some_ne_none _
              · exact ih later succeeded

theorem PartlyHolds.created (partly : PartlyHolds database maps)
    (succeeds : Nat → Bool) :
    PartlyHolds (initDatabase succeeds database).1 maps :=
  partly.script (fun _ member => member) succeeds

theorem PartlyHolds.holds (partly : PartlyHolds database maps)
    {succeeds : Nat → Bool}
    (succeeded : (initDatabase succeeds database).2 = .success) :
    Holds (initDatabase succeeds database).1 maps := by
  have whole : (executeScript succeeds schemaScript database).2 = true := by
    unfold initDatabase at succeeded
    simp only at succeeded
    split at succeeded
    · assumption
    · cases succeeded
  intro kind
  rcases partly.created succeeds kind with stores | ⟨missing, _⟩
  · exact stores
  · exact absurd missing
      (executeScript_created (schemaScript_creates kind) whole)

end Script

/-! ### What a start leaves -/

section Stages

variable {platform : Platform} {calls : InitCalls} {process : Process}
  {root other : Bytes} {maps : RecordMaps}

theorem migrationCheck_of_ne {ready : Bool} {read : VersionReadCalls}
    {stamp : VersionWriteCalls} {disk : Disk}
    (notVersion : other ≠ versionFilePath root)
    (notTemporary : other ≠ versionFilePath root ++ ofString ".tmp") :
    (migrationCheck true ready root read stamp disk).disk other =
      disk other := by
  unfold migrationCheck
  rw [if_neg nofun]
  split
  · rfl
  · split
    · exact migrationSetVersion_of_ne notVersion notTemporary
    · rfl

/-- No forward step ends at the current version or below, so a migration to it
writes the version file alone. -/
theorem migrationForward_of_ne {ready wanted : Bool} {forward : ForwardCalls}
    {disk : Disk} (notVersion : other ≠ versionFilePath root)
    (notTemporary : other ≠ versionFilePath root ++ ofString ".tmp") :
    (migrationForward ready root forward wanted 0 disk).disk other =
      disk other := by
  unfold migrationForward
  split
  · rfl
  · next current _ =>
      split
      · rfl
      · have nothing : applicableSteps gForwardSteps current
            (effectiveTarget 0) = [] := applicableSteps_current current
        rw [(migRunSteps_of_nil nothing).1]
        exact migrationSetVersion_of_ne notVersion notTemporary

theorem schemaStage_left (rooted : root ≠ []) (here : process.rootPath = root) :
    ∃ disk, (schemaStage platform calls process).1 =
        { process with disk := disk } ∧
      disk (registryPath platform root) =
        process.disk (registryPath platform root) := by
  have notVersion := (@versionFilePath_ne_registryPath platform root rooted).symm
  have notTemporary := (@temporary_ne_registryPath platform root rooted).symm
  unfold schemaStage
  rw [getRoot_of_rooted rooted here]
  simp only
  split
  · exact ⟨_, rfl, migrationCheck_of_ne notVersion notTemporary⟩
  · split
    · exact ⟨_, rfl, migrationCheck_of_ne notVersion notTemporary⟩
    · refine ⟨_, rfl, ?_⟩
      rw [migrationForward_of_ne notVersion notTemporary]
      exact migrationCheck_of_ne notVersion notTemporary

/-- A database opened by a start shows the maps. -/
structure OpenedWith (path : Bytes) (maps : RecordMaps)
    (registry : SqlRegistry) : Prop where
  initialized : registry.initialized = true
  dbPath : registry.dbPath = path
  db : ∃ database,
    registry.db = some { committed := database, working := none } ∧
      Holds database maps

theorem Filed.find_tables {disk : Disk} {path : Bytes}
    (filed : Filed (disk path) maps) :
    Disk.find root disk path = .directory ∨
      ∃ database, (Disk.find root disk path).tables = some database ∧
        PartlyHolds database maps := by
  obtain ⟨database, tables, partly⟩ := filed
  unfold Disk.find
  split
  · exact Or.inl rfl
  · right
    refine ⟨database, ?_, partly⟩
    cases present : disk path with
    | none =>
        rw [present] at tables
        exact tables
    | some data =>
        rw [present] at tables
        exact tables

theorem openDatabase_cases (opened : Bool) {found : Found}
    {database : Database} (tables : found.tables = some database) :
    openDatabase opened found = none ∨
      openDatabase opened found = some database := by
  cases found with
  | directory => cases tables
  | missing =>
      cases opened with
      | false => exact Or.inl rfl
      | true => exact Or.inr tables
  | file data =>
      cases opened with
      | false => exact Or.inl rfl
      | true =>
          change data.tables = some database at tables
          right
          change some (data.tables.getD _) = some database
          rw [tables, Option.getD_some]

/-- The registry stage creates what tables it can, and opens them all or
none. -/
theorem registryStage_left (rooted : root ≠ []) (here : process.rootPath = root)
    (stopped : process.registry.initialized = false)
    (filed : Filed (process.disk (registryPath platform root)) maps) :
    ∃ registry disk, (registryStage platform calls process).1 =
        { process with registry := registry, disk := disk } ∧
      Filed (disk (registryPath platform root)) maps ∧
      ((registryStage platform calls process).2 ≠ .success →
        registry.db = none) ∧
      ((registryStage platform calls process).2 = .success →
        disk (registryPath platform root) ≠ none ∧
          OpenedWith (registryPath platform root) maps registry) := by
  unfold registryStage
  rw [getRoot_of_rooted rooted here]
  simp only [registryInit, stopped, Bool.false_eq_true, if_false, false_or]
  generalize path_eq : registryPath platform root = path at filed ⊢
  have same : registryFilePath
      (registryRootPath (some root) (some platform.dataDir)) = path := path_eq
  rw [same]
  rcases @Filed.find_tables root maps process.disk path filed with
    directory | ⟨database, tables, partly⟩
  · rw [directory]
    refine ⟨_, _, rfl, ?_, fun _ => rfl, fun reached => by cases reached⟩
    exact filed
  · rw [tables]
    rcases openDatabase_cases calls.registryOpened tables with closed | opened
    · rw [closed]
      refine ⟨_, _, rfl, ?_, fun _ => rfl, fun reached => by cases reached⟩
      exact filed
    · rw [opened]
      simp only [reduceCtorEq, if_false]
      generalize (fun index => calls.script index && _) = succeeds
      have written : Filed
          (process.disk.write path
            (.database (initDatabase succeeds database).1) path) maps := by
        rw [Disk.write_self]
        exact ⟨_, rfl, partly.created succeeds⟩
      by_cases created : (initDatabase succeeds database).2 = .success
      · simp only [created, if_true]
        refine ⟨_, _, rfl, written, fun failed => absurd rfl failed, ?_⟩
        intro _
        rw [Disk.write_self]
        exact ⟨Option.some_ne_none _, rfl, rfl, _, rfl, partly.holds created⟩
      · simp only [created, if_false]
        exact ⟨_, _, rfl, written, fun _ => rfl, fun reached => by cases reached⟩

theorem traceStage_left (rooted : root ≠ []) (here : process.rootPath = root)
    (stopped : process.trace.initialized = false) :
    ∃ trace, (traceStage platform calls process).1 =
        { process with trace := trace } ∧
      ((traceStage platform calls process).2 = .success →
        trace.spanCount = 0) := by
  unfold traceStage traceInit
  rw [getRoot_of_rooted rooted here]
  simp only [stopped, Bool.false_eq_true, if_false]
  split
  · exact ⟨_, rfl, nofun⟩
  · exact ⟨_, rfl, fun _ => rfl⟩

theorem memoryStage_left (rooted : root ≠ [])
    (here : process.rootPath = root) :
    ∃ memory, (memoryStage platform calls process).1 =
      { process with memory := memory } := by
  unfold memoryStage
  rw [getRoot_of_rooted rooted here]
  exact ⟨_, rfl⟩

theorem logStage_left {path : Bytes} (present : process.disk path ≠ none) :
    ∃ log disk, (logStage platform calls process).1 =
        { process with log := log, disk := disk } ∧
      disk path = process.disk path := by
  refine ⟨_, _, rfl, ?_⟩
  unfold logInit
  split
  · rfl
  · simp only
    split
    · rfl
    · obtain ⟨data, present⟩ := Option.ne_none_iff_exists'.mp present
      rw [present]
      exact openAppend_existing present

/-- The file after a start, and the registry and the buffer that the start
left open. -/
structure Leaves (path : Bytes) (maps : RecordMaps)
    (outcome : Process × HeapstoreError) : Prop where
  file : Filed (outcome.1.disk path) maps
  closed : outcome.2 ≠ .success → outcome.1.registry.db = none
  opened : outcome.2 = .success → OpenedWith path maps outcome.1.registry ∧
    outcome.1.trace.spanCount = 0

theorem stage_leaves {path : Bytes} {ran : Process × HeapstoreError}
    {undo : Process → Process} {next : Process → Process × HeapstoreError}
    (file : ran.2 ≠ .success → Filed ((undo ran.1).disk path) maps)
    (closed : ran.2 ≠ .success → (undo ran.1).registry.db = none)
    (later : ran.2 = .success → Leaves path maps (next ran.1)) :
    Leaves path maps (stage ran undo next) := by
  unfold stage
  by_cases done : ran.2 = .success
  · rw [if_pos done]
    exact later done
  · rw [if_neg done]
    exact ⟨file done, fun _ => closed done,
      fun succeeded => absurd succeeded done⟩

theorem registryShutdown_closed (registry : SqlRegistry)
    (running : registry.initialized = true) :
    (registryShutdown registry).db = none := by
  unfold registryShutdown
  rw [if_pos running]

theorem startStages_leaves (rooted : root ≠ [])
    (here : process.rootPath = root)
    (stopped : process.flags = { Flags.all false with store := true })
    (filed : Filed (process.disk (registryPath platform root)) maps)
    (closed : process.registry.db = none) :
    Leaves (registryPath platform root) maps
      (startStages platform calls process) := by
  unfold startStages
  have registryStopped := congrArg Flags.registry stopped
  have traceStopped := congrArg Flags.trace stopped
  change process.registry.initialized = false at registryStopped
  change process.trace.initialized = false at traceStopped
  obtain ⟨disk, migrated, kept⟩ :=
    @schemaStage_left platform calls process root rooted here
  rw [← kept] at filed
  apply stage_leaves
  · intro _
    rw [id, migrated]
    exact filed
  · intro _
    rw [id, migrated]
    exact closed
  intro _
  rw [migrated]
  have again := @registryStage_left platform calls
    { process with disk := disk } root maps rooted here registryStopped filed
  obtain ⟨registry, tables, opened, filed, failing, succeeding⟩ := again
  apply stage_leaves
  · intro _
    rw [id, opened]
    exact filed
  · intro failed
    rw [id, opened]
    exact failing failed
  intro openedOk
  obtain ⟨present, openedWith⟩ := succeeding openedOk
  have running := openedWith.initialized
  rw [opened]
  obtain ⟨trace, traced, empty⟩ := @traceStage_left platform calls
    { process with registry := registry, disk := tables } root rooted here
    traceStopped
  apply stage_leaves
  · intro _
    rw [traced]
    exact filed
  · intro _
    rw [traced]
    exact registryShutdown_closed registry running
  intro tracedOk
  rw [traced]
  obtain ⟨memory, remembered⟩ := @memoryStage_left platform calls
    { process with registry := registry, trace := trace, disk := tables } root
    rooted here
  apply stage_leaves
  · intro _
    rw [remembered]
    exact filed
  · intro _
    rw [remembered]
    exact registryShutdown_closed registry running
  intro _
  rw [remembered]
  obtain ⟨log, files, logged, kept⟩ := @logStage_left platform calls
    { process with
        registry := registry
        trace := trace
        memory := memory
        disk := tables } (registryPath platform root) present
  apply stage_leaves
  · intro _
    rw [logged]
    change Filed (files _) maps
    rw [kept]
    exact filed
  · intro _
    rw [logged]
    exact registryShutdown_closed registry running
  intro _
  rw [logged]
  refine ⟨?_, fun failed => absurd rfl failed,
    fun _ => ⟨openedWith, empty tracedOk⟩⟩
  change Filed (files _) maps
  rw [kept]
  exact filed

theorem configure_kept {manager : Option HeapstoreConfig} :
    (configure platform manager calls process).disk = process.disk ∧
      (configure platform manager calls process).registry =
        process.registry := by
  unfold configure
  rw [applyUserConfig_eq, setDefaultConfig_eq]
  exact ⟨rfl, rfl⟩

theorem heapstoreInit_leaves {manager : Option HeapstoreConfig}
    (down : process.initialized = false) (inStep : process.InStep)
    (here : (configure platform manager calls process).rootPath = root)
    (filed : Filed (process.disk (registryPath platform root)) maps)
    (closed : process.registry.db = none) :
    Leaves (registryPath platform root) maps
      (heapstoreInit platform manager calls process) := by
  have flags : process.flags = Flags.all false := by
    have flags := inStep
    unfold Process.InStep at flags
    rwa [down] at flags
  obtain ⟨disk, registry⟩ :=
    @configure_kept platform calls process manager
  rw [← disk] at filed
  rw [← registry] at closed
  rw [heapstoreInit_eq, down]
  simp only [Bool.false_eq_true, if_false]
  by_cases created : createDirectoryStructure calls.structureEnsured
      (configure platform manager calls process).rootPath = .success
  · rw [if_neg (not_not.mpr created)]
    have rooted := createDirectoryStructure_success created
    rw [here] at rooted
    have armed : (arm platform manager calls process).flags =
        { Flags.all false with store := true } := by
      rw [← flags, ← @configure_flags platform manager calls process]
      rfl
    exact startStages_leaves rooted here armed filed closed
  · rw [if_pos created]
    exact ⟨filed, fun _ => closed, fun succeeded => absurd succeeded created⟩

end Stages

end Heapstore.Durability
