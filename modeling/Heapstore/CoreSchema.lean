/-
The schema a start leaves behind.

The current version of the code is below both forward steps, so a start never
runs one.  It records the current version over an older one, accepts a newer
one as it stands, and leaves the tables of an existing database alone.
-/

import Heapstore.CorePaths

namespace Heapstore.Core

open ByteText SqlTable SqlConnection
open Migration RegistrySqlite Log

/-! ### The files of a start are distinct -/

section Distinct

variable {platform : Platform} {root : Bytes} (rooted : root ≠ [])
include rooted

private theorem registryPath_lastByte :
    (registryPath platform root).getLast? = some 98 := by
  rw [registryPath_eq rooted, List.getLast?_append_of_ne_nil _ (by decide)]
  rfl

theorem versionFilePath_ne_registryPath :
    versionFilePath root ≠ registryPath platform root := by
  intro same
  rcases Nat.lt_or_ge root.length 496 with short | long
  · have bytes := @registryPath_lastByte platform root rooted
    rw [← same, versionFilePath_of_short short,
      List.getLast?_append_of_ne_nil _ (by decide)] at bytes
    cases bytes
  · -- A cut version path is longer than any path of the registry.
    have lengths := congrArg List.length same
    rw [registryPath_eq rooted] at lengths
    have cut := length_printTo_lt (by decide : 0 < 256) root
    unfold versionFilePath printTo at lengths
    unfold printTo at cut
    simp only [List.length_take, List.length_append] at lengths cut
    change min 511 (root.length + 1 + 15) =
      min 255 root.length + 21 at lengths
    omega

theorem temporary_ne_registryPath :
    versionFilePath root ++ ofString ".tmp" ≠ registryPath platform root := by
  intro same
  have bytes := @registryPath_lastByte platform root rooted
  rw [← same, List.getLast?_append_of_ne_nil _ (by decide)] at bytes
  cases bytes

end Distinct

/-! ### The recorded version after a start -/

theorem not_reached_of_missing {root : Bytes} {disk : Disk} {version : UInt32}
    (recorded : RecordedVersion root disk version)
    (missing : VersionMissing root disk) : ¬schemaVersionCurrent ≤ version := by
  have zero : RecordedVersion root disk 0 :=
    recordedVersion_iff.mpr (Or.inl ⟨missing, rfl⟩)
  rw [recordedVersion_unique recorded zero]
  decide

section Recorded

variable {platform : Platform} {root : Bytes} {version : UInt32}
  {migrated opened : Disk} {before after : Process}

theorem Started.versionFile
    (started : Started platform root version migrated opened before after)
    (rooted : root ≠ []) {data : FileData}
    (present : migrated (versionFilePath root) = some data) :
    after.disk (versionFilePath root) = some data := by
  rw [started.logFile]
  apply openAppend_existing
  rw [started.registryFile _ (versionFilePath_ne_registryPath rooted)]
  exact present

/-- A start over an older version records the current one; a start over the
current or a newer version keeps the file. -/
theorem Started.recorded_cases
    (started : Started platform root version migrated opened before after)
    (rooted : root ≠ []) :
    (version < schemaVersionCurrent ∧
        RecordedNumeral root after.disk schemaVersionCurrent.toNat) ∨
      (schemaVersionCurrent ≤ version ∧
        after.disk (versionFilePath root) =
          before.disk (versionFilePath root)) := by
  rcases started.schema with ⟨old, calls, written⟩ | ⟨reached, unchanged⟩
  · left
    refine ⟨old, ?_⟩
    rcases migrationSetVersion_outcome true root calls schemaVersionCurrent
        before.disk with ⟨failed, _⟩ | ⟨_, _, fits, text⟩
    · rw [written] at failed
      exact absurd rfl failed
    · rw [written] at text
      have short := short_of_temporary_fits fits
      exact recordedNumeral_of_text (by omega)
        (started.versionFile rooted text)
  · right
    refine ⟨reached, ?_⟩
    have present : ∃ data, before.disk (versionFilePath root) = some data := by
      rcases recordedVersion_iff.mp started.recorded with
        ⟨_, zero⟩ | ⟨_, ⟨data, found, _⟩, _⟩
      · rw [zero] at reached
        exact absurd reached (by decide)
      · exact ⟨data, Disk.of_find_file found⟩
    obtain ⟨data, present⟩ := present
    rw [present]
    apply started.versionFile rooted
    rw [unchanged, present]

theorem Started.records_numeral_iff
    (started : Started platform root version migrated opened before after)
    (rooted : root ≠ []) :
    RecordedNumeral root after.disk schemaVersionCurrent.toNat ↔
      VersionMissing root before.disk ∨
        ∃ numeral, RecordedNumeral root before.disk numeral ∧
          (numeral % 2 ^ 32 < schemaVersionCurrent.toNat ∨
            numeral = schemaVersionCurrent.toNat) := by
  have before := started.recorded
  rcases started.recorded_cases rooted with ⟨old, recorded⟩ | ⟨reached, kept⟩
  · refine ⟨fun _ => ?_, fun _ => recorded⟩
    rcases recordedVersion_iff.mp before with ⟨missing, _⟩ | ⟨numeral, present, _⟩
    · exact Or.inl missing
    · refine Or.inr ⟨numeral, present, Or.inl ?_⟩
      rw [← recordedVersion_toNat before present]
      exact UInt32.lt_iff_toNat_lt.mp old
  · rw [recordedNumeral_congr kept]
    constructor
    · exact fun present => Or.inr ⟨_, present, Or.inr rfl⟩
    · rintro (missing | ⟨numeral, present, low | same⟩)
      · exact absurd reached (not_reached_of_missing before missing)
      · rw [← recordedVersion_toNat before present] at low
        exact absurd (UInt32.lt_iff_toNat_lt.mpr low) (UInt32.not_lt.mpr reached)
      · rw [← same]
        exact present

theorem Started.records_version_iff
    (started : Started platform root version migrated opened before after)
    (rooted : root ≠ []) :
    RecordedVersion root after.disk schemaVersionCurrent ↔
      VersionMissing root before.disk ∨
        ∃ numeral, RecordedNumeral root before.disk numeral ∧
          numeral % 2 ^ 32 ≤ schemaVersionCurrent.toNat := by
  have before := started.recorded
  rcases started.recorded_cases rooted with ⟨old, recorded⟩ | ⟨reached, kept⟩
  · refine ⟨fun _ => ?_, fun _ => recordedVersion_of_numeral recorded⟩
    rcases recordedVersion_iff.mp before with
      ⟨missing, _⟩ | ⟨numeral, present, _⟩
    · exact Or.inl missing
    · refine Or.inr ⟨numeral, present, ?_⟩
      rw [← recordedVersion_toNat before present]
      exact Nat.le_of_lt (UInt32.lt_iff_toNat_lt.mp old)
  · rw [recordedVersion_congr kept]
    constructor
    · intro current
      rcases recordedVersion_iff.mp current with
        ⟨missing, _⟩ | ⟨numeral, present, _⟩
      · exact Or.inl missing
      · exact Or.inr ⟨numeral, present,
          Nat.le_of_eq (recordedVersion_toNat current present).symm⟩
    · rintro (missing | ⟨numeral, present, low⟩)
      · exact absurd reached (not_reached_of_missing before missing)
      · rw [← recordedVersion_toNat before present] at low
        have same : version = schemaVersionCurrent :=
          UInt32.le_antisymm (UInt32.le_iff_toNat_le.mpr low) reached
        rw [← same]
        exact before

end Recorded

/-- After a start the numeral in the version file is the current version
exactly when the file was missing, its numeral is below the current version in
its low 32 bits, or it is the current version itself.  A reader of the file
finds the current version exactly when the low bits do not exceed it. -/
theorem heapstoreInit_records_current_iff {platform : Platform}
    {manager : Option HeapstoreConfig} {calls : InitCalls} {process : Process}
    (succeeded :
      (heapstoreInit platform manager calls process).2 = .success) :
    let started := (heapstoreInit platform manager calls process).1
    let root := started.rootPath
    (RecordedNumeral root started.disk schemaVersionCurrent.toNat ↔
        VersionMissing root process.disk ∨
          ∃ numeral, RecordedNumeral root process.disk numeral ∧
            (numeral % 2 ^ 32 < schemaVersionCurrent.toNat ∨
              numeral = schemaVersionCurrent.toNat)) ∧
      (RecordedVersion root started.disk schemaVersionCurrent ↔
        VersionMissing root process.disk ∨
          ∃ numeral, RecordedNumeral root process.disk numeral ∧
            numeral % 2 ^ 32 ≤ schemaVersionCurrent.toNat) := by
  intro started root
  obtain ⟨version, migrated, opened, after⟩ := heapstoreInit_started succeeded
  have rooted := (heapstoreInit_stages succeeded).1
  have same : root = (configure platform manager calls process).rootPath :=
    after.rootPath
  rw [same]
  exact ⟨after.records_numeral_iff rooted, after.records_version_iff rooted⟩

def recordedProcess (content : String) : Process :=
  freshProcess (Disk.write (fun _ => none)
    (versionFilePath (ofString "/var/lib/agentrt/heapstore"))
    (.bytes (ofString content)))

theorem heapstoreInit_records_current_older :
    let started := (heapstoreInit plainPlatform none .ok
      (recordedProcess "9999\n")).1
    RecordedNumeral started.rootPath started.disk schemaVersionCurrent.toNat :=
  (@heapstoreInit_records_current_iff plainPlatform none .ok
    (recordedProcess "9999\n") rfl).1.mpr
      (Or.inr ⟨9999, ⟨_, rfl, rfl⟩, Or.inl (by decide)⟩)

/-- A start accepts a newer version and leaves it recorded. -/
theorem heapstoreInit_accepts_newer :
    ¬∀ (platform : Platform) (manager : Option HeapstoreConfig) (disk : Disk),
      (heapstoreInit platform manager .ok (freshProcess disk)).2 = .success →
      let started := (heapstoreInit platform manager .ok (freshProcess disk)).1
      RecordedVersion started.rootPath started.disk schemaVersionCurrent := by
  intro always
  have recorded := always plainPlatform none (recordedProcess "20000\n").disk rfl
  have newer : RecordedVersion (ofString "/var/lib/agentrt/heapstore")
      (heapstoreInit plainPlatform none .ok (recordedProcess "20000\n")).1.disk
      20000 := rfl
  cases recordedVersion_unique recorded newer

/-! ### The tables after a start -/

def registryTables : List (String × List String) :=
  [("agents", agentFields), ("skills", skillFields),
    ("sessions", sessionFields)]

/-- The columns of a table that forward steps add behind a version. -/
def laterColumns (version : UInt32) (table : String) : List String :=
  ((if version < 10100 then agentFieldOps else []) ++
      if version < 20000 then sessionMetadataOps else []).filterMap fun op =>
    if op.table = table then some op.column.name else none

/-- The columns of every table are those of the schema version. -/
def HasSchema (version : UInt32) (database : Database) : Prop :=
  ∀ entry ∈ registryTables, ∃ table, database entry.1 = some table ∧
    ∀ name, name ∈ table.names ↔
      name ∈ entry.2 ∧ name ∉ laterColumns version entry.1

/-- Every column named by a statement of the registry exists. -/
def StatementsResolve (registry : SqlRegistry) : Prop :=
  ∃ connection, registry.db = some connection ∧
    ∀ statement ∈ registryStatements, statement.Resolves connection.visible

/-- The columns of the schema script that a version already has. -/
def schemaTable (version : UInt32) (name : String) (columns : List Column) :
    Table :=
  Table.empty (columns.filter fun column =>
    decide (column.name ∉ laterColumns version name))

def schemaDatabase (version : UInt32) : Database := fun name =>
  if name = "agents" then some (schemaTable version "agents" agentColumns)
  else if name = "skills" then some (schemaTable version "skills" skillColumns)
  else if name = "sessions" then
    some (schemaTable version "sessions" sessionColumns)
  else none

theorem names_schemaTable {version : UInt32} {table : String}
    {columns : List Column} (name : String) :
    name ∈ (schemaTable version table columns).names ↔
      name ∈ columns.map Column.name ∧ name ∉ laterColumns version table := by
  unfold schemaTable Table.names Table.empty
  simp only [List.mem_map, List.mem_filter, decide_eq_true_eq]
  constructor
  · rintro ⟨column, ⟨member, kept⟩, rfl⟩
    exact ⟨⟨column, member, rfl⟩, kept⟩
  · rintro ⟨⟨column, member, rfl⟩, kept⟩
    exact ⟨column, ⟨member, kept⟩, rfl⟩

theorem schemaDatabase_hasSchema (version : UInt32) :
    HasSchema version (schemaDatabase version) := by
  intro entry listed
  rcases List.mem_cons.mp listed with rfl | listed
  · exact ⟨schemaTable version "agents" agentColumns, rfl, names_schemaTable⟩
  rcases List.mem_cons.mp listed with rfl | listed
  · exact ⟨schemaTable version "skills" skillColumns, rfl, names_schemaTable⟩
  cases List.mem_singleton.mp listed
  exact ⟨schemaTable version "sessions" sessionColumns, rfl, names_schemaTable⟩

def schemaDisk (version : UInt32) : Disk :=
  let stored := Disk.write (fun _ => none)
    (ofString "/var/lib/agentrt/heapstore/registry/registry.db")
    (.database (schemaDatabase version))
  stored.write (versionFilePath (ofString "/var/lib/agentrt/heapstore"))
    (.bytes (versionText version))

/-! ### Statements against the tables -/

theorem registryStatements_named :
    ∀ statement ∈ registryStatements, ∃ entry ∈ registryTables,
      statement.target = entry.1 ∧ ∀ name ∈ statement.named, name ∈ entry.2 := by
  decide

theorem statements_resolve_iff {version : UInt32} {database : Database}
    (schema : HasSchema version database) :
    (∀ statement ∈ registryStatements, statement.Resolves database) ↔
      20000 ≤ version := by
  constructor
  · intro resolves
    obtain ⟨table, present, columns⟩ := resolves insertSession (by decide)
    obtain ⟨sessions, found, names⟩ :=
      schema ("sessions", sessionFields) (by decide)
    cases present.symm.trans found
    have metadata := (names "metadata").mp (columns "metadata" (by decide))
    by_contra older
    apply metadata.2
    unfold laterColumns
    rw [if_pos (UInt32.not_le.mp older), List.filterMap_append]
    exact List.mem_append_right _ (by decide)
  · intro reached statement member
    obtain ⟨entry, listed, target, named⟩ :=
      registryStatements_named statement member
    obtain ⟨table, present, names⟩ := schema entry listed
    refine ⟨table, by rw [target]; exact present, ?_⟩
    intro name mentioned
    refine (names name).mpr ⟨named name mentioned, ?_⟩
    have beyond : (10100 : UInt32) ≤ version :=
      UInt32.le_trans (by decide) reached
    unfold laterColumns
    rw [if_neg (UInt32.not_lt.mpr beyond), if_neg (UInt32.not_lt.mpr reached)]
    exact List.not_mem_nil

theorem HasSchema.executeScript {version : UInt32} {database : Database}
    (schema : HasSchema version database) (succeeds : Nat → Bool)
    (script : List SchemaStatement) :
    HasSchema version (executeScript succeeds script database).1 := by
  intro entry listed
  obtain ⟨table, present, names⟩ := schema entry listed
  exact ⟨table, executeScript_existing succeeds script present, names⟩

theorem Started.registryDatabase {platform : Platform} {root : Bytes}
    {version : UInt32} {migrated opened : Disk} {before after : Process}
    (started : Started platform root version migrated opened before after)
    (rooted : root ≠ []) :
    migrated (registryPath platform root) =
      before.disk (registryPath platform root) := by
  rcases started.schema with ⟨_, calls, written⟩ | ⟨_, unchanged⟩
  · have frame := @migrationSetVersion_of_ne true root
      (registryPath platform root) calls schemaVersionCurrent before.disk
      (versionFilePath_ne_registryPath rooted).symm
      (temporary_ne_registryPath rooted).symm
    rw [written] at frame
    exact frame
  · rw [unchanged]

/-- After a start on an existing database every statement of the registry finds
its columns exactly when the database already had the columns of 20000. -/
theorem heapstoreInit_statements_resolve_iff {platform : Platform}
    {manager : Option HeapstoreConfig} {calls : InitCalls} {process : Process}
    {version : UInt32} {database : Database}
    (stopped : process.registry.initialized = false)
    (present : process.disk (registryPath platform
        (configure platform manager calls process).rootPath) =
      some (.database database))
    (schema : HasSchema version database)
    (succeeded :
      (heapstoreInit platform manager calls process).2 = .success) :
    StatementsResolve (heapstoreInit platform manager calls process).1.registry ↔
      20000 ≤ version := by
  obtain ⟨recorded, migrated, opened, started⟩ := heapstoreInit_started succeeded
  have rooted := (heapstoreInit_stages succeeded).1
  change (configure platform manager calls process).rootPath ≠ [] at rooted
  obtain ⟨tables, script, found, registry⟩ := started.registry stopped
  have same : tables = database := by
    apply Disk.find_database _ found
    rw [started.registryDatabase rooted, present]
  rw [registry, same, ← statements_resolve_iff (schema.executeScript script _)]
  constructor
  · rintro ⟨connection, opened, resolves⟩
    cases opened
    exact resolves
  · intro resolves
    exact ⟨_, rfl, resolves⟩

theorem heapstoreInit_statements_resolve_v2 :
    StatementsResolve (heapstoreInit plainPlatform none .ok
      (freshProcess (schemaDisk 20000))).1.registry :=
  (@heapstoreInit_statements_resolve_iff plainPlatform none .ok
    (freshProcess (schemaDisk 20000)) 20000 (schemaDatabase 20000) rfl rfl
    (schemaDatabase_hasSchema 20000) rfl).mpr (by decide)

/-- On a database of 10000 the insertion of an agent finds no priority. -/
theorem heapstoreInit_old_database_unresolved :
    ¬∀ (platform : Platform) (manager : Option HeapstoreConfig)
      (calls : InitCalls) (disk : Disk) (version : UInt32)
      (database : Database),
      disk (registryPath platform (configure platform manager calls
        (freshProcess disk)).rootPath) = some (.database database) →
      HasSchema version database →
      RecordedVersion (configure platform manager calls
        (freshProcess disk)).rootPath disk version →
      (heapstoreInit platform manager calls (freshProcess disk)).2 = .success →
      StatementsResolve
        (heapstoreInit platform manager calls (freshProcess disk)).1.registry := by
  intro always
  obtain ⟨connection, opened, resolves⟩ := always plainPlatform none .ok
    (schemaDisk 10000) 10000 (schemaDatabase 10000) rfl
    (schemaDatabase_hasSchema 10000) rfl rfl
  have missing : ∀ connection ∈ (heapstoreInit plainPlatform none .ok
      (freshProcess (schemaDisk 10000))).1.registry.db,
      ¬insertAgent.Resolves connection.visible := by
    decide
  exact missing connection opened (resolves insertAgent (by decide))

end Heapstore.Core
