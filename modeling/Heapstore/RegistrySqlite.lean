/-
The SQLite registry backend.

Every call prepares one statement, binds a record or an id and steps it; a
batch wraps its steps in a transaction.  The outcome of each engine call that
can fail is an argument.  Binders always succeed, so a binder is the list of
its parameters.
-/

import Heapstore.Foundation.SqlConnection
import Heapstore.Types

namespace Heapstore.RegistrySqlite

open ByteText SqlTable SqlConnection

structure SqlRegistry where
  db : Option Connection
  dbPath : Bytes
  initialized : Bool

def clearedRegistry : SqlRegistry where
  db := none
  dbPath := []
  initialized := false

/-! ### The schema -/

def plainColumn (name : String) : Column :=
  { name := name, notNull := false, unique := false, initial := .null }

def keyColumn (name : String) : Column :=
  { name := name, notNull := false, unique := true, initial := .null }

def requiredColumn (name : String) : Column :=
  { name := name, notNull := true, unique := false, initial := .null }

def defaultColumn (name : String) (initial : Value) : Column :=
  { name := name, notNull := false, unique := false, initial := initial }

def agentColumns : List Column :=
  [keyColumn "id", requiredColumn "name", plainColumn "type",
    plainColumn "version", plainColumn "status", plainColumn "config_path",
    plainColumn "created_at", plainColumn "updated_at",
    defaultColumn "priority" (.integer 0), defaultColumn "tags" (.text [])]

def capabilityColumns : List Column :=
  [plainColumn "agent_id", plainColumn "capability"]

def skillColumns : List Column :=
  [keyColumn "id", requiredColumn "name", plainColumn "version",
    plainColumn "library_path", plainColumn "manifest_path",
    plainColumn "installed_at"]

def sessionColumns : List Column :=
  [keyColumn "id", plainColumn "user_id", plainColumn "created_at",
    plainColumn "last_active_at", plainColumn "ttl_seconds",
    plainColumn "status", defaultColumn "metadata" (.text [])]

def schemaScript : List SchemaStatement :=
  [.createTable "agents" agentColumns,
    .createTable "agent_capabilities" capabilityColumns,
    .createTable "skills" skillColumns,
    .createTable "sessions" sessionColumns,
    .createIndex "agents" "type",
    .createIndex "skills" "name",
    .createIndex "sessions" "user_id"]

def initDatabase (succeeds : Nat → Bool) (database : Database) :
    Database × HeapstoreError :=
  let executed := executeScript succeeds schemaScript database
  (executed.1, if executed.2 then .success else .errDbInitFailed)

/-! ### Opening and closing -/

/-- The `root_path` of `heapstore_registry_init`, a buffer of 256 bytes. -/
def registryRootPath (configuredRoot dataDir : Option Bytes) : Bytes :=
  let root := configuredRoot.getD []
  let directory := dataDir.getD []
  if root ≠ [] then printTo 256 root
  else if directory ≠ [] then
    printTo 256 (directory ++ ofString "/agentrt/heapstore")
  else printTo 256 (ofString "/tmp/agentrt/heapstore")

def registryDirPath (root : Bytes) : Bytes :=
  printTo 512 (root ++ ofString "/registry")

def registryFilePath (root : Bytes) : Bytes :=
  printTo 512 (registryDirPath root ++ ofString "/registry.db")

/-- `heapstore_registry_init`.  `opened` is what opening a path gives, nothing
when it fails; the pragmas have no effect on the tables. -/
def registryInit (configuredRoot dataDir : Option Bytes)
    (opened : Bytes → Option Database) (succeeds : Nat → Bool)
    (registry : SqlRegistry) : SqlRegistry × HeapstoreError :=
  if registry.initialized then (registry, .success)
  else
    let path := registryFilePath (registryRootPath configuredRoot dataDir)
    match opened path with
    | none => ({ registry with dbPath := path, db := none }, .errDbInitFailed)
    | some database =>
        let created := initDatabase succeeds database
        if created.2 = .success then
          ({ db := some { committed := created.1, working := none }
             dbPath := path
             initialized := true }, .success)
        else (clearedRegistry, created.2)

def registryShutdown (registry : SqlRegistry) : SqlRegistry :=
  if registry.initialized then
    { registry with db := none, initialized := false }
  else registry

/-! ### Statements -/

structure ExecCalls where
  prepare : Bool
  step : Bool
  deriving DecidableEq

def ExecCalls.ok : ExecCalls := { prepare := true, step := true }

/-- `session_begin`: the connection on which the statement is prepared. -/
def sessionBegin (prepare : Bool) (statement : Statement)
    (registry : SqlRegistry) : Except HeapstoreError Connection :=
  match registry.db with
  | none => .error .errNotInitialized
  | some connection =>
      if registry.initialized = false then .error .errNotInitialized
      else if prepare = true ∧ statement.Resolves connection.visible then
        .ok connection
      else .error .errDbQueryFailed

def sqlExecLocked (calls : ExecCalls) (statement : Statement) (values : Row)
    (registry : SqlRegistry) : SqlRegistry × HeapstoreError :=
  match sessionBegin calls.prepare statement registry with
  | .error error => (registry, error)
  | .ok connection =>
      let stepped := connection.step calls.step statement values
      ({ registry with db := some stepped.1 },
        if stepped.2 = .failed then .errDbQueryFailed else .success)

/-- `registry_query_one`.  A query leaves the connection as it was. -/
def registryQueryOne {Record : Type} (calls : ExecCalls)
    (statement : Statement) (values : Row) (extract : Row → Record)
    (registry : SqlRegistry) : HeapstoreError × Option Record :=
  match sessionBegin calls.prepare statement registry with
  | .error error => (error, none)
  | .ok connection =>
      match (connection.step calls.step statement values).2 with
      | .row row => (.success, some (extract row))
      | .done => (.errNotFound, none)
      | .failed => (.errDbQueryFailed, none)

structure BatchCalls where
  prepare : Bool
  start : Bool
  step : Nat → Bool
  commit : Bool
  rollback : Bool

def BatchCalls.ok : BatchCalls where
  prepare := true
  start := true
  step := fun _ => true
  commit := true
  rollback := true

/-- The loop of `batch_exec_locked`: a step that is not done rolls back. -/
def batchLoop {Record : Type} (statement : Statement) (bind : Record → Row)
    (rollback : Bool) :
    (Nat → Bool) → List Record → Connection → Connection × HeapstoreError
  | _, [], connection => (connection, .success)
  | steps, record :: rest, connection =>
      let stepped := connection.step (steps 0) statement (bind record)
      if stepped.2 = .done then
        batchLoop statement bind rollback (fun index => steps (index + 1)) rest
          stepped.1
      else ((stepped.1.rollback rollback).1, .errDbQueryFailed)

def batchExecLocked {Record : Type} (calls : BatchCalls)
    (statement : Statement) (bind : Record → Row) (records : List Record)
    (registry : SqlRegistry) : SqlRegistry × HeapstoreError :=
  match sessionBegin calls.prepare statement registry with
  | .error error => (registry, error)
  | .ok connection =>
      let begun := connection.begin_ calls.start
      if begun.2 = false then
        ({ registry with db := some begun.1 }, .errDbQueryFailed)
      else
        let looped :=
          batchLoop statement bind calls.rollback calls.step records begun.1
        if looped.2 = .success then
          let committed := looped.1.commit calls.commit
          ({ registry with db := some committed.1 },
            if committed.2 then .success else .errDbQueryFailed)
        else ({ registry with db := some looped.1 }, looped.2)

/-! ### Reading columns -/

def columnText : Value → Option Bytes
  | .null => none
  | .text bytes => some bytes
  | .integer number => some (signedDecimal number.toInt)

/-- The integer a text starts with, cut to the range of the type. -/
def textInteger (bytes : Bytes) : Int64 :=
  let body := bytes.dropWhile isSpace
  let unsigned :=
    if body.head? = some 45 ∨ body.head? = some 43 then body.tail else body
  let magnitude := digitsValue (unsigned.takeWhile isDigit)
  if body.head? = some 45 then
    Int64.ofInt (max (-(magnitude : Int)) (-2 ^ 63))
  else Int64.ofInt (min (magnitude : Int) (2 ^ 63 - 1))

def columnInt64 : Value → Int64
  | .null => 0
  | .integer number => number
  | .text bytes => textInteger bytes

/-- A column read as a 32-bit integer keeps the low bits. -/
def columnInt (value : Value) : Int32 := (columnInt64 value).toInt32

/-- `copy_text_col` into a zeroed field. -/
def copyTextCol {last : Nat} (value : Value) : CharArray (last + 1) :=
  CharArray.copy ((columnText value).getD [])

def columnAt (row : Row) (index : Nat) : Value := row.getD index .null

/-! ### Agents -/

def agentFields : List String :=
  ["id", "name", "type", "version", "status", "config_path", "created_at",
    "updated_at", "priority", "tags"]

def bindAgentRecord (record : AgentRecord) : Row :=
  [.text record.id.text, .text record.name.text, .text record.type.text,
    .text record.version.text, .text record.status.text,
    .text record.configPath.text, .integer record.createdAt.toInt64,
    .integer record.updatedAt.toInt64, .integer record.priority.toInt64,
    .text record.tags.text]

def bindAgentUpdate (record : AgentRecord) : Row :=
  [.text record.name.text, .text record.type.text, .text record.version.text,
    .text record.status.text, .text record.configPath.text,
    .integer record.updatedAt.toInt64, .integer record.priority.toInt64,
    .text record.tags.text, .text record.id.text]

def extractAgentRow (row : Row) : AgentRecord where
  id := copyTextCol (columnAt row 0)
  name := copyTextCol (columnAt row 1)
  type := copyTextCol (columnAt row 2)
  version := copyTextCol (columnAt row 3)
  status := copyTextCol (columnAt row 4)
  configPath := copyTextCol (columnAt row 5)
  createdAt := (columnInt64 (columnAt row 6)).toUInt64
  updatedAt := (columnInt64 (columnAt row 7)).toUInt64
  priority := columnInt (columnAt row 8)
  tags := copyTextCol (columnAt row 9)

def registryBindId (id : Bytes) : Row := [.text id]

def insertAgent : Statement := .insert "agents" agentFields

def selectAgent : Statement := .select agentFields "agents" ["id"] none

def updateAgent : Statement :=
  .update "agents"
    ["name", "type", "version", "status", "config_path", "updated_at",
      "priority", "tags"] "id"

def deleteAgent : Statement := .delete "agents" "id"

def queryAgents (byType byStatus : Bool) : Statement :=
  .select agentFields "agents"
    ((if byType then ["type"] else []) ++ if byStatus then ["status"] else [])
    none

def addRecord {Record : Type} (recId : Record → Bytes) (statement : Statement)
    (bind : Record → Row) (calls : ExecCalls) (record : Option Record)
    (registry : SqlRegistry) : SqlRegistry × HeapstoreError :=
  match record with
  | none => (registry, .errInvalidParam)
  | some record =>
      if recId record = [] then (registry, .errInvalidParam)
      else sqlExecLocked calls statement (bind record) registry

def getRecord {Record : Type} (statement : Statement) (extract : Row → Record)
    (calls : ExecCalls) (id : Option Bytes) (out : Bool)
    (registry : SqlRegistry) : HeapstoreError × Option Record :=
  match id with
  | none => (.errInvalidParam, none)
  | some id =>
      if out = false then (.errInvalidParam, none)
      else registryQueryOne calls statement (registryBindId id) extract registry

def deleteRecord (statement : Statement) (calls : ExecCalls)
    (id : Option Bytes) (registry : SqlRegistry) :
    SqlRegistry × HeapstoreError :=
  match id with
  | none => (registry, .errInvalidParam)
  | some id => sqlExecLocked calls statement (registryBindId id) registry

/-- The shape of the batch functions: no id is checked. -/
def batchRecords {Record : Type} (statement : Statement) (bind : Record → Row)
    (calls : BatchCalls) (records : Option (List Record))
    (registry : SqlRegistry) : SqlRegistry × HeapstoreError :=
  match records with
  | none => (registry, .errInvalidParam)
  | some records =>
      if records = [] then (registry, .errInvalidParam)
      else batchExecLocked calls statement bind records registry

def agentId (record : AgentRecord) : Bytes := record.id.text

def registryAddAgent := addRecord agentId insertAgent bindAgentRecord
def registryGetAgent := getRecord selectAgent extractAgentRow
def registryUpdateAgent := addRecord agentId updateAgent bindAgentUpdate
def registryDeleteAgent := deleteRecord deleteAgent
def registryBatchInsertAgents := batchRecords insertAgent bindAgentRecord

/-! ### Skills -/

def skillFields : List String :=
  ["id", "name", "version", "library_path", "manifest_path", "installed_at"]

def bindSkillRow (record : SkillRecord) : Row :=
  [.text record.id.text, .text record.name.text, .text record.version.text,
    .text record.libraryPath.text, .text record.manifestPath.text,
    .integer record.installedAt.toInt64]

def extractSkillRow (row : Row) : SkillRecord where
  id := copyTextCol (columnAt row 0)
  name := copyTextCol (columnAt row 1)
  version := copyTextCol (columnAt row 2)
  libraryPath := copyTextCol (columnAt row 3)
  manifestPath := copyTextCol (columnAt row 4)
  installedAt := (columnInt64 (columnAt row 5)).toUInt64

def insertSkill : Statement := .insert "skills" skillFields

def selectSkill : Statement := .select skillFields "skills" ["id"] none

def deleteSkill : Statement := .delete "skills" "id"

def querySkills : Statement :=
  .select skillFields "skills" [] (some "installed_at")

def skillId (record : SkillRecord) : Bytes := record.id.text

def registryAddSkill := addRecord skillId insertSkill bindSkillRow
def registryGetSkill := getRecord selectSkill extractSkillRow
def registryDeleteSkill := deleteRecord deleteSkill
def registryBatchInsertSkills := batchRecords insertSkill bindSkillRow

/-! ### Sessions -/

def sessionFields : List String :=
  ["id", "user_id", "created_at", "last_active_at", "ttl_seconds", "status",
    "metadata"]

def bindSessionRow (record : SessionRecord) : Row :=
  [.text record.id.text, .text record.userId.text,
    .integer record.createdAt.toInt64, .integer record.lastActiveAt.toInt64,
    .integer record.ttlSeconds.toInt32.toInt64, .text record.status.text,
    .text record.metadata.text]

def bindSessionUpdate (record : SessionRecord) : Row :=
  [.text record.userId.text, .integer record.lastActiveAt.toInt64,
    .integer record.ttlSeconds.toInt32.toInt64, .text record.status.text,
    .text record.metadata.text, .text record.id.text]

def extractSessionRow (row : Row) : SessionRecord where
  id := copyTextCol (columnAt row 0)
  userId := copyTextCol (columnAt row 1)
  createdAt := (columnInt64 (columnAt row 2)).toUInt64
  lastActiveAt := (columnInt64 (columnAt row 3)).toUInt64
  ttlSeconds := (columnInt (columnAt row 4)).toUInt32
  status := copyTextCol (columnAt row 5)
  metadata := copyTextCol (columnAt row 6)

def insertSession : Statement := .insert "sessions" sessionFields

def selectSession : Statement := .select sessionFields "sessions" ["id"] none

def updateSession : Statement :=
  .update "sessions"
    ["user_id", "last_active_at", "ttl_seconds", "status", "metadata"] "id"

def deleteSession : Statement := .delete "sessions" "id"

def querySessions (byStatus : Bool) : Statement :=
  .select sessionFields "sessions" (if byStatus then ["status"] else [])
    (some "last_active_at")

def sessionId (record : SessionRecord) : Bytes := record.id.text

def registryAddSession := addRecord sessionId insertSession bindSessionRow
def registryGetSession := getRecord selectSession extractSessionRow
def registryUpdateSession := addRecord sessionId updateSession bindSessionUpdate
def registryDeleteSession := deleteRecord deleteSession
def hsBatchInsertSessions := batchRecords insertSession bindSessionRow

def registryStatements : List Statement :=
  [insertAgent, selectAgent, updateAgent, deleteAgent,
    queryAgents false false, queryAgents true false, queryAgents false true,
    queryAgents true true, insertSkill, selectSkill, deleteSkill, querySkills,
    insertSession, selectSession, updateSession, deleteSession,
    querySessions false, querySessions true]

theorem registryInit_success {configuredRoot dataDir : Option Bytes}
    {opened : Bytes → Option Database} {succeeds : Nat → Bool}
    {registry : SqlRegistry}
    (succeeded :
      (registryInit configuredRoot dataDir opened succeeds registry).2 =
        .success) :
    (registryInit configuredRoot dataDir opened succeeds registry).1.initialized =
      true := by
  unfold registryInit at succeeded ⊢
  by_cases running : registry.initialized = true
  · rw [if_pos running]
    exact running
  · simp only [if_neg running] at succeeded ⊢
    split at succeeded
    · cases succeeded
    · next database openedHere =>
        by_cases created : (initDatabase succeeds database).2 = .success
        · rw [if_pos created]
        · rw [if_neg created] at succeeded
          exact absurd succeeded created

/-! ### What a session check can do -/

section Sessions

variable {registry : SqlRegistry} {connection : Connection}

theorem sessionBegin_ok {prepare : Bool} {statement : Statement}
    (session : sessionBegin prepare statement registry = .ok connection) :
    registry.db = some connection ∧ registry.initialized = true ∧
      prepare = true ∧ statement.Resolves connection.visible := by
  unfold sessionBegin at session
  cases opened : registry.db with
  | none => simp [opened] at session
  | some other =>
      cases ready : registry.initialized with
      | false => simp [opened, ready] at session
      | true =>
          by_cases prepared : prepare = true ∧ statement.Resolves other.visible
          · simp only [opened, ready, Bool.true_eq_false, if_false] at session
            rw [if_pos prepared] at session
            cases session
            exact ⟨rfl, rfl, prepared⟩
          · simp only [opened, ready, Bool.true_eq_false, if_false] at session
            rw [if_neg prepared] at session
            cases session

theorem sessionBegin_of_opened {prepare : Bool} {statement : Statement}
    (opened : registry.db = some connection)
    (ready : registry.initialized = true) (prepared : prepare = true)
    (resolves : statement.Resolves connection.visible) :
    sessionBegin prepare statement registry = .ok connection := by
  unfold sessionBegin
  simp only [opened, ready, Bool.true_eq_false, if_false]
  rw [if_pos ⟨prepared, resolves⟩]

theorem sessionBegin_error_ne {prepare : Bool} {statement : Statement}
    {error : HeapstoreError}
    (session : sessionBegin prepare statement registry = .error error) :
    error ≠ .success := by
  unfold sessionBegin at session
  repeat' split at session
  all_goals cases session
  all_goals exact nofun

end Sessions

end Heapstore.RegistrySqlite
