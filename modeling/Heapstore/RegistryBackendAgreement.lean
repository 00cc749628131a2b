/-
Both registry backends, driven by the same single-record calls.

The SQLite tables are compared with the maps that the in-memory backend
refines.  An update or delete that matches no row is a success of the engine,
and an update does not write the creation time; the guard of a run excludes
both.
-/

import Heapstore.RegistrySqliteRecords

namespace Heapstore.RegistryBackendAgreement

open ByteText SqlTable SqlConnection RegistrySqlite
open RegistryMemory (RecordMap mapAdd mapGet mapUpdate mapDelete)

/-! ### One call against one map operation -/

section Calls

variable {Record : Type} {shape : SqlShape Record} {registry : SqlRegistry}
  {connection : Connection} {map : RecordMap Record}

structure Opened (registry : SqlRegistry) (connection : Connection) : Prop where
  opened : registry.db = some connection
  initialized : registry.initialized = true

theorem Opened.begin_ {statement : Statement}
    (open_ : Opened registry connection)
    (resolves : statement.Resolves connection.visible) :
    sessionBegin ExecCalls.ok.prepare statement registry = .ok connection :=
  sessionBegin_of_opened open_.opened open_.initialized rfl resolves

def stored (registry : SqlRegistry) (connection : Connection)
    (database : Database) : SqlRegistry :=
  { registry with db := some (connection.store database) }

theorem Opened.stored_visible (open_ : Opened registry connection) :
    stored registry connection connection.visible = registry := by
  unfold stored
  rw [Connection.store_visible, ← open_.opened]

theorem sqlExecLocked_done {statement : Statement} {values : Row}
    {database : Database} (open_ : Opened registry connection)
    (resolves : statement.Resolves connection.visible)
    (executed : statement.execute values connection.visible =
      some (database, [])) :
    sqlExecLocked .ok statement values registry =
      (stored registry connection database, .success) := by
  unfold sqlExecLocked
  rw [open_.begin_ resolves]
  change (_, _) = _
  rw [show ExecCalls.ok.step = true from rfl, Connection.step_done executed]
  rfl

theorem sqlExecLocked_rejected {statement : Statement} {values : Row}
    (open_ : Opened registry connection)
    (resolves : statement.Resolves connection.visible)
    (rejected : statement.execute values connection.visible = none) :
    sqlExecLocked .ok statement values registry =
      (registry, .errDbQueryFailed) := by
  unfold sqlExecLocked
  rw [open_.begin_ resolves]
  change (_, _) = _
  rw [Connection.step_none rejected, ← open_.opened]
  rfl

/-- A call left the tables holding the expected map, touched no other table and
succeeds exactly where it is expected to. -/
def Outcome (shape : SqlShape Record) (registry : SqlRegistry)
    (connection : Connection) (result : SqlRegistry × HeapstoreError)
    (expected : RecordMap Record × HeapstoreError) : Prop :=
  ∃ database, result.1 = stored registry connection database ∧
    Stores shape database expected.1 ∧
    (∀ other, other ≠ shape.table →
      database other = connection.visible other) ∧
    (expected.2 = .success ↔ result.2 = .success)

theorem Outcome.rejected {error expected : HeapstoreError}
    (open_ : Opened registry connection)
    (stores : Stores shape connection.visible map)
    (failed : error ≠ .success) (alsoFailed : expected ≠ .success) :
    Outcome shape registry connection (registry, error) (map, expected) :=
  ⟨connection.visible, open_.stored_visible.symm, stores, fun _ _ => rfl,
    ⟨fun succeeded => absurd succeeded alsoFailed,
      fun succeeded => absurd succeeded failed⟩⟩

theorem Outcome.written {table : Table} {next : RecordMap Record}
    (stores : Stores shape
      (Function.update connection.visible shape.table (some table)) next) :
    Outcome shape registry connection
      (stored registry connection
        (Function.update connection.visible shape.table (some table)), .success)
      (next, .success) :=
  ⟨_, rfl, stores, fun _ different => Function.update_of_ne different _ _,
    ⟨fun _ => rfl, fun _ => rfl⟩⟩

theorem addRecord_outcome (open_ : Opened registry connection)
    (stores : Stores shape connection.visible map) (record : Option Record) :
    Outcome shape registry connection
      (addRecord shape.recId shape.insert shape.bind .ok record registry)
      (mapAdd shape.recId .ok record map) := by
  cases record with
  | none => exact .rejected open_ stores nofun nofun
  | some record =>
      unfold addRecord mapAdd
      by_cases unnamed : shape.recId record = []
      · simp only [if_pos unnamed]
        exact .rejected open_ stores nofun nofun
      · simp only [if_neg unnamed]
        by_cases absent : map (shape.recId record) = none
        · obtain ⟨table, executed, next⟩ := stores.insert absent
          rw [sqlExecLocked_done open_ stores.resolves_insert executed,
            if_neg (not_not_intro absent), if_pos trivial]
          exact .written next
        · rw [sqlExecLocked_rejected open_ stores.resolves_insert
            (stores.insert_rejected absent), if_pos absent]
          exact .rejected open_ stores nofun nofun

theorem getRecord_eq (open_ : Opened registry connection)
    (stores : Stores shape connection.visible map) (id : Option Bytes)
    (out : Bool) :
    getRecord shape.select shape.extract .ok id out registry =
      mapGet id out map := by
  cases id with
  | none => rfl
  | some id =>
      cases out with
      | false => rfl
      | true =>
          obtain ⟨rows, executed, first⟩ := stores.select id
          simp only [getRecord, mapGet, registryQueryOne,
            open_.begin_ stores.resolves_select, Bool.true_eq_false, if_false]
          unfold Connection.step
          rw [executed]
          cases found : map id with
          | none =>
              rw [found] at first
              cases List.head?_eq_none_iff.mp first
              rfl
          | some record =>
              rw [found] at first
              obtain ⟨rest, rfl⟩ := List.head?_eq_some_iff.mp first
              change (HeapstoreError.success, some (shape.extract _)) = _
              rw [shape.extract_bind]
              rfl

/-- An update agrees where it names a stored record and carries over what it
does not write. -/
theorem updateRecord_outcome (update : UpdateShape shape)
    (open_ : Opened registry connection)
    (stores : Stores shape connection.visible map) (record : Option Record)
    (carries : ∀ new, record = some new → shape.recId new ≠ [] →
      ∃ old, map (shape.recId new) = some old ∧ update.merge new old = new) :
    Outcome shape registry connection
      (addRecord shape.recId update.update update.bindUpdate .ok record registry)
      (mapUpdate shape.recId record map) := by
  cases record with
  | none => exact .rejected open_ stores nofun nofun
  | some record =>
      unfold addRecord mapUpdate
      by_cases unnamed : shape.recId record = []
      · simp only [if_pos unnamed]
        exact .rejected open_ stores nofun nofun
      · obtain ⟨old, present, merged⟩ := carries record rfl unnamed
        obtain ⟨table, executed, next⟩ := stores.update update record
        rw [present, Option.map_some, merged] at next
        simp only [if_neg unnamed, present, reduceCtorEq, if_false]
        rw [sqlExecLocked_done open_ (stores.resolves_update update) executed]
        exact .written next

theorem deleteRecord_outcome (open_ : Opened registry connection)
    (stores : Stores shape connection.visible map) (id : Option Bytes)
    (present : ∀ wanted, id = some wanted → map wanted ≠ none) :
    Outcome shape registry connection
      (deleteRecord shape.delete .ok id registry) (mapDelete id map) := by
  cases id with
  | none => exact .rejected open_ stores nofun nofun
  | some id =>
      obtain ⟨table, executed, next⟩ := stores.delete id
      unfold deleteRecord mapDelete
      simp only [if_neg (present id rfl)]
      rw [sqlExecLocked_done open_ stores.resolves_delete executed]
      exact .written next

theorem Stores.of_same {before after : Database}
    (stores : Stores shape before map)
    (same : after shape.table = before shape.table) :
    Stores shape after map := by
  obtain ⟨table, records, present, rest⟩ := stores
  exact ⟨table, records, same.trans present, rest⟩

end Calls

/-! ### Runs of both backends -/

inductive RegistryCall where
  | addAgent (record : Option AgentRecord)
  | getAgent (id : Option Bytes) (out : Bool)
  | updateAgent (record : Option AgentRecord)
  | deleteAgent (id : Option Bytes)
  | addSkill (record : Option SkillRecord)
  | getSkill (id : Option Bytes) (out : Bool)
  | deleteSkill (id : Option Bytes)
  | addSession (record : Option SessionRecord)
  | getSession (id : Option Bytes) (out : Bool)
  | updateSession (record : Option SessionRecord)
  | deleteSession (id : Option Bytes)
  deriving DecidableEq

open RegistryMemory (RegistryAnswer RegistryMaps RegistryDb)

def RegistryCall.inMemory : RegistryCall → RegistryMemory.RegistryCall
  | .addAgent record => .addAgent .ok record
  | .getAgent id out => .getAgent id out
  | .updateAgent record => .updateAgent record
  | .deleteAgent id => .deleteAgent id
  | .addSkill record => .addSkill .ok record
  | .getSkill id out => .getSkill id out
  | .deleteSkill id => .deleteSkill id
  | .addSession record => .addSession .ok record
  | .getSession id out => .getSession id out
  | .updateSession record => .updateSession record
  | .deleteSession id => .deleteSession id

def memoryStep (db : RegistryDb) (call : RegistryCall) :
    RegistryDb × RegistryAnswer :=
  RegistryMemory.registryStep db call.inMemory

private def coded (result : SqlRegistry × HeapstoreError) :
    SqlRegistry × RegistryAnswer :=
  (result.1, .code result.2)

def sqliteStep (registry : SqlRegistry) :
    RegistryCall → SqlRegistry × RegistryAnswer
  | .addAgent record => coded (registryAddAgent .ok record registry)
  | .getAgent id out => (registry, .agent (registryGetAgent .ok id out registry))
  | .updateAgent record => coded (registryUpdateAgent .ok record registry)
  | .deleteAgent id => coded (registryDeleteAgent .ok id registry)
  | .addSkill record => coded (registryAddSkill .ok record registry)
  | .getSkill id out => (registry, .skill (registryGetSkill .ok id out registry))
  | .deleteSkill id => coded (registryDeleteSkill .ok id registry)
  | .addSession record => coded (registryAddSession .ok record registry)
  | .getSession id out =>
      (registry, .session (registryGetSession .ok id out registry))
  | .updateSession record => coded (registryUpdateSession .ok record registry)
  | .deleteSession id => coded (registryDeleteSession .ok id registry)

/-- Both succeed or both fail, and a success carries the same record. -/
def Agree (inMemory sqlite : RegistryAnswer) : Prop :=
  (inMemory.error = .success ↔ sqlite.error = .success) ∧
    (inMemory.error = .success → inMemory = sqlite)

open RegistryMemory (findNodeById agentDomain skillDomain sessionDomain) in
/-- The calls on which the backends agree: an update names a stored record and
carries its creation time, a delete names a stored record. -/
def Carries (db : RegistryDb) : RegistryCall → Prop
  | .updateAgent (some record) => record.id.text ≠ [] →
      ∃ old, findNodeById agentDomain db.agents record.id.text = some old ∧
        old.createdAt = record.createdAt
  | .deleteAgent (some id) => findNodeById agentDomain db.agents id ≠ none
  | .deleteSkill (some id) => findNodeById skillDomain db.skills id ≠ none
  | .updateSession (some record) => record.id.text ≠ [] →
      ∃ old, findNodeById sessionDomain db.sessions record.id.text = some old ∧
        old.createdAt = record.createdAt
  | .deleteSession (some id) => findNodeById sessionDomain db.sessions id ≠ none
  | _ => True

structure HoldsOn (database : Database) (maps : RegistryMaps) : Prop where
  agents : Stores agentShape database maps.agents
  skills : Stores skillShape database maps.skills
  sessions : Stores sessionShape database maps.sessions

def Related (db : RegistryDb) (registry : SqlRegistry) : Prop :=
  ∃ maps connection, RegistryMemory.Refines db maps ∧
    Opened registry connection ∧ HoldsOn connection.visible maps

section Steps

variable {registry : SqlRegistry} {connection : Connection}
  {maps : RegistryMaps}

private def Reaches (result : SqlRegistry × RegistryAnswer)
    (expected : RegistryMaps × RegistryAnswer) : Prop :=
  (∃ connection, Opened result.1 connection ∧
    HoldsOn connection.visible expected.1) ∧ Agree expected.2 result.2

private theorem agree_of_codes {expected actual : HeapstoreError}
    (same : expected = .success ↔ actual = .success) :
    Agree (.code expected) (.code actual) := by
  refine ⟨same, ?_⟩
  intro (succeeded : expected = .success)
  rw [succeeded, same.mp succeeded]

private theorem agree_refl (answer : RegistryAnswer) : Agree answer answer :=
  ⟨Iff.rfl, fun _ => rfl⟩

private theorem reaches_agents {result : SqlRegistry × HeapstoreError}
    {expected : RecordMap AgentRecord × HeapstoreError}
    (open_ : Opened registry connection)
    (holds : HoldsOn connection.visible maps)
    (outcome : Outcome agentShape registry connection result expected) :
    Reaches (coded result) (maps.onAgents expected) := by
  obtain ⟨database, reached, stores, others, codes⟩ := outcome
  refine ⟨⟨connection.store database, ?_, ?_⟩, agree_of_codes codes⟩
  · constructor
    · exact congrArg SqlRegistry.db reached
    · exact (congrArg SqlRegistry.initialized reached).trans open_.initialized
  · rw [Connection.visible_store]
    exact ⟨stores, holds.skills.of_same (others "skills" (by decide)),
      holds.sessions.of_same (others "sessions" (by decide))⟩

private theorem reaches_skills {result : SqlRegistry × HeapstoreError}
    {expected : RecordMap SkillRecord × HeapstoreError}
    (open_ : Opened registry connection)
    (holds : HoldsOn connection.visible maps)
    (outcome : Outcome skillShape registry connection result expected) :
    Reaches (coded result) (maps.onSkills expected) := by
  obtain ⟨database, reached, stores, others, codes⟩ := outcome
  refine ⟨⟨connection.store database, ?_, ?_⟩, agree_of_codes codes⟩
  · constructor
    · exact congrArg SqlRegistry.db reached
    · exact (congrArg SqlRegistry.initialized reached).trans open_.initialized
  · rw [Connection.visible_store]
    exact ⟨holds.agents.of_same (others "agents" (by decide)), stores,
      holds.sessions.of_same (others "sessions" (by decide))⟩

private theorem reaches_sessions {result : SqlRegistry × HeapstoreError}
    {expected : RecordMap SessionRecord × HeapstoreError}
    (open_ : Opened registry connection)
    (holds : HoldsOn connection.visible maps)
    (outcome : Outcome sessionShape registry connection result expected) :
    Reaches (coded result) (maps.onSessions expected) := by
  obtain ⟨database, reached, stores, others, codes⟩ := outcome
  refine ⟨⟨connection.store database, ?_, ?_⟩, agree_of_codes codes⟩
  · constructor
    · exact congrArg SqlRegistry.db reached
    · exact (congrArg SqlRegistry.initialized reached).trans open_.initialized
  · rw [Connection.visible_store]
    exact ⟨holds.agents.of_same (others "agents" (by decide)),
      holds.skills.of_same (others "skills" (by decide)), stores⟩

private theorem agent_carries {db : RegistryDb}
    (same : RegistryMemory.Represents RegistryMemory.agentDomain db maps.agents)
    {record : Option AgentRecord}
    (carries : Carries db (.updateAgent record)) :
    ∀ new, record = some new → agentShape.recId new ≠ [] →
      ∃ old, maps.agents (agentShape.recId new) = some old ∧
        agentUpdate.merge new old = new := by
  rintro new rfl named
  obtain ⟨old, found, created⟩ := carries named
  refine ⟨old, (same.find _).symm.trans found, ?_⟩
  have sameText : old.id.text = new.id.text :=
    KeyedList.key_of_lookup RegistryMemory.agentDomain.recId found
  have sameId : old.id = new.id := CharArray.ext sameText
  change { new with id := old.id, createdAt := old.createdAt } = new
  rw [sameId, created]

private theorem session_carries {db : RegistryDb}
    (same : RegistryMemory.Represents RegistryMemory.sessionDomain db
      maps.sessions)
    {record : Option SessionRecord}
    (carries : Carries db (.updateSession record)) :
    ∀ new, record = some new → sessionShape.recId new ≠ [] →
      ∃ old, maps.sessions (sessionShape.recId new) = some old ∧
        sessionUpdate.merge new old = new := by
  rintro new rfl named
  obtain ⟨old, found, created⟩ := carries named
  refine ⟨old, (same.find _).symm.trans found, ?_⟩
  have sameText : old.id.text = new.id.text :=
    KeyedList.key_of_lookup RegistryMemory.sessionDomain.recId found
  have sameId : old.id = new.id := CharArray.ext sameText
  change { new with id := old.id, createdAt := old.createdAt } = new
  rw [sameId, created]

theorem sqliteStep_reaches {db : RegistryDb} (call : RegistryCall)
    (same : RegistryMemory.Refines db maps)
    (open_ : Opened registry connection)
    (holds : HoldsOn connection.visible maps) (carries : Carries db call) :
    Reaches (sqliteStep registry call)
      (RegistryMemory.mapsStep maps call.inMemory) := by
  cases call with
  | addAgent record =>
      exact reaches_agents open_ holds
        (addRecord_outcome open_ holds.agents record)
  | getAgent id out =>
      have read := getRecord_eq open_ holds.agents id out
      refine ⟨⟨connection, open_, holds⟩, ?_⟩
      change Agree (.agent (mapGet id out maps.agents)) (.agent _)
      rw [← read]
      exact agree_refl _
  | updateAgent record =>
      exact reaches_agents open_ holds (updateRecord_outcome agentUpdate open_
        holds.agents record (agent_carries same.agents carries))
  | deleteAgent id =>
      refine reaches_agents open_ holds
        (deleteRecord_outcome open_ holds.agents id ?_)
      rintro wanted rfl
      rw [← same.agents.find]
      exact carries
  | addSkill record =>
      exact reaches_skills open_ holds
        (addRecord_outcome open_ holds.skills record)
  | getSkill id out =>
      have read := getRecord_eq open_ holds.skills id out
      refine ⟨⟨connection, open_, holds⟩, ?_⟩
      change Agree (.skill (mapGet id out maps.skills)) (.skill _)
      rw [← read]
      exact agree_refl _
  | deleteSkill id =>
      refine reaches_skills open_ holds
        (deleteRecord_outcome open_ holds.skills id ?_)
      rintro wanted rfl
      rw [← same.skills.find]
      exact carries
  | addSession record =>
      exact reaches_sessions open_ holds
        (addRecord_outcome open_ holds.sessions record)
  | getSession id out =>
      have read := getRecord_eq open_ holds.sessions id out
      refine ⟨⟨connection, open_, holds⟩, ?_⟩
      change Agree (.session (mapGet id out maps.sessions)) (.session _)
      rw [← read]
      exact agree_refl _
  | updateSession record =>
      exact reaches_sessions open_ holds (updateRecord_outcome sessionUpdate
        open_ holds.sessions record (session_carries same.sessions carries))
  | deleteSession id =>
      refine reaches_sessions open_ holds
        (deleteRecord_outcome open_ holds.sessions id ?_)
      rintro wanted rfl
      rw [← same.sessions.find]
      exact carries

theorem backends_step (db : RegistryDb) (registry : SqlRegistry)
    (call : RegistryCall) (related : Related db registry)
    (carries : Carries db call) :
    Related (memoryStep db call).1 (sqliteStep registry call).1 ∧
      Agree (memoryStep db call).2 (sqliteStep registry call).2 := by
  obtain ⟨maps, connection, same, open_, holds⟩ := related
  obtain ⟨refines, answer⟩ :=
    RegistryMemory.registryStep_refines same call.inMemory
  obtain ⟨⟨next, nextOpen, nextHolds⟩, agree⟩ :=
    sqliteStep_reaches call same open_ holds carries
  refine ⟨⟨_, next, refines, nextOpen, nextHolds⟩, ?_⟩
  unfold memoryStep
  rw [answer]
  exact agree

end Steps

/-! ### Agreement over runs -/

/-- Both backends right after initialization, SQLite on a new database file. -/
def memoryStart (db : RegistryDb) : RegistryDb :=
  (RegistryMemory.registryInit db).1

def sqliteStart (configuredRoot dataDir : Option Bytes) : SqlRegistry :=
  (registryInit configuredRoot dataDir (fun _ => some fun _ => none)
    (fun _ => true) clearedRegistry).1

theorem related_start (db : RegistryDb) (configuredRoot dataDir : Option Bytes) :
    Related (memoryStart db) (sqliteStart configuredRoot dataDir) := by
  refine ⟨RegistryMemory.emptyMaps, _,
    RegistryMemory.registryInit_refines db, ⟨rfl, rfl⟩, ?_⟩
  constructor
  · exact ⟨Table.empty agentColumns, [], rfl, rfl, rfl, List.nodup_nil, rfl⟩
  · exact ⟨Table.empty skillColumns, [], rfl, rfl, rfl, List.nodup_nil, rfl⟩
  · exact ⟨Table.empty sessionColumns, [], rfl, rfl, rfl, List.nodup_nil, rfl⟩

/-- From empty backends every guarded run gets agreeing answers, call by call. -/
theorem backends_agree_on_guarded_runs (db : RegistryDb)
    (configuredRoot dataDir : Option Bytes) (calls : List RegistryCall)
    (guarded :
      OperationRun.Meets memoryStep Carries (memoryStart db) calls) :
    List.Forall₂ Agree
      (OperationRun.answers memoryStep (memoryStart db) calls)
      (OperationRun.answers sqliteStep (sqliteStart configuredRoot dataDir)
        calls) :=
  (OperationRun.guarded_simulation memoryStep sqliteStep Carries Related Agree
    (fun db registry call related carries =>
      backends_step db registry call related carries)
    (memoryStart db) (sqliteStart configuredRoot dataDir) calls
    (related_start db configuredRoot dataDir) guarded).2

theorem backends_agree_on_guarded_runs_agent :
    List.Forall₂ Agree
      (OperationRun.answers memoryStep
        (memoryStart RegistryMemory.clearedRegistry)
        [.addAgent (some (agentNamed "a")),
          .updateAgent (some (agentNamed "a")), .deleteAgent (some [97])])
      (OperationRun.answers sqliteStep (sqliteStart none none)
        [.addAgent (some (agentNamed "a")),
          .updateAgent (some (agentNamed "a")), .deleteAgent (some [97])]) :=
  backends_agree_on_guarded_runs _ _ _ _
    ⟨trivial, fun _ => ⟨agentNamed "a", rfl, rfl⟩, by
      change RegistryMemory.findNodeById _ _ _ ≠ none
      decide, trivial⟩

/-- Deleting an agent that was never stored: SQLite reports success. -/
theorem backends_disagree_on_absent_delete :
    ¬∀ calls : List RegistryCall, List.Forall₂ Agree
      (OperationRun.answers memoryStep
        (memoryStart RegistryMemory.clearedRegistry) calls)
      (OperationRun.answers sqliteStep (sqliteStart none none) calls) := by
  intro always
  have agree := always [.deleteAgent (some (ofString "ghost"))]
  have absent : OperationRun.answers memoryStep
      (memoryStart RegistryMemory.clearedRegistry)
      [.deleteAgent (some (ofString "ghost"))] = [.code .errNotFound] := by
    decide
  have deleted : OperationRun.answers sqliteStep (sqliteStart none none)
      [.deleteAgent (some (ofString "ghost"))] = [.code .success] := by
    decide
  rw [absent, deleted] at agree
  cases agree with
  | cons first _ => cases first.1.mpr rfl

end Heapstore.RegistryBackendAgreement
