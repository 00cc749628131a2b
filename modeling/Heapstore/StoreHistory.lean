/-
What the store keeps, over its whole life.

A store is started, stopped and started again, its process may end at any
moment, and every engine call of a registry operation may fail.  The model of
that life is three maps of committed records, the maps of a transaction that
was left open, and the buffered spans; the contract says what each call may
answer and what it leaves.
-/

import Heapstore.CoreLifecycle
import Heapstore.Foundation.Contract
import Heapstore.RegistryBackendAgreement
import Heapstore.TraceQueries

namespace Heapstore.Durability

open ByteText CivilTime SqlConnection OperationRun
open RegistrySqlite RegistryBackendAgreement Trace Circuit
open Heapstore.Core
open RegistryMemory (RecordMap mapGet)

/-! ### The three kinds of records -/

inductive RecordKind where
  | agent
  | skill
  | session
  deriving DecidableEq

abbrev RecordKind.Record : RecordKind → Type
  | .agent => AgentRecord
  | .skill => SkillRecord
  | .session => SessionRecord

def RecordKind.shape : (kind : RecordKind) → SqlShape kind.Record
  | .agent => agentShape
  | .skill => skillShape
  | .session => sessionShape

def RecordKind.add : (kind : RecordKind) → ExecCalls → Option kind.Record →
    SqlRegistry → SqlRegistry × HeapstoreError
  | .agent => registryAddAgent
  | .skill => registryAddSkill
  | .session => registryAddSession

def RecordKind.batchInsert : (kind : RecordKind) → BatchCalls →
    Option (List kind.Record) → SqlRegistry → SqlRegistry × HeapstoreError
  | .agent => registryBatchInsertAgents
  | .skill => registryBatchInsertSkills
  | .session => hsBatchInsertSessions

def RecordKind.get : (kind : RecordKind) → ExecCalls → Option Bytes → Bool →
    SqlRegistry → HeapstoreError × Option kind.Record
  | .agent => registryGetAgent
  | .skill => registryGetSkill
  | .session => registryGetSession

/-- A skill cannot be updated. -/
def RecordKind.updatable : RecordKind → Bool
  | .skill => false
  | _ => true

def RecordKind.update : (kind : RecordKind) → kind.updatable = true →
    ExecCalls → Option kind.Record → SqlRegistry → SqlRegistry × HeapstoreError
  | .agent, _ => registryUpdateAgent
  | .session, _ => registryUpdateSession

def RecordKind.updateShape : (kind : RecordKind) → kind.updatable = true →
    UpdateShape kind.shape
  | .agent, _ => agentUpdate
  | .session, _ => sessionUpdate

def RecordKind.delete : RecordKind → ExecCalls → Option Bytes → SqlRegistry →
    SqlRegistry × HeapstoreError
  | .agent => registryDeleteAgent
  | .skill => registryDeleteSkill
  | .session => registryDeleteSession

/-! ### Calls of a process -/

inductive RecordCall (kind : RecordKind) where
  | add (calls : ExecCalls) (record : Option kind.Record)
  | batchInsert (calls : BatchCalls) (records : Option (List kind.Record))
  | get (calls : ExecCalls) (id : Option Bytes) (out : Bool)
  | update (able : kind.updatable = true) (calls : ExecCalls)
      (record : Option kind.Record)
  | delete (calls : ExecCalls) (id : Option Bytes)

abbrev RecordAnswer (kind : RecordKind) := HeapstoreError × Option kind.Record

section Records

variable {kind : RecordKind}

def coded {State : Type} (result : State × HeapstoreError) :
    State × RecordAnswer kind :=
  (result.1, result.2, none)

def RecordCall.run (registry : SqlRegistry) :
    RecordCall kind → SqlRegistry × RecordAnswer kind
  | .add calls record => coded (kind.add calls record registry)
  | .batchInsert calls records => coded (kind.batchInsert calls records registry)
  | .get calls id out => (registry, kind.get calls id out registry)
  | .update able calls record => coded (kind.update able calls record registry)
  | .delete calls id => coded (kind.delete calls id registry)

end Records

inductive ServiceCall where
  | start (manager : Option HeapstoreConfig) (calls : InitCalls)
  | stop
  | exit
  | reload (manager : Option HeapstoreConfig) (calls : ArmCalls)
  | record (kind : RecordKind) (call : RecordCall kind)
  | buffer (call : BufferCall)

inductive ServiceAnswer where
  | code (error : HeapstoreError)
  | record (kind : RecordKind) (answer : RecordAnswer kind)
  | spans (result : QueryResult)

/-- The code that comes with an answer. -/
def answerError : ServiceAnswer → HeapstoreError
  | .code error => error
  | .record _ answer => answer.1
  | .spans result => result.error

/-- The database file has the committed tables. -/
def filed (process : Process) : Process :=
  match process.registry.db with
  | none => process
  | some connection =>
      { process with
          disk := process.disk.write process.registry.dbPath
            (.database connection.committed) }

/-- The process ends, and a new one finds its files. -/
def respawned (process : Process) : Process :=
  let fresh := freshProcess process.disk
  { fresh with trace := { fresh.trace with files := process.trace.files } }

def bufferAnswer (clock : LocalClock) (state : TraceState)
    (call : BufferCall) : ServiceAnswer :=
  match call with
  | .queryByTrace calls traceId outs =>
      .spans (traceQueryByTrace calls traceId outs state)
  | .queryByTimeRange calls startTime endTime outs =>
      .spans (traceQueryByTimeRange calls startTime endTime outs state)
  | call => .code (bufferCall clock state call).2

def serviceStep (platform : Platform) (clock : LocalClock) :
    Machine Process ServiceCall ServiceAnswer := fun process call =>
  match call with
  | .start manager calls =>
      let started := heapstoreInit platform manager calls process
      (started.1, .code started.2)
  | .stop => (heapstoreShutdown process, .code .success)
  | .exit => (respawned process, .code .success)
  | .reload manager calls =>
      let reloaded := heapstoreReloadConfig calls manager process
      (reloaded.1, .code reloaded.2)
  | .record kind call =>
      let ran := call.run process.registry
      (filed { process with registry := ran.1 }, .record kind ran.2)
  | .buffer call =>
      ({ process with trace := (bufferCall clock process.trace call).1 },
        bufferAnswer clock process.trace call)

/-! ### The model -/

abbrev RecordMaps := (kind : RecordKind) → RecordMap kind.Record

def emptyRecords : RecordMaps := fun _ _ => none

/-- The committed records and, while a transaction is open, its own. -/
structure Shelf where
  committed : RecordMaps
  working : Option RecordMaps

def Shelf.visible (shelf : Shelf) : RecordMaps :=
  shelf.working.getD shelf.committed

def Shelf.store (shelf : Shelf) (maps : RecordMaps) : Shelf :=
  match shelf.working with
  | none => { shelf with committed := maps }
  | some _ => { shelf with working := some maps }

structure StoreModel where
  up : Bool
  shelf : Shelf
  spans : List TraceSpan

def StoreModel.down (model : StoreModel) : StoreModel where
  up := false
  shelf := { committed := model.shelf.committed, working := none }
  spans := []

section Meaning

variable {kind : RecordKind}

def insertInto (record : kind.Record) (map : RecordMap kind.Record) :
    Option (RecordMap kind.Record) :=
  if map (kind.shape.recId record) = none then
    some (Function.update map (kind.shape.recId record) (some record))
  else none

/-- What the update of a kind does not write stays; without a record there is
nothing to write. -/
def mergeInto (able : kind.updatable = true) (record : kind.Record)
    (map : RecordMap kind.Record) : RecordMap kind.Record :=
  Function.update map (kind.shape.recId record)
    ((map (kind.shape.recId record)).map
      ((kind.updateShape able).merge record))

/-- One statement, of which the engine is asked whatever the tables hold. -/
def Shelf.exec (up : Bool) (calls : ExecCalls)
    (write : RecordMap kind.Record → Option (RecordMap kind.Record))
    (shelf : Shelf) : Shelf × HeapstoreError :=
  if up = false then (shelf, .errNotInitialized)
  else if calls ≠ .ok then (shelf, .errDbQueryFailed)
  else
    match write (shelf.visible kind) with
    | none => (shelf, .errDbQueryFailed)
    | some map =>
        (shelf.store (Function.update shelf.visible kind map), .success)

/-- The records in order, up to the first that is not inserted. -/
def insertEach : (Nat → Bool) → List kind.Record → RecordMap kind.Record →
    RecordMap kind.Record × Bool
  | _, [], map => (map, true)
  | steps, record :: rest, map =>
      if steps 0 = false then (map, false)
      else
        match insertInto record map with
        | none => (map, false)
        | some next => insertEach (fun index => steps (index + 1)) rest next

def Shelf.batch (up : Bool) (calls : BatchCalls) (records : List kind.Record)
    (shelf : Shelf) : Shelf × HeapstoreError :=
  if up = false then (shelf, .errNotInitialized)
  else if calls.prepare = false ∨ shelf.working.isSome ∨ calls.start = false then
    (shelf, .errDbQueryFailed)
  else
    let inserted := insertEach calls.step records (shelf.committed kind)
    let maps := Function.update shelf.committed kind inserted.1
    if inserted.2 then
      if calls.commit then
        ({ committed := maps, working := none }, .success)
      else ({ shelf with working := some maps }, .errDbQueryFailed)
    else if calls.rollback then (shelf, .errDbQueryFailed)
    else ({ shelf with working := some maps }, .errDbQueryFailed)

def Shelf.get (up : Bool) (calls : ExecCalls) (id : Bytes) (shelf : Shelf) :
    RecordAnswer kind :=
  if up = false then (.errNotInitialized, none)
  else if calls ≠ .ok then (.errDbQueryFailed, none)
  else mapGet (some id) true (shelf.visible kind)

/-- What a call means for the records. -/
def RecordCall.meaning (up : Bool) (shelf : Shelf) :
    RecordCall kind → Shelf × RecordAnswer kind
  | .add calls record =>
      match record with
      | none => (shelf, .errInvalidParam, none)
      | some record =>
          if kind.shape.recId record = [] then (shelf, .errInvalidParam, none)
          else coded (shelf.exec up calls (insertInto record))
  | .batchInsert calls records =>
      match records with
      | none => (shelf, .errInvalidParam, none)
      | some records =>
          if records = [] then (shelf, .errInvalidParam, none)
          else coded (shelf.batch up calls records)
  | .get calls id out =>
      match id with
      | none => (shelf, .errInvalidParam, none)
      | some id =>
          if out = false then (shelf, .errInvalidParam, none)
          else (shelf, shelf.get up calls id)
  | .update able calls record =>
      match record with
      | none => (shelf, .errInvalidParam, none)
      | some record =>
          if kind.shape.recId record = [] then (shelf, .errInvalidParam, none)
          else coded (shelf.exec up calls fun map =>
            some (mergeInto able record map))
  | .delete calls id =>
      match id with
      | none => (shelf, .errInvalidParam, none)
      | some id =>
          coded (@Shelf.exec kind up calls
            (fun map => some (Function.update map id none)) shelf)

end Meaning

/-! ### The contract -/

/-- A call that asks for spans, once its parameters are right. -/
def asksFor : BufferCall → Option (Trace.QueryCalls × (TraceSpan → Bool))
  | .queryByTrace calls (some traceId) true =>
      some (calls, spanMatchTrace traceId)
  | .queryByTimeRange calls startTime endTime true =>
      some (calls, spanMatchTime startTime endTime)
  | _ => none

/-- A buffer call that succeeds does what it is for, on a store that is up;
one that fails leaves the spans. -/
def BufferContract (up : Bool) (spans : List TraceSpan) (call : BufferCall)
    (answer : ServiceAnswer) (next : List TraceSpan) : Prop :=
  match call with
  | .flush _ _ =>
      (answer = .code .success ∧ up = true ∧ next = []) ∨
        ((∃ error, error ≠ .success ∧ answer = .code error) ∧ next = spans)
  | .writeSpan _ _ | .writeSpansBatch _ _ =>
      (answer = .code .success ∧ up = true ∧ next = spans ++ call.spans) ∨
        ((∃ error, error ≠ .success ∧ answer = .code error) ∧ next = spans)
  | _ =>
      next = spans ∧
        ∀ calls wanted, asksFor call = some (calls, wanted) → up = true →
          calls.allocated = true → (∀ index, calls.duplicated index = true) →
          answer = .spans (answerOf (spans.filter wanted))

def serviceContract : Contract StoreModel ServiceCall ServiceAnswer :=
  fun model call answer next =>
    match call with
    | .start _ _ =>
        if model.up then
          answer = .code .errAlreadyInitialized ∧ next = model
        else
          (answer = .code .success ∧ next = { model with up := true }) ∨
            (∃ error, error ≠ .success ∧ answer = .code error) ∧ next = model
    | .stop => answer = .code .success ∧ next = model.down
    | .exit => answer = .code .success ∧ next = model.down
    | .reload _ _ => next = model
    | .record kind call =>
        let meant := call.meaning model.up model.shelf
        answer = .record kind meant.2 ∧ next = { model with shelf := meant.1 }
    | .buffer call =>
        ∃ spans, BufferContract model.up model.spans call answer spans ∧
          next = { model with spans := spans }

end Heapstore.Durability
