/-
The SQLite registry under threads.

A call looks at its parameters and at the database without the lock; under the
lock it makes its engine calls one by one, and a batch leaves its transaction
open between them.  The interleavings of these engine calls are runs of whole
calls one after the other, so that no call ever meets the transaction of
another.
-/

import Heapstore.Foundation.LockedCalls
import Heapstore.StoreDurability

namespace Heapstore.RegistryThreads

open ByteText SqlTable SqlConnection OperationRun LockedCalls
open RegistrySqlite RegistryBackendAgreement Durability
open Heapstore.Core

/-! ### The calls at once -/

/-- `heapstore_registry_vacuum`; what becomes of its statement is ignored. -/
def registryVacuum (registry : SqlRegistry) : HeapstoreError :=
  if registry.initialized = false ∨ registry.db.isNone then .errNotInitialized
  else .success

def registryIsHealthy (registry : SqlRegistry) : Bool :=
  registry.initialized && registry.db.isSome

/-- The calls that any thread may make at any time, without the queries: their
rows are read without the lock. -/
inductive RegistryRequest where
  | record (kind : RecordKind) (call : RecordCall kind)
  | vacuum
  | isHealthy

inductive RegistryReply where
  | record (kind : RecordKind) (answer : RecordAnswer kind)
  | vacuumed (error : HeapstoreError)
  | healthy (flag : Bool)

def registryServe : Machine SqlRegistry RegistryRequest RegistryReply :=
  fun registry request =>
    match request with
    | .record kind call =>
        ((call.run registry).1, .record kind (call.run registry).2)
    | .vacuum => (registry, .vacuumed (registryVacuum registry))
    | .isHealthy => (registry, .healthy (registryIsHealthy registry))

/-! ### One engine call at a time -/

/-- What a call does with its statement. -/
inductive SqlJob where
  | exec (step : Bool) (values : Row)
  | queryOne (step : Bool) (values : Row)
  | batch (calls : BatchCalls) (rows : List Row)

/-- The next engine call of a call that has the lock. -/
inductive SqlPlace where
  | prepare (prepare : Bool) (statement : Statement) (job : SqlJob)
  | exec (step : Bool) (statement : Statement) (values : Row)
  | queryOne (step : Bool) (statement : Statement) (values : Row)
  | begin_ (calls : BatchCalls) (statement : Statement) (rows : List Row)
  | insert (calls : BatchCalls) (statement : Statement) (steps : Nat → Bool)
      (rows : List Row)
  | rollback (succeeds : Bool)
  | commit (succeeds : Bool)

/-- The place after the statement was prepared. -/
def SqlJob.place (statement : Statement) : SqlJob → SqlPlace
  | .exec step values => .exec step statement values
  | .queryOne step values => .queryOne step statement values
  | .batch calls rows => .begin_ calls statement rows

abbrev SqlReply := HeapstoreError × Option Row

/-- An engine call on the connection.  The loop of a batch ends with the commit
or with the first step that is not done. -/
def engineCall (place : SqlPlace) (connection : Connection) :
    Connection × (SqlPlace ⊕ SqlReply) :=
  match place with
  | .prepare prepare statement job =>
      if prepare = true ∧ statement.Resolves connection.visible then
        (connection, .inl (job.place statement))
      else (connection, .inr (.errDbQueryFailed, none))
  | .exec step statement values =>
      let stepped := connection.step step statement values
      (stepped.1,
        .inr (if stepped.2 = .failed then .errDbQueryFailed else .success, none))
  | .queryOne step statement values =>
      match (connection.step step statement values).2 with
      | .row row => (connection, .inr (.success, some row))
      | .done => (connection, .inr (.errNotFound, none))
      | .failed => (connection, .inr (.errDbQueryFailed, none))
  | .begin_ calls statement rows =>
      let begun := connection.begin_ calls.start
      if begun.2 = false then (begun.1, .inr (.errDbQueryFailed, none))
      else (begun.1, .inl (.insert calls statement calls.step rows))
  | .insert calls _ _ [] => (connection, .inl (.commit calls.commit))
  | .insert calls statement steps (values :: rest) =>
      let stepped := connection.step (steps 0) statement values
      if stepped.2 = .done then
        (stepped.1, .inl (.insert calls statement
          (fun index => steps (index + 1)) rest))
      else (stepped.1, .inl (.rollback calls.rollback))
  | .rollback succeeds =>
      ((connection.rollback succeeds).1, .inr (.errDbQueryFailed, none))
  | .commit succeeds =>
      let committed := connection.commit succeeds
      (committed.1,
        .inr (if committed.2 then .success else .errDbQueryFailed, none))

/-- The database was seen open before the lock, and no call here closes it. -/
def sqlAccess (place : SqlPlace) (registry : SqlRegistry) :
    SqlRegistry × (SqlPlace ⊕ SqlReply) :=
  match registry.db with
  | none => (registry, .inr (.errNotInitialized, none))
  | some connection =>
      ({ registry with db := some (engineCall place connection).1 },
        (engineCall place connection).2)

/-! ### Before the lock -/

/-- The check of `session_begin`. -/
def sessionGate (registry : SqlRegistry) (prepare : Bool)
    (statement : Statement) (job : SqlJob) : SqlPlace ⊕ HeapstoreError :=
  if registry.initialized = false ∨ registry.db.isNone then
    .inr .errNotInitialized
  else .inl (.prepare prepare statement job)

/-- The checks of a function that takes a record. -/
def recordGate {Record : Type} (registry : SqlRegistry)
    (recId : Record → Bytes) (statement : Statement) (bind : Record → Row)
    (calls : ExecCalls) : Option Record → SqlPlace ⊕ HeapstoreError
  | none => .inr .errInvalidParam
  | some record =>
      if recId record = [] then .inr .errInvalidParam
      else
        sessionGate registry calls.prepare statement
          (.exec calls.step (bind record))

def callGate {kind : RecordKind} (registry : SqlRegistry) :
    RecordCall kind → SqlPlace ⊕ HeapstoreError
  | .add calls record =>
      recordGate registry kind.shape.recId kind.shape.insert kind.shape.bind
        calls record
  | .update able calls record =>
      recordGate registry kind.shape.recId (kind.updateShape able).update
        (kind.updateShape able).bindUpdate calls record
  | .get calls id out =>
      match id with
      | none => .inr .errInvalidParam
      | some id =>
          if out = false then .inr .errInvalidParam
          else
            sessionGate registry calls.prepare kind.shape.select
              (.queryOne calls.step (registryBindId id))
  | .delete calls id =>
      match id with
      | none => .inr .errInvalidParam
      | some id =>
          sessionGate registry calls.prepare kind.shape.delete
            (.exec calls.step (registryBindId id))
  | .batchInsert calls records =>
      match records with
      | none => .inr .errInvalidParam
      | some records =>
          if records = [] then .inr .errInvalidParam
          else
            sessionGate registry calls.prepare kind.shape.insert
              (.batch calls (records.map kind.shape.bind))

/-- A place in a call for records of a kind, or in a vacuum. -/
inductive RegistryPlace where
  | record (kind : RecordKind) (place : SqlPlace)
  | vacuum

def registryGate (registry : SqlRegistry) :
    RegistryRequest → RegistryPlace ⊕ RegistryReply
  | .record kind call =>
      (callGate registry call).map (.record kind) fun error =>
        .record kind (error, none)
  | .vacuum =>
      if registry.initialized = false ∨ registry.db.isNone then
        .inr (.vacuumed .errNotInitialized)
      else .inl .vacuum
  | .isHealthy => .inr (.healthy (registryIsHealthy registry))

/-- The row of a query is copied to the record of the caller. -/
def readRow (kind : RecordKind) (reply : SqlReply) : RegistryReply :=
  .record kind (reply.1, reply.2.map kind.shape.extract)

def registryAccess (place : RegistryPlace) (registry : SqlRegistry) :
    SqlRegistry × (RegistryPlace ⊕ RegistryReply) :=
  match place with
  | .record kind place =>
      ((sqlAccess place registry).1,
        (sqlAccess place registry).2.map (.record kind) (readRow kind))
  | .vacuum => (registry, .inr (.vacuumed .success))

def registryCode :
    Code SqlRegistry RegistryRequest RegistryPlace RegistryReply where
  gate := registryGate
  access := registryAccess

/-! ### A call made alone -/

section Jobs

variable {registry : SqlRegistry} {connection : Connection}
  {statement : Statement} {Record : Type}

theorem with_db (opened : registry.db = some connection) :
    { registry with db := some connection } = registry := by
  rw [← opened]

theorem sessionBegin_opened (opened : registry.db = some connection)
    (ready : registry.initialized = true) (prepare : Bool) :
    sessionBegin prepare statement registry =
      if prepare = true ∧ statement.Resolves connection.visible then
        .ok connection
      else .error .errDbQueryFailed := by
  unfold sessionBegin
  rw [opened, ready]
  rfl

theorem exec_runs (opened : registry.db = some connection)
    (ready : registry.initialized = true) (calls : ExecCalls) (values : Row) :
    ∃ after code,
      Runs engineCall (.prepare calls.prepare statement
        (.exec calls.step values)) connection (after, code, none) ∧
      sqlExecLocked calls statement values registry =
        ({ registry with db := some after }, code) := by
  unfold sqlExecLocked
  rw [sessionBegin_opened opened ready]
  by_cases prepared : calls.prepare = true ∧
      statement.Resolves connection.visible
  · rw [if_pos prepared]
    exact ⟨_, _, .more (if_pos prepared) (.last rfl), rfl⟩
  · rw [if_neg prepared]
    exact ⟨_, _, .last (if_neg prepared),
      congrArg (·, _) (with_db opened).symm⟩

theorem queryOne_runs (opened : registry.db = some connection)
    (ready : registry.initialized = true) (calls : ExecCalls) (values : Row)
    (extract : Row → Record) :
    ∃ reply,
      Runs engineCall (.prepare calls.prepare statement
        (.queryOne calls.step values)) connection (connection, reply) ∧
      registryQueryOne calls statement values extract registry =
        (reply.1, reply.2.map extract) := by
  unfold registryQueryOne
  rw [sessionBegin_opened opened ready]
  by_cases prepared : calls.prepare = true ∧
      statement.Resolves connection.visible
  · rw [if_pos prepared]
    have stepped (reply : SqlReply)
        (here : engineCall (.queryOne calls.step statement values) connection =
          (connection, .inr reply)) :
        Runs engineCall (.prepare calls.prepare statement
          (.queryOne calls.step values)) connection (connection, reply) :=
      .more (if_pos prepared) (.last here)
    simp only
    cases result : (connection.step calls.step statement values).2 with
    | row row =>
        refine ⟨(.success, some row), stepped _ ?_, rfl⟩
        simp only [engineCall, result]
    | done =>
        refine ⟨(.errNotFound, none), stepped _ ?_, rfl⟩
        simp only [engineCall, result]
    | failed =>
        refine ⟨(.errDbQueryFailed, none), stepped _ ?_, rfl⟩
        simp only [engineCall, result]
  · rw [if_neg prepared]
    exact ⟨_, .last (if_neg prepared), rfl⟩

/-- The loop of a batch ends at the commit, or after a rollback. -/
theorem batchLoop_runs (calls : BatchCalls) (bind : Record → Row)
    (records : List Record) (steps : Nat → Bool) (connection : Connection) :
    let looped :=
      batchLoop statement bind calls.rollback steps records connection
    let start := SqlPlace.insert calls statement steps (records.map bind)
    (looped.2 = .success → ∀ out,
        Runs engineCall (.commit calls.commit) looped.1 out →
          Runs engineCall start connection out) ∧
      (looped.2 ≠ .success →
        Runs engineCall start connection (looped.1, looped.2, none)) := by
  induction records generalizing steps connection with
  | nil =>
      refine ⟨fun _ out runs => .more rfl runs, ?_⟩
      exact fun failed => absurd rfl failed
  | cons record rest ih =>
      intro looped start
      by_cases done : (connection.step (steps 0) statement (bind record)).2 =
          .done
      · have same : looped = batchLoop statement bind calls.rollback
            (fun index => steps (index + 1)) rest
            (connection.step (steps 0) statement (bind record)).1 :=
          if_pos done
        obtain ⟨succeeds, fails⟩ := ih (fun index => steps (index + 1))
          (connection.step (steps 0) statement (bind record)).1
        rw [same]
        refine ⟨fun whole out runs => .more (if_pos done) ?_,
          fun failed => .more (if_pos done) (fails failed)⟩
        exact succeeds whole out runs
      · have same : looped =
            (((connection.step (steps 0) statement (bind record)).1.rollback
              calls.rollback).1, .errDbQueryFailed) := if_neg done
        rw [same]
        have failed : HeapstoreError.errDbQueryFailed ≠ .success := by decide
        refine ⟨fun impossible => absurd impossible failed, fun _ => ?_⟩
        exact .more (if_neg done) (.last rfl)

theorem batch_runs (opened : registry.db = some connection)
    (ready : registry.initialized = true) (calls : BatchCalls)
    (bind : Record → Row) (records : List Record) :
    ∃ after code,
      Runs engineCall (.prepare calls.prepare statement
        (.batch calls (records.map bind))) connection (after, code, none) ∧
      batchExecLocked calls statement bind records registry =
        ({ registry with db := some after }, code) := by
  unfold batchExecLocked
  rw [sessionBegin_opened opened ready]
  by_cases prepared : calls.prepare = true ∧
      statement.Resolves connection.visible
  · rw [if_pos prepared]
    simp only
    by_cases begun : (connection.begin_ calls.start).2 = false
    · rw [if_pos begun]
      exact ⟨_, _, .more (if_pos prepared) (.last (if_pos begun)), rfl⟩
    · rw [if_neg begun]
      obtain ⟨succeeds, fails⟩ := @batchLoop_runs statement Record calls bind
        records calls.step (connection.begin_ calls.start).1
      by_cases whole : (batchLoop statement bind calls.rollback calls.step
          records (connection.begin_ calls.start).1).2 = .success
      · rw [if_pos whole]
        exact ⟨_, _, .more (if_pos prepared) (.more (if_neg begun)
          (succeeds whole _ (.last rfl))), rfl⟩
      · rw [if_neg whole]
        exact ⟨_, _, .more (if_pos prepared) (.more (if_neg begun)
          (fails whole)), rfl⟩
  · rw [if_neg prepared]
    exact ⟨_, _, .last (if_neg prepared),
      congrArg (·, _) (with_db opened).symm⟩

/-- A call that gives up before the lock leaves the registry. -/
theorem sessionGate_refuses {prepare : Bool} {job : SqlJob}
    {error : HeapstoreError}
    (refused : sessionGate registry prepare statement job = .inr error) :
    sessionBegin prepare statement registry = .error error := by
  unfold sessionGate at refused
  split at refused
  · next closed =>
      cases refused
      unfold sessionBegin
      cases opened : registry.db with
      | none => rfl
      | some connection =>
          have down : registry.initialized = false := by
            rcases closed with down | absent
            · exact down
            · rw [opened] at absent
              cases absent
          simp only [down, if_true]
  · cases refused

theorem sessionGate_admits {prepare : Bool} {job : SqlJob} {place : SqlPlace}
    (admitted : sessionGate registry prepare statement job = .inl place) :
    place = .prepare prepare statement job ∧
      registry.initialized = true ∧ ∃ connection,
        registry.db = some connection := by
  unfold sessionGate at admitted
  split at admitted
  · cases admitted
  · next opened =>
      cases admitted
      obtain ⟨up, present⟩ := not_or.mp opened
      refine ⟨rfl, by simpa using up, ?_⟩
      rw [Option.isNone_iff_eq_none] at present
      exact Option.ne_none_iff_exists'.mp present

end Jobs

section Calls

variable {registry : SqlRegistry} {kind : RecordKind}

theorem recordGate_refuses {Record : Type} {recId : Record → Bytes}
    {statement : Statement} {bind : Record → Row} {calls : ExecCalls}
    {record : Option Record} {error : HeapstoreError}
    (refused : recordGate registry recId statement bind calls record =
      .inr error) :
    addRecord recId statement bind calls record registry =
      (registry, error) := by
  unfold recordGate at refused
  unfold addRecord
  cases record with
  | none =>
      cases refused
      rfl
  | some record =>
      simp only at refused ⊢
      split at refused
      · next unnamed =>
          cases refused
          rw [if_pos unnamed]
      · next named =>
          rw [if_neg named]
          unfold sqlExecLocked
          rw [sessionGate_refuses refused]

theorem recordGate_admits {Record : Type} {recId : Record → Bytes}
    {statement : Statement} {bind : Record → Row} {calls : ExecCalls}
    {record : Option Record} {place : SqlPlace}
    (admitted : recordGate registry recId statement bind calls record =
      .inl place) :
    ∃ connection after code, registry.db = some connection ∧
      Runs engineCall place connection (after, code, none) ∧
      addRecord recId statement bind calls record registry =
        ({ registry with db := some after }, code) := by
  unfold recordGate at admitted
  unfold addRecord
  cases record with
  | none => cases admitted
  | some record =>
      simp only at admitted ⊢
      split at admitted
      · cases admitted
      · next named =>
          rw [if_neg named]
          obtain ⟨rfl, ready, connection, opened⟩ :=
            sessionGate_admits admitted
          obtain ⟨after, code, runs, same⟩ :=
            exec_runs opened ready calls (bind record)
          exact ⟨connection, after, code, opened, runs, same⟩

theorem callGate_refuses {call : RecordCall kind} {error : HeapstoreError}
    (refused : callGate registry call = .inr error) :
    call.run registry = (registry, error, none) := by
  cases call with
  | add calls record =>
      change Durability.coded (kind.add calls record registry) = _
      rw [kind.add_eq, recordGate_refuses refused]
      rfl
  | update able calls record =>
      change Durability.coded (kind.update able calls record registry) = _
      rw [kind.update_eq able, recordGate_refuses refused]
      rfl
  | get calls id out =>
      change (registry, kind.get calls id out registry) = _
      rw [kind.get_eq]
      unfold callGate at refused
      unfold getRecord
      cases id with
      | none =>
          cases refused
          rfl
      | some id =>
          simp only at refused ⊢
          split at refused
          · next missing =>
              cases refused
              rw [if_pos missing]
          · next given =>
              rw [if_neg given]
              unfold registryQueryOne
              rw [sessionGate_refuses refused]
  | delete calls id =>
      change Durability.coded (kind.delete calls id registry) = _
      rw [kind.delete_eq]
      unfold callGate at refused
      unfold deleteRecord
      cases id with
      | none =>
          cases refused
          rfl
      | some id =>
          simp only at refused ⊢
          unfold sqlExecLocked
          rw [sessionGate_refuses refused]
          rfl
  | batchInsert calls records =>
      change Durability.coded (kind.batchInsert calls records registry) = _
      rw [kind.batchInsert_eq]
      unfold callGate at refused
      unfold batchRecords
      cases records with
      | none =>
          cases refused
          rfl
      | some records =>
          simp only at refused ⊢
          split at refused
          · next empty =>
              cases refused
              rw [if_pos empty]
              rfl
          · next filled =>
              rw [if_neg filled]
              unfold batchExecLocked
              rw [sessionGate_refuses refused]
              rfl

/-- A call that goes for the lock makes there the engine calls of the whole
call. -/
theorem callGate_admits {call : RecordCall kind} {place : SqlPlace}
    (admitted : callGate registry call = .inl place) :
    ∃ connection after reply, registry.db = some connection ∧
      Runs engineCall place connection (after, reply) ∧
      call.run registry = ({ registry with db := some after },
        reply.1, reply.2.map kind.shape.extract) := by
  cases call with
  | add calls record =>
      obtain ⟨connection, after, code, opened, runs, same⟩ :=
        recordGate_admits admitted
      refine ⟨connection, after, (code, none), opened, runs, ?_⟩
      change Durability.coded (kind.add calls record registry) = _
      rw [kind.add_eq, same]
      rfl
  | update able calls record =>
      obtain ⟨connection, after, code, opened, runs, same⟩ :=
        recordGate_admits admitted
      refine ⟨connection, after, (code, none), opened, runs, ?_⟩
      change Durability.coded (kind.update able calls record registry) = _
      rw [kind.update_eq able, same]
      rfl
  | get calls id out =>
      change ∃ connection after reply, _ ∧ _ ∧
        (registry, kind.get calls id out registry) = _
      rw [kind.get_eq]
      unfold callGate at admitted
      unfold getRecord
      cases id with
      | none => cases admitted
      | some id =>
          simp only at admitted ⊢
          split at admitted
          · cases admitted
          · next given =>
              rw [if_neg given]
              obtain ⟨rfl, ready, connection, opened⟩ :=
                sessionGate_admits admitted
              obtain ⟨reply, runs, same⟩ := queryOne_runs opened ready calls
                (registryBindId id) kind.shape.extract
              refine ⟨connection, connection, reply, opened, runs, ?_⟩
              rw [same, with_db opened]
  | delete calls id =>
      change ∃ connection after reply, _ ∧ _ ∧
        Durability.coded (kind.delete calls id registry) = _
      rw [kind.delete_eq]
      unfold callGate at admitted
      unfold deleteRecord
      cases id with
      | none => cases admitted
      | some id =>
          simp only at admitted ⊢
          obtain ⟨rfl, ready, connection, opened⟩ :=
            sessionGate_admits admitted
          obtain ⟨after, code, runs, same⟩ :=
            exec_runs opened ready calls (registryBindId id)
          refine ⟨connection, after, (code, none), opened, runs, ?_⟩
          rw [same]
          rfl
  | batchInsert calls records =>
      change ∃ connection after reply, _ ∧ _ ∧
        Durability.coded (kind.batchInsert calls records registry) = _
      rw [kind.batchInsert_eq]
      unfold callGate at admitted
      unfold batchRecords
      cases records with
      | none => cases admitted
      | some records =>
          simp only at admitted ⊢
          split at admitted
          · cases admitted
          · next filled =>
              rw [if_neg filled]
              obtain ⟨rfl, ready, connection, opened⟩ :=
                sessionGate_admits admitted
              obtain ⟨after, code, runs, same⟩ := batch_runs opened ready calls
                kind.shape.bind records
              refine ⟨connection, after, (code, none), opened, runs, ?_⟩
              rw [same]
              rfl

theorem sqlAccess_opened (place : SqlPlace) (connection : Connection) :
    sqlAccess place { registry with db := some connection } =
      ({ registry with db := some (engineCall place connection).1 },
        (engineCall place connection).2.map id id) := by
  rw [Sum.map_id_id]
  rfl

theorem record_runs {call : RecordCall kind} {place : SqlPlace}
    (admitted : callGate registry call = .inl place) :
    Runs registryAccess (.record kind place) registry
      ((call.run registry).1, .record kind (call.run registry).2) := by
  obtain ⟨connection, after, reply, opened, runs, same⟩ :=
    callGate_admits admitted
  have onRegistry : Runs sqlAccess place registry
      ({ registry with db := some after }, reply) := by
    have lifted := runs.lift
      (fun connection => ({ registry with db := some connection } :
        SqlRegistry)) id id sqlAccess_opened
    rwa [with_db opened] at lifted
  rw [same]
  exact onRegistry.lift id (RegistryPlace.record kind) (readRow kind)
    fun _ _ => rfl

theorem sqlAccess_open (place : SqlPlace) (registry : SqlRegistry) :
    (sqlAccess place registry).1.initialized = registry.initialized ∧
      (sqlAccess place registry).1.db.isNone = registry.db.isNone := by
  unfold sqlAccess
  split
  · exact ⟨rfl, rfl⟩
  · next connection opened =>
      rw [opened]
      exact ⟨rfl, rfl⟩

/-- What a call looks at before the lock: whether the database is open. -/
theorem registryGate_congr {other : SqlRegistry}
    (same : other.initialized = registry.initialized ∧
      other.db.isNone = registry.db.isNone) (request : RegistryRequest) :
    registryGate other request = registryGate registry request := by
  obtain ⟨flag, opened⟩ := same
  have session (prepare : Bool) (statement : Statement) (job : SqlJob) :
      sessionGate other prepare statement job =
        sessionGate registry prepare statement job := by
    unfold sessionGate
    rw [flag, opened]
  cases request with
  | record kind call =>
      have same : callGate other call = callGate registry call := by
        cases call <;> simp only [callGate, recordGate, session]
      simp only [registryGate, same]
  | vacuum => simp only [registryGate, flag, opened]
  | isHealthy =>
      have present : other.db.isSome = registry.db.isSome := by
        rw [← Option.not_isNone, ← Option.not_isNone, opened]
      simp only [registryGate, registryIsHealthy, flag, present]

theorem registryCode_implements :
    Implements registryCode id registryServe where
  refuses registry request reply refused := by
    cases request with
    | record kind call =>
        change (callGate registry call).map _ _ = _ at refused
        cases gate : callGate registry call with
        | inl place =>
            rw [gate] at refused
            cases refused
        | inr error =>
            rw [gate] at refused
            cases refused
            simp only [registryServe, id_eq, callGate_refuses gate]
    | vacuum =>
        simp only [registryCode, registryGate] at refused
        split at refused
        · next closed =>
            cases refused
            simp only [registryServe, registryVacuum, id_eq, closed, if_true]
        · cases refused
    | isHealthy =>
        cases refused
        rfl
  runs registry request place admitted := by
    cases request with
    | record kind call =>
        change (callGate registry call).map _ _ = _ at admitted
        cases gate : callGate registry call with
        | inl place =>
            rw [gate] at admitted
            cases admitted
            exact ⟨_, record_runs gate, rfl⟩
        | inr error =>
            rw [gate] at admitted
            cases admitted
    | vacuum =>
        simp only [registryCode, registryGate] at admitted
        split at admitted
        · cases admitted
        · next opened =>
            cases admitted
            refine ⟨registry, .last ?_, rfl⟩
            simp only [registryServe, registryVacuum, id_eq, opened, if_false]
            rfl
    | isHealthy => cases admitted
  steady registry place request := by
    apply registryGate_congr
    cases place with
    | record kind place => exact sqlAccess_open place registry
    | vacuum => exact ⟨rfl, rfl⟩

/-- Every interleaving of the registry calls of any number of threads, cut at
every engine call and with any of these failing, is a run of the calls one
after the other: each acts between its start and its return and answers what it
answers there, the database is that of this run whenever the lock is free, and
the lock always comes free. -/
theorem registry_calls_linearize {Thread : Type*} [DecidableEq Thread]
    (registry : SqlRegistry) (moves : List (Move Thread RegistryRequest)) :
    Linearizes registryServe registry
        (events registryCode (worldStart registry) moves) ∧
      ((final (lockedStep registryCode) (worldStart registry) moves).holder =
          none →
        (final (lockedStep registryCode) (worldStart registry) moves).shared =
          serial registryServe registry
            (events registryCode (worldStart registry) moves)) ∧
      ∀ thread,
        (final (lockedStep registryCode) (worldStart registry) moves).holder =
            some thread →
          ∃ steps, (final (lockedStep registryCode)
            (final (lockedStep registryCode) (worldStart registry) moves)
            (List.replicate steps (.go thread))).holder = none :=
  calls_linearize registryCode_implements registry moves

end Calls

/-! ### The records under the calls -/

/-- What a request means for the records of an open or a closed registry. -/
def shelfServe (up : Bool) : Machine Shelf RegistryRequest RegistryReply :=
  fun shelf request =>
    match request with
    | .record kind call =>
        ((call.meaning up shelf).1, .record kind (call.meaning up shelf).2)
    | .vacuum =>
        (shelf, .vacuumed (if up then .success else .errNotInitialized))
    | .isHealthy => (shelf, .healthy up)

/-- Whether a registry is open shows in its flag and in its database. -/
theorem open_of_keeps {path : Bytes} {up : Bool} {shelf : Shelf}
    {registry : SqlRegistry} (keeps : Keeps path up shelf registry) :
    registry.initialized = up ∧ registry.db.isSome = up := by
  refine ⟨keeps.initialized, ?_⟩
  cases up with
  | true =>
      obtain ⟨_, connection, opened, _⟩ := keeps.opened rfl
      rw [opened]
      rfl
  | false =>
      rw [(keeps.closed rfl).1]
      rfl

theorem registryServe_meant {path : Bytes} {up : Bool} (registry : SqlRegistry)
    (shelf : Shelf) (request : RegistryRequest)
    (keeps : Keeps path up shelf registry) :
    Keeps path up (shelfServe up shelf request).1
        (registryServe registry request).1 ∧
      (registryServe registry request).2 =
        (shelfServe up shelf request).2 := by
  obtain ⟨flag, opened⟩ := open_of_keeps keeps
  cases request with
  | record kind call =>
      obtain ⟨kept, answered⟩ := call.run_meant keeps
      exact ⟨kept, congrArg (RegistryReply.record kind) answered⟩
  | vacuum =>
      refine ⟨keeps, ?_⟩
      have closed : registry.db.isNone = !up := by
        rw [← opened, Option.not_isSome]
      simp only [registryServe, shelfServe, registryVacuum, flag, closed]
      cases up <;> rfl
  | isHealthy =>
      refine ⟨keeps, ?_⟩
      simp only [registryServe, shelfServe, registryIsHealthy, flag, opened,
        Bool.and_self]

/-- Threads that share an open registry see three maps of records, and each of
their calls as one change of a map: the interleaved engine calls are explained
by the maps, which the tables hold whenever the lock is free. -/
theorem registry_threads_share_maps {Thread : Type*} [DecidableEq Thread]
    (path : Bytes) (up : Bool) (shelf : Shelf) (registry : SqlRegistry)
    (keeps : Keeps path up shelf registry)
    (moves : List (Move Thread RegistryRequest)) :
    let last := final (lockedStep registryCode) (worldStart registry) moves
    let trace := events registryCode (worldStart registry) moves
    Linearizes (shelfServe up) shelf trace ∧
      (last.holder = none →
        Keeps path up (serial (shelfServe up) shelf trace) last.shared) := by
  intro last trace
  have holds := holds_run registryCode_implements registry moves
  refine ⟨holds.linearizes.refine (fun registry shelf =>
    Keeps path up shelf registry) registryServe_meant keeps, ?_⟩
  intro free
  have same : last.shared = serial registryServe registry trace :=
    holds.free free
  rw [same]
  exact (refinement registryServe (shelfServe up)
    (fun registry shelf => Keeps path up shelf registry) registryServe_meant
    registry shelf (order trace) keeps).1

/-- The registry of a store that was started on no files. -/
def openedRegistry : SqlRegistry :=
  (heapstoreInit plainPlatform (some (defConfig (some plainRoot))) .ok
    (freshProcess fun _ => none)).1.registry

theorem keeps_openedRegistry :
    Keeps (registryPath plainPlatform plainRoot) true
      { committed := emptyRecords, working := none } openedRegistry := by
  have leaves := @heapstoreInit_leaves plainPlatform .ok
    (freshProcess fun _ => none) plainRoot emptyRecords
    (some (defConfig (some plainRoot))) rfl rfl rfl filed_missing rfl
  obtain ⟨opened, _⟩ := leaves.opened rfl
  obtain ⟨database, db, holds⟩ := opened.db
  exact ⟨opened.initialized,
    fun _ => ⟨opened.dbPath, _, db, holds, .none⟩, nofun⟩

/-- Two threads add an agent under one id and take turns. -/
def racingMoves : List (Move Bool RegistryRequest) :=
  [.invoke false (.record .agent (.add .ok (some (agentNamed "a")))),
    .invoke true (.record .agent (.add .ok (some (agentNamed "a")))),
    .go false, .go true, .go true, .go false, .go true, .go true, .go true,
    .go false, .go false, .go false, .go true, .go false]

theorem registry_threads_share_maps_racing :
    let last := final (lockedStep registryCode) (worldStart openedRegistry)
      racingMoves
    let trace := events registryCode (worldStart openedRegistry) racingMoves
    Linearizes (shelfServe true)
        { committed := emptyRecords, working := none } trace ∧
      (last.holder = none →
        Keeps (registryPath plainPlatform plainRoot) true
          (serial (shelfServe true)
            { committed := emptyRecords, working := none } trace)
          last.shared) :=
  registry_threads_share_maps _ true _ openedRegistry keeps_openedRegistry
    racingMoves

end Heapstore.RegistryThreads
