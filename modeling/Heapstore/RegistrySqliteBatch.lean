/-
The transaction of a batch in the SQLite registry.

A batch is followed through every outcome of its engine calls, up to whether an
error leaves the rows and the connection as they were.
-/

import Heapstore.RegistrySqlite

namespace Heapstore.RegistrySqlite

open ByteText SqlTable SqlConnection

/-! ### The loop -/

section Loop

variable {Record : Type}

def batchRows (names : List String) (bind : Record → Row)
    (records : List Record) (table : Table) : List Row :=
  records.map fun record => newRow table.columns names (bind record)

def StepsSucceed (steps : Nat → Bool) (records : List Record) : Prop :=
  ∀ index, index < records.length → steps index = true

private theorem stepsSucceed_cons {steps : Nat → Bool} {record : Record}
    {rest : List Record} :
    StepsSucceed steps (record :: rest) ↔
      steps 0 = true ∧ StepsSucceed (fun index => steps (index + 1)) rest := by
  constructor
  · intro all
    exact ⟨all 0 (Nat.succ_pos _),
      fun index inside => all (index + 1) (Nat.succ_lt_succ inside)⟩
  · rintro ⟨first, later⟩ index inside
    cases index with
    | zero => exact first
    | succ index => exact later index (Nat.lt_of_succ_lt_succ inside)

theorem batchRows_of_insert {names : List String} {bind : Record → Row}
    {records : List Record} {table next : Table} {row : Row}
    (inserted : table.insert row = some next) :
    batchRows names bind records next = batchRows names bind records table := by
  unfold batchRows
  rw [(Table.withRows_eq_some inserted).1]

theorem batchLoop_inserted {name : String} {names : List String}
    {bind : Record → Row} {rollback : Bool} {steps : Nat → Bool}
    {records : List Record} {connection : Connection} {table last : Table}
    (present : connection.visible name = some table)
    (all : StepsSucceed steps records)
    (inserted :
      table.insertAll (batchRows names bind records table) = some last) :
    batchLoop (.insert name names) bind rollback steps records connection =
      (connection.store (Function.update connection.visible name (some last)),
        .success) := by
  induction records generalizing steps connection table with
  | nil =>
      cases inserted
      rw [Function.update_eq_self_iff.mpr present.symm,
        Connection.store_visible]
      rfl
  | cons record rest ih =>
      obtain ⟨first, later⟩ := stepsSucceed_cons.mp all
      obtain ⟨next, here, tail⟩ := Option.bind_eq_some_iff.mp inserted
      change next.insertAll (batchRows names bind rest table) = some last at tail
      rw [← batchRows_of_insert here] at tail
      rw [batchLoop, first, Connection.step_insert present here, if_pos rfl]
      have stored : (connection.store (Function.update connection.visible name
          (some next))).visible name = some next := by
        rw [Connection.visible_store, Function.update_self]
      rw [ih stored later tail, Connection.visible_store,
        Connection.store_store, Function.update_idem]

/-- A loop that does not insert everything fails and ends in a rollback of a
transaction that still holds the database as it was before the batch. -/
theorem batchLoop_rejected {name : String} {names : List String}
    {bind : Record → Row} {rollback : Bool} {steps : Nat → Bool}
    {records : List Record} {connection : Connection} {table : Table}
    (present : connection.visible name = some table)
    (running : ¬connection.Idle)
    (rejected : ¬(StepsSucceed steps records ∧
      (table.insertAll (batchRows names bind records table)).isSome = true)) :
    ∃ last : Connection, last.committed = connection.committed ∧ ¬last.Idle ∧
      batchLoop (.insert name names) bind rollback steps records connection =
        ((last.rollback rollback).1, .errDbQueryFailed) := by
  induction records generalizing steps connection table with
  | nil =>
      refine absurd ⟨?_, rfl⟩ rejected
      exact fun index impossible => absurd impossible (Nat.not_lt_zero index)
  | cons record rest ih =>
      have stopped : ∀ outcome, connection.step (steps 0) (.insert name names)
          (bind record) = (connection, outcome) → outcome = .failed →
          ∃ last : Connection, last.committed = connection.committed ∧
            ¬last.Idle ∧ batchLoop (.insert name names) bind rollback steps
              (record :: rest) connection =
                ((last.rollback rollback).1, .errDbQueryFailed) := by
        rintro outcome stepped rfl
        refine ⟨connection, rfl, running, ?_⟩
        rw [batchLoop, stepped, if_neg nofun]
      cases first : steps 0 with
      | false =>
          rw [first] at stopped
          exact stopped .failed (Connection.step_false _ _ _) rfl
      | true =>
          cases here :
              table.insert (newRow table.columns names (bind record)) with
          | none =>
              exact stopped .failed
                (Connection.step_insert_rejected present here) rfl
          | some next =>
              have stored : (connection.store (Function.update
                  connection.visible name (some next))).visible name =
                    some next := by
                rw [Connection.visible_store, Function.update_self]
              have stillRunning : ¬(connection.store (Function.update
                  connection.visible name (some next))).Idle :=
                fun idle => running (Connection.idle_store.mp idle)
              have tailRejected : ¬(StepsSucceed (fun index => steps (index + 1))
                  rest ∧ (next.insertAll (batchRows names bind rest next)).isSome
                    = true) := by
                rintro ⟨later, inserted⟩
                refine rejected ⟨stepsSucceed_cons.mpr ⟨first, later⟩, ?_⟩
                rw [batchRows_of_insert here] at inserted
                change ((table.insert _).bind _).isSome = true
                rw [here]
                exact inserted
              obtain ⟨last, committed, open_, looped⟩ :=
                ih stored stillRunning tailRejected
              refine ⟨last, ?_, open_, ?_⟩
              · rw [committed]
                exact Connection.committed_store running
              · rw [batchLoop, first, Connection.step_insert present here,
                  if_pos rfl]
                exact looped

end Loop

/-! ### The transaction of a batch -/

/-- What every later call sees, nothing once the database is closed. -/
def SqlRegistry.visible (registry : SqlRegistry) : Option Database :=
  registry.db.map Connection.visible

def SqlRegistry.Idle (registry : SqlRegistry) : Prop :=
  ∀ connection, registry.db = some connection → connection.Idle

/-- After an error the rows are as before and no transaction is open. -/
def RecoversOnError (before : SqlRegistry)
    (result : SqlRegistry × HeapstoreError) : Prop :=
  result.2 ≠ .success →
    result.1.visible = before.visible ∧ result.1.Idle

/-- Every record of the batch is accepted by the table it goes to. -/
def Accepts {Record : Type} (name : String) (names : List String)
    (bind : Record → Row) (records : List Record) (database : Database) :
    Prop :=
  ∃ table, database name = some table ∧
    Admissible table.columns
      (table.rows ++ batchRows names bind records table)

/-- The batch is past its session check, its preparation and its begin. -/
structure Starts (calls : BatchCalls) (statement : Statement)
    (registry : SqlRegistry) (connection : Connection) : Prop where
  opened : registry.db = some connection
  initialized : registry.initialized = true
  prepared : calls.prepare = true
  resolves : statement.Resolves connection.visible
  started : calls.start = true
  idle : connection.Idle

/-- No transaction is open, and the call that ends the transaction of the batch
succeeds: the commit when every step is done, the rollback otherwise. -/
structure BatchEnds {Record : Type} (calls : BatchCalls) (name : String)
    (names : List String) (bind : Record → Row) (records : List Record)
    (registry : SqlRegistry) : Prop where
  idle : registry.Idle
  commits : ∀ connection,
    Starts calls (.insert name names) registry connection →
    StepsSucceed calls.step records ∧
      Accepts name names bind records connection.visible →
    calls.commit = true
  rollsBack : ∀ connection,
    Starts calls (.insert name names) registry connection →
    ¬(StepsSucceed calls.step records ∧
      Accepts name names bind records connection.visible) →
    calls.rollback = true

section Transaction

variable {Record : Type} {calls : BatchCalls} {name : String}
  {names : List String} {bind : Record → Row} {records : List Record}
  {registry : SqlRegistry} {connection : Connection}

/-- A batch that does not reach its loop changes nothing and fails. -/
theorem batchExecLocked_early {statement : Statement}
    (early : ∀ connection, ¬Starts calls statement registry connection) :
    (batchExecLocked calls statement bind records registry).1 = registry ∧
      (batchExecLocked calls statement bind records registry).2 ≠ .success := by
  unfold batchExecLocked
  cases session : sessionBegin calls.prepare statement registry with
  | error error =>
      exact ⟨rfl, sessionBegin_error_ne session⟩
  | ok connection =>
      obtain ⟨opened, ready, prepared, resolves⟩ := sessionBegin_ok session
      have refused : connection.begin_ calls.start = (connection, false) := by
        unfold Connection.begin_
        rcases working : connection.working with _ | database
        · cases started : calls.start with
          | false => rfl
          | true =>
              exact absurd ⟨opened, ready, prepared, resolves, started, working⟩
                (early connection)
        · rfl
      simp only [refused, if_true]
      refine ⟨?_, nofun⟩
      rw [← opened]

private theorem begin_of_idle (idle : connection.Idle)
    (started : calls.start = true) :
    connection.begin_ calls.start =
      ({ committed := connection.visible
         working := some connection.visible }, true) := by
  rcases connection with ⟨committed, _ | working⟩
  · unfold Connection.begin_
    simp only [started, if_true]
    rfl
  · cases idle

private theorem insertAll_isSome {table : Table} :
    (table.insertAll (batchRows names bind records table)).isSome = true ↔
      Admissible table.columns
        (table.rows ++ batchRows names bind records table) := by
  rw [Table.insertAll_eq_withRows, Table.withRows_isSome]

theorem batchExecLocked_inserted
    (starts : Starts calls (.insert name names) registry connection)
    {table last : Table} (present : connection.visible name = some table)
    (all : StepsSucceed calls.step records)
    (inserted :
      table.insertAll (batchRows names bind records table) = some last) :
    batchExecLocked calls (.insert name names) bind records registry =
      if calls.commit then
        ({ registry with
            db := some
              { committed :=
                  Function.update connection.visible name (some last)
                working := none } }, .success)
      else
        ({ registry with
            db := some
              { committed := connection.visible
                working :=
                  some (Function.update connection.visible name (some last)) } },
          .errDbQueryFailed) := by
  unfold batchExecLocked
  rw [sessionBegin_of_opened starts.opened starts.initialized starts.prepared
    starts.resolves]
  simp only [begin_of_idle starts.idle starts.started, Bool.true_eq_false,
    if_false]
  have looped := @batchLoop_inserted Record name names bind calls.rollback
    calls.step records
    { committed := connection.visible, working := some connection.visible }
    table last present all inserted
  rw [looped]
  simp only [if_true]
  cases calls.commit <;> rfl

theorem batchExecLocked_rejected
    (starts : Starts calls (.insert name names) registry connection)
    {table : Table} (present : connection.visible name = some table)
    (rejected : ¬(StepsSucceed calls.step records ∧
      (table.insertAll (batchRows names bind records table)).isSome = true)) :
    ∃ last : Connection, last.committed = connection.visible ∧ ¬last.Idle ∧
      batchExecLocked calls (.insert name names) bind records registry =
        ({ registry with db := some (last.rollback calls.rollback).1 },
          .errDbQueryFailed) := by
  have running : ¬Connection.Idle
      { committed := connection.visible
        working := some connection.visible } := nofun
  obtain ⟨last, committed, open_, looped⟩ :=
    @batchLoop_rejected Record name names bind calls.rollback calls.step records
      { committed := connection.visible, working := some connection.visible }
      table present running rejected
  refine ⟨last, committed, open_, ?_⟩
  unfold batchExecLocked
  rw [sessionBegin_of_opened starts.opened starts.initialized starts.prepared
    starts.resolves]
  simp only [begin_of_idle starts.idle starts.started, Bool.true_eq_false,
    if_false, looped, reduceCtorEq]

theorem accepts_iff {table : Table} {database : Database}
    (present : database name = some table) :
    Accepts name names bind records database ↔
      (table.insertAll (batchRows names bind records table)).isSome = true := by
  rw [insertAll_isSome]
  constructor
  · rintro ⟨other, same, admissible⟩
    rw [present] at same
    cases same
    exact admissible
  · intro admissible
    exact ⟨table, present, admissible⟩

private theorem Starts.unique {statement : Statement}
    {first second : Connection} (here : Starts calls statement registry first)
    (there : Starts calls statement registry second) : first = second :=
  Option.some.inj (here.opened.symm.trans there.opened)

private theorem Starts.registry_idle {statement : Statement}
    (starts : Starts calls statement registry connection) : registry.Idle := by
  intro other opened
  rw [starts.opened] at opened
  cases opened
  exact starts.idle

private theorem recovers_of_inserted
    (starts : Starts calls (.insert name names) registry connection)
    (all : StepsSucceed calls.step records ∧
      Accepts name names bind records connection.visible) :
    RecoversOnError registry
        (batchExecLocked calls (.insert name names) bind records registry) ↔
      BatchEnds calls name names bind records registry := by
  obtain ⟨table, present, _⟩ := starts.resolves
  obtain ⟨last, inserted⟩ :=
    Option.isSome_iff_exists.mp ((accepts_iff present).mp all.2)
  rw [batchExecLocked_inserted starts present all.1 inserted]
  cases committed : calls.commit with
  | true =>
      refine ⟨fun _ => ⟨starts.registry_idle, fun _ _ _ => committed, ?_⟩,
        fun _ failed => absurd rfl failed⟩
      intro other otherStarts incomplete
      cases starts.unique otherStarts
      exact absurd all incomplete
  | false =>
      constructor
      · intro recovers
        -- The failed commit leaves the transaction of the batch open.
        have idle := (recovers nofun).2 _ rfl
        cases idle
      · intro ends
        have succeeded := ends.commits connection starts all
        rw [committed] at succeeded
        cases succeeded

private theorem recovers_of_rejected
    (starts : Starts calls (.insert name names) registry connection)
    (incomplete : ¬(StepsSucceed calls.step records ∧
      Accepts name names bind records connection.visible)) :
    RecoversOnError registry
        (batchExecLocked calls (.insert name names) bind records registry) ↔
      BatchEnds calls name names bind records registry := by
  obtain ⟨table, present, _⟩ := starts.resolves
  change connection.visible name = some table at present
  rw [accepts_iff present] at incomplete
  obtain ⟨last, before, running, result⟩ :=
    batchExecLocked_rejected starts present incomplete
  rw [result]
  obtain ⟨working, open_⟩ := Option.ne_none_iff_exists'.mp running
  cases undone : calls.rollback with
  | true =>
      constructor
      · intro _
        refine ⟨starts.registry_idle, ?_, fun _ _ _ => undone⟩
        rintro other otherStarts ⟨steps, accepted⟩
        cases starts.unique otherStarts
        exact absurd ⟨steps, (accepts_iff present).mp accepted⟩ incomplete
      · intro _ _
        have rolled : (last.rollback true).1 =
            { committed := connection.visible, working := none } := by
          unfold Connection.rollback
          rw [open_, ← before]
          rfl
        rw [rolled]
        refine ⟨?_, ?_⟩
        · unfold SqlRegistry.visible
          rw [starts.opened]
          rfl
        · rintro other ⟨⟩
          rfl
  | false =>
      have kept : (last.rollback false).1 = last := by
        unfold Connection.rollback
        rw [open_]
        rfl
      rw [kept]
      constructor
      · intro recovers
        exact absurd ((recovers nofun).2 last rfl) running
      · intro ends
        have succeeded := ends.rollsBack connection starts (by
          rw [accepts_iff present]
          exact incomplete)
        rw [undone] at succeeded
        cases succeeded

end Transaction

/-- A batch recovers from its errors exactly when no transaction was open and
the call that ends its own transaction succeeds. -/
theorem batchExecLocked_recovers_iff {Record : Type} (calls : BatchCalls)
    (name : String) (names : List String) (bind : Record → Row)
    (records : List Record) (registry : SqlRegistry) :
    RecoversOnError registry
        (batchExecLocked calls (.insert name names) bind records registry) ↔
      BatchEnds calls name names bind records registry := by
  by_cases reaches : ∃ connection,
      Starts calls (.insert name names) registry connection
  · obtain ⟨connection, starts⟩ := reaches
    by_cases all : StepsSucceed calls.step records ∧
        Accepts name names bind records connection.visible
    · exact recovers_of_inserted starts all
    · exact recovers_of_rejected starts all
  · have early := not_exists.mp reaches
    obtain ⟨unchanged, failed⟩ := batchExecLocked_early early
    constructor
    · intro recovers
      have idle := (recovers failed).2
      rw [unchanged] at idle
      exact ⟨idle, fun other starts => absurd starts (early other),
        fun other starts => absurd starts (early other)⟩
    · intro ends _
      rw [unchanged]
      exact ⟨rfl, ends.idle⟩

def emptyAgents : SqlRegistry where
  db := some
    { committed := fun name =>
        if name = "agents" then some (Table.empty agentColumns) else none
      working := none }
  dbPath := []
  initialized := true

/-- A commit that fails after every step leaves its transaction open, and the
rows of the failed batch stay visible. -/
theorem batchExecLocked_busy_commit :
    ¬∀ (calls : BatchCalls) (records : List AgentRecord)
      (registry : SqlRegistry), RecoversOnError registry
        (batchExecLocked calls insertAgent bindAgentRecord records registry) := by
  intro always
  let busy : BatchCalls := { BatchCalls.ok with commit := false }
  have recovers := always busy [agentNamed "a"] emptyAgents
  have failed : (batchExecLocked busy insertAgent bindAgentRecord
      [agentNamed "a"] emptyAgents).2 = .errDbQueryFailed := by decide
  have running : ((batchExecLocked busy insertAgent bindAgentRecord
      [agentNamed "a"] emptyAgents).1.db.all fun connection =>
        decide connection.Idle) = false := by decide
  obtain ⟨_, idle⟩ := recovers (by rw [failed]; nofun)
  have allIdle : ((batchExecLocked busy insertAgent bindAgentRecord
      [agentNamed "a"] emptyAgents).1.db.all fun connection =>
        decide connection.Idle) = true := by
    rw [Option.all_eq_true]
    intro connection opened
    exact decide_eq_true (idle connection opened)
  rw [running] at allIdle
  cases allIdle

end Heapstore.RegistrySqlite
