/-
Registry calls against the model.

The tables that a connection shows hold the maps of the shelf.  A statement does
to its table what one operation does to the map of its kind, and a batch leaves
the transaction that the shelf says.
-/

import Heapstore.StoreHistory

namespace Heapstore.Durability

open ByteText SqlTable SqlConnection
open RegistrySqlite RegistryBackendAgreement
open RegistryMemory (RecordMap)

/-! ### Tables and maps -/

def Holds (database : Database) (maps : RecordMaps) : Prop :=
  ∀ kind : RecordKind, Stores kind.shape database (maps kind)

/-- A connection has the tables of the shelf, and a transaction open exactly
when the shelf has one. -/
structure Shelved (connection : Connection) (shelf : Shelf) : Prop where
  committed : Holds connection.committed shelf.committed
  working : Option.Rel Holds connection.working shelf.working

theorem RecordKind.table_injective {kind other : RecordKind}
    (same : kind.shape.table = other.shape.table) : kind = other := by
  cases kind <;> cases other <;>
    first | rfl | exact absurd same (by decide)

section Tables

variable {kind : RecordKind} {database : Database} {maps : RecordMaps}
  {connection : Connection} {shelf : Shelf}

theorem Holds.replaced (holds : Holds database maps) {table : Table}
    {map : RecordMap kind.Record}
    (stores : Stores kind.shape
      (Function.update database kind.shape.table (some table)) map) :
    Holds (Function.update database kind.shape.table (some table))
      (Function.update maps kind map) := by
  intro other
  by_cases same : other = kind
  · subst same
    rw [Function.update_self]
    exact stores
  · rw [Function.update_of_ne same]
    have apart : other.shape.table ≠ kind.shape.table :=
      fun tables => same (RecordKind.table_injective tables)
    exact (holds other).of_same (Function.update_of_ne apart _ _)

theorem Shelved.visible (shelved : Shelved connection shelf) :
    Holds connection.visible shelf.visible := by
  obtain ⟨committed, working⟩ := shelved
  rcases connection with ⟨tables, open_⟩
  rcases shelf with ⟨records, other⟩
  change Option.Rel Holds open_ other at working
  cases working with
  | none => exact committed
  | some holds => exact holds

theorem Shelved.store (shelved : Shelved connection shelf)
    (holds : Holds database maps) :
    Shelved (connection.store database) (shelf.store maps) := by
  obtain ⟨committed, working⟩ := shelved
  rcases connection with ⟨tables, open_⟩
  rcases shelf with ⟨records, other⟩
  change Option.Rel Holds open_ other at working
  cases working with
  | none => exact ⟨holds, .none⟩
  | some _ => exact ⟨committed, .some holds⟩

end Tables

/-! ### One statement -/

/-- A statement does to the table of a kind what `write` does to its map. -/
structure Writes {kind : RecordKind} (statement : Statement) (values : Row)
    (write : RecordMap kind.Record → Option (RecordMap kind.Record)) :
    Prop where
  resolves : ∀ database map, Stores kind.shape database map →
    statement.Resolves database
  rejects : ∀ database map, Stores kind.shape database map →
    write map = none → statement.execute values database = none
  executes : ∀ database map next, Stores kind.shape database map →
    write map = some next →
    ∃ table, statement.execute values database =
        some (Function.update database kind.shape.table (some table), []) ∧
      Stores kind.shape
        (Function.update database kind.shape.table (some table)) next

theorem insert_writes {kind : RecordKind} (record : kind.Record) :
    Writes kind.shape.insert (kind.shape.bind record)
      (insertInto record) where
  resolves _ _ stores := stores.resolves_insert
  rejects _ map stores rejected := by
    apply stores.insert_rejected
    unfold insertInto at rejected
    split at rejected
    · cases rejected
    · assumption
  executes _ map next stores inserted := by
    unfold insertInto at inserted
    split at inserted
    · next absent =>
        cases inserted
        exact stores.insert absent
    · cases inserted

theorem update_writes {kind : RecordKind} (able : kind.updatable = true)
    (record : kind.Record) :
    Writes (kind.updateShape able).update
      ((kind.updateShape able).bindUpdate record)
      (fun map => some (mergeInto able record map)) where
  resolves _ _ stores := stores.resolves_update (kind.updateShape able)
  rejects _ _ _ rejected := by cases rejected
  executes _ _ _ stores written := by
    cases written
    exact stores.update (kind.updateShape able) record

theorem delete_writes {kind : RecordKind} (id : Bytes) :
    @Writes kind kind.shape.delete (registryBindId id)
      (fun map => some (Function.update map id none)) where
  resolves _ _ stores := stores.resolves_delete
  rejects _ _ _ rejected := by cases rejected
  executes _ _ _ stores written := by
    cases written
    exact stores.delete id

/-- The registry of a store that is up or down, against the shelf. -/
structure Keeps (path : Bytes) (up : Bool) (shelf : Shelf)
    (registry : SqlRegistry) : Prop where
  initialized : registry.initialized = up
  opened : up = true → registry.dbPath = path ∧
    ∃ connection, registry.db = some connection ∧ Shelved connection shelf
  closed : up = false → registry.db = none ∧ shelf.working = none

section Statements

variable {kind : RecordKind} {path : Bytes} {up : Bool} {shelf : Shelf}
  {registry : SqlRegistry} {connection : Connection} {statement : Statement}

/-- A registry result against a shelf result with the same code. -/
def Meant (path : Bytes) (up : Bool) (result : SqlRegistry × HeapstoreError)
    (meant : Shelf × HeapstoreError) : Prop :=
  Keeps path up meant.1 result.1 ∧ result.2 = meant.2

theorem Keeps.refused (keeps : Keeps path up shelf registry)
    (error : HeapstoreError) :
    Meant path up (registry, error) (shelf, error) :=
  ⟨keeps, rfl⟩

theorem Keeps.moved (keeps : Keeps path true shelf registry)
    {next : Shelf} (shelved : Shelved connection next)
    (error : HeapstoreError) :
    Meant path true ({ registry with db := some connection }, error)
      (next, error) :=
  ⟨⟨keeps.initialized, fun _ => ⟨(keeps.opened rfl).1, connection, rfl, shelved⟩,
    nofun⟩, rfl⟩

theorem sessionBegin_closed (keeps : Keeps path false shelf registry)
    (prepare : Bool) (statement : Statement) :
    sessionBegin prepare statement registry = .error .errNotInitialized := by
  unfold sessionBegin
  rw [(keeps.closed rfl).1]

theorem sessionBegin_unprepared (opened : registry.db = some connection)
    (initialized : registry.initialized = true) :
    sessionBegin false statement registry = .error .errDbQueryFailed := by
  unfold sessionBegin
  simp only [opened, initialized, Bool.true_eq_false, Bool.false_eq_true,
    false_and, if_false]

theorem sqlExecLocked_meant {values : Row}
    {write : RecordMap kind.Record → Option (RecordMap kind.Record)}
    (writes : Writes statement values write)
    (keeps : Keeps path up shelf registry) (calls : ExecCalls) :
    Meant path up (sqlExecLocked calls statement values registry)
      (shelf.exec up calls write) := by
  unfold sqlExecLocked Shelf.exec
  cases up with
  | false =>
      rw [sessionBegin_closed keeps]
      exact keeps.refused _
  | true =>
      obtain ⟨_, connection, opened, shelved⟩ := keeps.opened rfl
      have stores := shelved.visible kind
      rcases calls with ⟨_ | _, steps⟩
      · rw [sessionBegin_unprepared opened keeps.initialized]
        exact keeps.refused _
      rw [sessionBegin_of_opened opened keeps.initialized rfl
        (writes.resolves _ _ stores)]
      cases steps with
      | false => exact keeps.moved shelved _
      | true =>
          cases written : write (shelf.visible kind) with
          | none =>
              have rejected := writes.rejects _ _ stores written
              simp only [Connection.step_none rejected]
              exact keeps.moved shelved _
          | some next =>
              obtain ⟨table, executed, nextStores⟩ :=
                writes.executes _ _ _ stores written
              simp only [Connection.step_done executed]
              exact keeps.moved
                (shelved.store (shelved.visible.replaced nextStores)) _

end Statements

/-! ### A batch -/

section Batches

variable {kind : RecordKind} {path : Bytes} {up : Bool} {shelf : Shelf}
  {registry : SqlRegistry}

/-- The loop of a batch inserts what the maps take, and a loop that stops rolls
back whatever it had inserted. -/
def Looped (rollback : Bool) (connection : Connection) (maps : RecordMaps)
    (inserted : RecordMap kind.Record × Bool)
    (result : Connection × HeapstoreError) : Prop :=
  ∃ database, Holds database (Function.update maps kind inserted.1) ∧
    result =
      if inserted.2 then (connection.store database, .success)
      else (((connection.store database).rollback rollback).1,
        .errDbQueryFailed)

theorem Looped.stopped {maps : RecordMaps} {connection : Connection}
    (holds : Holds connection.visible maps) (rollback : Bool) :
    Looped rollback connection maps (maps kind, false)
      ((connection.rollback rollback).1, .errDbQueryFailed) := by
  refine ⟨connection.visible, ?_, ?_⟩
  · rw [Function.update_eq_self]
    exact holds
  · rw [Connection.store_visible]
    exact (if_neg nofun).symm

theorem batchLoop_looped {maps : RecordMaps} {connection : Connection}
    (rollback : Bool) (steps : Nat → Bool) (records : List kind.Record)
    (holds : Holds connection.visible maps) :
    Looped rollback connection maps (insertEach steps records (maps kind))
      (batchLoop kind.shape.insert kind.shape.bind rollback steps records
        connection) := by
  induction records generalizing steps maps connection with
  | nil =>
      refine ⟨connection.visible, ?_, ?_⟩
      · unfold insertEach
        rw [Function.update_eq_self]
        exact holds
      · rw [Connection.store_visible]
        rfl
  | cons record rest ih =>
      have writes := insert_writes record
      have stores := holds kind
      unfold insertEach batchLoop
      cases first : steps 0 with
      | false => exact .stopped holds rollback
      | true =>
          simp only [Bool.true_eq_false, if_false]
          cases written : insertInto record (maps kind) with
          | none =>
              rw [Connection.step_none (writes.rejects _ _ stores written)]
              exact .stopped holds rollback
          | some map =>
              obtain ⟨table, executed, nextStores⟩ :=
                writes.executes _ _ _ stores written
              rw [Connection.step_done executed]
              have later := holds.replaced nextStores
              rw [← Connection.visible_store connection
                (Function.update connection.visible kind.shape.table
                  (some table))] at later
              have looped := ih (fun index => steps (index + 1)) later
              unfold Looped at looped
              rw [Function.update_self] at looped
              simp only [Function.update_idem, Connection.store_store] at looped
              exact looped

/-- A batch on a store that is up: what its transaction leaves. -/
theorem batchExecLocked_meant (records : List kind.Record)
    (keeps : Keeps path up shelf registry) (calls : BatchCalls) :
    Meant path up
      (batchExecLocked calls kind.shape.insert kind.shape.bind records registry)
      (shelf.batch up calls records) := by
  unfold batchExecLocked Shelf.batch
  cases up with
  | false =>
      rw [sessionBegin_closed keeps]
      exact keeps.refused _
  | true =>
      obtain ⟨_, connection, opened, shelved⟩ := keeps.opened rfl
      have stores := shelved.visible kind
      simp only [Bool.true_eq_false, if_false]
      cases prepared : calls.prepare with
      | false =>
          rw [sessionBegin_unprepared opened keeps.initialized]
          exact keeps.refused _
      | true =>
          rw [sessionBegin_of_opened opened keeps.initialized rfl
            stores.resolves_insert]
          obtain ⟨committed, working⟩ := shelved
          rcases connection with ⟨tables, open_⟩
          rcases shelf with ⟨maps, other⟩
          change Option.Rel Holds open_ other at working
          cases working with
          | some holds => exact keeps.moved ⟨committed, .some holds⟩ _
          | none =>
              cases started : calls.start with
              | false => exact keeps.moved ⟨committed, .none⟩ _
              | true =>
                  have begun : Holds (Connection.visible
                      { committed := tables, working := some tables }) maps :=
                    committed
                  obtain ⟨database, holds, looped⟩ :=
                    batchLoop_looped calls.rollback calls.step records begun
                  generalize insertEach calls.step records (maps kind) =
                    inserted at holds looped
                  simp only [Connection.begin_, if_true, Bool.true_eq_false,
                    if_false, looped, Option.isSome_none, Bool.false_eq_true,
                    or_self]
                  have left : Shelved
                      { committed := tables, working := some database }
                      { committed := maps
                        working :=
                          some (Function.update maps kind inserted.1) } :=
                    ⟨committed, .some holds⟩
                  cases inserted.2 with
                  | true =>
                      cases calls.commit with
                      | true => exact keeps.moved ⟨holds, .none⟩ _
                      | false => exact keeps.moved left _
                  | false =>
                      cases calls.rollback with
                      | true => exact keeps.moved ⟨committed, .none⟩ _
                      | false => exact keeps.moved left _

end Batches

/-! ### A registry call -/

section RegistryCalls

variable {kind : RecordKind} {path : Bytes} {up : Bool} {shelf : Shelf}
  {registry : SqlRegistry}

theorem getRecord_meant (keeps : Keeps path up shelf registry)
    (calls : ExecCalls) (id : Bytes) :
    getRecord kind.shape.select kind.shape.extract calls (some id) true
        registry =
      shelf.get up calls id := by
  cases up with
  | false =>
      unfold getRecord registryQueryOne Shelf.get
      simp only [sessionBegin_closed keeps, if_true, Bool.true_eq_false,
        if_false]
  | true =>
      obtain ⟨_, connection, opened, shelved⟩ := keeps.opened rfl
      have stores := shelved.visible kind
      unfold Shelf.get
      rw [if_neg nofun]
      by_cases ok : calls = .ok
      · subst ok
        rw [if_neg (not_not_intro rfl)]
        exact getRecord_eq ⟨opened, keeps.initialized⟩ stores (some id) true
      · rw [if_pos ok]
        unfold getRecord registryQueryOne
        simp only [Bool.true_eq_false, if_false]
        rcases calls with ⟨_ | _, _ | _⟩
        · rw [sessionBegin_unprepared opened keeps.initialized]
        · rw [sessionBegin_unprepared opened keeps.initialized]
        · rw [sessionBegin_of_opened opened keeps.initialized rfl
            stores.resolves_select]
          rfl
        · exact absurd rfl ok

/-- The functions of a kind are the shared ones at its shape. -/
theorem RecordKind.add_eq (kind : RecordKind) :
    kind.add = addRecord kind.shape.recId kind.shape.insert kind.shape.bind := by
  cases kind <;> rfl

theorem RecordKind.batchInsert_eq (kind : RecordKind) :
    kind.batchInsert = batchRecords kind.shape.insert kind.shape.bind := by
  cases kind <;> rfl

theorem RecordKind.get_eq (kind : RecordKind) :
    kind.get = getRecord kind.shape.select kind.shape.extract := by
  cases kind <;> rfl

theorem RecordKind.update_eq (kind : RecordKind)
    (able : kind.updatable = true) :
    kind.update able = addRecord kind.shape.recId
      (kind.updateShape able).update (kind.updateShape able).bindUpdate := by
  cases kind with
  | agent => rfl
  | skill => cases able
  | session => rfl

theorem RecordKind.delete_eq (kind : RecordKind) :
    kind.delete = deleteRecord kind.shape.delete := by
  cases kind <;> rfl

theorem RecordCall.run_meant (call : RecordCall kind)
    (keeps : Keeps path up shelf registry) :
    Keeps path up (call.meaning up shelf).1 (call.run registry).1 ∧
      (call.run registry).2 = (call.meaning up shelf).2 := by
  have code : ∀ {result : SqlRegistry × HeapstoreError}
      {meant : Shelf × HeapstoreError}, Meant path up result meant →
      Keeps path up meant.1 result.1 ∧
        (@coded kind _ result).2 = (@coded kind _ meant).2 :=
    fun meant => ⟨meant.1, congrArg (·, none) meant.2⟩
  cases call with
  | add calls record =>
      simp only [RecordCall.run, RecordCall.meaning]
      rw [kind.add_eq]
      cases record with
      | none => exact ⟨keeps, rfl⟩
      | some record =>
          simp only [addRecord]
          split
          · exact ⟨keeps, rfl⟩
          · exact code (sqlExecLocked_meant (insert_writes record) keeps calls)
  | batchInsert calls records =>
      simp only [RecordCall.run, RecordCall.meaning]
      rw [kind.batchInsert_eq]
      cases records with
      | none => exact ⟨keeps, rfl⟩
      | some records =>
          simp only [batchRecords]
          split
          · exact ⟨keeps, rfl⟩
          · exact code (batchExecLocked_meant records keeps calls)
  | get calls id out =>
      simp only [RecordCall.run, RecordCall.meaning]
      rw [kind.get_eq]
      cases id with
      | none => exact ⟨keeps, rfl⟩
      | some id =>
          cases out with
          | false => exact ⟨keeps, rfl⟩
          | true => exact ⟨keeps, getRecord_meant keeps calls id⟩
  | update able calls record =>
      simp only [RecordCall.run, RecordCall.meaning]
      rw [kind.update_eq able]
      cases record with
      | none => exact ⟨keeps, rfl⟩
      | some record =>
          simp only [addRecord]
          split
          · exact ⟨keeps, rfl⟩
          · exact code
              (sqlExecLocked_meant (update_writes able record) keeps calls)
  | delete calls id =>
      simp only [RecordCall.run, RecordCall.meaning]
      rw [kind.delete_eq]
      cases id with
      | none => exact ⟨keeps, rfl⟩
      | some id =>
          exact code (sqlExecLocked_meant (delete_writes id) keeps calls)

end RegistryCalls

end Heapstore.Durability
