/-
One connection to a database of typed tables.

A statement is prepared against the tables that are visible, executed as a
whole or not at all, and recorded in the open transaction when there is one.
Whether the engine itself fails at a call is an argument of that call.
-/

import Heapstore.Foundation.SqlTable
import Mathlib.Logic.Function.Basic

namespace SqlConnection

open SqlTable

abbrev Database := String → Option Table

/-! ### Statements -/

inductive Statement where
  | insert (table : String) (names : List String)
  | select (names : List String) (table : String) (conditions : List String)
      (order : Option String)
  | update (table : String) (names : List String) (key : String)
  | delete (table : String) (key : String)
  deriving DecidableEq

def Statement.target : Statement → String
  | .insert table _ => table
  | .select _ table _ _ => table
  | .update table _ _ => table
  | .delete table _ => table

def Statement.named : Statement → List String
  | .insert _ names => names
  | .select names _ conditions order => names ++ conditions ++ order.toList
  | .update _ names key => names ++ [key]
  | .delete _ key => [key]

/-- Preparation resolves the table and every column. -/
def Statement.Resolves (statement : Statement) (database : Database) : Prop :=
  ∃ table, database statement.target = some table ∧
    ∀ name ∈ statement.named, name ∈ table.names

instance (statement : Statement) (database : Database) :
    Decidable (statement.Resolves database) :=
  match found : database statement.target with
  | none => isFalse fun ⟨_table, present, _⟩ => by
      rw [found] at present
      cases present
  | some table =>
      decidable_of_iff (∀ name ∈ statement.named, name ∈ table.names)
        ⟨fun all => ⟨table, found, all⟩, fun ⟨_other, present, all⟩ => by
          rw [found] at present
          cases present
          exact all⟩

/-- The database after the statement with its result rows, or nothing when a
constraint is violated.  Parameters come in the order of the statement text. -/
def Statement.execute (statement : Statement) (values : Row)
    (database : Database) : Option (Database × List Row) :=
  match database statement.target with
  | none => none
  | some table =>
      match statement with
      | .insert name names =>
          (table.insert (newRow table.columns names values)).map fun next =>
            (Function.update database name (some next), [])
      | .select names _ conditions order =>
          some (database, table.select names (conditions.zip values) order)
      | .update name names key =>
          (table.update names values key
            (values.getD names.length .null)).map fun next =>
              (Function.update database name (some next), [])
      | .delete name key =>
          some (Function.update database name
            (some (table.delete key (values.getD 0 .null))), [])

/-! ### Schema statements -/

/-- Definitions that leave what exists alone. -/
inductive SchemaStatement where
  | createTable (name : String) (columns : List Column)
  | createIndex (table : String) (column : String)
  deriving DecidableEq

def SchemaStatement.execute (statement : SchemaStatement)
    (database : Database) : Option Database :=
  match statement with
  | .createTable name columns =>
      match database name with
      | some _ => some database
      | none =>
          some (Function.update database name (some (Table.empty columns)))
  | .createIndex name column =>
      match database name with
      | some table => if column ∈ table.names then some database else none
      | none => none

def executeScript :
    (Nat → Bool) → List SchemaStatement → Database → Database × Bool
  | _, [], database => (database, true)
  | succeeds, statement :: rest, database =>
      if succeeds 0 = false then (database, false)
      else
        match statement.execute database with
        | none => (database, false)
        | some next =>
            executeScript (fun index => succeeds (index + 1)) rest next

theorem SchemaStatement.execute_existing {statement : SchemaStatement}
    {database next : Database} {name : String} {table : Table}
    (executed : statement.execute database = some next)
    (present : database name = some table) : next name = some table := by
  cases statement with
  | createTable created columns =>
      unfold SchemaStatement.execute at executed
      cases existing : database created with
      | some _ =>
          simp only [existing, Option.some.injEq] at executed
          rw [← executed, present]
      | none =>
          simp only [existing, Option.some.injEq] at executed
          have different : name ≠ created := by
            rintro rfl
            rw [existing] at present
            cases present
          rw [← executed, Function.update_of_ne different, present]
  | createIndex indexed column =>
      unfold SchemaStatement.execute at executed
      cases existing : database indexed with
      | none => simp [existing] at executed
      | some other =>
          simp only [existing] at executed
          split at executed
          · cases executed
            exact present
          · cases executed

theorem executeScript_existing (succeeds : Nat → Bool)
    (script : List SchemaStatement) {database : Database} {name : String}
    {table : Table} (present : database name = some table) :
    (executeScript succeeds script database).1 name = some table := by
  induction script generalizing succeeds database with
  | nil => exact present
  | cons statement rest ih =>
      unfold executeScript
      split
      · exact present
      · cases executed : statement.execute database with
        | none => exact present
        | some next =>
            exact ih _ (SchemaStatement.execute_existing executed present)

/-! ### Transactions -/

/-- The database on disk and, while a transaction is open, its working copy. -/
structure Connection where
  committed : Database
  working : Option Database

def Connection.visible (connection : Connection) : Database :=
  connection.working.getD connection.committed

def Connection.Idle (connection : Connection) : Prop :=
  connection.working = none

instance (connection : Connection) : Decidable connection.Idle :=
  match open_ : connection.working with
  | none => isTrue open_
  | some _ => isFalse fun idle => by
      rw [Connection.Idle, open_] at idle
      cases idle

/-- A write outside a transaction commits by itself. -/
def Connection.store (connection : Connection) (database : Database) :
    Connection :=
  match connection.working with
  | none => { connection with committed := database }
  | some _ => { connection with working := some database }

inductive StepResult where
  | row (row : Row)
  | done
  | failed
  deriving DecidableEq

def Connection.step (connection : Connection) (succeeds : Bool)
    (statement : Statement) (values : Row) : Connection × StepResult :=
  if succeeds = false then (connection, .failed)
  else
    match statement.execute values connection.visible with
    | none => (connection, .failed)
    | some (database, []) => (connection.store database, .done)
    | some (database, row :: _) => (connection.store database, .row row)

/-- Beginning fails inside a transaction. -/
def Connection.begin_ (connection : Connection) (succeeds : Bool) :
    Connection × Bool :=
  match connection.working with
  | some _ => (connection, false)
  | none =>
      if succeeds then
        ({ connection with working := some connection.committed }, true)
      else (connection, false)

/-- A failed commit leaves the transaction open. -/
def Connection.commit (connection : Connection) (succeeds : Bool) :
    Connection × Bool :=
  match connection.working with
  | none => (connection, false)
  | some database =>
      if succeeds then ({ committed := database, working := none }, true)
      else (connection, false)

def Connection.rollback (connection : Connection) (succeeds : Bool) :
    Connection × Bool :=
  match connection.working with
  | none => (connection, false)
  | some _ =>
      if succeeds then ({ connection with working := none }, true)
      else (connection, false)

/-! ### What each operation does -/

@[simp] theorem Connection.visible_store (connection : Connection)
    (database : Database) :
    (connection.store database).visible = database := by
  rcases connection with ⟨committed, _ | working⟩ <;> rfl

@[simp] theorem Connection.store_visible (connection : Connection) :
    connection.store connection.visible = connection := by
  rcases connection with ⟨committed, _ | working⟩ <;> rfl

@[simp] theorem Connection.store_store (connection : Connection)
    (first second : Database) :
    (connection.store first).store second = connection.store second := by
  rcases connection with ⟨committed, _ | working⟩ <;> rfl

theorem Connection.idle_store {connection : Connection} {database : Database} :
    (connection.store database).Idle ↔ connection.Idle := by
  rcases connection with ⟨committed, _ | working⟩ <;>
    simp [Connection.Idle, Connection.store]

theorem Connection.committed_store {connection : Connection}
    {database : Database} (running : ¬connection.Idle) :
    (connection.store database).committed = connection.committed := by
  rcases connection with ⟨committed, _ | working⟩
  · exact absurd rfl running
  · rfl

theorem Connection.step_done {connection : Connection} {statement : Statement}
    {values : Row} {database : Database}
    (executed : statement.execute values connection.visible =
      some (database, [])) :
    connection.step true statement values =
      (connection.store database, .done) := by
  unfold Connection.step
  rw [executed]
  rfl

theorem Connection.step_none {connection : Connection} {statement : Statement}
    {values : Row} {succeeds : Bool}
    (rejected : statement.execute values connection.visible = none) :
    connection.step succeeds statement values = (connection, .failed) := by
  unfold Connection.step
  rw [rejected]
  split <;> rfl

theorem Connection.step_insert {connection : Connection} {name : String}
    {names : List String} {values : Row} {table next : Table}
    (present : connection.visible name = some table)
    (inserted : table.insert (newRow table.columns names values) = some next) :
    connection.step true (.insert name names) values =
      (connection.store (Function.update connection.visible name (some next)),
        .done) := by
  apply Connection.step_done
  unfold Statement.execute
  simp only [Statement.target, present, inserted, Option.map_some]

theorem Connection.step_insert_rejected {connection : Connection}
    {name : String} {names : List String} {values : Row} {table : Table}
    {succeeds : Bool} (present : connection.visible name = some table)
    (rejected : table.insert (newRow table.columns names values) = none) :
    connection.step succeeds (.insert name names) values =
      (connection, .failed) := by
  apply Connection.step_none
  unfold Statement.execute
  simp only [Statement.target, present, rejected, Option.map_none]

@[simp] theorem Connection.step_false (connection : Connection)
    (statement : Statement) (values : Row) :
    connection.step false statement values = (connection, .failed) := rfl

end SqlConnection
