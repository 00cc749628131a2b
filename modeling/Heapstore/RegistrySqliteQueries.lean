/-
Queries and iterators of the SQLite backend.

A query prepares a statement and binds its filters; its rows are found at the
first step of the iterator and handed out one at a time.  The tables that the
connection of the statement shows are an argument of every step.
-/

import Heapstore.Foundation.OperationRun
import Heapstore.RegistrySqlite

namespace Heapstore.RegistrySqlite

open ByteText SqlTable SqlConnection OperationRun

/-- The record type of an iterator. -/
inductive RecType where
  | agent
  | skill
  | session
  deriving DecidableEq

abbrev RecType.Record : RecType → Type
  | .agent => AgentRecord
  | .skill => SkillRecord
  | .session => SessionRecord

def extractRow : (type : RecType) → Row → type.Record
  | .agent => extractAgentRow
  | .skill => extractSkillRow
  | .session => extractSessionRow

/-- `heapstore_registry_iter`.  Before the first step no row is known. -/
structure SqlIter (type : RecType) where
  statement : Statement
  values : Row
  hasMore : Bool
  pending : Option (List Row)

structure QueryCalls where
  prepare : Bool
  alloc : Bool
  deriving DecidableEq

def QueryCalls.ok : QueryCalls := { prepare := true, alloc := true }

def queryPrecheck (iter : Bool) (registry : SqlRegistry) : HeapstoreError :=
  if iter = false then .errInvalidParam
  else if registry.initialized = false ∨ registry.db.isNone then
    .errNotInitialized
  else .success

def registryQueryOpen (calls : QueryCalls) (type : RecType)
    (statement : Statement) (values : Row) (registry : SqlRegistry) :
    HeapstoreError × Option (SqlIter type) :=
  match sessionBegin calls.prepare statement registry with
  | .error error => (error, none)
  | .ok _ =>
      if calls.alloc then
        (.success,
          some { statement := statement, values := values, hasMore := true
                 pending := none })
      else (.errOutOfMemory, none)

/-- The shape of the three query functions. -/
def queryRecords (type : RecType) (statement : Statement) (values : Row)
    (calls : QueryCalls) (iter : Bool) (registry : SqlRegistry) :
    HeapstoreError × Option (SqlIter type) :=
  let pre := queryPrecheck iter registry
  if pre ≠ .success then (pre, none)
  else registryQueryOpen calls type statement values registry

/-- The filters that are given, in the order of the conditions. -/
def bindAgentFilters (filterType filterStatus : Option Bytes) : Row :=
  filterType.toList.map .text ++ filterStatus.toList.map .text

def registryQueryAgents (filterType filterStatus : Option Bytes) :=
  queryRecords .agent (queryAgents filterType.isSome filterStatus.isSome)
    (bindAgentFilters filterType filterStatus)

def registryQuerySkills := queryRecords .skill querySkills []

/-- An empty status is no filter. -/
def registryQuerySessions (filterStatus : Option Bytes) :=
  match filterStatus with
  | some (byte :: rest) =>
      queryRecords .session (querySessions true) (registryBindId (byte :: rest))
  | _ => queryRecords .session (querySessions false) []

def SqlIter.rows {type : RecType} (iter : SqlIter type) (database : Database) :
    List Row :=
  iter.pending.getD
    (match iter.statement.execute iter.values database with
      | some (_, rows) => rows
      | none => [])

/-- `heapstore_registry_iter_next`: a step that gives no row ends the iterator. -/
def iterNext {type : RecType} (step : Bool) (database : Database) (out : Bool)
    (iter : Option (SqlIter type)) :
    Option (SqlIter type) × HeapstoreError × Option type.Record :=
  match iter with
  | none => (none, .errInvalidParam, none)
  | some iter =>
      if out = false then (some iter, .errInvalidParam, none)
      else if iter.hasMore = false then (some iter, .errNotFound, none)
      else
        match (if step then iter.rows database else []) with
        | [] => (some { iter with hasMore := false }, .errNotFound, none)
        | row :: rest =>
            (some { iter with pending := some rest }, .success,
              some (extractRow type row))

/-! ### What a query asks for -/

def agentMatches (filterType filterStatus : Option Bytes)
    (record : AgentRecord) : Bool :=
  filterType.all (fun wanted => record.type.text = wanted) &&
    filterStatus.all fun wanted => record.status.text = wanted

def sessionMatches (filterStatus : Option Bytes) (record : SessionRecord) :
    Bool :=
  filterStatus.all fun wanted => record.status.text = wanted

/-! ### What an iterator hands out -/

section Iteration

variable {type : RecType} {database : Database}

def SqlIter.left (database : Database) (iter : SqlIter type) :
    List type.Record :=
  if iter.hasMore then (iter.rows database).map (extractRow type) else []

/-- Iterating until the end, every step succeeding. -/
abbrev IteratesTo (database : Database) (iter : SqlIter type)
    (records : List type.Record) : Prop :=
  Drains (iterNext true database true) Prod.snd (.errNotFound, none)
    (some iter) records

theorem iterNext_finished {iter : SqlIter type}
    (empty : iter.left database = []) :
    (iterNext true database true (some iter)).2 = (.errNotFound, none) := by
  unfold iterNext
  cases more : iter.hasMore with
  | false => simp [more]
  | true =>
      have none_ : iter.rows database = [] := by
        simpa [SqlIter.left, more] using empty
      simp [more, none_]

theorem iterNext_returned {iter : SqlIter type} {first : type.Record}
    {rest : List type.Record} (shown : iter.left database = first :: rest) :
    ∃ next, iterNext true database true (some iter) =
        (some next, .success, some first) ∧ next.left database = rest := by
  cases more : iter.hasMore with
  | false => simp [SqlIter.left, more] at shown
  | true =>
      cases rows : iter.rows database with
      | nil => simp [SqlIter.left, more, rows] at shown
      | cons row others =>
          simp only [SqlIter.left, more, if_true, rows, List.map_cons,
            List.cons.injEq] at shown
          obtain ⟨rfl, rfl⟩ := shown
          refine ⟨{ iter with pending := some others }, ?_, ?_⟩
          · simp [iterNext, more, rows]
          · simp [SqlIter.left, more, SqlIter.rows]

theorem iterates_to_left (iter : SqlIter type) :
    IteratesTo database iter (iter.left database) := by
  let view : Option (SqlIter type) → List type.Record :=
    fun iter => iter.elim [] (SqlIter.left database)
  apply drains_view (fun iter => iter.isSome = true) view _ _ (some iter) rfl
  · intro state valid empty
    obtain ⟨iter, rfl⟩ := Option.isSome_iff_exists.mp valid
    exact iterNext_finished empty
  · intro state first rest valid shown
    obtain ⟨iter, rfl⟩ := Option.isSome_iff_exists.mp valid
    obtain ⟨next, here, later⟩ := iterNext_returned shown
    rw [here]
    exact ⟨rfl, rfl, later⟩

end Iteration

/-- A query on an open registry gives an iterator over the selected rows. -/
theorem queryRecords_iterates (type : RecType) (values : Row)
    {names conditions : List String} {target : String} {order : Option String}
    {table : Table} {registry : SqlRegistry} {connection : Connection}
    (opened : registry.db = some connection)
    (ready : registry.initialized = true)
    (present : connection.visible target = some table)
    (named : ∀ name ∈ (Statement.select names target conditions order).named,
      name ∈ table.names) :
    ∃ iter, queryRecords type (.select names target conditions order) values
        .ok true registry = (.success, some iter) ∧
      IteratesTo connection.visible iter
        ((table.select names (conditions.zip values) order).map
          (extractRow type)) := by
  have begun : sessionBegin true (.select names target conditions order)
      registry = .ok connection :=
    sessionBegin_of_opened opened ready rfl ⟨table, present, named⟩
  refine ⟨{ statement := .select names target conditions order
            values := values, hasMore := true, pending := none }, ?_, ?_⟩
  · unfold queryRecords queryPrecheck registryQueryOpen
    simp only [opened, ready]
    change (match sessionBegin true _ registry with
      | .error error => (error, none)
      | .ok _ => _) = _
    rw [begun]
    rfl
  · have executed : (Statement.select names target conditions order).execute
        values connection.visible = some (connection.visible,
          table.select names (conditions.zip values) order) := by
      unfold Statement.execute
      simp only [Statement.target, present]
    have shown := @iterates_to_left type connection.visible
      { statement := .select names target conditions order
        values := values, hasMore := true, pending := none }
    unfold SqlIter.left SqlIter.rows at shown
    simpa only [Option.getD_none, executed, if_true] using shown

end Heapstore.RegistrySqlite
