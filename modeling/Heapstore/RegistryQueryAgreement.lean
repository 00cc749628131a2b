/-
Filtered queries on both registry backends.

Iterating a query to its end should give the matching records, each once.  The
SQLite backend turns the filters into conditions of its statement; the
in-memory backend drops them and hands out its whole list.
-/

import Heapstore.RegistryMemoryIteration
import Heapstore.RegistrySqliteRoundTrip
import Mathlib.Data.List.Perm.Basic

namespace Heapstore.RegistryQueryAgreement

open ByteText OperationRun SqlTable SqlConnection RegistryMemory
  RegistryBackendAgreement
open RegistrySqlite (SqlRegistry SqlIter RecType ShowsTable IteratesTo
  extractRow agentMatches sessionMatches agentFields sessionFields
  registryAddAgent plannerAgent userSession)

variable {Record : Type}

/-! ### What the in-memory iterators hand out -/

section InMemory

def handedRecord : IterationAnswer Record → Option Record
  | .record .success out => out
  | _ => none

/-- Iterating until the end, every position standing at a node. -/
abbrev MemoryIteratesTo (iterator : Nat) (domain : NodeDomain Record)
    (records : List Record) : Prop :=
  Drains (RegistryMemory.iterNext iterator true) handedRecord
    (.record .errNotFound none) domain records

variable {domain : NodeDomain Record} {iterator : Nat}

structure Standing (iterator : Nat) (domain : NodeDomain Record)
    (records : List Record) : Prop where
  stands : ∃ position, domain.iterators iterator = some position ∧
    (∀ address, position = some address → address ∈ domain.addresses) ∧
      (ahead domain.nodes position).map Node.data = records

theorem iterNext_ended (standing : Standing iterator domain []) :
    (RegistryMemory.iterNext iterator true domain).2 =
      .record .errNotFound none := by
  obtain ⟨position, opened, inside, empty⟩ := standing
  unfold RegistryMemory.iterNext
  rw [opened]
  cases position with
  | none => rfl
  | some address =>
      obtain ⟨⟨node, next⟩, read⟩ :=
        Option.isSome_iff_exists.mp (readNode_isSome.mpr (inside address rfl))
      obtain ⟨_, _, split⟩ := ahead_of_readNode domain.apart read
      rw [split] at empty
      cases empty

theorem iterNext_handed {first : Record} {rest : List Record}
    (standing : Standing iterator domain (first :: rest)) :
    handedRecord (RegistryMemory.iterNext iterator true domain).2 =
        some first ∧
      Standing iterator (RegistryMemory.iterNext iterator true domain).1
        rest := by
  obtain ⟨position, opened, inside, shown⟩ := standing
  cases position with
  | none => cases shown
  | some address =>
      obtain ⟨⟨node, next⟩, read⟩ :=
        Option.isSome_iff_exists.mp (readNode_isSome.mpr (inside address rfl))
      obtain ⟨_, leads, split⟩ := ahead_of_readNode domain.apart read
      rw [split, List.map_cons, List.cons.injEq] at shown
      obtain ⟨rfl, rfl⟩ := shown
      simp only [RegistryMemory.iterNext, opened, read, Bool.true_eq_false,
        if_false]
      exact ⟨rfl, next, Function.update_self .., leads, rfl⟩

theorem iterates_of_standing {records : List Record}
    (standing : Standing iterator domain records) :
    MemoryIteratesTo iterator domain records := by
  induction records generalizing domain with
  | nil => exact .finished domain (iterNext_ended standing)
  | cons first rest ih =>
      obtain ⟨here, later⟩ := iterNext_handed standing
      exact .returned domain first rest here (ih later)

/-- Opening an iterator and stepping it to the end gives the whole list. -/
theorem regQuery_iterates (ready : domain.initialized = true)
    (free : domain.iterators iterator = none) :
    (regQuery iterator true true domain).2 = .success ∧
      MemoryIteratesTo iterator (regQuery iterator true true domain).1
        domain.records := by
  simp only [regQuery, ready, free, Bool.true_eq_false, if_false,
    Option.isSome_none, Bool.false_eq_true, or_self]
  refine ⟨trivial, iterates_of_standing ⟨_, Function.update_self .., ?_, ?_⟩⟩
  · intro address led
    obtain ⟨node, first, rfl⟩ := Option.map_eq_some_iff.mp led
    exact List.mem_map_of_mem (List.mem_of_mem_head? first)
  · exact congrArg (List.map Node.data) (ahead_head domain.nodes)

end InMemory

/-! ### What the statements select -/

section Sqlite

/-- The rows of the table read as the records. -/
def ReadsAs (shape : SqlShape Record) (table : Table) (records : List Record) :
    Prop :=
  table.rows.map (fun row => shape.fields.map (cell table.columns row)) =
    records.map shape.bind

theorem descending_perm (columns : List Column) (order : Option String)
    (rows : List Row) : (descending columns order rows).Perm rows := by
  cases order with
  | none => exact List.Perm.refl rows
  | some name => exact List.mergeSort_perm ..

/-- A condition on rows that agrees with a predicate on the records keeps the rows
of the records that the predicate keeps. -/
theorem filter_rows_eq {shape : SqlShape Record} {columns : List Column}
    (kept : Row → Bool) (wanted : Record → Bool)
    (decides : ∀ row record,
      shape.fields.map (cell columns row) = shape.bind record →
        kept row = wanted record)
    (rows : List Row) (records : List Record)
    (reads : rows.map (fun row => shape.fields.map (cell columns row)) =
      records.map shape.bind) :
    (rows.filter kept).map
        (fun row => shape.extract (shape.fields.map (cell columns row))) =
      records.filter wanted := by
  induction rows generalizing records with
  | nil =>
      cases records with
      | nil => rfl
      | cons record rest => cases reads
  | cons row rows ih =>
      cases records with
      | nil => cases reads
      | cons record records =>
          rw [List.map_cons, List.map_cons, List.cons.injEq] at reads
          obtain ⟨here, later⟩ := reads
          have same := decides row record here
          cases decided : wanted record with
          | true =>
              rw [List.filter_cons_of_pos (same.trans decided),
                List.filter_cons_of_pos decided, List.map_cons, here,
                shape.extract_bind, ih records later]
          | false =>
              rw [List.filter_cons_of_neg (by simp [same, decided]),
                List.filter_cons_of_neg (by simp [decided]), ih records later]

theorem select_perm_filter {shape : SqlShape Record} {table : Table}
    {records : List Record} (reads : ReadsAs shape table records)
    (conditions : List (String × Value)) (order : Option String)
    (wanted : Record → Bool)
    (decides : ∀ row record,
      shape.fields.map (cell table.columns row) = shape.bind record →
        (conditions.all fun condition =>
          equals (cell table.columns row condition.1) condition.2) =
            wanted record) :
    ((table.select shape.fields conditions order).map shape.extract).Perm
      (records.filter wanted) := by
  unfold Table.select
  rw [List.map_map, ← filter_rows_eq _ wanted decides table.rows records reads]
  exact (descending_perm table.columns order _).map _

theorem queryRecords_perm (type : RecType) {shape : SqlShape type.Record}
    {conditions : List String} {order : Option String} {values : Row}
    {registry : SqlRegistry} {connection : Connection} {table : Table}
    {records : List type.Record} (wanted : type.Record → Bool)
    (extract : extractRow type = shape.extract)
    (shows : ShowsTable shape registry connection table)
    (reads : ReadsAs shape table records)
    (conditionNamed : ∀ name ∈ conditions, name ∈ table.names)
    (orderNamed : ∀ name ∈ order, name ∈ table.names)
    (decides : ∀ row record,
      shape.fields.map (cell table.columns row) = shape.bind record →
        ((conditions.zip values).all fun condition =>
          equals (cell table.columns row condition.1) condition.2) =
            wanted record) :
    ∃ iter items, RegistrySqlite.queryRecords type
        (.select shape.fields shape.table conditions order) values .ok true
          registry = (.success, some iter) ∧
      IteratesTo connection.visible iter items ∧
        items.Perm (records.filter wanted) := by
  obtain ⟨iter, queried, iterates⟩ := RegistrySqlite.queryRecords_iterates type
    values shows.opened shows.ready shows.present
    (shows.query_named conditionNamed orderNamed)
  refine ⟨iter, _, queried, iterates, ?_⟩
  rw [extract]
  exact select_perm_filter reads _ order wanted decides

end Sqlite

/-! ### Stores of either backend -/

/-- A registry with the address at which an iterator object is put. -/
inductive RegistryStore (Record : Type) where
  | inMemory (domain : NodeDomain Record) (iterator : Nat)
  | sqlite (registry : SqlRegistry)

/-- An initialised store with its records. -/
def Holds (shape : SqlShape Record) (records : List Record) :
    RegistryStore Record → Prop
  | .inMemory domain iterator =>
      domain.initialized = true ∧ domain.iterators iterator = none ∧
        domain.records = records
  | .sqlite registry => ∃ connection table,
      ShowsTable shape registry connection table ∧ ReadsAs shape table records

def sqliteYields {type : RecType} (registry : SqlRegistry)
    (opened : HeapstoreError × Option (SqlIter type))
    (items : List type.Record) : Prop :=
  ∃ iter connection, opened = (.success, some iter) ∧
    registry.db = some connection ∧ IteratesTo connection.visible iter items

def memoryYields (iterator : Nat)
    (opened : NodeDomain Record × HeapstoreError) (items : List Record) :
    Prop :=
  opened.2 = .success ∧ MemoryIteratesTo iterator opened.1 items

/-- What iterating the query until the end hands out. -/
def agentsYielded (filterType filterStatus : Option Bytes) :
    RegistryStore AgentRecord → List AgentRecord → Prop
  | .inMemory domain iterator =>
      memoryYields iterator (RegistryMemory.registryQueryAgents filterType
        filterStatus iterator true true domain)
  | .sqlite registry =>
      sqliteYields registry (RegistrySqlite.registryQueryAgents filterType
        filterStatus .ok true registry)

def sessionsYielded (filterStatus : Option Bytes) :
    RegistryStore SessionRecord → List SessionRecord → Prop
  | .inMemory domain iterator =>
      memoryYields iterator (RegistryMemory.registryQuerySessions filterStatus
        iterator true true domain)
  | .sqlite registry =>
      sqliteYields registry (RegistrySqlite.registryQuerySessions filterStatus
        .ok true registry)

/-- The iteration hands out each stored record that is wanted, once, and no
other. -/
def HandsOutExactly (wanted : Record → Bool) (records : List Record)
    (yields : List Record → Prop) : Prop :=
  ∃ items, yields items ∧ items.Perm (records.filter wanted)

/-- The filters leave out no record of an in-memory store. -/
def FiltersAll (wanted : Record → Bool) (records : List Record) :
    RegistryStore Record → Prop
  | .inMemory _ _ => ∀ record ∈ records, wanted record = true
  | .sqlite _ => True

/-! ### Exact answers -/

/-- The in-memory query is exact exactly when its filters leave out nothing. -/
theorem memoryYields_iff {domain : NodeDomain Record} {iterator : Nat}
    {records : List Record} (wanted : Record → Bool)
    (ready : domain.initialized = true)
    (free : domain.iterators iterator = none)
    (stored : domain.records = records) :
    HandsOutExactly wanted records
        (memoryYields iterator (regQuery iterator true true domain)) ↔
      ∀ record ∈ records, wanted record = true := by
  obtain ⟨succeeded, iterates⟩ := regQuery_iterates ready free
  rw [stored] at iterates
  constructor
  · rintro ⟨items, ⟨_, drained⟩, permuted⟩
    cases Drains.unique rfl iterates drained
    -- The filter keeps as many records as there are.
    have lengths := permuted.length_eq
    exact List.length_filter_eq_length_iff.mp lengths.symm
  · intro all
    refine ⟨records, ⟨succeeded, iterates⟩, ?_⟩
    rw [List.filter_eq_self.mpr all]

section Exact

variable {registry : SqlRegistry} {connection : Connection} {table : Table}

theorem agents_sqlite_exact {records : List AgentRecord}
    (shows : ShowsTable agentShape registry connection table)
    (reads : ReadsAs agentShape table records)
    (filterType filterStatus : Option Bytes) :
    HandsOutExactly (agentMatches filterType filterStatus) records
      (agentsYielded filterType filterStatus (.sqlite registry)) := by
  have unordered : ∀ name ∈ (none : Option String), name ∈ table.names := by
    simp
  obtain ⟨iter, items, queried, iterates, permuted⟩ :=
    queryRecords_perm .agent (agentMatches filterType filterStatus) rfl shows
      reads
      (fun name member => shows.named name
        (RegistrySqlite.agentConditions_named _ _ name member))
      unordered
      (fun _ _ shown =>
        RegistrySqlite.agentConditions_decide filterType filterStatus shown)
  exact ⟨items, ⟨iter, connection, queried, shows.opened, iterates⟩, permuted⟩

theorem sessions_sqlite_exact {records : List SessionRecord}
    (shows : ShowsTable sessionShape registry connection table)
    (reads : ReadsAs sessionShape table records) {filterStatus : Option Bytes}
    (named : filterStatus ≠ some []) :
    HandsOutExactly (sessionMatches filterStatus) records
      (sessionsYielded filterStatus (.sqlite registry)) := by
  have sorted : ∀ name ∈ some "last_active_at", name ∈ table.names :=
    shows.order_named (by decide)
  rcases filterStatus with _ | _ | ⟨byte, rest⟩
  case none =>
    have unfiltered : ∀ name ∈ ([] : List String), name ∈ table.names := by
      simp
    obtain ⟨iter, items, queried, iterates, permuted⟩ :=
      queryRecords_perm .session (sessionMatches none) rfl shows reads
        unfiltered sorted (fun _ _ _ => rfl)
    exact ⟨items, ⟨iter, connection, queried, shows.opened, iterates⟩, permuted⟩
  case some.nil => exact absurd rfl named
  case some.cons =>
    have filtered : ∀ name ∈ ["status"], name ∈ table.names :=
      shows.condition_named (by decide)
    obtain ⟨iter, items, queried, iterates, permuted⟩ :=
      queryRecords_perm .session (sessionMatches (some (byte :: rest))) rfl
        shows reads filtered sorted
        (fun _ _ shown =>
          RegistrySqlite.sessionCondition_decides (byte :: rest) shown)
    exact ⟨items, ⟨iter, connection, queried, shows.opened, iterates⟩, permuted⟩

end Exact

/-- A filtered query is exact on either backend, except that the in-memory one
also hands out the records that its filters leave out. -/
theorem registry_queries_exact_iff {agents : List AgentRecord}
    {sessions : List SessionRecord} (agentStore : RegistryStore AgentRecord)
    (sessionStore : RegistryStore SessionRecord)
    (filterType filterStatus sessionStatus : Option Bytes)
    (agentsHeld : Holds agentShape agents agentStore)
    (sessionsHeld : Holds sessionShape sessions sessionStore)
    (named : sessionStatus ≠ some []) :
    (HandsOutExactly (agentMatches filterType filterStatus) agents
        (agentsYielded filterType filterStatus agentStore) ↔
      FiltersAll (agentMatches filterType filterStatus) agents agentStore) ∧
      (HandsOutExactly (sessionMatches sessionStatus) sessions
          (sessionsYielded sessionStatus sessionStore) ↔
        FiltersAll (sessionMatches sessionStatus) sessions sessionStore) := by
  constructor
  · cases agentStore with
    | inMemory domain iterator =>
        obtain ⟨ready, free, stored⟩ := agentsHeld
        exact memoryYields_iff _ ready free stored
    | sqlite registry =>
        obtain ⟨connection, table, shows, reads⟩ := agentsHeld
        exact iff_of_true (agents_sqlite_exact shows reads _ _) trivial
  · cases sessionStore with
    | inMemory domain iterator =>
        obtain ⟨ready, free, stored⟩ := sessionsHeld
        exact memoryYields_iff _ ready free stored
    | sqlite registry =>
        obtain ⟨connection, table, shows, reads⟩ := sessionsHeld
        exact iff_of_true (sessions_sqlite_exact shows reads named) trivial

def oneAgentDomain : NodeDomain AgentRecord :=
  (nodeAdd agentDomain.recId { node := some 0, data := true }
    (some (agentNamed "a")) emptyDomain).1

/-- A SQLite registry with an agent without a type and a planner. -/
def twoAgents : SqlRegistry :=
  (registryAddAgent .ok (some plannerAgent)
    (registryAddAgent .ok (some (agentNamed "a"))
      (sqliteStart none none)).1).1

/-- In memory, a session without a status and an active one. -/
def twoSessions : NodeDomain SessionRecord :=
  let one := (nodeAdd sessionDomain.recId { node := some 0, data := true }
    (some userSession) emptyDomain).1
  (nodeAdd sessionDomain.recId { node := some 1, data := true }
    (some (sessionNamed "s")) one).1

/-- Of the agents just the planner is handed out, of the sessions all. -/
theorem registry_queries_exact_iff_filtered :
    HandsOutExactly (agentMatches (some (ofString "planner")) none)
        [agentNamed "a", plannerAgent]
        (agentsYielded (some (ofString "planner")) none (.sqlite twoAgents)) ∧
      ¬HandsOutExactly (sessionMatches (some (ofString "active")))
        [sessionNamed "s", userSession]
        (sessionsYielded (some (ofString "active"))
          (.inMemory twoSessions 0)) := by
  obtain ⟨agents, sessions⟩ := @registry_queries_exact_iff
    [agentNamed "a", plannerAgent] [sessionNamed "s", userSession]
    (.sqlite twoAgents) (.inMemory twoSessions 0)
    (some (ofString "planner")) none (some (ofString "active"))
    ⟨_, _, ⟨rfl, rfl, rfl, by decide, by decide⟩, rfl⟩
    ⟨by decide, by decide, by decide⟩ (by decide)
  refine ⟨agents.mpr trivial, fun exact_ => ?_⟩
  have active := sessions.mp exact_ (sessionNamed "s") List.mem_cons_self
  exact absurd active (by decide)

/-- An agent without a type is handed out by a query for the type "planner". -/
theorem agents_query_ignores_filter :
    ¬∀ (store : RegistryStore AgentRecord) records filterType filterStatus,
      Holds agentShape records store →
        HandsOutExactly (agentMatches filterType filterStatus) records
          (agentsYielded filterType filterStatus store) := by
  intro always
  obtain ⟨items, ⟨_, drained⟩, permuted⟩ :=
    always (.inMemory oneAgentDomain 0) [agentNamed "a"]
      (some (ofString "planner")) none ⟨by decide, by decide, by decide⟩
  have empty : [agentNamed "a"].filter
      (agentMatches (some (ofString "planner")) none) = [] := by
    decide
  rw [empty] at permuted
  rw [permuted.eq_nil] at drained
  cases drained with
  | finished _ ended => exact absurd ended (by decide)

end Heapstore.RegistryQueryAgreement
