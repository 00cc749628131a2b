/-
What the SQLite backend stores is what it gives back.

Nothing is assumed of the tables but that the statements resolve on them: the
columns may stand in any order, other columns may be present, and other
programs may have written the other rows.
-/

import Heapstore.RegistryBackendAgreement
import Heapstore.RegistrySqliteQueries

namespace Heapstore.RegistrySqlite

open ByteText SqlTable SqlConnection RegistryBackendAgreement

/-! ### Calls that succeed -/

section Calls

variable {registry : SqlRegistry} {calls : ExecCalls}

theorem sqlExecLocked_success {statement : Statement} {values : Row}
    (succeeded :
      (sqlExecLocked calls statement values registry).2 = .success) :
    ∃ connection database rows, registry.db = some connection ∧
      registry.initialized = true ∧ statement.Resolves connection.visible ∧
      statement.execute values connection.visible = some (database, rows) ∧
      (sqlExecLocked calls statement values registry).1 =
        { registry with db := some (connection.store database) } := by
  unfold sqlExecLocked at succeeded ⊢
  cases session : sessionBegin calls.prepare statement registry with
  | error error =>
      simp only [session] at succeeded
      exact absurd succeeded (sessionBegin_error_ne session)
  | ok connection =>
      obtain ⟨opened, ready, _, resolves⟩ := sessionBegin_ok session
      simp only [session] at succeeded ⊢
      unfold Connection.step at succeeded ⊢
      by_cases stepped : calls.step = false
      · simp [stepped] at succeeded
      · simp only [if_neg stepped] at succeeded ⊢
        cases executed : statement.execute values connection.visible with
        | none => simp [executed] at succeeded
        | some result =>
            obtain ⟨database, rows⟩ := result
            refine ⟨connection, database, rows, opened, ready, resolves,
              executed, ?_⟩
            cases rows <;> rfl

theorem addRecord_success {Record : Type} {recId : Record → Bytes}
    {statement : Statement} {bind : Record → Row} {record : Record}
    (succeeded :
      (addRecord recId statement bind calls (some record) registry).2 =
        .success) :
    addRecord recId statement bind calls (some record) registry =
      sqlExecLocked calls statement (bind record) registry := by
  unfold addRecord at succeeded ⊢
  by_cases unnamed : recId record = []
  · simp [unnamed] at succeeded
  · simp only [if_neg unnamed]

end Calls

/-! ### Reading by id -/

section Shape

variable {Record : Type} {shape : SqlShape Record} {registry : SqlRegistry}

/-- The registry shows a table on which the statements of a shape resolve. -/
structure ShowsTable (shape : SqlShape Record) (registry : SqlRegistry)
    (connection : Connection) (table : Table) : Prop where
  opened : registry.db = some connection
  ready : registry.initialized = true
  present : connection.visible shape.table = some table
  named : ∀ field ∈ shape.fields, field ∈ table.names
  key : "id" ∈ table.names

theorem ShowsTable.query_named {connection : Connection} {table : Table}
    (shows : ShowsTable shape registry connection table)
    {conditions : List String} {order : Option String}
    (conditionNamed : ∀ name ∈ conditions, name ∈ table.names)
    (orderNamed : ∀ name ∈ order, name ∈ table.names) :
    ∀ name ∈ (Statement.select shape.fields shape.table conditions order).named,
      name ∈ table.names := by
  intro name member
  simp only [Statement.named, List.mem_append, Option.mem_toList] at member
  rcases member with (field | condition) | sorted
  · exact shows.named name field
  · exact conditionNamed name condition
  · exact orderNamed name sorted

theorem ShowsTable.select_named {connection : Connection} {table : Table}
    (shows : ShowsTable shape registry connection table) :
    ∀ name ∈ shape.select.named, name ∈ table.names := by
  apply shows.query_named
  · intro name member
    rw [List.mem_singleton.mp member]
    exact shows.key
  · simp

def rowsOf (table : Table) (id : Bytes) : List Row :=
  table.rows.filter fun row =>
    equals (cell table.columns row "id") (.text id)

theorem select_rowsOf (table : Table) (names : List String) (id : Bytes) :
    table.select names [("id", .text id)] none =
      (rowsOf table id).map fun row => names.map (cell table.columns row) := by
  unfold Table.select descending rowsOf
  simp only [List.all_cons, List.all_nil, Bool.and_true]

theorem ShowsTable.get_eq {connection : Connection} {table : Table}
    (shows : ShowsTable shape registry connection table) (id : Bytes) :
    getRecord shape.select shape.extract .ok (some id) true registry =
      match rowsOf table id with
      | [] => (.errNotFound, none)
      | row :: _ =>
          (.success, some (shape.extract
            (shape.fields.map (cell table.columns row)))) := by
  have begun : sessionBegin ExecCalls.ok.prepare shape.select registry =
      .ok connection :=
    sessionBegin_of_opened shows.opened shows.ready rfl
      ⟨table, shows.present, shows.select_named⟩
  have executed : shape.select.execute (registryBindId id) connection.visible =
      some (connection.visible,
        (rowsOf table id).map fun row =>
          shape.fields.map (cell table.columns row)) := by
    rw [← select_rowsOf]
    unfold Statement.execute SqlShape.select
    simp only [Statement.target, shows.present]
    rfl
  unfold getRecord registryQueryOne
  simp only [Bool.true_eq_false, if_false, begun]
  unfold Connection.step
  rw [executed]
  cases rowsOf table id <;> rfl

/-- A get that finds the record, or finds that there is none, has read a table. -/
theorem showsTable_of_get {id : Bytes}
    (answered :
      (getRecord shape.select shape.extract .ok (some id) true registry).1 =
          .success ∨
        (getRecord shape.select shape.extract .ok (some id) true registry).1 =
          .errNotFound) :
    ∃ connection table, ShowsTable shape registry connection table := by
  unfold getRecord registryQueryOne at answered
  simp only [Bool.true_eq_false, if_false] at answered
  cases session : sessionBegin ExecCalls.ok.prepare shape.select registry with
  | error error =>
      simp only [session] at answered
      unfold sessionBegin at session
      repeat' split at session
      all_goals cases session
      all_goals simp at answered
  | ok connection =>
      obtain ⟨opened, ready, _, table, present, named⟩ := sessionBegin_ok session
      refine ⟨connection, table, opened, ready, present, ?_, ?_⟩
      · intro field member
        exact named field (List.mem_append_left _
          (List.mem_append_left _ member))
      · exact named "id" (List.mem_append_left _
          (List.mem_append_right _ List.mem_cons_self))

/-! ### Adding -/

/-- The columns of a shape are distinct and name the id. -/
structure ReadShape (shape : SqlShape Record) : Prop where
  distinct : shape.fields.Nodup
  keyed : "id" ∈ shape.fields

variable {columns : List Column}

theorem ReadShape.cells_newRow (reads : ReadShape shape)
    (named : ∀ field ∈ shape.fields, field ∈ columns.map Column.name)
    (record : Record) :
    shape.fields.map
        (cell columns (newRow columns shape.fields (shape.bind record))) =
      shape.bind record := by
  apply map_cell_newRow reads.distinct named
  have lengths := congrArg List.length (shape.cells record)
  rw [List.length_map] at lengths
  exact lengths.symm

theorem ReadShape.idCell_newRow (reads : ReadShape shape)
    (named : ∀ field ∈ shape.fields, field ∈ columns.map Column.name)
    (record : Record) :
    cell columns (newRow columns shape.fields (shape.bind record)) "id" =
      .text (shape.recId record) := by
  -- Both rows show the record, so they agree on every column of the shape.
  have same := (reads.cells_newRow named record).trans
    (shape.cells record).symm
  rw [List.map_inj_left.mp same "id" reads.keyed, shape.idCell]

theorem addRecord_table {calls : ExecCalls} {record : Record}
    (reads : ReadShape shape)
    (succeeded : (addRecord shape.recId shape.insert shape.bind calls
      (some record) registry).2 = .success) :
    ∃ connection connection' table next,
      ShowsTable shape registry connection table ∧
        ShowsTable shape (addRecord shape.recId shape.insert shape.bind calls
          (some record) registry).1 connection' next ∧
        next.columns = table.columns ∧
        next.rows = table.rows ++
          [newRow table.columns shape.fields (shape.bind record)] := by
  have executes := addRecord_success succeeded
  rw [executes] at succeeded ⊢
  obtain ⟨connection, database, rows, opened, ready, resolves, executed, after⟩ :=
    sqlExecLocked_success succeeded
  obtain ⟨table, present, named⟩ := resolves
  unfold Statement.execute at executed
  change connection.visible shape.table = some table at present
  simp only [SqlShape.insert, Statement.target, present] at executed
  cases inserted : table.insert
      (newRow table.columns shape.fields (shape.bind record)) with
  | none => simp [inserted] at executed
  | some next =>
      simp only [inserted, Option.map_some, Option.some.injEq,
        Prod.mk.injEq] at executed
      obtain ⟨rfl, _⟩ := executed
      obtain ⟨columns, newRows⟩ := Table.withRows_eq_some inserted
      refine ⟨connection, connection.store
        (Function.update connection.visible shape.table (some next)), table,
        next, ⟨opened, ready, present, named, named "id" reads.keyed⟩, ?_,
        columns, newRows⟩
      rw [after]
      refine ⟨rfl, ready, ?_, ?_, ?_⟩
      · rw [Connection.visible_store, Function.update_self]
      · unfold Table.names
        rw [columns]
        exact named
      · unfold Table.names
        rw [columns]
        exact named "id" reads.keyed

theorem ShowsTable.unique {connection other : Connection} {table next : Table}
    (first : ShowsTable shape registry connection table)
    (second : ShowsTable shape registry other next) :
    connection = other ∧ table = next := by
  have sameConnection : connection = other :=
    Option.some.inj (first.opened.symm.trans second.opened)
  subst sameConnection
  exact ⟨rfl, Option.some.inj (first.present.symm.trans second.present)⟩

/-- An added record is the one that its id gives. -/
theorem addRecord_get {calls : ExecCalls} {record : Record}
    (reads : ReadShape shape)
    (absent : (getRecord shape.select shape.extract .ok
      (some (shape.recId record)) true registry).1 = .errNotFound)
    (succeeded : (addRecord shape.recId shape.insert shape.bind calls
      (some record) registry).2 = .success) :
    getRecord shape.select shape.extract .ok (some (shape.recId record)) true
        (addRecord shape.recId shape.insert shape.bind calls (some record)
          registry).1 = (.success, some record) := by
  obtain ⟨connection, connection', table, next, before, after, columns, rows⟩ :=
    addRecord_table reads succeeded
  have unmatched : rowsOf table (shape.recId record) = [] := by
    rw [before.get_eq] at absent
    cases found : rowsOf table (shape.recId record) with
    | nil => rfl
    | cons row rest => simp [found] at absent
  have matched : rowsOf next (shape.recId record) =
      [newRow table.columns shape.fields (shape.bind record)] := by
    unfold rowsOf at unmatched ⊢
    rw [rows, columns, List.filter_append, unmatched, List.nil_append,
      List.filter_cons_of_pos, List.filter_nil]
    rw [reads.idCell_newRow before.named]
    simp [equals]
  rw [after.get_eq, matched]
  change (HeapstoreError.success, some (shape.extract _)) = _
  rw [columns, reads.cells_newRow before.named, shape.extract_bind]

/-- An added record stands in every selection whose conditions it meets. -/
theorem addRecord_selected {calls : ExecCalls} {record : Record}
    (reads : ReadShape shape) (conditions : List (String × Value))
    (order : Option String)
    (succeeded : (addRecord shape.recId shape.insert shape.bind calls
      (some record) registry).2 = .success)
    (met : ∀ columns row,
      shape.fields.map (cell columns row) = shape.bind record →
        ∀ condition ∈ conditions,
          equals (cell columns row condition.1) condition.2 = true) :
    ∃ connection next, ShowsTable shape (addRecord shape.recId shape.insert
        shape.bind calls (some record) registry).1 connection next ∧
      shape.bind record ∈ next.select shape.fields conditions order := by
  obtain ⟨_, connection, table, next, before, after, columns, rows⟩ :=
    addRecord_table reads succeeded
  refine ⟨connection, next, after, ?_⟩
  have shown := reads.cells_newRow before.named record
  refine List.mem_map.mpr
    ⟨newRow table.columns shape.fields (shape.bind record), ?_, ?_⟩
  · have kept : newRow table.columns shape.fields (shape.bind record) ∈
        next.rows.filter fun row => conditions.all fun condition =>
          equals (cell next.columns row condition.1) condition.2 := by
      refine List.mem_filter.mpr ⟨?_, ?_⟩
      · rw [rows]
        exact List.mem_append_right _ List.mem_cons_self
      · rw [columns, List.all_eq_true]
        exact met _ _ shown
    unfold descending
    cases order with
    | none => exact kept
    | some name => exact (List.mergeSort_perm _ _).mem_iff.mpr kept
  · rw [columns]
    exact shown

/-! ### Updating -/

def updatedRow (update : UpdateShape shape) (columns : List Column)
    (record : Record) (row : Row) : Row :=
  if equals (cell columns row "id") (.text (shape.recId record)) then
    assign columns update.assigned (update.bindUpdate record) row
  else row

theorem updateRecord_table (update : UpdateShape shape) {calls : ExecCalls}
    {record : Record} {connection : Connection} {table : Table}
    (shows : ShowsTable shape registry connection table)
    (succeeded : (addRecord shape.recId update.update update.bindUpdate calls
      (some record) registry).2 = .success) :
    ∃ connection' next,
      ShowsTable shape (addRecord shape.recId update.update update.bindUpdate
        calls (some record) registry).1 connection' next ∧
        next.columns = table.columns ∧
        next.rows = table.rows.map (updatedRow update table.columns record) := by
  have executes := addRecord_success succeeded
  rw [executes] at succeeded ⊢
  obtain ⟨other, database, rows, opened, _, _, executed, after⟩ :=
    sqlExecLocked_success succeeded
  cases Option.some.inj (shows.opened.symm.trans opened)
  unfold Statement.execute at executed
  simp only [UpdateShape.update, Statement.target, shows.present,
    update.keyValue] at executed
  cases changed : table.update update.assigned (update.bindUpdate record) "id"
      (.text (shape.recId record)) with
  | none => simp [changed] at executed
  | some next =>
      simp only [changed, Option.map_some, Option.some.injEq,
        Prod.mk.injEq] at executed
      obtain ⟨rfl, _⟩ := executed
      obtain ⟨columns, newRows⟩ := Table.withRows_eq_some changed
      refine ⟨connection.store
        (Function.update connection.visible shape.table (some next)), next, ?_,
        columns, newRows⟩
      rw [after]
      refine ⟨rfl, shows.ready, ?_, ?_, ?_⟩
      · rw [Connection.visible_store, Function.update_self]
      · unfold Table.names
        rw [columns]
        exact shows.named
      · unfold Table.names
        rw [columns]
        exact shows.key

/-- After an update the id gives what the update keeps of the old record, put
into the new one. -/
theorem updateRecord_get (update : UpdateShape shape) {calls : ExecCalls}
    {record old : Record} (keep : Record → Record → Record)
    (keyFixed : update.assigned.idxOf? "id" = none)
    (reads : ∀ columns row, row.length = columns.length →
      (∀ field ∈ shape.fields, field ∈ columns.map Column.name) →
        cell columns row "id" = .text (shape.recId record) →
          shape.extract (shape.fields.map (cell columns
            (assign columns update.assigned (update.bindUpdate record) row))) =
          keep record (shape.extract (shape.fields.map (cell columns row))))
    (present : getRecord shape.select shape.extract .ok
      (some (shape.recId record)) true registry = (.success, some old))
    (succeeded : (addRecord shape.recId update.update update.bindUpdate calls
      (some record) registry).2 = .success) :
    getRecord shape.select shape.extract .ok (some (shape.recId record)) true
        (addRecord shape.recId update.update update.bindUpdate calls
          (some record) registry).1 = (.success, some (keep record old)) := by
  obtain ⟨connection, table, shows⟩ :=
    showsTable_of_get (Or.inl (congrArg Prod.fst present))
  obtain ⟨connection', next, after, columns, rows⟩ :=
    updateRecord_table update shows succeeded
  have whole : ∀ row ∈ table.rows, row.length = table.columns.length :=
    fun row member => (table.admissible.1 row member).1
  have sameKey : ∀ row ∈ table.rows,
      cell table.columns (updatedRow update table.columns record row) "id" =
        cell table.columns row "id" := by
    intro row member
    unfold updatedRow
    split
    · rw [cell_assign (whole row member) shows.key, keyFixed]
    · rfl
  have matched : rowsOf next (shape.recId record) =
      (rowsOf table (shape.recId record)).map
        (updatedRow update table.columns record) := by
    unfold rowsOf
    rw [rows, columns, List.filter_map]
    congr 1
    apply List.filter_congr
    intro row member
    rw [Function.comp_apply, sameKey row member]
  rw [shows.get_eq] at present
  rw [after.get_eq, matched]
  cases found : rowsOf table (shape.recId record) with
  | nil => simp [found] at present
  | cons row rest =>
      have here : row ∈ rowsOf table (shape.recId record) := by
        rw [found]
        exact List.mem_cons_self
      obtain ⟨member, named⟩ := List.mem_filter.mp here
      have key := eq_of_equals named
      simp only [found, Prod.mk.injEq, true_and, Option.some.injEq] at present
      simp only [List.map_cons, Prod.mk.injEq, true_and, Option.some.injEq]
      unfold updatedRow
      rw [if_pos named, columns, ← present]
      exact reads _ row (whole row member) shows.named key

end Shape

/-! ### The conditions of filtered queries -/

theorem ShowsTable.order_named {Record : Type} {shape : SqlShape Record}
    {registry : SqlRegistry} {connection : Connection} {table : Table}
    (shows : ShowsTable shape registry connection table) {field : String}
    (inside : field ∈ shape.fields) :
    ∀ name ∈ some field, name ∈ table.names := by
  intro name member
  rw [← Option.some.inj member]
  exact shows.named field inside

theorem ShowsTable.condition_named {Record : Type} {shape : SqlShape Record}
    {registry : SqlRegistry} {connection : Connection} {table : Table}
    (shows : ShowsTable shape registry connection table) {field : String}
    (inside : field ∈ shape.fields) : ∀ name ∈ [field], name ∈ table.names := by
  intro name member
  rw [List.mem_singleton.mp member]
  exact shows.named field inside

theorem agentConditions_named (byType byStatus : Bool) :
    ∀ name ∈ (if byType then ["type"] else []) ++
      if byStatus then ["status"] else [], name ∈ agentFields := by
  revert byType byStatus
  decide

/-- The conditions that the filters give compare the fields that they name. -/
theorem agentConditions_decide (filterType filterStatus : Option Bytes)
    {columns : List Column} {row : Row} {record : AgentRecord}
    (shown : agentFields.map (cell columns row) = bindAgentRecord record) :
    ((((if filterType.isSome then ["type"] else []) ++
        if filterStatus.isSome then ["status"] else []).zip
          (bindAgentFilters filterType filterStatus)).all
        fun condition => equals (cell columns row condition.1) condition.2) =
      agentMatches filterType filterStatus record := by
  have type_ : cell columns row "type" = .text record.type.text :=
    congrArg (·.getD 2 .null) shown
  have status : cell columns row "status" = .text record.status.text :=
    congrArg (·.getD 4 .null) shown
  cases filterType <;> cases filterStatus <;>
    simp [bindAgentFilters, agentMatches, equals, type_, status]

theorem sessionCondition_decides (filterStatus : Bytes)
    {columns : List Column} {row : Row} {record : SessionRecord}
    (shown : sessionFields.map (cell columns row) = bindSessionRow record) :
    ((["status"].zip (registryBindId filterStatus)).all
        fun condition => equals (cell columns row condition.1) condition.2) =
      sessionMatches (some filterStatus) record := by
  have status : cell columns row "status" = .text record.status.text :=
    congrArg (·.getD 5 .null) shown
  simp [registryBindId, sessionMatches, equals, status]

/-! ### The three domains -/

theorem agent_reads : ReadShape agentShape := ⟨by decide, by decide⟩
theorem skill_reads : ReadShape skillShape := ⟨by decide, by decide⟩
theorem session_reads : ReadShape sessionShape := ⟨by decide, by decide⟩

/-- Iterating a query on the registry hands out the record. -/
def QueryReturns {type : RecType}
    (query : SqlRegistry → HeapstoreError × Option (SqlIter type))
    (record : type.Record) (registry : SqlRegistry) : Prop :=
  ∃ connection iter records, registry.db = some connection ∧
    query registry = (.success, some iter) ∧
    IteratesTo connection.visible iter records ∧ record ∈ records

theorem queryReturns_of_selected (type : RecType)
    {shape : SqlShape type.Record} {conditions : List String}
    {order : Option String} {values : Row} {registry : SqlRegistry}
    {connection : Connection} {table : Table} {record : type.Record}
    (extract : extractRow type = shape.extract)
    (shows : ShowsTable shape registry connection table)
    (conditionNamed : ∀ name ∈ conditions, name ∈ table.names)
    (orderNamed : ∀ name ∈ order, name ∈ table.names)
    (selected : shape.bind record ∈
      table.select shape.fields (conditions.zip values) order) :
    QueryReturns (queryRecords type
      (.select shape.fields shape.table conditions order) values .ok true)
      record registry := by
  obtain ⟨iter, queried, iterates⟩ := queryRecords_iterates type values
    shows.opened shows.ready shows.present
    (shows.query_named conditionNamed orderNamed)
  refine ⟨connection, iter, _, shows.opened, queried, iterates, ?_⟩
  rw [← shape.extract_bind record, ← extract]
  exact List.mem_map_of_mem selected

/-- The cells that an update writes and those it leaves. -/
theorem map_cell_assign {columns : List Column} {names fields : List String}
    {values row : Row} (whole : row.length = columns.length)
    (named : ∀ field ∈ fields, field ∈ columns.map Column.name) :
    fields.map (cell columns (assign columns names values row)) =
      fields.map fun name =>
        match names.idxOf? name with
        | some index => values.getD index .null
        | none => cell columns row name :=
  List.map_congr_left fun name member => cell_assign whole (named name member)

theorem agentUpdate_reads (record : AgentRecord) {columns : List Column}
    {row : Row} (whole : row.length = columns.length)
    (named : ∀ field ∈ agentFields, field ∈ columns.map Column.name)
    (key : cell columns row "id" = .text record.id.text) :
    extractAgentRow (agentFields.map (cell columns (assign columns
        agentUpdate.assigned (bindAgentUpdate record) row))) =
      { record with
        createdAt :=
          (extractAgentRow (agentFields.map (cell columns row))).createdAt } := by
  rw [map_cell_assign whole named]
  change extractAgentRow [cell columns row "id", .text record.name.text,
    .text record.type.text, .text record.version.text,
    .text record.status.text, .text record.configPath.text,
    cell columns row "created_at", .integer record.updatedAt.toInt64,
    .integer record.priority.toInt64, .text record.tags.text] = _
  rw [key]
  simp [extractAgentRow, agentFields, columnAt, copyTextCol, columnText,
    CharArray.copy_text, columnInt64, columnInt]

theorem sessionUpdate_reads (record : SessionRecord) {columns : List Column}
    {row : Row} (whole : row.length = columns.length)
    (named : ∀ field ∈ sessionFields, field ∈ columns.map Column.name)
    (key : cell columns row "id" = .text record.id.text) :
    extractSessionRow (sessionFields.map (cell columns (assign columns
        sessionUpdate.assigned (bindSessionUpdate record) row))) =
      { record with
        createdAt :=
          (extractSessionRow (sessionFields.map (cell columns row))).createdAt } := by
  rw [map_cell_assign whole named]
  change extractSessionRow [cell columns row "id", .text record.userId.text,
    cell columns row "created_at", .integer record.lastActiveAt.toInt64,
    .integer record.ttlSeconds.toInt32.toInt64, .text record.status.text,
    .text record.metadata.text] = _
  rw [key]
  simp [extractSessionRow, sessionFields, columnAt, copyTextCol, columnText,
    CharArray.copy_text, columnInt64, columnInt]

section Domains

variable {registry : SqlRegistry} {calls : ExecCalls}

theorem registryAddAgent_query {record : AgentRecord}
    {filterType filterStatus : Option Bytes}
    (succeeded : (registryAddAgent calls (some record) registry).2 = .success)
    (wanted : agentMatches filterType filterStatus record = true) :
    QueryReturns (registryQueryAgents filterType filterStatus .ok true) record
      (registryAddAgent calls (some record) registry).1 := by
  obtain ⟨connection, next, shows, selected⟩ :=
    addRecord_selected agent_reads _ none succeeded fun _ _ shown =>
      List.all_eq_true.mp
        ((agentConditions_decide filterType filterStatus shown).trans wanted)
  refine queryReturns_of_selected .agent rfl shows ?_ (by simp) selected
  intro name member
  exact shows.named name (agentConditions_named _ _ name member)

theorem registryAddSession_query {record : SessionRecord}
    {filterStatus : Option Bytes}
    (succeeded : (registryAddSession calls (some record) registry).2 = .success)
    (wanted : sessionMatches filterStatus record = true) :
    QueryReturns (registryQuerySessions filterStatus .ok true) record
      (registryAddSession calls (some record) registry).1 := by
  rcases filterStatus with _ | _ | ⟨byte, rest⟩
  case none | some.nil =>
    obtain ⟨connection, next, shows, selected⟩ :=
      addRecord_selected session_reads ([].zip []) (some "last_active_at")
        succeeded (by simp)
    exact queryReturns_of_selected .session rfl shows (by simp)
      (shows.order_named (by decide)) selected
  case some.cons =>
    obtain ⟨connection, next, shows, selected⟩ :=
      addRecord_selected session_reads _ (some "last_active_at") succeeded
        fun _ _ shown => List.all_eq_true.mp
          ((sessionCondition_decides (byte :: rest) shown).trans wanted)
    exact queryReturns_of_selected .session rfl shows
      (shows.condition_named (by decide)) (shows.order_named (by decide))
      selected

theorem registryAddSkill_query {record : SkillRecord}
    (succeeded : (registryAddSkill calls (some record) registry).2 = .success) :
    QueryReturns (registryQuerySkills .ok true) record
      (registryAddSkill calls (some record) registry).1 := by
  obtain ⟨connection, next, shows, selected⟩ :=
    addRecord_selected skill_reads ([].zip []) (some "installed_at") succeeded
      (by simp)
  exact queryReturns_of_selected .skill rfl shows (by simp)
    (shows.order_named (by decide)) selected

end Domains

/-- An added record comes back whole from a get and from every query that it
matches; an updated record comes back with the creation time it had. -/
theorem registry_records_read_back (registry : SqlRegistry)
    (calls : ExecCalls) :
    (∀ record : AgentRecord,
      (registryGetAgent .ok (some record.id.text) true registry).1 =
          .errNotFound →
      (registryAddAgent calls (some record) registry).2 = .success →
        let after := (registryAddAgent calls (some record) registry).1
        registryGetAgent .ok (some record.id.text) true after =
            (.success, some record) ∧
          ∀ filterType filterStatus,
            agentMatches filterType filterStatus record = true →
              QueryReturns (registryQueryAgents filterType filterStatus .ok
                true) record after) ∧
    (∀ record : SkillRecord,
      (registryGetSkill .ok (some record.id.text) true registry).1 =
          .errNotFound →
      (registryAddSkill calls (some record) registry).2 = .success →
        let after := (registryAddSkill calls (some record) registry).1
        registryGetSkill .ok (some record.id.text) true after =
            (.success, some record) ∧
          QueryReturns (registryQuerySkills .ok true) record after) ∧
    (∀ record : SessionRecord,
      (registryGetSession .ok (some record.id.text) true registry).1 =
          .errNotFound →
      (registryAddSession calls (some record) registry).2 = .success →
        let after := (registryAddSession calls (some record) registry).1
        registryGetSession .ok (some record.id.text) true after =
            (.success, some record) ∧
          ∀ filterStatus, sessionMatches filterStatus record = true →
            QueryReturns (registryQuerySessions filterStatus .ok true) record
              after) ∧
    (∀ record old : AgentRecord,
      registryGetAgent .ok (some record.id.text) true registry =
          (.success, some old) →
      (registryUpdateAgent calls (some record) registry).2 = .success →
        registryGetAgent .ok (some record.id.text) true
            (registryUpdateAgent calls (some record) registry).1 =
          (.success, some { record with createdAt := old.createdAt })) ∧
    ∀ record old : SessionRecord,
      registryGetSession .ok (some record.id.text) true registry =
          (.success, some old) →
      (registryUpdateSession calls (some record) registry).2 = .success →
        registryGetSession .ok (some record.id.text) true
            (registryUpdateSession calls (some record) registry).1 =
          (.success, some { record with createdAt := old.createdAt }) := by
  refine ⟨?_, ?_, ?_, ?_, ?_⟩
  · intro record absent succeeded
    exact ⟨addRecord_get agent_reads absent succeeded,
      fun _ _ wanted => registryAddAgent_query succeeded wanted⟩
  · intro record absent succeeded
    exact ⟨addRecord_get skill_reads absent succeeded,
      registryAddSkill_query succeeded⟩
  · intro record absent succeeded
    exact ⟨addRecord_get session_reads absent succeeded,
      fun _ wanted => registryAddSession_query succeeded wanted⟩
  · intro record old present succeeded
    exact updateRecord_get agentUpdate
      (fun (new old : AgentRecord) => { new with createdAt := old.createdAt })
      (by decide)
      (fun _ _ whole named key => agentUpdate_reads record whole named key)
      present succeeded
  · intro record old present succeeded
    exact updateRecord_get sessionUpdate
      (fun (new old : SessionRecord) => { new with createdAt := old.createdAt })
      (by decide)
      (fun _ _ whole named key => sessionUpdate_reads record whole named key)
      present succeeded

/-- An agent with text in every field and integers at their bounds. -/
def plannerAgent : AgentRecord where
  id := CharArray.copy (ofString "planner-1")
  name := CharArray.copy (ofString "Planner")
  type := CharArray.copy (ofString "planner")
  version := CharArray.copy (ofString "1.2.3")
  status := CharArray.copy (ofString "active")
  configPath := CharArray.copy (ofString "/etc/planner.yaml")
  createdAt := 18446744073709551615
  updatedAt := 9223372036854775808
  priority := -2147483648
  tags := CharArray.copy (ofString "plan,it's")

def userSession : SessionRecord where
  id := CharArray.copy (ofString "session-1")
  userId := CharArray.copy (ofString "user-7")
  createdAt := 18446744073709551615
  lastActiveAt := 9223372036854775808
  ttlSeconds := 4294967295
  status := CharArray.copy (ofString "active")
  metadata := CharArray.copy (ofString "theme=dark")

/-- The session later, with another time of creation. -/
def closedSession : SessionRecord :=
  { userSession with
    createdAt := 5
    lastActiveAt := 9223372036854775809
    ttlSeconds := 0
    status := CharArray.copy (ofString "closed") }

theorem registry_records_read_back_planner :
    let held := (registryAddSession .ok (some userSession)
      (sqliteStart none none)).1
    let added := (registryAddAgent .ok (some plannerAgent) held).1
    let updated := (registryUpdateSession .ok (some closedSession) added).1
    registryGetAgent .ok (some (ofString "planner-1")) true added =
        (.success, some plannerAgent) ∧
      QueryReturns (registryQueryAgents (some (ofString "planner"))
        (some (ofString "active")) .ok true) plannerAgent added ∧
      registryGetSession .ok (some (ofString "session-1")) true held =
        (.success, some userSession) ∧
      registryGetSession .ok (some (ofString "session-1")) true updated =
        (.success, some { closedSession with
          createdAt := userSession.createdAt }) := by
  intro held added updated
  obtain ⟨_, _, sessions, _, _⟩ :=
    registry_records_read_back (sqliteStart none none) .ok
  obtain ⟨agents, _⟩ := registry_records_read_back held .ok
  obtain ⟨_, _, _, _, updates⟩ := registry_records_read_back added .ok
  obtain ⟨agent, queried⟩ := agents plannerAgent (by decide +kernel)
    (by decide +kernel)
  exact ⟨agent, queried _ _ (by decide +kernel),
    (sessions userSession (by decide +kernel) (by decide +kernel)).1,
    updates closedSession userSession (by decide +kernel) (by decide +kernel)⟩

end Heapstore.RegistrySqlite
