/-
Records as rows of the SQLite registry.

The rows that hold the records of a map form an admissible table exactly when
the ids are distinct, and one statement on such a table does what one operation
does on the map.
-/

import Heapstore.RegistryMemoryRefinement
import Heapstore.RegistrySqlite

namespace Heapstore.RegistryBackendAgreement

open ByteText SqlTable SqlConnection RegistrySqlite
open RegistryMemory (RecordMap mapAdd mapGet mapUpdate mapDelete)

/-! ### Records as rows -/

/-- How the records of one table are written, matched and read back. -/
structure SqlShape (Record : Type) where
  table : String
  fields : List String
  columns : List Column
  recId : Record → Bytes
  bind : Record → Row
  extract : Row → Record
  key : "id" ∈ columns.map Column.name
  fieldNamed : ∀ field ∈ fields, field ∈ columns.map Column.name
  row : ∀ record, newRow columns fields (bind record) = bind record
  cells : ∀ record, fields.map (cell columns (bind record)) = bind record
  idCell : ∀ record, cell columns (bind record) "id" = .text (recId record)
  fits : ∀ record, Fits columns (bind record)
  compatible : ∀ left right,
    Compatible columns (bind left) (bind right) ↔ recId left ≠ recId right
  extract_bind : ∀ record, extract (bind record) = record

structure UpdateShape {Record : Type} (shape : SqlShape Record) where
  assigned : List String
  bindUpdate : Record → Row
  merge : Record → Record → Record
  assignedNamed : ∀ field ∈ assigned, field ∈ shape.columns.map Column.name
  keyValue : ∀ record,
    (bindUpdate record).getD assigned.length .null = .text (shape.recId record)
  assign_bind : ∀ new old,
    assign shape.columns assigned (bindUpdate new) (shape.bind old) =
      shape.bind (merge new old)
  merge_id : ∀ new old, shape.recId (merge new old) = shape.recId old

def agentShape : SqlShape AgentRecord where
  table := "agents"
  fields := agentFields
  columns := agentColumns
  recId := agentId
  bind := bindAgentRecord
  extract := extractAgentRow
  key := by decide
  fieldNamed := by decide
  row _ := rfl
  cells _ := rfl
  idCell _ := rfl
  fits record := ⟨rfl, by
    simp [agentColumns, bindAgentRecord, keyColumn, plainColumn,
      requiredColumn, defaultColumn]⟩
  compatible left right := by
    simp [Compatible, agentColumns, bindAgentRecord, keyColumn, plainColumn,
      requiredColumn, defaultColumn, agentId]
  extract_bind record := by
    simp [extractAgentRow, bindAgentRecord, columnAt, copyTextCol, columnText,
      CharArray.copy_text, columnInt64, columnInt]

def agentUpdate : UpdateShape agentShape where
  assigned :=
    ["name", "type", "version", "status", "config_path", "updated_at",
      "priority", "tags"]
  bindUpdate := bindAgentUpdate
  merge new old := { new with id := old.id, createdAt := old.createdAt }
  assignedNamed := by decide
  keyValue _ := rfl
  assign_bind _ _ := rfl
  merge_id _ _ := rfl

def skillShape : SqlShape SkillRecord where
  table := "skills"
  fields := skillFields
  columns := skillColumns
  recId := skillId
  bind := bindSkillRow
  extract := extractSkillRow
  key := by decide
  fieldNamed := by decide
  row _ := rfl
  cells _ := rfl
  idCell _ := rfl
  fits record := ⟨rfl, by
    simp [skillColumns, bindSkillRow, keyColumn, plainColumn, requiredColumn]⟩
  compatible left right := by
    simp [Compatible, skillColumns, bindSkillRow, keyColumn, plainColumn,
      requiredColumn, skillId]
  extract_bind record := by
    simp [extractSkillRow, bindSkillRow, columnAt, copyTextCol, columnText,
      CharArray.copy_text, columnInt64]

def sessionShape : SqlShape SessionRecord where
  table := "sessions"
  fields := sessionFields
  columns := sessionColumns
  recId := sessionId
  bind := bindSessionRow
  extract := extractSessionRow
  key := by decide
  fieldNamed := by decide
  row _ := rfl
  cells _ := rfl
  idCell _ := rfl
  fits record := ⟨rfl, by
    simp [sessionColumns, bindSessionRow, keyColumn, plainColumn,
      defaultColumn]⟩
  compatible left right := by
    simp [Compatible, sessionColumns, bindSessionRow, keyColumn, plainColumn,
      defaultColumn, sessionId]
  extract_bind record := by
    simp [extractSessionRow, bindSessionRow, columnAt, copyTextCol, columnText,
      CharArray.copy_text, columnInt64, columnInt]

def sessionUpdate : UpdateShape sessionShape where
  assigned := ["user_id", "last_active_at", "ttl_seconds", "status", "metadata"]
  bindUpdate := bindSessionUpdate
  merge new old := { new with id := old.id, createdAt := old.createdAt }
  assignedNamed := by decide
  keyValue _ := rfl
  assign_bind _ _ := rfl
  merge_id _ _ := rfl

section Shape

variable {Record : Type} (shape : SqlShape Record)

def SqlShape.insert : Statement := .insert shape.table shape.fields

def SqlShape.select : Statement :=
  .select shape.fields shape.table ["id"] none

def SqlShape.delete : Statement := .delete shape.table "id"

def UpdateShape.update {shape : SqlShape Record} (update : UpdateShape shape) :
    Statement :=
  .update shape.table update.assigned "id"

/-- The table of a shape holds the records of a map. -/
def Stores (database : Database) (map : RecordMap Record) : Prop :=
  ∃ table records, database shape.table = some table ∧
    table.columns = shape.columns ∧
    table.rows = records.map shape.bind ∧
    KeyedList.Distinct shape.recId records ∧
    KeyedList.lookup shape.recId records = map

theorem SqlShape.admissible_iff (records : List Record) :
    Admissible shape.columns (records.map shape.bind) ↔
      KeyedList.Distinct shape.recId records := by
  unfold Admissible KeyedList.Distinct List.Nodup
  rw [List.pairwise_map, List.pairwise_map]
  constructor
  · rintro ⟨_, pairs⟩
    exact pairs.imp fun compatible => (shape.compatible _ _).mp compatible
  · intro pairs
    refine ⟨?_, pairs.imp fun apart => (shape.compatible _ _).mpr apart⟩
    intro row member
    obtain ⟨record, _, rfl⟩ := List.mem_map.mp member
    exact shape.fits record

theorem SqlShape.matches (record : Record) (id : Bytes) :
    equals (cell shape.columns (shape.bind record) "id") (.text id) =
      decide (shape.recId record = id) := by
  rw [shape.idCell]
  simp [equals]

variable {shape} {database : Database} {map : RecordMap Record}

theorem Stores.resolves_insert (stores : Stores shape database map) :
    shape.insert.Resolves database := by
  obtain ⟨table, _, present, columns, _⟩ := stores
  refine ⟨table, present, ?_⟩
  unfold Table.names
  rw [columns]
  exact shape.fieldNamed

theorem Stores.resolves_select (stores : Stores shape database map) :
    shape.select.Resolves database := by
  obtain ⟨table, _, present, columns, _⟩ := stores
  refine ⟨table, present, ?_⟩
  unfold Table.names
  rw [columns]
  intro name member
  simp only [SqlShape.select, Statement.named, Option.toList_none,
    List.append_nil, List.mem_append, List.mem_singleton] at member
  rcases member with field | rfl
  · exact shape.fieldNamed name field
  · exact shape.key

theorem Stores.resolves_delete (stores : Stores shape database map) :
    shape.delete.Resolves database := by
  obtain ⟨table, _, present, columns, _⟩ := stores
  refine ⟨table, present, ?_⟩
  unfold Table.names
  rw [columns]
  intro name member
  cases List.mem_singleton.mp member
  exact shape.key

theorem Stores.resolves_update (stores : Stores shape database map)
    (update : UpdateShape shape) : update.update.Resolves database := by
  obtain ⟨table, _, present, columns, _⟩ := stores
  refine ⟨table, present, ?_⟩
  unfold Table.names
  rw [columns]
  intro name member
  simp only [UpdateShape.update, Statement.named, List.mem_append,
    List.mem_singleton] at member
  rcases member with field | rfl
  · exact update.assignedNamed name field
  · exact shape.key

/-- Replacing the table of a shape by the rows of other records. -/
theorem Stores.replaced {table : Table} {records : List Record}
    (columns : table.columns = shape.columns)
    (rows : table.rows = records.map shape.bind)
    (distinct : KeyedList.Distinct shape.recId records) :
    Stores shape (Function.update database shape.table (some table))
      (KeyedList.lookup shape.recId records) :=
  ⟨table, records, Function.update_self .., columns, rows, distinct, rfl⟩

/-! ### One statement against one map operation -/

theorem Stores.insert (stores : Stores shape database map) {record : Record}
    (absent : map (shape.recId record) = none) :
    ∃ table, shape.insert.execute (shape.bind record) database =
        some (Function.update database shape.table (some table), []) ∧
      Stores shape (Function.update database shape.table (some table))
        (Function.update map (shape.recId record) (some record)) := by
  obtain ⟨table, records, present, columns, rows, distinct, rfl⟩ := stores
  have appended : table.rows ++ [newRow table.columns shape.fields
      (shape.bind record)] = (records ++ [record]).map shape.bind := by
    rw [columns, shape.row, rows, List.map_append]
    rfl
  have fresh : KeyedList.Distinct shape.recId (records ++ [record]) := by
    have pushed := KeyedList.distinct_push shape.recId record records distinct
      absent
    exact ((List.perm_append_singleton record records).map
      shape.recId).nodup_iff.mpr pushed
  have admissible : Admissible table.columns
      (table.rows ++ [newRow table.columns shape.fields (shape.bind record)]) := by
    rw [appended, columns]
    exact (shape.admissible_iff _).mpr fresh
  obtain ⟨next, written, sameColumns, newRows⟩ :=
    Table.exists_withRows admissible
  refine ⟨next, ?_, ?_⟩
  · unfold Statement.execute SqlShape.insert
    simp only [Statement.target, present, Table.insert, written]
    rfl
  · rw [← KeyedList.lookup_append_singleton shape.recId records record absent]
    exact Stores.replaced (sameColumns.trans columns) (newRows.trans appended)
      fresh

theorem Stores.insert_rejected (stores : Stores shape database map)
    {record : Record} (stored : map (shape.recId record) ≠ none) :
    shape.insert.execute (shape.bind record) database = none := by
  obtain ⟨table, records, present, columns, rows, distinct, rfl⟩ := stores
  have rejected : ¬Admissible table.columns
      (table.rows ++ [newRow table.columns shape.fields (shape.bind record)]) := by
    intro admissible
    have appended : table.rows ++ [newRow table.columns shape.fields
        (shape.bind record)] = (records ++ [record]).map shape.bind := by
      rw [columns, shape.row, rows, List.map_append]
      rfl
    rw [appended, columns, shape.admissible_iff] at admissible
    have pushed := ((List.perm_append_singleton record records).map
      shape.recId).nodup_iff.mp admissible
    exact stored ((KeyedList.lookup_eq_none_iff shape.recId records _).mpr
      (List.nodup_cons.mp pushed).1)
  unfold Statement.execute SqlShape.insert
  simp only [Statement.target, present, Table.insert]
  rw [Table.withRows_of_not_admissible rejected]
  rfl

theorem Stores.select (stores : Stores shape database map) (id : Bytes) :
    ∃ rows, shape.select.execute (registryBindId id) database =
        some (database, rows) ∧ rows.head? = (map id).map shape.bind := by
  obtain ⟨table, records, present, columns, rows, distinct, rfl⟩ := stores
  refine ⟨table.select shape.fields [("id", .text id)] none, ?_, ?_⟩
  · unfold Statement.execute SqlShape.select
    simp only [Statement.target, present]
    rfl
  · unfold Table.select descending
    simp only [List.all_cons, List.all_nil, Bool.and_true, rows, columns]
    rw [List.head?_map, List.head?_filter, List.find?_map]
    have found : (fun row => equals (cell shape.columns row "id") (.text id)) ∘
        shape.bind = fun record => decide (shape.recId record = id) := by
      funext record
      exact shape.matches record id
    rw [found]
    unfold KeyedList.lookup
    cases records.find? fun record => decide (shape.recId record = id) with
    | none => rfl
    | some record =>
        simp only [Option.map_some, shape.cells]

theorem Stores.delete (stores : Stores shape database map) (id : Bytes) :
    ∃ table, shape.delete.execute (registryBindId id) database =
        some (Function.update database shape.table (some table), []) ∧
      Stores shape (Function.update database shape.table (some table))
        (Function.update map id none) := by
  obtain ⟨table, records, present, columns, rows, distinct, rfl⟩ := stores
  refine ⟨table.delete "id" (.text id), ?_, ?_⟩
  · unfold Statement.execute SqlShape.delete
    simp only [Statement.target, present]
    rfl
  · rw [← KeyedList.lookup_filterOut shape.recId id records]
    refine Stores.replaced columns ?_
      (KeyedList.distinct_filterOut shape.recId id records distinct)
    unfold Table.delete
    simp only [rows, columns, List.filter_map]
    congr 1
    apply List.filter_congr
    intro record _member
    rw [Function.comp_apply, shape.matches]
    simp

theorem Stores.update (stores : Stores shape database map)
    (update : UpdateShape shape) (record : Record) :
    ∃ table, update.update.execute (update.bindUpdate record) database =
        some (Function.update database shape.table (some table), []) ∧
      Stores shape (Function.update database shape.table (some table))
        (Function.update map (shape.recId record)
          ((map (shape.recId record)).map (update.merge record))) := by
  obtain ⟨table, records, present, columns, rows, distinct, rfl⟩ := stores
  have keeps : ∀ old, shape.recId old = shape.recId record →
      shape.recId (update.merge record old) = shape.recId record :=
    fun old same => (update.merge_id record old).trans same
  have written : (table.rows.map fun row =>
      if equals (cell table.columns row "id") (.text (shape.recId record)) then
        assign table.columns update.assigned (update.bindUpdate record) row
      else row) =
      (records.map fun old =>
        if shape.recId old = shape.recId record then update.merge record old
        else old).map shape.bind := by
    rw [rows, columns, List.map_map, List.map_map]
    apply List.map_congr_left
    intro old _member
    rw [Function.comp_apply, Function.comp_apply, shape.matches,
      update.assign_bind]
    by_cases same : shape.recId old = shape.recId record <;> simp [same]
  have stillDistinct := KeyedList.distinct_mapAt shape.recId records
    (shape.recId record) (update.merge record) keeps distinct
  have admissible := (shape.admissible_iff _).mpr stillDistinct
  rw [← written, ← columns] at admissible
  obtain ⟨next, changed, sameColumns, newRows⟩ :=
    Table.exists_withRows admissible
  refine ⟨next, ?_, ?_⟩
  · unfold Statement.execute UpdateShape.update
    simp only [Statement.target, present, Table.update, update.keyValue, changed]
    rfl
  · rw [← KeyedList.lookup_mapAt shape.recId records (shape.recId record)
      (update.merge record) keeps]
    exact Stores.replaced (sameColumns.trans columns) (newRows.trans written)
      stillDistinct

end Shape

end Heapstore.RegistryBackendAgreement
