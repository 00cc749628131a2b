/-
Tables that are created from a selection.

A selection names its columns and gives their rows.  The table created from it
holds exactly these, but none of its columns declares anything: what the
selected columns had declared is gone.
-/

import Heapstore.Foundation.SqlTable
import Mathlib.Data.List.Nodup

namespace SqlTable

/-- A column that declares nothing but its name. -/
def bareColumn (name : String) : Column where
  name := name
  notNull := false
  unique := false
  initial := .null

def Column.Bare (column : Column) : Prop :=
  column = bareColumn column.name

instance (column : Column) : Decidable column.Bare :=
  inferInstanceAs (Decidable (column = _))

structure Selection where
  names : List String
  rows : List Row
  whole : ∀ row ∈ rows, row.length = names.length

theorem admissible_bare {names : List String} {rows : List Row}
    (whole : ∀ row ∈ rows, row.length = names.length) :
    Admissible (names.map bareColumn) rows := by
  have bare : ∀ column ∈ names.map bareColumn,
      column.notNull = false ∧ column.unique = false := by
    intro column member
    obtain ⟨name, _, rfl⟩ := List.mem_map.mp member
    exact ⟨rfl, rfl⟩
  refine ⟨fun row member => ⟨?_, ?_⟩, ?_⟩
  · rw [List.length_map, whole row member]
  · intro entry here notNull
    rw [(bare entry.1 (List.of_mem_zip here).1).1] at notNull
    cases notNull
  · apply List.pairwise_of_forall
    intro left right entry here unique
    rw [(bare entry.1 (List.of_mem_zip here).1).2] at unique
    cases unique

/-- The table created from a selection. -/
def Selection.table (selection : Selection) : Table where
  columns := selection.names.map bareColumn
  rows := selection.rows
  admissible := admissible_bare selection.whole

theorem map_name_bareColumn (names : List String) :
    (names.map bareColumn).map Column.name = names := by
  rw [List.map_map]
  exact List.map_id names

/-! ### Keeping some of the columns -/

/-- The cells of the columns that are kept. -/
def project (keeps : String → Bool) (columns : List Column) (row : Row) : Row :=
  ((columns.zip row).filter fun entry => keeps entry.1.name).map Prod.snd

def keptColumns (keeps : String → Bool) (columns : List Column) :
    List Column :=
  columns.filter fun column => keeps column.name

/-- The kept columns with their declarations, and the rows cut down to them. -/
def Table.Keeps (keeps : String → Bool) (old new : Table) : Prop :=
  new.columns = keptColumns keeps old.columns ∧
    new.rows = old.rows.map (project keeps old.columns)

theorem map_bareColumn_eq_iff {names : List String} {columns : List Column} :
    names.map bareColumn = columns ↔
      (∀ column ∈ columns, column.Bare) ∧ names = columns.map Column.name := by
  constructor
  · rintro rfl
    refine ⟨fun column member => ?_, (map_name_bareColumn names).symm⟩
    obtain ⟨name, _, rfl⟩ := List.mem_map.mp member
    rfl
  · rintro ⟨bare, rfl⟩
    rw [List.map_map]
    conv => rhs; rw [← List.map_id columns]
    exact List.map_congr_left fun column member => (bare column member).symm

/-- A table created from a selection keeps columns of another one exactly when
they were selected, with their rows, and had nothing declared. -/
theorem Selection.keeps_iff {keeps : String → Bool} {selection : Selection}
    {old : Table} :
    old.Keeps keeps selection.table ↔
      (∀ column ∈ keptColumns keeps old.columns, column.Bare) ∧
        selection.names = (keptColumns keeps old.columns).map Column.name ∧
        selection.rows = old.rows.map (project keeps old.columns) := by
  unfold Table.Keeps Selection.table
  rw [map_bareColumn_eq_iff, and_assoc]

/-! ### Selecting columns by name -/

theorem Table.select_all (table : Table) (names : List String) :
    table.select names [] none =
      table.rows.map fun row => names.map (cell table.columns row) := by
  unfold Table.select descending
  rw [List.filter_eq_self.mpr fun _ _ => List.all_nil]

/-- The columns under the given names with all rows. -/
def Table.chosen (table : Table) (names : List String) : Selection where
  names := names
  rows := table.select names [] none
  whole := by
    intro row member
    rw [table.select_all] at member
    obtain ⟨_, _, rfl⟩ := List.mem_map.mp member
    exact List.length_map _

/-- Under distinct names a cell is found by the name of its column. -/
theorem cell_of_mem_zip {columns : List Column} {row : Row}
    (distinct : (columns.map Column.name).Nodup) {entry : Column × Value}
    (member : entry ∈ columns.zip row) :
    cell columns row entry.1.name = entry.2 := by
  obtain ⟨index, inside, rfl⟩ := List.mem_iff_getElem.mp member
  rw [List.length_zip] at inside
  have column : index < columns.length := by omega
  have value : index < row.length := by omega
  obtain ⟨place, within, found, same⟩ :=
    position_of_mem (List.mem_map_of_mem (List.getElem_mem column))
  have here : place = index := by
    refine (@List.Nodup.getElem_inj_iff _ _ distinct place
      (by rwa [List.length_map]) index (by rwa [List.length_map])).mp ?_
    rw [List.getElem_map, List.getElem_map]
    exact same
  subst here
  rw [List.getElem_zip]
  unfold cell
  rw [found]
  simp only
  rw [List.getD_eq_getElem?_getD, List.getElem?_eq_getElem value,
    Option.getD_some]

theorem keptColumns_zip (keeps : String → Bool) {columns : List Column}
    {row : Row} (whole : row.length = columns.length) :
    ((columns.zip row).filter fun entry => keeps entry.1.name).map Prod.fst =
      keptColumns keeps columns := by
  unfold keptColumns
  conv => rhs; rw [← List.map_fst_zip (Nat.le_of_eq whole.symm)]
  rw [List.filter_map]
  rfl

theorem project_eq_cells (keeps : String → Bool) {columns : List Column}
    {row : Row} (distinct : (columns.map Column.name).Nodup)
    (whole : row.length = columns.length) :
    project keeps columns row =
      ((keptColumns keeps columns).map Column.name).map (cell columns row) := by
  rw [← keptColumns_zip keeps whole, List.map_map, List.map_map]
  unfold project
  refine List.map_congr_left fun entry member => ?_
  exact (cell_of_mem_zip distinct (List.mem_filter.mp member).1).symm

/-- Under the names of the kept columns, the rows cut down to them. -/
theorem Table.chosen_rows (keeps : String → Bool) {old : Table}
    (distinct : old.names.Nodup) :
    (old.chosen ((keptColumns keeps old.columns).map Column.name)).rows =
      old.rows.map (project keeps old.columns) := by
  change old.select _ [] none = _
  rw [old.select_all]
  refine List.map_congr_left fun row member => ?_
  exact (project_eq_cells keeps distinct (old.admissible.1 row member).1).symm

/-- A table created from named columns keeps columns of the old one exactly
when these were named, and had nothing declared. -/
theorem Table.chosen_keeps_iff {keeps : String → Bool} {old : Table}
    {names : List String} (distinct : old.names.Nodup) :
    old.Keeps keeps (old.chosen names).table ↔
      (∀ column ∈ keptColumns keeps old.columns, column.Bare) ∧
        names = (keptColumns keeps old.columns).map Column.name := by
  rw [Selection.keeps_iff]
  refine and_congr_right fun _ => ⟨And.left, fun named => ⟨named, ?_⟩⟩
  rw [named]
  exact old.chosen_rows keeps distinct

end SqlTable
