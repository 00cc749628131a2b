/-
Typed tables with not-null and uniqueness constraints.

A table carries the proof that its rows meet its constraints, so a write that
would break one has no result.  Rows are lists of values in column order, and
names are resolved against the columns of the table that is written or read.
-/

import Heapstore.Foundation.ByteText
import Mathlib.Data.List.Pairwise

namespace SqlTable

open ByteText

inductive Value where
  | null
  | integer (number : Int64)
  | text (bytes : Bytes)
  deriving DecidableEq

/-- The sorting order: nulls, then integers, then texts byte by byte. -/
def Value.below : Value → Value → Bool
  | .null, _ => true
  | _, .null => false
  | .integer left, .integer right => left ≤ right
  | .integer _, .text _ => true
  | .text _, .integer _ => false
  | .text left, .text right => left ≤ right

structure Column where
  name : String
  notNull : Bool
  unique : Bool
  initial : Value
  deriving DecidableEq

abbrev Row := List Value

def position (columns : List Column) (name : String) : Option Nat :=
  columns.findIdx? fun column => column.name = name

def cell (columns : List Column) (row : Row) (name : String) : Value :=
  match position columns name with
  | some index => row.getD index .null
  | none => .null

/-- A named column takes its parameter, every other column its default. -/
def newRow (columns : List Column) (names : List String) (values : Row) : Row :=
  columns.map fun column =>
    match names.idxOf? column.name with
    | some index => values.getD index .null
    | none => column.initial

/-- A named column takes its parameter, every other column keeps its value. -/
def assign (columns : List Column) (names : List String) (values row : Row) :
    Row :=
  (columns.zip row).map fun entry =>
    match names.idxOf? entry.1.name with
    | some index => values.getD index .null
    | none => entry.2

/-- Equality of a condition: a null equals nothing. -/
def equals (left right : Value) : Bool :=
  left ≠ .null && left = right

theorem eq_of_equals {left right : Value} (same : equals left right = true) :
    left = right := by
  unfold equals at same
  rw [Bool.and_eq_true] at same
  exact of_decide_eq_true same.2

/-! ### Reading a written row back -/

theorem position_of_mem {columns : List Column} {name : String}
    (named : name ∈ columns.map Column.name) :
    ∃ index, ∃ inside : index < columns.length,
      position columns name = some index ∧ columns[index].name = name := by
  obtain ⟨column, member, rfl⟩ := List.mem_map.mp named
  have present : (position columns column.name).isSome = true := by
    unfold position
    rw [List.findIdx?_isSome, List.any_eq_true]
    exact ⟨column, member, by simp⟩
  obtain ⟨index, found⟩ := Option.isSome_iff_exists.mp present
  have located := List.findIdx?_eq_some_iff_getElem.mp found
  obtain ⟨inside, same, _⟩ := located
  exact ⟨index, inside, found, by simpa using same⟩

theorem cell_newRow {columns : List Column} {names : List String} {values : Row}
    {name : String} {index : Nat} (named : name ∈ columns.map Column.name)
    (written : names.idxOf? name = some index) :
    cell columns (newRow columns names values) name =
      values.getD index .null := by
  obtain ⟨place, inside, found, same⟩ := position_of_mem named
  unfold cell newRow
  rw [found]
  simp only
  rw [List.getD_eq_getElem?_getD, List.getElem?_map,
    List.getElem?_eq_getElem inside, Option.map_some, Option.getD_some, same,
    written]

theorem cell_assign {columns : List Column} {names : List String}
    {values row : Row} {name : String} (whole : row.length = columns.length)
    (named : name ∈ columns.map Column.name) :
    cell columns (assign columns names values row) name =
      match names.idxOf? name with
      | some index => values.getD index .null
      | none => cell columns row name := by
  obtain ⟨place, inside, found, same⟩ := position_of_mem named
  have within : place < row.length := whole ▸ inside
  unfold cell assign
  rw [found]
  simp only
  have paired : (columns.zip row)[place]? = some (columns[place], row[place]) :=
    List.getElem?_zip_eq_some.mpr
      ⟨List.getElem?_eq_getElem inside, List.getElem?_eq_getElem within⟩
  rw [List.getD_eq_getElem?_getD, List.getElem?_map, paired, Option.map_some,
    Option.getD_some, same, List.getD_eq_getElem?_getD,
    List.getElem?_eq_getElem within, Option.getD_some]

theorem idxOf?_getElem {names : List String} (distinct : names.Nodup)
    {index : Nat} (inside : index < names.length) :
    names.idxOf? names[index] = some index := by
  refine List.idxOf?_eq_some_iff.mpr ⟨inside, rfl, ?_⟩
  intro earlier before same
  exact List.pairwise_iff_getElem.mp distinct earlier index
    (before.trans inside) inside before same

/-- Reading the inserted columns in their order gives the parameters. -/
theorem map_cell_newRow {columns : List Column} {names : List String}
    {values : Row} (distinct : names.Nodup)
    (named : ∀ name ∈ names, name ∈ columns.map Column.name)
    (whole : values.length = names.length) :
    names.map (cell columns (newRow columns names values)) = values := by
  apply List.ext_getElem
  · rw [List.length_map, whole]
  · intro index inside within
    have here : index < names.length := by
      rwa [List.length_map] at inside
    rw [List.getElem_map, cell_newRow (named _ (List.getElem_mem here))
      (idxOf?_getElem distinct here), List.getD_eq_getElem?_getD,
      List.getElem?_eq_getElem within, Option.getD_some]

/-! ### Constraints -/

def Fits (columns : List Column) (row : Row) : Prop :=
  row.length = columns.length ∧
    ∀ entry ∈ columns.zip row, entry.1.notNull = true → entry.2 ≠ .null

/-- Two rows agree in a unique column only where both are null. -/
def Compatible (columns : List Column) (left right : Row) : Prop :=
  ∀ entry ∈ columns.zip (left.zip right),
    entry.1.unique = true → entry.2.1 = entry.2.2 → entry.2.1 = .null

def Admissible (columns : List Column) (rows : List Row) : Prop :=
  (∀ row ∈ rows, Fits columns row) ∧ rows.Pairwise (Compatible columns)

instance (columns : List Column) (row : Row) : Decidable (Fits columns row) :=
  inferInstanceAs (Decidable (_ ∧ _))

instance (columns : List Column) (left right : Row) :
    Decidable (Compatible columns left right) :=
  inferInstanceAs (Decidable (∀ entry ∈ columns.zip (left.zip right), _))

instance (columns : List Column) (rows : List Row) :
    Decidable (Admissible columns rows) :=
  inferInstanceAs (Decidable (_ ∧ _))

theorem admissible_nil (columns : List Column) : Admissible columns [] :=
  ⟨nofun, List.Pairwise.nil⟩

theorem Admissible.sublist {columns : List Column} {rows kept : List Row}
    (admissible : Admissible columns rows) (sub : kept.Sublist rows) :
    Admissible columns kept :=
  ⟨fun row member => admissible.1 row (sub.subset member),
    admissible.2.sublist sub⟩

theorem Admissible.left {columns : List Column} {first second : List Row}
    (admissible : Admissible columns (first ++ second)) :
    Admissible columns first :=
  admissible.sublist (List.sublist_append_left first second)

/-! ### Tables -/

structure Table where
  columns : List Column
  rows : List Row
  admissible : Admissible columns rows

@[ext] theorem Table.ext {left right : Table}
    (columns : left.columns = right.columns) (rows : left.rows = right.rows) :
    left = right := by
  cases left
  cases right
  cases columns
  cases rows
  rfl

instance : DecidableEq Table := fun left right =>
  decidable_of_iff (left.columns = right.columns ∧ left.rows = right.rows)
    ⟨fun same => Table.ext same.1 same.2, fun same => same ▸ ⟨rfl, rfl⟩⟩

def Table.empty (columns : List Column) : Table where
  columns := columns
  rows := []
  admissible := admissible_nil columns

def Table.withRows (table : Table) (rows : List Row) : Option Table :=
  if admissible : Admissible table.columns rows then
    some { columns := table.columns, rows := rows, admissible := admissible }
  else none

def Table.insert (table : Table) (row : Row) : Option Table :=
  table.withRows (table.rows ++ [row])

def Table.update (table : Table) (names : List String) (values : Row)
    (keyName : String) (key : Value) : Option Table :=
  table.withRows (table.rows.map fun row =>
    if equals (cell table.columns row keyName) key then
      assign table.columns names values row
    else row)

def Table.delete (table : Table) (keyName : String) (key : Value) : Table where
  columns := table.columns
  rows := table.rows.filter fun row =>
    !equals (cell table.columns row keyName) key
  admissible := table.admissible.sublist List.filter_sublist

def descending (columns : List Column) (order : Option String)
    (rows : List Row) : List Row :=
  match order with
  | none => rows
  | some name =>
      rows.mergeSort fun left right =>
        (cell columns right name).below (cell columns left name)

/-- A new last column holds its default in every row.  A name that is taken, a
unique column and rows that break a constraint are refused. -/
def Table.addColumn (table : Table) (column : Column) : Option Table :=
  if column.name ∈ table.columns.map Column.name ∨ column.unique = true then none
  else
    let columns := table.columns ++ [column]
    let rows := table.rows.map fun row => row ++ [column.initial]
    if admissible : Admissible columns rows then
      some { columns := columns, rows := rows, admissible := admissible }
    else none

def Table.select (table : Table) (names : List String)
    (conditions : List (String × Value)) (order : Option String) : List Row :=
  (descending table.columns order (table.rows.filter fun row =>
      conditions.all fun condition =>
        equals (cell table.columns row condition.1) condition.2)).map
    fun row => names.map (cell table.columns row)

/-- The columns are compared as names, as a statement refers to them. -/
def Table.names (table : Table) : List String :=
  table.columns.map Column.name

theorem Table.withRows_isSome {table : Table} {rows : List Row} :
    (table.withRows rows).isSome = true ↔ Admissible table.columns rows := by
  unfold Table.withRows
  split
  · next admissible => exact ⟨fun _ => admissible, fun _ => rfl⟩
  · next rejected =>
      exact ⟨nofun, fun admissible => absurd admissible rejected⟩

theorem Table.withRows_of_admissible {table : Table} {rows : List Row}
    (admissible : Admissible table.columns rows) :
    table.withRows rows =
      some { columns := table.columns, rows := rows, admissible := admissible } := by
  unfold Table.withRows
  rw [dif_pos admissible]

theorem Table.withRows_of_not_admissible {table : Table} {rows : List Row}
    (rejected : ¬Admissible table.columns rows) :
    table.withRows rows = none := by
  unfold Table.withRows
  rw [dif_neg rejected]

theorem Table.withRows_eq_some {table result : Table} {rows : List Row}
    (written : table.withRows rows = some result) :
    result.columns = table.columns ∧ result.rows = rows := by
  by_cases admissible : Admissible table.columns rows
  · rw [Table.withRows_of_admissible admissible] at written
    cases written
    exact ⟨rfl, rfl⟩
  · rw [Table.withRows_of_not_admissible admissible] at written
    cases written

theorem Table.exists_withRows {table : Table} {rows : List Row}
    (admissible : Admissible table.columns rows) :
    ∃ result, table.withRows rows = some result ∧
      result.columns = table.columns ∧ result.rows = rows :=
  ⟨_, Table.withRows_of_admissible admissible, rfl, rfl⟩

/-- Inserting row by row succeeds exactly when the rows can be added at once:
every prefix of admissible rows is admissible. -/
def Table.insertAll (table : Table) : List Row → Option Table
  | [] => some table
  | row :: rest => (table.insert row).bind fun next => next.insertAll rest

theorem Table.insertAll_eq_withRows (table : Table) (rows : List Row) :
    table.insertAll rows = table.withRows (table.rows ++ rows) := by
  induction rows generalizing table with
  | nil =>
      rw [List.append_nil, Table.withRows_of_admissible table.admissible]
      rfl
  | cons row rest ih =>
      rw [Table.insertAll, Table.insert]
      by_cases admissible : Admissible table.columns (table.rows ++ [row])
      · rw [Table.withRows_of_admissible admissible, Option.bind_some, ih]
        unfold Table.withRows
        simp only [List.append_assoc, List.singleton_append]
      · have rejected :
            ¬Admissible table.columns (table.rows ++ row :: rest) := by
          intro all
          rw [List.append_cons] at all
          exact admissible all.left
        rw [Table.withRows_of_not_admissible admissible,
          Table.withRows_of_not_admissible rejected]
        rfl

end SqlTable
