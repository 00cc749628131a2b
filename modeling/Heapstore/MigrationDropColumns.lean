/-
Dropping columns by rebuilding the table.

The kept names are collected in a buffer and printed into one statement, which
SQLite reads as a selection.  The table created from it takes the place of the
old one in a transaction that each failure rolls back.  What SQLite selects is
known where the names and the statement were printed whole.
-/

import Heapstore.Types
import Heapstore.Foundation.SqlSelection
import Heapstore.Foundation.SqlConnection

namespace Heapstore.Migration

open ByteText SqlTable SqlConnection

/-! ### The statements of the rebuild -/

/-- What one step through the table info gives; an error ends the loop like
its regular end. -/
inductive InfoRow where
  | name
  | noName
  | failed
  deriving DecidableEq

structure DropCalls where
  info : Bool
  rows : Nat → InfoRow
  begun : Bool
  created : Bool
  dropped : Bool
  renamed : Bool
  committed : Bool
  counted : Bool

/-- The names that the table info lists and the caller does not drop. -/
def keptNames (drop : List String) : (Nat → InfoRow) → List Column → List String
  | _, [] => []
  | rows, column :: rest =>
      let later := keptNames drop (fun index => rows (index + 1)) rest
      match rows 0 with
      | .failed => []
      | .noName => later
      | .name => if column.name ∈ drop then later else column.name :: later

/-- Two bounded appends to `keep_cols`. -/
def appendKept (buffer : Bytes) (name : String) : Bytes :=
  let separated :=
    if buffer = [] then [] else printTo 1024 (buffer ++ ofString ", ")
  printTo 1024 (separated ++ ofString name)

def keepCols (names : List String) : Bytes :=
  names.foldl appendKept []

/-- The pragma is printed into 192 bytes, which must hold its parenthesis. -/
def InfoFits (table : String) : Prop :=
  (ofString table).length < 173

instance (table : String) : Decidable (InfoFits table) :=
  inferInstanceAs (Decidable (_ < _))

def createText (table : String) (keep : Bytes) : Bytes :=
  printTo 1200 (ofString "CREATE TABLE " ++ ofString table ++
    ofString "_tmp AS SELECT " ++ keep ++ ofString " FROM " ++
    ofString table ++ ofString ";")

def temporaryTable (table : String) : String :=
  table ++ "_tmp"

def columnsOf (database : Database) (table : String) : List Column :=
  match database table with
  | none => []
  | some found => found.columns

/-- The statements between the begin and the commit.  `selects` is how SQLite
reads the one that creates a table; the indexes that are created anew declare
nothing. -/
def rebuildTable (selects : Bytes → Database → Option Selection)
    (calls : DropCalls) (table : String) (keep : Bytes)
    (connection : Connection) : Connection × Bool :=
  let temporary := temporaryTable table
  if calls.created = false ∨ (connection.visible temporary).isSome then
    (connection, false)
  else
    match selects (createText table keep) connection.visible with
    | none => (connection, false)
    | some selection =>
        let created := connection.store
          (Function.update connection.visible temporary
            (some selection.table))
        if calls.dropped = false then (created, false)
        else
          let dropped := created.store
            (Function.update created.visible table none)
          if calls.renamed = false then (dropped, false)
          else
            (dropped.store
              (Function.update
                (Function.update dropped.visible table
                  (dropped.visible temporary)) temporary none), true)

/-- `mig_drop_columns`, with the number of affected records.  Each failure
inside the transaction rolls it back, which succeeds. -/
def migDropColumns (selects : Bytes → Database → Option Selection)
    (calls : DropCalls) (table : String) (drop : List String)
    (connection : Connection) : Connection × HeapstoreError × UInt64 :=
  let keep :=
    keepCols (keptNames drop calls.rows (columnsOf connection.visible table))
  if ¬InfoFits table ∨ calls.info = false then
    (connection, .errDbQueryFailed, 0)
  else if keep = [] then (connection, .errDbQueryFailed, 0)
  else
    let began := connection.begin_ calls.begun
    if began.2 = false then (began.1, .errDbQueryFailed, 0)
    else
      let ran := rebuildTable selects calls table keep began.1
      if ran.2 = false then ((ran.1.rollback true).1, .errDbQueryFailed, 0)
      else
        let committed := ran.1.commit calls.committed
        if committed.2 = false then
          ((committed.1.rollback true).1, .errDbQueryFailed, 0)
        else
          (committed.1, .success,
            if calls.counted then
              match committed.1.visible table with
              | none => 0
              | some rebuilt => UInt64.ofNat rebuilt.rows.length
            else 0)

/-! ### What is printed whole -/

/-- The names with the separators between them. -/
def listedText (names : List String) : Bytes :=
  (ofString ", ").intercalate (names.map ofString)

def selectionText (table : String) (names : List String) : Bytes :=
  ofString "CREATE TABLE " ++ ofString table ++ ofString "_tmp AS SELECT " ++
    listedText names ++ ofString " FROM " ++ ofString table ++ ofString ";"

/-- What is assumed of SQLite: a statement that lists columns of a table, all
of them identifiers, selects just these with all rows of the table. -/
def ReadsListed (identifier : String → Prop)
    (selects : Bytes → Database → Option Selection) : Prop :=
  ∀ (table : String) (names : List String) (database : Database)
    (found : Table),
    database table = some found → found.names.Nodup → identifier table →
      names ≠ [] → names.Sublist found.names →
      (∀ name ∈ names, identifier name) →
      selects (selectionText table names) database = some (found.chosen names)

/-- The names are read as names, and fit into the buffers. -/
structure Readable (identifier : String → Prop) (table : String)
    (names : List String) : Prop where
  tableName : identifier table
  columnNames : ∀ name ∈ names, identifier name ∧ name ≠ ""
  listFits : (listedText names).length < 1024
  textFits : (selectionText table names).length < 1200

theorem ofString_ne_nil {name : String} (named : name ≠ "") :
    ofString name ≠ [] := by
  intro nothing
  apply named
  apply String.toByteArray_inj.mp
  exact ByteArray.ext (Array.toList_inj.mp nothing)

theorem listedText_cons (name : String) {rest : List String}
    (more : rest ≠ []) :
    listedText (name :: rest) =
      ofString name ++ ofString ", " ++ listedText rest := by
  exact List.intercalate_cons_of_ne_nil (mt List.map_eq_nil_iff.mp more)

/-- Appending to a buffer that was cut cuts the whole. -/
theorem appendKept_cut {text : Bytes} (started : text ≠ []) (name : String) :
    appendKept (printTo 1024 text) name =
      printTo 1024 (text ++ ofString ", " ++ ofString name) := by
  have kept : printTo 1024 text ≠ [] := by
    unfold printTo
    rw [Ne, List.take_eq_nil_iff]
    exact not_or.mpr ⟨by decide, started⟩
  unfold appendKept
  simp only [if_neg kept, printTo_append]

theorem foldl_appendKept {text : Bytes} (started : text ≠ [])
    {names : List String} (more : names ≠ []) :
    names.foldl appendKept (printTo 1024 text) =
      printTo 1024 (text ++ ofString ", " ++ listedText names) := by
  induction names generalizing text with
  | nil => exact absurd rfl more
  | cons name rest ih =>
      rw [List.foldl_cons, appendKept_cut started]
      by_cases done : rest = []
      · subst done
        unfold listedText
        rw [List.map_singleton, List.intercalate_singleton]
        rfl
      · rw [ih (by simp [started]) done, listedText_cons name done]
        simp only [List.append_assoc]

/-- The buffer holds the listed names as far as they fit. -/
theorem keepCols_eq {names : List String} (named : ∀ name ∈ names, name ≠ "") :
    keepCols names = printTo 1024 (listedText names) := by
  cases names with
  | nil => rfl
  | cons name rest =>
      have started := ofString_ne_nil (named name List.mem_cons_self)
      have first : appendKept [] name = printTo 1024 (ofString name) := rfl
      unfold keepCols
      rw [List.foldl_cons, first]
      by_cases done : rest = []
      · subst done
        unfold listedText
        rw [List.map_singleton, List.intercalate_singleton]
        rfl
      · rw [foldl_appendKept started done, listedText_cons name done]

theorem createText_of_readable {identifier : String → Prop} {table : String}
    {names : List String} (readable : Readable identifier table names) :
    createText table (keepCols names) = selectionText table names := by
  rw [keepCols_eq fun name member => (readable.columnNames name member).2,
    printTo_of_fits readable.listFits]
  exact printTo_of_fits readable.textFits

/-- The names that the table info lists stand in the order of the columns. -/
theorem keptNames_sublist (drop : List String) (rows : Nat → InfoRow)
    (columns : List Column) :
    (keptNames drop rows columns).Sublist (columns.map Column.name) := by
  induction columns generalizing rows with
  | nil => exact List.Sublist.refl _
  | cons column rest ih =>
      have later := ih fun index => rows (index + 1)
      simp only [keptNames, List.map_cons]
      cases rows 0 with
      | failed => exact List.nil_sublist _
      | noName => exact later.cons _
      | name =>
          simp only
          split
          · exact later.cons _
          · exact later.cons_cons _

/-! ### How a rebuild ends -/

/-- The tables after a rebuild. -/
def rebuilt (table : String) (database : Database) (selection : Selection) :
    Database :=
  Function.update (Function.update database table (some selection.table))
    (temporaryTable table) none

theorem temporaryTable_ne (table : String) : temporaryTable table ≠ table := by
  intro same
  have lengths := congrArg String.length same
  unfold temporaryTable at lengths
  rw [String.length_append] at lengths
  change table.length + 4 = table.length at lengths
  omega

theorem rebuilt_table (table : String) (database : Database)
    (selection : Selection) :
    rebuilt table database selection table = some selection.table := by
  unfold rebuilt
  rw [Function.update_of_ne (temporaryTable_ne table).symm,
    Function.update_self]

private theorem rename_rebuilt (table : String) (database : Database)
    (selection : Selection) :
    let created : Database :=
      Function.update database (temporaryTable table) (some selection.table)
    let dropped : Database := Function.update created table none
    Function.update
        (Function.update dropped table (dropped (temporaryTable table)))
        (temporaryTable table) none =
      rebuilt table database selection := by
  intro created dropped
  have held : dropped (temporaryTable table) = some selection.table := by
    unfold dropped created
    rw [Function.update_of_ne (temporaryTable_ne table), Function.update_self]
  rw [held]
  unfold dropped created rebuilt
  funext name
  by_cases temporary : name = temporaryTable table
  · rw [temporary, Function.update_self, Function.update_self]
  · rw [Function.update_of_ne temporary, Function.update_of_ne temporary]
    by_cases own : name = table
    · rw [own, Function.update_self, Function.update_self]
    · rw [Function.update_of_ne own, Function.update_of_ne own,
        Function.update_of_ne own, Function.update_of_ne temporary]

section Rebuild

variable (selects : Bytes → Database → Option Selection) (calls : DropCalls)
  (table : String)

/-- The statements of a rebuild get through and select from the tables. -/
structure Selects (keep : Bytes) (database : Database)
    (selection : Selection) : Prop where
  created : calls.created = true
  free : database (temporaryTable table) = none
  read : selects (createText table keep) database = some selection
  dropped : calls.dropped = true
  renamed : calls.renamed = true

/-- Inside a transaction the statements end with the rebuilt tables, or
somewhere before. -/
theorem rebuildTable_cases (keep : Bytes) (committed database : Database) :
    let ran := rebuildTable selects calls table keep
      { committed := committed, working := some database }
    (∃ selection, Selects selects calls table keep database selection ∧
        ran = ({ committed := committed
                 working := some (rebuilt table database selection) }, true)) ∨
      (∀ selection, ¬Selects selects calls table keep database selection) ∧
        ran.2 = false ∧
        ∃ working, ran.1 = { committed := committed, working := some working } := by
  intro ran
  unfold ran rebuildTable
  have visible : Connection.visible
      { committed := committed, working := some database } = database := rfl
  by_cases blocked : calls.created = false ∨ (Connection.visible
      { committed := committed, working := some database }
      (temporaryTable table)).isSome
  · simp only [if_pos blocked]
    rw [visible] at blocked
    refine Or.inr ⟨fun selection through => ?_, trivial, _, rfl⟩
    rcases blocked with failed | taken
    · rw [through.created] at failed
      cases failed
    · rw [through.free] at taken
      cases taken
  · simp only [if_neg blocked]
    simp only [visible] at blocked ⊢
    obtain ⟨created, free⟩ := not_or.mp blocked
    cases read : selects (createText table keep) database with
    | none =>
        refine Or.inr ⟨fun selection through => ?_, rfl, _, rfl⟩
        rw [through.read] at read
        cases read
    | some selection =>
        cases dropped : calls.dropped with
        | false =>
            refine Or.inr ⟨fun other through => ?_, rfl, _, rfl⟩
            have passed := through.dropped
            rw [dropped] at passed
            cases passed
        | true =>
            cases renamed : calls.renamed with
            | false =>
                refine Or.inr ⟨fun other through => ?_, rfl, _, rfl⟩
                have passed := through.renamed
                rw [renamed] at passed
                cases passed
            | true =>
                refine Or.inl ⟨selection, ⟨by simpa using created,
                  by simpa using free, read, dropped, renamed⟩, ?_⟩
                rw [← rename_rebuilt]
                rfl

/-- Every statement gets through, and SQLite reads the one that is printed as
the selection. -/
structure Rebuilds (drop : List String) (connection : Connection)
    (old : Table) (selection : Selection) : Prop where
  present : connection.committed table = some old
  fits : InfoFits table
  info : calls.info = true
  kept : keepCols (keptNames drop calls.rows old.columns) ≠ []
  idle : connection.Idle
  begun : calls.begun = true
  selects : Selects selects calls table
    (keepCols (keptNames drop calls.rows old.columns)) connection.committed
    selection
  committed : calls.committed = true

variable (drop : List String) (connection : Connection)

/-- A call rebuilds its table or leaves the connection as it was. -/
theorem migDropColumns_cases :
    let result := migDropColumns selects calls table drop connection
    (∃ old selection,
        Rebuilds selects calls table drop connection old selection ∧
        result =
          ({ committed := rebuilt table connection.committed selection
             working := none }, .success,
            if calls.counted then UInt64.ofNat selection.rows.length else 0)) ∨
      (∀ old selection,
          ¬Rebuilds selects calls table drop connection old selection) ∧
        result = (connection, .errDbQueryFailed, 0) := by
  intro result
  unfold result migDropColumns
  by_cases pragma : ¬InfoFits table ∨ calls.info = false
  · simp only [if_pos pragma]
    refine Or.inr ⟨fun old selection through => ?_, trivial⟩
    rcases pragma with long | failed
    · exact long through.fits
    · rw [through.info] at failed
      cases failed
  · obtain ⟨fits, info⟩ := not_or.mp pragma
    rw [not_not] at fits
    rw [Bool.not_eq_false] at info
    simp only [if_neg pragma]
    obtain ⟨committed, _ | working⟩ := connection
    · cases present : committed table with
      | none =>
          simp only [columnsOf, Connection.visible, Option.getD_none, present]
          refine Or.inr ⟨fun old selection through => ?_, rfl⟩
          exact absurd (present.symm.trans through.present) nofun
      | some old =>
          simp only [columnsOf, Connection.visible, Option.getD_none, present]
          -- The table that is rebuilt is the one whose info was read.
          have same {other : Table} {selection : Selection}
              (through : Rebuilds selects calls table drop
                { committed := committed, working := none } other selection) :
              other = old :=
            Option.some.inj (through.present.symm.trans present)
          by_cases nothing : keepCols (keptNames drop calls.rows old.columns) = []
          · simp only [if_pos nothing]
            refine Or.inr ⟨fun other selection through => ?_, trivial⟩
            cases same through
            exact through.kept nothing
          · simp only [if_neg nothing]
            cases begun : calls.begun with
            | false =>
                refine Or.inr ⟨fun other selection through => ?_, rfl⟩
                exact absurd (begun.symm.trans through.begun) nofun
            | true =>
                have began : Connection.begin_
                    { committed := committed, working := none } true =
                    ({ committed := committed, working := some committed },
                      true) := rfl
                simp only [began]
                rcases rebuildTable_cases selects calls table
                    (keepCols (keptNames drop calls.rows old.columns)) committed
                    committed with ⟨selection, through, ran⟩ |
                      ⟨stops, failed, working, left⟩
                · simp only [ran]
                  cases last : calls.committed with
                  | false =>
                      refine Or.inr ⟨fun other again whole => ?_, rfl⟩
                      exact absurd (last.symm.trans whole.committed) nofun
                  | true =>
                      refine Or.inl ⟨old, selection, ⟨present, fits, info,
                        nothing, rfl, begun, through, last⟩, ?_⟩
                      simp only [Connection.commit, if_true,
                        Bool.true_eq_false, if_false, Option.getD_none,
                        rebuilt_table]
                      rfl
                · simp only [failed, if_true, left]
                  refine Or.inr ⟨fun other selection whole => ?_, rfl⟩
                  cases same whole
                  exact stops selection whole.selects
    · -- Inside a transaction, beginning fails.
      refine Or.inr ⟨fun old selection through => ?_, ?_⟩
      · cases through.idle
      · simp only [Connection.begin_]
        split <;> rfl

/-! ### What a drop owes to its table -/

def keeps (name : String) : Bool := decide (name ∉ drop)

/-- A success leaves the other columns with their declarations and rows, an
error leaves the table. -/
structure DropsColumns (result : Connection × HeapstoreError × UInt64) :
    Prop where
  success : result.2.1 = .success →
    ∃ old new, connection.visible table = some old ∧
      result.1.visible table = some new ∧ old.Keeps (keeps drop) new
  failure : result.2.1 ≠ .success →
    result.1.visible table = connection.visible table

variable (identifier : String → Prop)

/-- The columns to keep declare nothing, and all their names are listed and
printed whole. -/
structure KeepsAll (old : Table) : Prop where
  bare : ∀ column ∈ keptColumns (keeps drop) old.columns, column.Bare
  listed : keptNames drop calls.rows old.columns =
    (keptColumns (keeps drop) old.columns).map Column.name
  readable : Readable identifier table
    (keptNames drop calls.rows old.columns)

/-- The rebuild gets through only where it keeps everything. -/
def RebuildKeeps : Prop :=
  ∀ old selection,
    Rebuilds selects calls table drop connection old selection →
      KeepsAll calls table drop identifier old

variable {selects calls table drop connection identifier}

theorem Rebuilds.visible {old : Table} {selection : Selection}
    (through : Rebuilds selects calls table drop connection old selection) :
    connection.visible table = some old := by
  unfold Connection.visible
  rw [through.idle]
  exact through.present

/-- Names that are printed whole are selected from the table. -/
theorem Rebuilds.chosen {old : Table} {selection : Selection}
    (reads : ReadsListed identifier selects) (distinct : old.names.Nodup)
    (through : Rebuilds selects calls table drop connection old selection)
    (readable : Readable identifier table
      (keptNames drop calls.rows old.columns)) :
    selection = old.chosen (keptNames drop calls.rows old.columns) := by
  have more : keptNames drop calls.rows old.columns ≠ [] := by
    intro nothing
    apply through.kept
    rw [nothing]
    rfl
  have whole := reads table _ connection.committed old through.present distinct
    readable.tableName more (keptNames_sublist drop calls.rows old.columns)
    fun name member => (readable.columnNames name member).1
  have read := through.selects.read
  rw [createText_of_readable readable, whole] at read
  exact (Option.some.inj read).symm

/-- What a rebuild that gets through owes to its table. -/
theorem Rebuilds.drops_iff {old : Table} {selection : Selection}
    (through : Rebuilds selects calls table drop connection old selection) :
    DropsColumns table drop connection
        (migDropColumns selects calls table drop connection) ↔
      old.Keeps (keeps drop) selection.table := by
  rcases migDropColumns_cases selects calls table drop connection with
    ⟨other, chosen, again, same⟩ | ⟨stops, _⟩
  · have table_ : other = old :=
      Option.some.inj (again.present.symm.trans through.present)
    subst table_
    have selection_ : chosen = selection :=
      Option.some.inj (again.selects.read.symm.trans through.selects.read)
    subst selection_
    rw [same]
    have result := rebuilt_table table connection.committed chosen
    constructor
    · intro drops
      obtain ⟨before, new, present, after, kept⟩ := drops.success rfl
      cases again.visible.symm.trans present
      cases result.symm.trans after
      exact kept
    · intro kept
      exact ⟨fun _ => ⟨other, chosen.table, again.visible, result, kept⟩,
        fun failed => absurd rfl failed⟩
  · exact absurd through (stops old selection)

/-- Dropping columns preserves the table otherwise where the rebuild stops, or
keeps columns that declare nothing and prints all their names; and where what it
lists is printed whole, it does so in no other case. -/
theorem dropColumns_preserves_iff (reads : ReadsListed identifier selects)
    (distinct : ∀ old, connection.visible table = some old →
      old.names.Nodup) :
    (RebuildKeeps selects calls table drop connection identifier →
        DropsColumns table drop connection
          (migDropColumns selects calls table drop connection)) ∧
      ((∀ old, connection.visible table = some old →
          Readable identifier table (keptNames drop calls.rows old.columns)) →
        (DropsColumns table drop connection
            (migDropColumns selects calls table drop connection) ↔
          RebuildKeeps selects calls table drop connection identifier)) := by
  have enough (kept : RebuildKeeps selects calls table drop connection
      identifier) : DropsColumns table drop connection
        (migDropColumns selects calls table drop connection) := by
    rcases migDropColumns_cases selects calls table drop connection with
      ⟨old, selection, through, _⟩ | ⟨_, same⟩
    · have all := kept old selection through
      rw [through.drops_iff, through.chosen reads
        (distinct old through.visible) all.readable,
        Table.chosen_keeps_iff (distinct old through.visible)]
      exact ⟨all.bare, all.listed⟩
    · rw [same]
      exact ⟨nofun, fun _ => rfl⟩
  refine ⟨enough, fun whole => ⟨fun drops old selection through => ?_, enough⟩⟩
  have readable := whole old through.visible
  rw [through.drops_iff, through.chosen reads (distinct old through.visible)
    readable, Table.chosen_keeps_iff (distinct old through.visible)] at drops
  exact ⟨drops.1, drops.2, readable⟩

end Rebuild

/-! ### A reader of listed columns -/

/-- The bytes of unquoted names. -/
def isNameByte (byte : UInt8) : Bool :=
  isDigit byte || (65 ≤ byte && byte ≤ 90) || (97 ≤ byte && byte ≤ 122) ||
    byte = 95

def PlainName (name : String) : Prop :=
  ∀ byte ∈ ofString name, isNameByte byte = true

instance (name : String) : Decidable (PlainName name) :=
  inferInstanceAs (Decidable (∀ byte ∈ ofString name, isNameByte byte = true))

def nameOf (bytes : Bytes) : Option String :=
  String.fromUTF8? ⟨bytes.toArray⟩

/-- Without its commas a statement is a row of words: five, the names of the
columns, and two. -/
def selectsPlain (text : Bytes) (database : Database) : Option Selection :=
  let words := (text.filter fun byte => byte ≠ 44).splitOn 32
  match words with
  | _ :: _ :: temporary :: _ :: _ :: rest =>
      (nameOf (temporary.take (temporary.length - 4))).bind fun table =>
        (database table).map fun found =>
          found.chosen
            ((rest.take (rest.length - 2)).filterMap nameOf)
  | _ => none

theorem nameOf_ofString (name : String) : nameOf (ofString name) = some name :=
  dif_pos name.isValidUTF8

theorem PlainName.apart {name : String} (plain : PlainName name) {byte : UInt8}
    (separator : isNameByte byte = false) : byte ∉ ofString name := by
  intro member
  rw [plain byte member] at separator
  cases separator

theorem comma_apart : isNameByte 44 = false := by decide

theorem blank_apart : isNameByte 32 = false := by decide

theorem filter_comma {bytes : Bytes} (apart : (44 : UInt8) ∉ bytes) :
    bytes.filter (fun byte => byte ≠ 44) = bytes := by
  rw [List.filter_eq_self]
  intro byte member
  exact decide_eq_true fun same => apart (same ▸ member)

/-- The words of a listed statement. -/
def statementWords (table : String) (names : List String) : List Bytes :=
  ofString "CREATE" :: ofString "TABLE" ::
    (ofString table ++ ofString "_tmp") :: ofString "AS" ::
    ofString "SELECT" ::
    (names.map ofString ++ [ofString "FROM", ofString table ++ ofString ";"])

theorem filter_listedText {names : List String} (more : names ≠ [])
    (plain : ∀ name ∈ names, PlainName name) (last : List Bytes)
    (further : last ≠ []) :
    (listedText names).filter (fun byte => byte ≠ 44) ++ [32] ++
        [32].intercalate last =
      [32].intercalate (names.map ofString ++ last) := by
  induction names with
  | nil => exact absurd rfl more
  | cons name rest ih =>
      have own := filter_comma
        ((plain name List.mem_cons_self).apart comma_apart)
      rw [List.map_cons, List.cons_append, List.intercalate_cons_of_ne_nil
        (List.append_ne_nil_of_right_ne_nil _ further)]
      by_cases done : rest = []
      · subst done
        unfold listedText
        rw [List.map_singleton, List.intercalate_singleton, own]
        rfl
      · rw [listedText_cons name done, List.filter_append, List.filter_append,
          own, ← ih done fun other member =>
            plain other (List.mem_cons_of_mem name member)]
        have separator : (ofString ", ").filter (fun byte => byte ≠ 44) =
            [32] := by decide
        rw [separator]
        simp only [List.append_assoc]

/-- The words of a listed statement are read from its text. -/
theorem split_selectionText {table : String} {names : List String}
    (more : names ≠ []) (plainTable : PlainName table)
    (plain : ∀ name ∈ names, PlainName name) :
    ((selectionText table names).filter fun byte => byte ≠ 44).splitOn 32 =
      statementWords table names := by
  have text : (selectionText table names).filter (fun byte => byte ≠ 44) =
      [32].intercalate (statementWords table names) := by
    have list := filter_listedText more plain
      [ofString "FROM", ofString table ++ ofString ";"] (List.cons_ne_nil _ _)
    have opening : (ofString "CREATE TABLE ").filter (fun byte => byte ≠ 44) =
        ofString "CREATE" ++ [32] ++ (ofString "TABLE" ++ [32]) := by decide
    have middle :
        (ofString "_tmp AS SELECT ").filter (fun byte => byte ≠ 44) =
          ofString "_tmp" ++ [32] ++ (ofString "AS" ++ [32]) ++
            (ofString "SELECT" ++ [32]) := by decide
    have source : (ofString " FROM ").filter (fun byte => byte ≠ 44) =
        [32] ++ (ofString "FROM" ++ [32]) := by decide
    have closing : (ofString ";").filter (fun byte => byte ≠ 44) =
        ofString ";" := by decide
    unfold selectionText statementWords
    simp only [List.filter_append, filter_comma (plainTable.apart comma_apart),
      opening, middle, source, closing]
    rw [List.intercalate_cons_cons, List.intercalate_cons_cons,
      List.intercalate_cons_cons, List.intercalate_cons_cons,
      List.intercalate_cons_of_ne_nil
        (List.append_ne_nil_of_right_ne_nil _ (List.cons_ne_nil _ _)), ← list,
      List.intercalate_cons_cons, List.intercalate_singleton]
    simp only [List.append_assoc]
  rw [text]
  apply List.splitOn_intercalate
  · have free (name : String) (plain : PlainName name) (rest : Bytes)
        (clear : (32 : UInt8) ∉ rest) : (32 : UInt8) ∉ ofString name ++ rest :=
      List.not_mem_append (plain.apart blank_apart) clear
    unfold statementWords
    simp only [List.forall_mem_cons, List.forall_mem_append]
    refine ⟨by decide, by decide, free table plainTable _ (by decide),
      by decide, by decide, ?_, by decide, free table plainTable _ (by decide),
      nofun⟩
    intro word member
    obtain ⟨name, named, rfl⟩ := List.mem_map.mp member
    exact (plain name named).apart blank_apart
  · exact List.cons_ne_nil _ _

/-- Plain names are read as names. -/
theorem selectsPlain_reads : ReadsListed PlainName selectsPlain := by
  intro table names database found present _ plainTable more _ plain
  unfold selectsPlain
  rw [split_selectionText more plainTable plain]
  have stem : (ofString table ++ ofString "_tmp").take
      ((ofString table ++ ofString "_tmp").length - 4) = ofString table := by
    apply List.take_left'
    rw [List.length_append]
    exact (Nat.add_sub_cancel _ 4).symm
  have listed : (names.map ofString ++
      [ofString "FROM", ofString table ++ ofString ";"]).take
        ((names.map ofString ++
          [ofString "FROM", ofString table ++ ofString ";"]).length - 2) =
      names.map ofString := by
    apply List.take_left'
    rw [List.length_append]
    exact (Nat.add_sub_cancel _ 2).symm
  have read : (names.map ofString).filterMap nameOf = names := by
    have inverse : nameOf ∘ ofString = some := funext nameOf_ofString
    rw [List.filterMap_map, inverse]
    exact List.filterMap_some
  simp only [statementWords, stem, listed, read, nameOf_ofString,
    Option.bind_some, present, Option.map_some]

/-! ### A key that is lost -/

def DropCalls.ok : DropCalls where
  info := true
  rows := fun _ => .name
  begun := true
  created := true
  dropped := true
  renamed := true
  committed := true
  counted := true

/-- Agents with a key and one more column. -/
def keyedAgents : Table where
  columns :=
    [{ name := "id", notNull := false, unique := true, initial := .null },
      bareColumn "tags"]
  rows := [[.text (ofString "a"), .text (ofString "night")],
    [.text (ofString "b"), .null]]
  admissible := by decide

def keyedConnection : Connection where
  committed := Function.update (fun _ => none) "agents" (some keyedAgents)
  working := none

theorem keyedAgents_of_visible {old : Table}
    (visible : keyedConnection.visible "agents" = some old) :
    keyedAgents = old :=
  Option.some.inj visible

theorem keyedAgents_distinct (old : Table)
    (visible : keyedConnection.visible "agents" = some old) :
    old.names.Nodup := by
  rw [← keyedAgents_of_visible visible]
  decide

/-- Without their key the agents keep everything. -/
theorem dropColumns_preserves_iff_keyless :
    DropsColumns "agents" ["id"] keyedConnection
      (migDropColumns selectsPlain .ok "agents" ["id"] keyedConnection) := by
  refine (dropColumns_preserves_iff selectsPlain_reads
    keyedAgents_distinct).1 ?_
  intro old selection through
  rw [← keyedAgents_of_visible through.visible]
  exact
    { bare := by decide
      listed := by decide
      readable :=
        { tableName := by decide +kernel
          columnNames := by decide +kernel
          listFits := by decide
          textFits := by decide } }

/-- Dropping the tags of the agents succeeds, and their key is gone. -/
theorem dropColumns_loses_key :
    ¬∀ (identifier : String → Prop)
      (selects : Bytes → Database → Option Selection) (calls : DropCalls)
      (table : String) (drop : List String) (connection : Connection),
      ReadsListed identifier selects →
      (∀ old, connection.visible table = some old → old.names.Nodup) →
      (∃ old, connection.visible table = some old ∧
        ∃ column ∈ old.columns, column.name = "id" ∧ column.unique = true) →
      DropsColumns table drop connection
        (migDropColumns selects calls table drop connection) := by
  intro always
  have drops := always PlainName selectsPlain .ok "agents" ["tags"]
    keyedConnection selectsPlain_reads keyedAgents_distinct
    ⟨keyedAgents, rfl, _, List.mem_cons_self, rfl, rfl⟩
  have read := selectsPlain_reads "agents" ["id"] keyedConnection.committed
    keyedAgents rfl (by decide) (by decide +kernel) nofun (by decide)
    (by decide +kernel)
  have through : Rebuilds selectsPlain .ok "agents" ["tags"] keyedConnection
      keyedAgents (keyedAgents.chosen ["id"]) :=
    { present := rfl
      fits := by decide
      info := rfl
      kept := by decide
      idle := rfl
      begun := rfl
      selects :=
        { created := rfl
          free := rfl
          read := read
          dropped := rfl
          renamed := rfl }
      committed := rfl }
  have kept := (through.drops_iff.mp drops).1
  revert kept
  decide

end Heapstore.Migration
