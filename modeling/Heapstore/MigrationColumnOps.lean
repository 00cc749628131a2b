/-
Column operations on a database file.

The operations commit one by one, so a failure is undone by the backup that was
taken before the first.  The file is kept as its bytes; how SQLite reads them
and what it does with the text of a statement are parameters.
-/

import Heapstore.MigrationBackup
import Heapstore.MigrationDropColumns

namespace Heapstore.Migration

open ByteText SqlTable SqlConnection

/-! ### The operations -/

structure Sqlite where
  /-- The tables in the bytes of a file; other bytes are no database. -/
  tables : Bytes → Option Database
  /-- The tables after an `ALTER TABLE` statement, unless it is refused. -/
  alters : Bytes → Database → Option Database
  /-- What a statement that creates a table selects. -/
  selects : Bytes → Database → Option Selection

/-- Dropped columns select the rebuild of the table, otherwise a column is
added. -/
structure MigColOp where
  table : String
  column : String
  columnDef : Bytes
  dropColumns : Option (List String)

/-- The outcomes of one operation.  `stored` is what the file holds behind it. -/
structure OpCalls where
  column : ColumnCalls
  drop : DropCalls
  stored : Bytes

def alterText (op : MigColOp) : Bytes :=
  ofString "ALTER TABLE " ++ ofString op.table ++ ofString " ADD COLUMN " ++
    op.columnDef ++ ofString ";"

def hasColumn (op : MigColOp) (database : Database) : Bool :=
  decide (op.column ∈ (columnsOf database op.table).map Column.name)

/-- `mig_add_column`: the statement is printed into 256 bytes. -/
def migAddColumnText (sqlite : Sqlite) (calls : ColumnCalls) (op : MigColOp)
    (database : Database) : Database × HeapstoreError × UInt64 :=
  if (decide (InfoFits op.table) && calls.info && hasColumn op database) = true
  then (database, .success, 0)
  else if calls.alter = false then (database, .errDbQueryFailed, 0)
  else
    match sqlite.alters (printTo 256 (alterText op)) database with
    | none => (database, .errDbQueryFailed, 0)
    | some altered =>
        (altered, .success,
          if calls.counted then
            match altered op.table with
            | none => 0
            | some table => UInt64.ofNat table.rows.length
          else 0)

def migColOp (sqlite : Sqlite) (calls : OpCalls) (op : MigColOp)
    (database : Database) : Database × HeapstoreError × UInt64 :=
  match op.dropColumns with
  | none => migAddColumnText sqlite calls.column op database
  | some drop =>
      let ran := migDropColumns sqlite.selects calls.drop op.table drop
        { committed := database, working := none }
      (ran.1.visible, ran.2)

/-- An operation that succeeded, with the tables around it. -/
structure AppliedOp where
  op : MigColOp
  before : Database
  after : Database
  affected : UInt64
  stored : Bytes

structure OpsResult where
  content : Bytes
  error : HeapstoreError
  affected : UInt64
  applied : List AppliedOp

/-- The operation loop of `mig_apply_cols`.  Every statement fails on a file
that is no database. -/
def runColOps (sqlite : Sqlite) :
    (Nat → OpCalls) → List MigColOp → Bytes → UInt64 → OpsResult
  | _, [], content, affected =>
      { content := content, error := .success, affected := affected
        applied := [] }
  | calls, op :: rest, content, affected =>
      match sqlite.tables content with
      | none =>
          { content := (calls 0).stored, error := .errDbQueryFailed
            affected := affected, applied := [] }
      | some before =>
          let ran := migColOp sqlite (calls 0) op before
          if ran.2.1 = .success then
            let later := runColOps sqlite (fun index => calls (index + 1)) rest
              (calls 0).stored (affected + ran.2.2)
            { later with
              applied :=
                { op := op
                  before := before
                  after := ran.1
                  affected := ran.2.2
                  stored := (calls 0).stored } :: later.applied }
          else
            { content := (calls 0).stored, error := ran.2.1
              affected := affected, applied := [] }

/-! ### The file and its backup -/

/-- `heapstore_atomic_replace` on the bytes of the files. -/
def Files.rename (files : Files) (source target : Bytes) : Files :=
  match files source with
  | none => files
  | some content =>
      Function.update (Function.update files target (some content)) source none

structure ColsCalls where
  backup : ChunkedCalls
  opened : Bool
  ops : Nat → OpCalls

structure ColsResult where
  files : Files
  error : HeapstoreError
  recordsAffected : UInt64
  applied : List AppliedOp

/-- `mig_apply_cols` on the bytes of the files.  Restoring and removing the
backup succeed. -/
def migApplyColsChunked (sqlite : Sqlite) (root : Bytes) (calls : ColsCalls)
    (ops : List MigColOp) (files : Files) : ColsResult :=
  let path := migDbPath root
  match files path with
  | none =>
      { files := files, error := .success, recordsAffected := 0, applied := [] }
  | some _ =>
      let backed := migBackupDataFileChunked calls.backup path files
      if backed.2 ≠ .success then
        { files := backed.1, error := backed.2, recordsAffected := 0
          applied := [] }
      else if calls.opened = false then
        { files := Files.rename backed.1 (backupPath path) path
          error := .errDbInitFailed
          recordsAffected := 0
          applied := [] }
      else
        let ran := runColOps sqlite calls.ops ops ((backed.1 path).getD []) 0
        let written := Function.update backed.1 path (some ran.content)
        if ran.error = .success then
          { files := Function.update written (backupPath path) none
            error := .success
            recordsAffected := ran.affected
            applied := ran.applied }
        else
          { files := Files.rename written (backupPath path) path
            error := ran.error
            recordsAffected := 0
            applied := ran.applied }

/-! ### What an operation should do -/

/-- Adding a column that is there does nothing, otherwise the whole statement
is carried out. -/
def declaredAdd (sqlite : Sqlite) (op : MigColOp) (database : Database) :
    Option Database :=
  if hasColumn op database then some database
  else sqlite.alters (alterText op) database

/-- The operation did what it declares. -/
def AppliedOp.Whole (sqlite : Sqlite) (entry : AppliedOp) : Prop :=
  match entry.op.dropColumns with
  | none => declaredAdd sqlite entry.op entry.before = some entry.after
  | some drop =>
      ∃ old new, entry.before entry.op.table = some old ∧
        entry.after entry.op.table = some new ∧
        new.names = (keptColumns (keeps drop) old.columns).map Column.name ∧
        new.rows = old.rows.map (project (keeps drop) old.columns)

/-- The operations lead from the first tables to the last, each on what the one
before it left. -/
def AppliedInOrder (sqlite : Sqlite) :
    Option Database → List AppliedOp → Option Database → Prop
  | start, [], final => start = final
  | start, entry :: rest, final =>
      start = some entry.before ∧ entry.Whole sqlite ∧
        AppliedInOrder sqlite (some entry.after) rest final

/-- The statements of an operation that are carried out do what it declares:
their text was not cut, or the cut did not matter. -/
def CarriedOut (sqlite : Sqlite) (calls : OpCalls) (op : MigColOp)
    (database : Database) : Prop :=
  match op.dropColumns with
  | none =>
      (decide (InfoFits op.table) && calls.column.info &&
          hasColumn op database) = false →
        calls.column.alter = true →
        ∀ altered,
          sqlite.alters (printTo 256 (alterText op)) database = some altered →
            declaredAdd sqlite op database = some altered
  | some drop =>
      ∀ old selection,
        Rebuilds sqlite.selects calls.drop op.table drop
            { committed := database, working := none } old selection →
          selection.names =
              (keptColumns (keeps drop) old.columns).map Column.name ∧
            selection.rows = old.rows.map (project (keeps drop) old.columns)

theorem migAddColumnText_succeeded {sqlite : Sqlite} {calls : ColumnCalls}
    {op : MigColOp} {database : Database}
    (succeeded : (migAddColumnText sqlite calls op database).2.1 = .success) :
    (hasColumn op database = true ∧
        (decide (InfoFits op.table) && calls.info && hasColumn op database) =
          true ∧
        (migAddColumnText sqlite calls op database).1 = database) ∨
      ((decide (InfoFits op.table) && calls.info && hasColumn op database) =
          false ∧ calls.alter = true ∧
        sqlite.alters (printTo 256 (alterText op)) database =
          some (migAddColumnText sqlite calls op database).1) := by
  unfold migAddColumnText at succeeded ⊢
  cases found : (decide (InfoFits op.table) && calls.info &&
      hasColumn op database) with
  | true =>
      refine Or.inl ⟨?_, rfl, rfl⟩
      exact (Bool.and_eq_true_iff.mp found).2
  | false =>
      rw [found] at succeeded
      simp only [Bool.false_eq_true, if_false] at succeeded ⊢
      cases altered : calls.alter with
      | false =>
          rw [altered] at succeeded
          cases succeeded
      | true =>
          rw [altered] at succeeded
          simp only [Bool.true_eq_false, if_false] at succeeded ⊢
          cases done : sqlite.alters (printTo 256 (alterText op)) database with
          | none =>
              rw [done] at succeeded
              cases succeeded
          | some next => exact Or.inr ⟨trivial, trivial, rfl⟩

/-- An operation that succeeds is whole exactly when it was carried out as
declared. -/
theorem whole_iff_carriedOut {sqlite : Sqlite} {calls : OpCalls}
    {op : MigColOp} {database : Database} {affected : UInt64} {stored : Bytes}
    (succeeded : (migColOp sqlite calls op database).2.1 = .success) :
    AppliedOp.Whole sqlite
        { op := op, before := database
          after := (migColOp sqlite calls op database).1
          affected := affected, stored := stored } ↔
      CarriedOut sqlite calls op database := by
  unfold AppliedOp.Whole CarriedOut
  unfold migColOp at succeeded ⊢
  cases kind : op.dropColumns with
  | none =>
      simp only [kind] at succeeded ⊢
      rcases migAddColumnText_succeeded succeeded with
        ⟨there, found, same⟩ | ⟨unfound, alter, done⟩
      · constructor
        · intro _ unfound
          rw [found] at unfound
          cases unfound
        · intro _
          rw [same]
          exact if_pos there
      · constructor
        · intro whole _ _ altered again
          rw [done] at again
          cases again
          exact whole
        · exact fun carried => carried unfound alter _ done
  | some drop =>
      simp only [kind] at succeeded ⊢
      rcases migDropColumns_cases sqlite.selects calls.drop op.table drop
          { committed := database, working := none } with
        ⟨old, selection, through, same⟩ | ⟨_, same⟩
      · rw [same]
        have after : Connection.visible
            { committed := rebuilt op.table database selection
              working := none } op.table = some selection.table :=
          rebuilt_table ..
        simp only [after]
        constructor
        · rintro ⟨before, new, present, made, names, rows⟩ other chosen again
          cases made
          have table_ : other = before :=
            Option.some.inj (again.present.symm.trans present)
          have first : old = before :=
            Option.some.inj (through.present.symm.trans present)
          subst table_
          subst first
          have selection_ : selection = chosen := Option.some.inj
            (through.selects.read.symm.trans again.selects.read)
          subst selection_
          rw [← names, ← rows]
          exact ⟨(map_name_bareColumn selection.names).symm, rfl⟩
        · intro carried
          obtain ⟨names, rows⟩ := carried old selection through
          exact ⟨old, selection.table, through.present, rfl,
            (map_name_bareColumn selection.names).trans names, rows⟩
      · rw [same] at succeeded
        cases succeeded

/-! ### The operation loop -/

/-- Every operation succeeds, each on what the one before it stored. -/
def OpsSucceed (sqlite : Sqlite) :
    (Nat → OpCalls) → List MigColOp → Bytes → Prop
  | _, [], _ => True
  | calls, op :: rest, content =>
      ∃ before, sqlite.tables content = some before ∧
        (migColOp sqlite (calls 0) op before).2.1 = .success ∧
        OpsSucceed sqlite (fun index => calls (index + 1)) rest (calls 0).stored

/-- Every operation carries its statements out as declared. -/
def OpsCarriedOut (sqlite : Sqlite) :
    (Nat → OpCalls) → List MigColOp → Bytes → Prop
  | _, [], _ => True
  | calls, op :: rest, content =>
      (∀ before, sqlite.tables content = some before →
        CarriedOut sqlite (calls 0) op before) ∧
      OpsCarriedOut sqlite (fun index => calls (index + 1)) rest
        (calls 0).stored

theorem runColOps_success_iff (sqlite : Sqlite) (calls : Nat → OpCalls)
    (ops : List MigColOp) (content : Bytes) (affected : UInt64) :
    (runColOps sqlite calls ops content affected).error = .success ↔
      OpsSucceed sqlite calls ops content := by
  induction ops generalizing calls content affected with
  | nil => exact ⟨fun _ => trivial, fun _ => rfl⟩
  | cons op rest ih =>
      unfold runColOps OpsSucceed
      cases tables : sqlite.tables content with
      | none => exact ⟨nofun, fun ⟨_, held, _⟩ => nomatch held⟩
      | some before =>
          simp only [Option.some.injEq, exists_eq_left']
          by_cases here : (migColOp sqlite (calls 0) op before).2.1 = .success
          · simp only [here, if_true, true_and]
            exact ih _ _ _
          · simp only [here, if_false, false_and]

theorem runColOps_applied {sqlite : Sqlite} {calls : Nat → OpCalls}
    {ops : List MigColOp} {content : Bytes} {affected : UInt64}
    (succeeded :
      (runColOps sqlite calls ops content affected).error = .success) :
    (runColOps sqlite calls ops content affected).applied.map AppliedOp.op =
        ops ∧
      (runColOps sqlite calls ops content affected).affected =
        affected + totalRecords
          ((runColOps sqlite calls ops content affected).applied.map
            AppliedOp.affected) := by
  induction ops generalizing calls content affected with
  | nil => exact ⟨rfl, (UInt64.add_zero affected).symm⟩
  | cons op rest ih =>
      unfold runColOps at succeeded ⊢
      cases tables : sqlite.tables content with
      | none =>
          rw [tables] at succeeded
          cases succeeded
      | some before =>
          rw [tables] at succeeded
          simp only at succeeded ⊢
          by_cases here : (migColOp sqlite (calls 0) op before).2.1 = .success
          · simp only [if_pos here] at succeeded ⊢
            obtain ⟨same, sum⟩ := ih succeeded
            refine ⟨by rw [List.map_cons, same], ?_⟩
            rw [sum, List.map_cons, UInt64.add_assoc]
            rfl
          · simp only [if_neg here] at succeeded
            exact absurd succeeded here

/-- SQLite reads back what it has stored. -/
def StoresTables (sqlite : Sqlite) (applied : List AppliedOp) : Prop :=
  ∀ entry ∈ applied, sqlite.tables entry.stored = some entry.after

theorem runColOps_inOrder_iff {sqlite : Sqlite} {calls : Nat → OpCalls}
    {ops : List MigColOp} {content : Bytes} {affected : UInt64}
    (succeeded :
      (runColOps sqlite calls ops content affected).error = .success)
    (stores : StoresTables sqlite
      (runColOps sqlite calls ops content affected).applied) :
    AppliedInOrder sqlite (sqlite.tables content)
        (runColOps sqlite calls ops content affected).applied
        (sqlite.tables (runColOps sqlite calls ops content affected).content) ↔
      OpsCarriedOut sqlite calls ops content := by
  induction ops generalizing calls content affected with
  | nil => exact ⟨fun _ => trivial, fun _ => rfl⟩
  | cons op rest ih =>
      unfold runColOps at succeeded stores ⊢
      unfold OpsCarriedOut
      cases tables : sqlite.tables content with
      | none =>
          rw [tables] at succeeded
          cases succeeded
      | some before =>
          rw [tables] at succeeded stores
          simp only at succeeded stores ⊢
          by_cases here : (migColOp sqlite (calls 0) op before).2.1 = .success
          · simp only [if_pos here] at succeeded stores ⊢
            obtain ⟨first, later⟩ := List.forall_mem_cons.mp stores
            have tail := ih succeeded later
            rw [show sqlite.tables (calls 0).stored =
              some (migColOp sqlite (calls 0) op before).1 from first] at tail
            unfold AppliedInOrder
            rw [tail, whole_iff_carriedOut here]
            simp only [true_and, Option.some.injEq, forall_eq']
          · simp only [if_neg here] at succeeded
            exact absurd succeeded here

/-! ### All or nothing -/

section AllOrNothing

variable (sqlite : Sqlite) (root : Bytes) (calls : ColsCalls)
  (ops : List MigColOp) (files : Files)

/-- An error leaves the file and counts nothing; a success has applied every
operation, counts their records and leaves no backup. -/
structure ColsAllOrNothing (result : ColsResult) : Prop where
  failure : result.error ≠ .success →
    result.files (migDbPath root) = files (migDbPath root) ∧
      result.recordsAffected = 0
  applied : result.error = .success →
    result.applied.map AppliedOp.op = ops ∧
      AppliedInOrder sqlite ((files (migDbPath root)).bind sqlite.tables)
        result.applied
        ((result.files (migDbPath root)).bind sqlite.tables)
  counted : result.error = .success →
    result.recordsAffected =
      totalRecords (result.applied.map AppliedOp.affected)
  cleaned : result.error = .success →
    result.files (backupPath (migDbPath root)) = none

/-- Nothing fails before the end. -/
def RunsThrough : Prop :=
  (migBackupDataFileChunked calls.backup (migDbPath root) files).2 = .success ∧
    calls.opened = true ∧
    ∀ content, files (migDbPath root) = some content →
      OpsSucceed sqlite calls.ops ops content

/-- Where nothing fails, each operation carries its statements out as
declared. -/
def ColsCarriedOut : Prop :=
  RunsThrough sqlite root calls ops files →
    ∀ content, files (migDbPath root) = some content →
      OpsCarriedOut sqlite calls.ops ops content

theorem migDbPath_short {root : Bytes} (short : root.length < 473) :
    (migDbPath root).length < 494 := by
  have whole : migDbPath root = root ++ ofString "/registry/registry.db" := by
    apply printTo_of_fits
    rw [List.length_append]
    change root.length + 21 < 512
    omega
  rw [whole, List.length_append]
  change root.length + 21 < 494
  omega

theorem Files.rename_target {files : Files} {source target content : Bytes}
    (held : files source = some content) (different : target ≠ source) :
    Files.rename files source target target = some content := by
  unfold Files.rename
  rw [held]
  exact (Function.update_of_ne different ..).trans (Function.update_self ..)

/-- The two ways out of the column operations: the file is restored, or the
last operation has stored it. -/
theorem migApplyColsChunked_cases {content : Bytes}
    (short : root.length < 473)
    (existing : files (migDbPath root) = some content) :
    let result := migApplyColsChunked sqlite root calls ops files
    let ran := runColOps sqlite calls.ops ops content 0
    (¬RunsThrough sqlite root calls ops files ∧ result.error ≠ .success ∧
        result.files (migDbPath root) = some content ∧
        result.recordsAffected = 0) ∨
      (RunsThrough sqlite root calls ops files ∧ ran.error = .success ∧
        result.error = .success ∧
        result.files (migDbPath root) = some ran.content ∧
        result.files (backupPath (migDbPath root)) = none ∧
        result.applied = ran.applied ∧
        result.recordsAffected = ran.affected) := by
  intro result ran
  have room := migDbPath_short short
  have own := ne_backupPath room
  have untouched := migBackupDataFileChunked_of_ne calls.backup files own
  unfold result migApplyColsChunked
  simp only [existing]
  by_cases backed : (migBackupDataFileChunked calls.backup (migDbPath root)
      files).2 = .success
  · have copy := migBackupDataFileChunked_copy room existing backed
    rw [← backupPath_eq_append room] at copy
    have there : (migBackupDataFileChunked calls.backup (migDbPath root)
        files).1 (backupPath (migDbPath root)) = some content := by
      rw [copy, Function.update_self]
    simp only [ne_eq, backed, not_true_eq_false, if_false]
    cases opened : calls.opened with
    | false =>
        refine Or.inl ⟨fun through => ?_, nofun,
          Files.rename_target there own, rfl⟩
        exact absurd (opened.symm.trans through.2.1) nofun
    | true =>
        simp only [Bool.true_eq_false, if_false, untouched, existing,
          Option.getD_some]
        by_cases succeeded : ran.error = .success
        · rw [if_pos succeeded]
          refine Or.inr ⟨⟨backed, opened, fun other same => ?_⟩, succeeded, rfl,
            ?_, Function.update_self .., rfl, rfl⟩
          · rw [existing] at same
            cases same
            exact (runColOps_success_iff ..).mp succeeded
          · exact (Function.update_of_ne own ..).trans
              (Function.update_self ..)
        · rw [if_neg succeeded]
          refine Or.inl ⟨fun through => ?_, succeeded, ?_, rfl⟩
          · exact succeeded ((runColOps_success_iff ..).mpr
              (through.2.2 content existing))
          · refine Files.rename_target ?_ own
            rw [Function.update_of_ne own.symm, there]
  · simp only [ne_eq, backed, not_false_eq_true, if_true]
    exact Or.inl ⟨fun through => backed through.1, trivial,
      untouched.trans existing, trivial⟩

private theorem carriedOut_of_allOrNothing {content : Bytes}
    (short : root.length < 473)
    (existing : files (migDbPath root) = some content)
    (stores : StoresTables sqlite
      (migApplyColsChunked sqlite root calls ops files).applied)
    (whole : ColsAllOrNothing sqlite root ops files
      (migApplyColsChunked sqlite root calls ops files)) :
    ColsCarriedOut sqlite root calls ops files := by
  intro runs other held
  rw [existing] at held
  cases held
  rcases migApplyColsChunked_cases sqlite root calls ops files short existing with
    ⟨stopped, _⟩ | ⟨_, succeeded, success, file, _, applied, _⟩
  · exact absurd runs stopped
  · rw [applied] at stores
    have order := (whole.applied success).2
    rw [existing, file, applied] at order
    exact (runColOps_inOrder_iff succeeded stores).mp order

theorem allOrNothing_of_carriedOut {content : Bytes}
    (short : root.length < 473)
    (existing : files (migDbPath root) = some content)
    (stores : StoresTables sqlite
      (migApplyColsChunked sqlite root calls ops files).applied)
    (carried : ColsCarriedOut sqlite root calls ops files) :
    ColsAllOrNothing sqlite root ops files
      (migApplyColsChunked sqlite root calls ops files) := by
  rcases migApplyColsChunked_cases sqlite root calls ops files short existing with
    ⟨_, failed, file, records⟩ |
      ⟨through, succeeded, success, file, backup, applied, records⟩
  · exact ⟨fun _ => ⟨file.trans existing.symm, records⟩,
      fun success => absurd success failed,
      fun success => absurd success failed,
      fun success => absurd success failed⟩
  · rw [applied] at stores
    obtain ⟨same, sum⟩ := runColOps_applied succeeded
    refine ⟨fun failed => absurd success failed, fun _ => ⟨?_, ?_⟩,
      fun _ => ?_, fun _ => backup⟩
    · rw [applied, same]
    · rw [existing, file, applied]
      exact (runColOps_inOrder_iff succeeded stores).mpr
        (carried through content existing)
    · rw [records, applied, sum, UInt64.zero_add]

/-- The column operations are all or nothing exactly when no statement that is
carried out was cut into another one. -/
theorem applyCols_all_or_nothing_iff {content : Bytes}
    (short : root.length < 473)
    (existing : files (migDbPath root) = some content)
    (stores : StoresTables sqlite
      (migApplyColsChunked sqlite root calls ops files).applied) :
    ColsAllOrNothing sqlite root ops files
        (migApplyColsChunked sqlite root calls ops files) ↔
      ColsCarriedOut sqlite root calls ops files :=
  ⟨carriedOut_of_allOrNothing sqlite root calls ops files short existing stores,
    allOrNothing_of_carriedOut sqlite root calls ops files short existing
      stores⟩

end AllOrNothing

/-! ### A statement that is cut -/

def levelColumn (number : Nat) : Column where
  name := "level"
  notNull := false
  unique := false
  initial := .integer (Int64.ofNat number)

/-- The agents with the levels that have been added so far. -/
def levelTables (levels : List Nat) : Database :=
  Function.update (fun _ => none) "agents"
    (some (Table.empty (bareColumn "id" :: levels.map levelColumn)))

def levelFront : Bytes :=
  ofString "ALTER TABLE agents ADD COLUMN level INTEGER DEFAULT "

/-- The default that a statement gives to the level. -/
def levelDefault (text : Bytes) : Nat :=
  digitsValue ((text.drop levelFront.length).takeWhile isDigit)

/-- How SQLite adds a level to the agents. -/
def altersLevel (text : Bytes) (database : Database) : Option Database :=
  if text.take levelFront.length = levelFront then
    (database "agents").bind fun agents =>
      (agents.addColumn (levelColumn (levelDefault text))).map fun altered =>
        Function.update database "agents" (some altered)
  else none

/-- Two files: one without levels, and one whose level defaults to zero. -/
def levelSqlite : Sqlite where
  tables := fun content =>
    if content = [1] then some (levelTables [])
    else if content = [2] then some (levelTables [0])
    else none
  alters := altersLevel
  selects := fun _ _ => none

def levelOp (default : Bytes) : MigColOp where
  table := "agents"
  column := "level"
  columnDef := ofString "level INTEGER DEFAULT " ++ default
  dropColumns := none

def levelCalls : ColsCalls where
  backup := .ok
  opened := true
  ops := fun _ =>
    { column := { info := true, alter := true, counted := true }
      drop := .ok
      stored := [2] }

def levelFiles : Files :=
  Function.update (fun _ => none) (migDbPath (ofString "/data")) (some [1])

theorem levelFiles_database :
    levelFiles (migDbPath (ofString "/data")) = some [1] :=
  Function.update_self ..

private theorem level_runsThrough {default : Bytes}
    (added : (migColOp levelSqlite (levelCalls.ops 0) (levelOp default)
      (levelTables [])).2.1 = .success) :
    RunsThrough levelSqlite (ofString "/data") levelCalls [levelOp default]
      levelFiles := by
  refine ⟨?_, rfl, fun content held => ?_⟩
  · rw [show levelCalls.backup = .ok from rfl,
      migBackupDataFileChunked_ok levelFiles_database]
  · rw [levelFiles_database] at held
    cases held
    exact ⟨levelTables [], rfl, added, trivial⟩

private theorem level_stores {default : Bytes}
    (added : migColOp levelSqlite (levelCalls.ops 0) (levelOp default)
      (levelTables []) = (levelTables [0], .success, 0)) :
    StoresTables levelSqlite (migApplyColsChunked levelSqlite
      (ofString "/data") levelCalls [levelOp default] levelFiles).applied := by
  have runs := level_runsThrough (congrArg (fun ran => ran.2.1) added)
  rcases migApplyColsChunked_cases levelSqlite (ofString "/data") levelCalls
      [levelOp default] levelFiles (by decide) levelFiles_database with
    ⟨stopped, _⟩ | ⟨_, _, _, _, _, applied, _⟩
  · exact absurd runs stopped
  · rw [applied]
    have ran : runColOps levelSqlite levelCalls.ops [levelOp default] [1] 0 =
        { content := [2]
          error := .success
          affected := 0
          applied :=
            [{ op := levelOp default
               before := levelTables []
               after := levelTables [0]
               affected := 0
               stored := [2] }] } := by
      unfold runColOps
      rw [show levelSqlite.tables [1] = some (levelTables []) from rfl]
      simp only [added, if_true]
      rfl
    rw [ran]
    intro entry member
    cases List.mem_singleton.mp member
    rfl

private theorem addLevel (number : Nat) :
    (Table.empty [bareColumn "id"]).addColumn (levelColumn number) =
      some (Table.empty [bareColumn "id", levelColumn number]) := by
  unfold Table.addColumn
  rw [if_neg (by simp [Table.empty, bareColumn, levelColumn])]
  exact dif_pos (admissible_nil _)

private theorem altersLevel_front {text : Bytes}
    (front : text.take levelFront.length = levelFront) :
    altersLevel text (levelTables []) =
      some (levelTables [levelDefault text]) := by
  have held : levelTables [] "agents" =
      some (Table.empty [bareColumn "id"]) := rfl
  unfold altersLevel
  rw [if_pos front, held, Option.bind_some, addLevel, Option.map_some]
  exact congrArg some (Function.update_idem ..)

private theorem level_added {default : Bytes}
    (front : (printTo 256 (alterText (levelOp default))).take
      levelFront.length = levelFront)
    (zero : levelDefault (printTo 256 (alterText (levelOp default))) = 0) :
    migColOp levelSqlite (levelCalls.ops 0) (levelOp default)
      (levelTables []) = (levelTables [0], .success, 0) := by
  have read := altersLevel_front front
  rw [zero] at read
  have adds : migColOp levelSqlite (levelCalls.ops 0) (levelOp default)
      (levelTables []) = migAddColumnText levelSqlite
        (levelCalls.ops 0).column (levelOp default) (levelTables []) := rfl
  have absent : hasColumn (levelOp default) (levelTables []) = false := rfl
  have alters : levelSqlite.alters = altersLevel := rfl
  rw [adds]
  unfold migAddColumnText
  simp only [absent, Bool.and_false, alters, read]
  rfl

/-- A level whose statement fits its buffer. -/
theorem applyCols_adds_level :
    ColsAllOrNothing levelSqlite (ofString "/data") [levelOp (ofString "0")]
      levelFiles (migApplyColsChunked levelSqlite (ofString "/data") levelCalls
        [levelOp (ofString "0")] levelFiles) := by
  have added := @level_added (ofString "0") (by decide) (by decide)
  refine (applyCols_all_or_nothing_iff levelSqlite (ofString "/data") levelCalls
    [levelOp (ofString "0")] levelFiles (by decide) levelFiles_database
    (level_stores added)).mpr ?_
  intro _ content held
  rw [levelFiles_database] at held
  cases held
  refine ⟨fun before tables _ _ altered carried => ?_, trivial⟩
  cases tables
  exact carried

/-- A numeral of 204 digits: all but the last are zeroes. -/
def longDefault : Bytes := List.replicate 203 48 ++ [49]

private theorem alterText_level (default : Bytes) :
    alterText (levelOp default) = levelFront ++ (default ++ ofString ";") := by
  have front : ofString "ALTER TABLE " ++ ofString "agents" ++
      ofString " ADD COLUMN " ++ ofString "level INTEGER DEFAULT " =
        levelFront := by decide
  unfold alterText levelOp
  rw [← List.append_assoc, front, List.append_assoc]

private theorem digitsValue_concat (digits : Bytes) (last : UInt8) :
    digitsValue (digits ++ [last]) =
      10 * digitsValue digits + (last.toNat - 48) := by
  unfold digitsValue
  rw [List.foldl_append]
  rfl

private theorem digitsValue_zeroes (count : Nat) :
    digitsValue (List.replicate count 48) = 0 := by
  unfold digitsValue
  induction count with
  | zero => rfl
  | succ count ih =>
      rw [List.replicate_succ, List.foldl_cons]
      exact ih

private theorem zeroes_digits {count : Nat} {byte : UInt8}
    (member : byte ∈ List.replicate count (48 : UInt8)) :
    isDigit byte = true := by
  rw [(List.mem_replicate.mp member).2]
  rfl

private theorem levelDefault_front {digits rest : Bytes}
    (allDigits : ∀ byte ∈ digits, isDigit byte = true)
    (stops : ∀ byte, rest.head? = some byte → isDigit byte = false) :
    levelDefault (levelFront ++ (digits ++ rest)) = digitsValue digits := by
  unfold levelDefault
  rw [List.drop_left, takeWhile_prefix allDigits stops]

/-- The last digit does not fit the statement. -/
private theorem longDefault_cut :
    printTo 256 (alterText (levelOp longDefault)) =
      levelFront ++ List.replicate 203 48 := by
  rw [alterText_level]
  unfold longDefault printTo
  rw [List.append_assoc, ← List.append_assoc levelFront]
  apply List.take_left'
  rw [List.length_append, List.length_replicate]
  rfl

/-- A level whose default ends in a one that does not fit the statement: it
defaults to zero, and the operation succeeds. -/
theorem applyCols_cuts_default :
    ¬∀ (sqlite : Sqlite) (root : Bytes) (calls : ColsCalls)
      (ops : List MigColOp) (files : Files) (content : Bytes),
      root.length < 473 → files (migDbPath root) = some content →
      StoresTables sqlite
        (migApplyColsChunked sqlite root calls ops files).applied →
      ColsAllOrNothing sqlite root ops files
        (migApplyColsChunked sqlite root calls ops files) := by
  intro always
  have front : (printTo 256 (alterText (levelOp longDefault))).take
      levelFront.length = levelFront := by
    rw [longDefault_cut, List.take_left]
  have cut : levelDefault (printTo 256 (alterText (levelOp longDefault))) =
      0 := by
    rw [longDefault_cut, ← List.append_nil (List.replicate 203 48),
      levelDefault_front (fun _ => zeroes_digits) (fun _ first => by
        cases first), digitsValue_zeroes]
  have added := level_added front cut
  have whole := always levelSqlite (ofString "/data") levelCalls
    [levelOp longDefault] levelFiles [1] (by decide) levelFiles_database
    (level_stores added)
  have carried := (carriedOut_of_allOrNothing levelSqlite (ofString "/data")
    levelCalls [levelOp longDefault] levelFiles (by decide) levelFiles_database
    (level_stores added) whole
    (level_runsThrough (congrArg (fun ran => ran.2.1) added)) [1]
    levelFiles_database).1 (levelTables []) rfl
  have short := altersLevel_front front
  rw [cut] at short
  have declared : altersLevel (alterText (levelOp longDefault))
      (levelTables []) = some (levelTables [0]) := carried rfl rfl _ short
  have digits : ∀ byte ∈ longDefault, isDigit byte = true := by
    intro byte member
    rcases List.mem_append.mp member with zero | one
    · exact zeroes_digits zero
    · cases List.mem_singleton.mp one
      rfl
  have one : levelDefault (alterText (levelOp longDefault)) = 1 := by
    rw [alterText_level, levelDefault_front digits (by
      intro byte first
      cases first
      rfl)]
    unfold longDefault
    rw [digitsValue_concat, digitsValue_zeroes]
    rfl
  rw [altersLevel_front (by rw [alterText_level, List.take_left]), one,
    Option.some.injEq] at declared
  have columns := congrArg (fun tables => columnsOf tables "agents") declared
  revert columns
  decide

end Heapstore.Migration
