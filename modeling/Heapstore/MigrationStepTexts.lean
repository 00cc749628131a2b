/-
The statements of the forward steps.

A step adds its columns by the texts of its table.  They fit their buffers, so
the steps are all or nothing; and where SQLite reads each text as the column it
declares, the operations on the file do what the steps do on typed tables.
-/

import Heapstore.MigrationColumnOps
import Heapstore.MigrationForwardRuns

namespace Heapstore.Migration

open ByteText SqlTable SqlConnection

def addOp (table column columnDef : String) : MigColOp where
  table := table
  column := column
  columnDef := ofString columnDef
  dropColumns := none

/-- The operations of `migrate_v1_0_to_v1_1_agent_fields`. -/
def agentFieldTexts : List MigColOp :=
  [addOp "agents" "priority" "priority INTEGER DEFAULT 0",
    addOp "agents" "tags" "tags TEXT DEFAULT ''"]

/-- The operations of `migrate_v1_1_to_v2_0_session_metadata`. -/
def sessionMetadataTexts : List MigColOp :=
  [addOp "sessions" "metadata" "metadata TEXT DEFAULT ''"]

/-! ### Texts that fit -/

/-- The operation adds a column by a statement that fits its buffer. -/
def TextFits (op : MigColOp) : Prop :=
  op.dropColumns = none ∧ (alterText op).length < 256

instance (op : MigColOp) : Decidable (TextFits op) :=
  inferInstanceAs (Decidable (_ ∧ _))

/-- SQLite refuses to add a column that the table has. -/
def RefusesPresent (sqlite : Sqlite) (op : MigColOp) : Prop :=
  ∀ database, hasColumn op database = true →
    sqlite.alters (printTo 256 (alterText op)) database = none

theorem carriedOut_of_fits {sqlite : Sqlite} {calls : OpCalls} {op : MigColOp}
    {database : Database} (fits : TextFits op)
    (refuses : RefusesPresent sqlite op) :
    CarriedOut sqlite calls op database := by
  unfold CarriedOut
  rw [fits.1]
  intro _ _ altered done
  unfold declaredAdd
  cases there : hasColumn op database with
  | true =>
      rw [refuses database there] at done
      cases done
  | false =>
      rw [printTo_of_fits fits.2] at done
      exact done

/-- A drop whose names are all listed and printed whole selects what it
declares. -/
theorem carriedOut_of_listed {identifier : String → Prop} {sqlite : Sqlite}
    {calls : OpCalls} {op : MigColOp} {drop : List String}
    {database : Database} (drops : op.dropColumns = some drop)
    (reads : ReadsListed identifier sqlite.selects)
    (distinct : ∀ old, database op.table = some old → old.names.Nodup)
    (listed : ∀ old, database op.table = some old →
      keptNames drop calls.drop.rows old.columns =
          (keptColumns (keeps drop) old.columns).map Column.name ∧
        Readable identifier op.table
          (keptNames drop calls.drop.rows old.columns)) :
    CarriedOut sqlite calls op database := by
  unfold CarriedOut
  rw [drops]
  intro old selection through
  obtain ⟨all, readable⟩ := listed old through.present
  have apart := distinct old through.present
  rw [through.chosen reads apart readable, all]
  exact ⟨rfl, old.chosen_rows (keeps drop) apart⟩

theorem opsCarriedOut_of_fits {sqlite : Sqlite} {ops : List MigColOp}
    (calls : Nat → OpCalls) (content : Bytes)
    (fits : ∀ op ∈ ops, TextFits op)
    (refuses : ∀ op ∈ ops, RefusesPresent sqlite op) :
    OpsCarriedOut sqlite calls ops content := by
  induction ops generalizing calls content with
  | nil => trivial
  | cons op rest ih =>
      refine ⟨fun before _ => ?_, ?_⟩
      · exact carriedOut_of_fits (fits op List.mem_cons_self)
          (refuses op List.mem_cons_self)
      · exact ih _ _ (fun other member =>
          fits other (List.mem_cons_of_mem op member)) fun other member =>
            refuses other (List.mem_cons_of_mem op member)

theorem stepTexts_fit :
    ∀ op ∈ agentFieldTexts ++ sessionMetadataTexts, TextFits op := by
  intro op member
  simp only [agentFieldTexts, sessionMetadataTexts, List.cons_append,
    List.nil_append, List.mem_cons, List.not_mem_nil, or_false] at member
  rcases member with rfl | rfl | rfl
  · exact ⟨rfl, by decide⟩
  · exact ⟨rfl, by decide⟩
  · exact ⟨rfl, by decide⟩

/-- The steps of the source are all or nothing, whatever fails. -/
theorem stepTexts_all_or_nothing {sqlite : Sqlite} {root content : Bytes}
    {calls : ColsCalls} {ops : List MigColOp} {files : Files}
    (step : ops = agentFieldTexts ∨ ops = sessionMetadataTexts)
    (refuses : ∀ op ∈ ops, RefusesPresent sqlite op)
    (short : root.length < 473)
    (existing : files (migDbPath root) = some content)
    (stores : StoresTables sqlite
      (migApplyColsChunked sqlite root calls ops files).applied) :
    ColsAllOrNothing sqlite root ops files
      (migApplyColsChunked sqlite root calls ops files) := by
  refine allOrNothing_of_carriedOut sqlite root calls ops files short existing
    stores fun _ other _ => opsCarriedOut_of_fits calls.ops other ?_ refuses
  intro op member
  rcases step with rfl | rfl
  · exact stepTexts_fit op (List.mem_append_left _ member)
  · exact stepTexts_fit op (List.mem_append_right _ member)

/-! ### Texts against typed columns -/

/-- SQLite reads the statement of the operation as the typed one. -/
structure ReadsColumn (sqlite : Sqlite) (op : MigColOp) (typed : ColOp) :
    Prop where
  adds : op.dropColumns = none
  table : op.table = typed.table
  column : op.column = typed.column.name
  info : InfoFits op.table
  alters : ∀ database, sqlite.alters (printTo 256 (alterText op)) database =
    (database typed.table).bind fun table =>
      (table.addColumn typed.column).map fun altered =>
        Function.update database typed.table (some altered)

theorem hasColumn_typed {sqlite : Sqlite} {op : MigColOp} {typed : ColOp}
    (reads : ReadsColumn sqlite op typed) (info : Bool) (database : Database) :
    (decide (InfoFits op.table) && info && hasColumn op database) =
      migTableHasColumn info database typed := by
  unfold migTableHasColumn hasColumn columnsOf
  rw [decide_eq_true reads.info, Bool.true_and, reads.table, reads.column]
  cases database typed.table <;> rfl

theorem migColOp_typed {sqlite : Sqlite} {op : MigColOp} {typed : ColOp}
    (reads : ReadsColumn sqlite op typed) (calls : OpCalls)
    (database : Database) :
    migColOp sqlite calls op database =
      migAddColumn calls.column typed database := by
  unfold migColOp
  rw [reads.adds]
  unfold migAddColumnText migAddColumn
  simp only [hasColumn_typed reads, reads.alters]
  split
  · rfl
  · split
    · rfl
    · cases database typed.table with
      | none => rfl
      | some table =>
          simp only [Option.bind_some]
          cases table.addColumn typed.column with
          | none => rfl
          | some altered =>
              simp only [Option.map_some, reads.table, Function.update_self]

/-- On a database, the operations of the file end like the typed ones. -/
theorem runColOps_typed {sqlite : Sqlite} {ops : List MigColOp}
    {typed : List ColOp} (reads : List.Forall₂ (ReadsColumn sqlite) ops typed)
    (calls : Nat → OpCalls) {content : Bytes} {database : Database}
    (held : sqlite.tables content = some database) (affected : UInt64)
    (stores : StoresTables sqlite
      (runColOps sqlite calls ops content affected).applied) :
    let ran := runColOps sqlite calls ops content affected
    let steps := runColumnOps (fun index => (calls index).column) typed database
      affected
    ran.error = steps.2.1 ∧ ran.affected = steps.2.2 ∧
      (ran.error = .success → sqlite.tables ran.content = some steps.1) := by
  induction reads generalizing calls content database affected with
  | nil => exact ⟨rfl, rfl, fun _ => held⟩
  | @cons op typedOp rest others here _ ih =>
      unfold runColOps at stores ⊢
      unfold runColumnOps
      simp only [held] at stores ⊢
      rw [migColOp_typed here] at stores ⊢
      by_cases succeeded : (migAddColumn (calls 0).column typedOp
          database).2.1 = .success
      · simp only [if_pos succeeded] at stores ⊢
        obtain ⟨first, later⟩ := List.forall_mem_cons.mp stores
        exact ih (fun index => calls (index + 1)) first _ later
      · simp only [if_neg succeeded]
        exact ⟨trivial, trivial, fun success => absurd success succeeded⟩

end Heapstore.Migration
