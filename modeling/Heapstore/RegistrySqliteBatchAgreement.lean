/-
Batch inserts against single adds.

A batch and the single adds of its records, one after another, insert the same
rows.  They part where a record has no id, which only the single add checks,
and where a transaction is open, which only the batch needs closed.
-/

import Heapstore.Foundation.OperationRun
import Heapstore.RegistrySqliteBatch

namespace Heapstore.RegistrySqlite

open ByteText SqlTable SqlConnection

/-! ### A batch against single adds -/

section SingleAdds

variable {Record : Type} {recId : Record → Bytes} {name : String}
  {names : List String} {bind : Record → Row} {registry : SqlRegistry}
  {connection : Connection} {table : Table}

/-- One single-record add after another, without engine failures. -/
def addStep
    (add : ExecCalls → Option Record → SqlRegistry →
      SqlRegistry × HeapstoreError) :
    OperationRun.Machine SqlRegistry Record HeapstoreError :=
  fun registry record => add .ok (some record) registry

/-- The open table an insert statement is prepared against. -/
private structure Session (name : String) (names : List String)
    (registry : SqlRegistry) (connection : Connection) (table : Table) :
    Prop where
  opened : registry.db = some connection
  initialized : registry.initialized = true
  present : connection.visible name = some table
  named : ∀ column ∈ names, column ∈ table.names

private theorem Session.begin_
    (session : Session name names registry connection table) :
    sessionBegin true (.insert name names) registry = .ok connection :=
  sessionBegin_of_opened session.opened session.initialized rfl
    ⟨table, session.present, session.named⟩

private def withTable (registry : SqlRegistry) (connection : Connection)
    (name : String) (next : Table) : SqlRegistry :=
  { registry with
    db := some
      (connection.store (Function.update connection.visible name (some next))) }

private theorem Session.insert {row : Row} {next : Table}
    (session : Session name names registry connection table)
    (inserted : table.insert row = some next) :
    Session name names (withTable registry connection name next)
      (connection.store (Function.update connection.visible name (some next)))
      next where
  opened := rfl
  initialized := session.initialized
  present := by rw [Connection.visible_store, Function.update_self]
  named column member := by
    unfold Table.names
    rw [(Table.withRows_eq_some inserted).1]
    exact session.named column member

private theorem addStep_inserted {record : Record} {next : Table}
    (session : Session name names registry connection table)
    (named : recId record ≠ [])
    (inserted :
      table.insert (newRow table.columns names (bind record)) = some next) :
    addStep (addRecord recId (.insert name names) bind) registry record =
      (withTable registry connection name next, .success) := by
  unfold addStep addRecord sqlExecLocked
  simp only [if_neg named, ExecCalls.ok, session.begin_,
    Connection.step_insert session.present inserted]
  rfl

private theorem addStep_rejected {record : Record}
    (session : Session name names registry connection table)
    (rejected :
      table.insert (newRow table.columns names (bind record)) = none) :
    (addStep (addRecord recId (.insert name names) bind) registry record).2 ≠ .success := by
  unfold addStep addRecord sqlExecLocked
  by_cases unnamed : recId record = []
  · simp only [if_pos unnamed]
    exact nofun
  · simp only [if_neg unnamed, ExecCalls.ok, session.begin_,
      Connection.step_insert_rejected session.present rejected, if_true]
    exact nofun

private theorem addStep_unnamed {record : Record}
    (unnamed : recId record = []) :
    (addStep (addRecord recId (.insert name names) bind) registry record).2 ≠ .success := by
  unfold addStep addRecord
  simp only [if_pos unnamed]
  exact nofun

private theorem addRun_inserted {records : List Record} {last : Table}
    (session : Session name names registry connection table)
    (named : ∀ record ∈ records, recId record ≠ [])
    (inserted :
      table.insertAll (batchRows names bind records table) = some last) :
    (∀ code ∈ OperationRun.answers (addStep (addRecord recId (.insert name names) bind))
        registry records, code = .success) ∧
      (OperationRun.final (addStep (addRecord recId (.insert name names) bind)) registry
        records).visible =
          some (Function.update connection.visible name (some last)) := by
  induction records generalizing registry connection table with
  | nil =>
      cases inserted
      refine ⟨nofun, ?_⟩
      rw [OperationRun.final_nil, SqlRegistry.visible, session.opened,
        Function.update_eq_self_iff.mpr session.present.symm]
      rfl
  | cons record rest ih =>
      obtain ⟨next, here, tail⟩ := Option.bind_eq_some_iff.mp inserted
      change next.insertAll (batchRows names bind rest table) = some last at tail
      rw [← batchRows_of_insert here] at tail
      have added := addStep_inserted session (named record List.mem_cons_self) here
      obtain ⟨later, reached⟩ := ih (session.insert here)
        (fun other member => named other (List.mem_cons_of_mem record member)) tail
      rw [OperationRun.answers_cons, OperationRun.final_cons, added]
      refine ⟨?_, ?_⟩
      · intro code member
        rcases List.mem_cons.mp member with rfl | inRest
        · rfl
        · exact later code inRest
      · rw [reached, Connection.visible_store, Function.update_idem]

/-- Single adds that all succeed have non-empty ids and insert every row. -/
private theorem inserted_of_addRun {records : List Record}
    (session : Session name names registry connection table)
    (succeeded : ∀ code ∈ OperationRun.answers
      (addStep (addRecord recId (.insert name names) bind)) registry records,
        code = .success) :
    (∀ record ∈ records, recId record ≠ []) ∧
      (table.insertAll (batchRows names bind records table)).isSome = true := by
  induction records generalizing registry connection table with
  | nil => exact ⟨nofun, rfl⟩
  | cons record rest ih =>
      rw [OperationRun.answers_cons] at succeeded
      have first := succeeded _ List.mem_cons_self
      have named : recId record ≠ [] :=
        fun unnamed => addStep_unnamed unnamed first
      cases here : table.insert (newRow table.columns names (bind record)) with
      | none => exact absurd first (addStep_rejected session here)
      | some next =>
          rw [addStep_inserted session named here] at succeeded
          obtain ⟨restNamed, restInserted⟩ := ih (session.insert here)
            (fun code member => succeeded code (List.mem_cons_of_mem _ member))
          refine ⟨?_, ?_⟩
          · intro other member
            rcases List.mem_cons.mp member with rfl | inRest
            · exact named
            · exact restNamed other inRest
          · rw [batchRows_of_insert here] at restInserted
            change ((table.insert _).bind _).isSome = true
            rw [here]
            exact restInserted

private theorem addStep_without_session {record : Record}
    (closed : ∀ connection table,
      ¬Session name names registry connection table) :
    (addStep (addRecord recId (.insert name names) bind) registry record).2 ≠ .success := by
  unfold addStep addRecord sqlExecLocked
  by_cases unnamed : recId record = []
  · simp only [if_pos unnamed]
    exact nofun
  · simp only [if_neg unnamed]
    cases session : sessionBegin ExecCalls.ok.prepare (.insert name names)
        registry with
    | error error =>
        simp only [ne_eq]
        rintro rfl
        exact sessionBegin_error_ne session rfl
    | ok connection =>
        obtain ⟨opened, ready, _, table, present, named⟩ :=
          sessionBegin_ok session
        exact absurd ⟨opened, ready, present, named⟩ (closed connection table)

end SingleAdds

/-- Batch and single adds agree on success, and then on the rows. -/
structure AgreesWithSingles {Record : Type}
    (add : ExecCalls → Option Record → SqlRegistry →
      SqlRegistry × HeapstoreError)
    (records : List Record) (registry : SqlRegistry)
    (result : SqlRegistry × HeapstoreError) : Prop where
  codes : result.2 = .success ↔
    ∀ code ∈ OperationRun.answers (addStep add) registry records,
      code = .success
  rows : result.2 = .success →
    result.1.visible =
      (OperationRun.final (addStep add) registry records).visible

/-- A batch that the tables accept has no empty id, unless a transaction is
open: then it has one. -/
def EmptyIdsMatter {Record : Type} (recId : Record → Bytes) (name : String)
    (names : List String) (bind : Record → Row) (records : List Record)
    (registry : SqlRegistry) : Prop :=
  ∀ connection, registry.db = some connection → registry.initialized = true →
    (Statement.insert name names).Resolves connection.visible →
    Accepts name names bind records connection.visible →
    (connection.Idle ↔ ∀ record ∈ records, recId record ≠ [])

section Agreement

variable {Record : Type} {recId : Record → Bytes} {name : String}
  {names : List String} {bind : Record → Row} {records : List Record}
  {registry : SqlRegistry} {connection : Connection} {table : Table}

private theorem agrees_of_failures
    {add : ExecCalls → Option Record → SqlRegistry →
      SqlRegistry × HeapstoreError}
    {result : SqlRegistry × HeapstoreError} (failed : result.2 ≠ .success)
    (singles : ¬∀ code ∈ OperationRun.answers (addStep add) registry records,
      code = .success) :
    AgreesWithSingles add records registry result where
  codes := ⟨fun succeeded => absurd succeeded failed,
    fun succeeded => absurd succeeded singles⟩
  rows succeeded := absurd succeeded failed

private theorem Session.resolves
    (session : Session name names registry connection table) :
    (Statement.insert name names).Resolves connection.visible :=
  ⟨table, session.present, session.named⟩

private theorem batch_rejected
    (session : Session name names registry connection table)
    (rejected :
      ¬(table.insertAll (batchRows names bind records table)).isSome = true) :
    (batchExecLocked .ok (.insert name names) bind records registry).2 ≠
      .success := by
  by_cases idle : connection.Idle
  · have starts : Starts .ok (.insert name names) registry connection :=
      ⟨session.opened, session.initialized, rfl, session.resolves, rfl, idle⟩
    obtain ⟨last, _, _, result⟩ := batchExecLocked_rejected starts
      session.present (fun all => rejected all.2)
    rw [result]
    exact nofun
  · refine (batchExecLocked_early ?_).2
    intro other starts
    have same := starts.opened.symm.trans session.opened
    cases same
    exact idle starts.idle

private theorem agrees_of_accepted {last : Table}
    (session : Session name names registry connection table)
    (inserted :
      table.insertAll (batchRows names bind records table) = some last) :
    AgreesWithSingles (addRecord recId (.insert name names) bind) records
        registry
        (batchExecLocked .ok (.insert name names) bind records registry) ↔
      (connection.Idle ↔ ∀ record ∈ records, recId record ≠ []) := by
  by_cases idle : connection.Idle
  · have starts : Starts .ok (.insert name names) registry connection :=
      ⟨session.opened, session.initialized, rfl, session.resolves, rfl, idle⟩
    rw [batchExecLocked_inserted starts session.present (fun _ _ => rfl)
      inserted]
    constructor
    · intro agrees
      have singles := agrees.codes.mp rfl
      exact ⟨fun _ => (inserted_of_addRun session singles).1, fun _ => idle⟩
    · intro same
      obtain ⟨succeeded, reached⟩ := addRun_inserted session (same.mp idle) inserted
      exact ⟨⟨fun _ => succeeded, fun _ => rfl⟩, fun _ => reached.symm⟩
  · have failed : (batchExecLocked .ok (.insert name names) bind records
        registry).2 ≠ .success := by
      refine (batchExecLocked_early ?_).2
      intro other starts
      have same := starts.opened.symm.trans session.opened
      cases same
      exact idle starts.idle
    constructor
    · intro agrees
      refine ⟨fun open_ => absurd open_ idle, ?_⟩
      intro named
      have singles := (addRun_inserted session named inserted).1
      exact absurd (agrees.codes.mpr singles) failed
    · intro same
      apply agrees_of_failures failed
      intro singles
      exact idle (same.mpr (inserted_of_addRun session singles).1)

theorem batchExecLocked_agrees_iff (recId : Record → Bytes) (name : String)
    (names : List String) (bind : Record → Row) (first : Record)
    (rest : List Record) (registry : SqlRegistry) :
    AgreesWithSingles (addRecord recId (.insert name names) bind)
        (first :: rest) registry
        (batchExecLocked .ok (.insert name names) bind (first :: rest)
          registry) ↔
      EmptyIdsMatter recId name names bind (first :: rest) registry := by
  by_cases opened : ∃ connection table,
      Session name names registry connection table
  · obtain ⟨connection, table, session⟩ := opened
    have accepts := @accepts_iff Record name names bind (first :: rest) table
      connection.visible session.present
    have matters : EmptyIdsMatter recId name names bind (first :: rest)
        registry ↔ (Accepts name names bind (first :: rest) connection.visible →
          (connection.Idle ↔ ∀ record ∈ first :: rest, recId record ≠ [])) := by
      constructor
      · intro matters
        exact matters connection session.opened session.initialized
          session.resolves
      · intro matters other open_ _ _ accepted
        rw [session.opened] at open_
        cases open_
        exact matters accepted
    rw [matters, accepts]
    cases inserted : table.insertAll (batchRows names bind (first :: rest) table)
      with
    | none =>
        have rejected :
            ¬(table.insertAll (batchRows names bind (first :: rest)
              table)).isSome = true := by
          rw [inserted]
          exact nofun
        refine ⟨fun _ => nofun, fun _ => agrees_of_failures
          (batch_rejected session rejected) ?_⟩
        intro singles
        exact rejected (inserted_of_addRun session singles).2
    | some last =>
        rw [agrees_of_accepted session inserted]
        exact ⟨fun same _ => same, fun same => same rfl⟩
  · have closed : ∀ connection table,
        ¬Session name names registry connection table :=
      fun connection table session => opened ⟨connection, table, session⟩
    constructor
    · intro _ connection open_ ready resolves _
      obtain ⟨table, present, named⟩ := resolves
      exact absurd ⟨open_, ready, present, named⟩ (closed connection table)
    · intro _
      refine agrees_of_failures (batchExecLocked_early ?_).2 ?_
      · intro connection starts
        obtain ⟨table, present, named⟩ := starts.resolves
        exact closed connection table
          ⟨starts.opened, starts.initialized, present, named⟩
      · intro singles
        exact addStep_without_session closed
          (singles _ (by rw [OperationRun.answers_cons]; exact List.mem_cons_self))

end Agreement

/-- For every registry and every non-empty array, the batch inserts and the
single adds agree exactly when empty ids do not tell them apart. -/
theorem registryBatchInsert_agrees_iff (registry : SqlRegistry) :
    (∀ first rest, AgreesWithSingles registryAddAgent
        (first :: rest) registry
        (registryBatchInsertAgents .ok (some (first :: rest)) registry) ↔
          EmptyIdsMatter agentId "agents" agentFields bindAgentRecord
            (first :: rest) registry) ∧
      (∀ first rest, AgreesWithSingles registryAddSkill
        (first :: rest) registry
        (registryBatchInsertSkills .ok (some (first :: rest)) registry) ↔
          EmptyIdsMatter skillId "skills" skillFields bindSkillRow
            (first :: rest) registry) ∧
      (∀ first rest, AgreesWithSingles registryAddSession
        (first :: rest) registry
        (hsBatchInsertSessions .ok (some (first :: rest)) registry) ↔
          EmptyIdsMatter sessionId "sessions" sessionFields bindSessionRow
            (first :: rest) registry) :=
  ⟨fun first rest => batchExecLocked_agrees_iff agentId "agents" agentFields
      bindAgentRecord first rest registry,
    fun first rest => batchExecLocked_agrees_iff skillId "skills" skillFields
      bindSkillRow first rest registry,
    fun first rest => batchExecLocked_agrees_iff sessionId "sessions"
      sessionFields bindSessionRow first rest registry⟩

/-- A batch stores an agent without an id, which the single add refuses. -/
theorem registryBatchInsertAgents_empty_id :
    ¬∀ first rest registry, AgreesWithSingles registryAddAgent
      (first :: rest) registry
      (registryBatchInsertAgents .ok (some (first :: rest)) registry) := by
  intro always
  have agrees := always (agentNamed "") [] emptyAgents
  have stored : (registryBatchInsertAgents .ok (some [agentNamed ""])
      emptyAgents).2 = .success := by decide
  have refused : OperationRun.answers (addStep registryAddAgent) emptyAgents
      [agentNamed ""] = [.errInvalidParam] := by decide
  have succeeded := agrees.codes.mp stored
  rw [refused] at succeeded
  cases succeeded .errInvalidParam List.mem_cons_self

end Heapstore.RegistrySqlite
