/-
What the store answers without asking its breaker.

Only a write asks the breaker.  Starts, reloads and the calls of the registry
and of the span buffer have codes of their own, and none is that of an open
breaker.
-/

import Heapstore.CoreStages
import Heapstore.StoreRecords

namespace Heapstore.Durability

open ByteText CivilTime SqlTable SqlConnection
open Migration RegistrySqlite Trace Memory Log Circuit
open Heapstore.Core

/-! ### Starts -/

section Starts

variable {platform : Platform} {calls : InitCalls} {process : Process}

theorem migrationGetVersion_unrefused {out ready : Bool} {root : Bytes}
    {read : VersionReadCalls} {disk : Disk} :
    migrationGetVersion out ready root read disk ≠ .error .errCircuitOpen := by
  unfold migrationGetVersion
  split
  · nofun
  split
  · nofun
  split
  · split <;> nofun
  · split <;> nofun
  split
  · nofun
  split
  · nofun
  split <;> nofun

theorem migrationSetVersion_unrefused {ready : Bool} {root : Bytes}
    {write : VersionWriteCalls} {version : UInt32} {disk : Disk} :
    (migrationSetVersion ready root write version disk).2 ≠
      .errCircuitOpen := by
  unfold migrationSetVersion
  simp only
  split
  · nofun
  split
  · nofun
  split
  · nofun
  split
  · nofun
  split
  · nofun
  split <;> nofun

theorem migrationCheck_unrefused {out ready : Bool} {root : Bytes}
    {read : VersionReadCalls} {stamp : VersionWriteCalls} {disk : Disk} :
    (migrationCheck out ready root read stamp disk).error ≠
      .errCircuitOpen := by
  unfold migrationCheck
  split
  · nofun
  split
  · next error failed =>
      rintro rfl
      exact migrationGetVersion_unrefused failed
  · split
    · exact migrationSetVersion_unrefused
    · nofun

theorem schemaStage_unrefused :
    (schemaStage platform calls process).2 ≠ .errCircuitOpen := by
  unfold schemaStage
  simp only
  split
  · exact migrationCheck_unrefused
  split
  · nofun
  · split <;> nofun

theorem registryInit_unrefused {root dataDir : Option Bytes}
    {opened : Bytes → Option Database} {succeeds : Nat → Bool}
    {registry : SqlRegistry} :
    (registryInit root dataDir opened succeeds registry).2 ≠
      .errCircuitOpen := by
  unfold registryInit
  split
  · nofun
  simp only
  split
  · nofun
  split
  · nofun
  · unfold initDatabase
    simp only
    split <;> nofun

theorem traceInit_unrefused {root : Bytes} {allocated : Bool}
    {state : TraceState} :
    (traceInit root allocated state).2 ≠ .errCircuitOpen := by
  unfold traceInit
  split
  · nofun
  split <;> nofun

theorem memoryInit_unrefused {root dataDir : Bytes} {ensured : Bytes → Bool}
    {state : MemoryState} :
    (memoryInit root dataDir ensured state).2 ≠ .errCircuitOpen := by
  unfold memoryInit
  split
  · nofun
  simp only
  split
  · nofun
  split <;> nofun

theorem logInit_unrefused {env : Option Bytes} {dataDir : Bytes}
    {opened : Bool} {state : LogState} {disk : Disk} :
    (logInit env dataDir opened state disk).2.2 ≠ .errCircuitOpen := by
  unfold logInit
  split
  · nofun
  simp only
  split <;> nofun

theorem stage_unrefused {ran : Process × HeapstoreError}
    {undo : Process → Process} {next : Process → Process × HeapstoreError}
    (here : ran.2 ≠ .errCircuitOpen)
    (later : ∀ done, (next done).2 ≠ .errCircuitOpen) :
    (stage ran undo next).2 ≠ .errCircuitOpen := by
  unfold stage
  split
  · exact later _
  · exact here

theorem startStages_unrefused :
    (startStages platform calls process).2 ≠ .errCircuitOpen := by
  apply stage_unrefused schemaStage_unrefused
  intro migrated
  apply stage_unrefused registryInit_unrefused
  intro opened
  apply stage_unrefused traceInit_unrefused
  intro traced
  apply stage_unrefused memoryInit_unrefused
  intro remembered
  apply stage_unrefused logInit_unrefused
  intro logged
  nofun

theorem heapstoreInit_unrefused {manager : Option HeapstoreConfig} :
    (heapstoreInit platform manager calls process).2 ≠ .errCircuitOpen := by
  rw [heapstoreInit_eq]
  split
  · nofun
  split
  · unfold createDirectoryStructure
    split
    · nofun
    split <;> nofun
  · exact startStages_unrefused

end Starts

/-! ### The registry -/

section Registry

variable {kind : RecordKind} {registry : SqlRegistry} {statement : Statement}

theorem sessionBegin_unrefused {prepare : Bool} :
    sessionBegin prepare statement registry ≠ .error .errCircuitOpen := by
  unfold sessionBegin
  split
  · nofun
  split
  · nofun
  split <;> nofun

theorem sqlExecLocked_unrefused {calls : ExecCalls} {values : Row} :
    (sqlExecLocked calls statement values registry).2 ≠ .errCircuitOpen := by
  unfold sqlExecLocked
  split
  · next error failed =>
      rintro rfl
      exact sessionBegin_unrefused failed
  · simp only
    split <;> nofun

theorem addRecord_unrefused {Record : Type} {recId : Record → Bytes}
    {bind : Record → Row} {calls : ExecCalls} {record : Option Record} :
    (addRecord recId statement bind calls record registry).2 ≠
      .errCircuitOpen := by
  unfold addRecord
  split
  · nofun
  split
  · nofun
  · exact sqlExecLocked_unrefused

theorem batchLoop_unrefused {Record : Type} {bind : Record → Row}
    {rollback : Bool} {steps : Nat → Bool} {records : List Record}
    {connection : Connection} :
    (batchLoop statement bind rollback steps records connection).2 ≠
      .errCircuitOpen := by
  induction records generalizing steps connection with
  | nil => exact HeapstoreError.noConfusion
  | cons record rest ih =>
      rw [batchLoop]
      split
      · exact ih
      · exact HeapstoreError.noConfusion

theorem batchRecords_unrefused {Record : Type} {bind : Record → Row}
    {calls : BatchCalls} {records : Option (List Record)} :
    (batchRecords statement bind calls records registry).2 ≠
      .errCircuitOpen := by
  unfold batchRecords
  split
  · nofun
  split
  · nofun
  unfold batchExecLocked
  split
  · next error failed =>
      rintro rfl
      exact sessionBegin_unrefused failed
  simp only
  split
  · nofun
  split
  · split <;> nofun
  · exact batchLoop_unrefused

theorem getRecord_unrefused {Record : Type} {extract : Row → Record}
    {calls : ExecCalls} {id : Option Bytes} {out : Bool} :
    (getRecord statement extract calls id out registry).1 ≠
      .errCircuitOpen := by
  unfold getRecord
  split
  · nofun
  split
  · nofun
  unfold registryQueryOne
  split
  · next error failed =>
      rintro rfl
      exact sessionBegin_unrefused failed
  · split <;> nofun

theorem deleteRecord_unrefused {calls : ExecCalls} {id : Option Bytes} :
    (deleteRecord statement calls id registry).2 ≠ .errCircuitOpen := by
  unfold deleteRecord
  split
  · nofun
  · exact sqlExecLocked_unrefused

theorem run_unrefused (call : RecordCall kind) :
    (call.run registry).2.1 ≠ .errCircuitOpen := by
  cases call with
  | add calls record =>
      change (kind.add calls record registry).2 ≠ _
      rw [kind.add_eq]
      exact addRecord_unrefused
  | batchInsert calls records =>
      change (kind.batchInsert calls records registry).2 ≠ _
      rw [kind.batchInsert_eq]
      exact batchRecords_unrefused
  | get calls id out =>
      change (kind.get calls id out registry).1 ≠ _
      rw [kind.get_eq]
      exact getRecord_unrefused
  | update able calls record =>
      change (kind.update able calls record registry).2 ≠ _
      rw [kind.update_eq able]
      exact addRecord_unrefused
  | delete calls id =>
      change (kind.delete calls id registry).2 ≠ _
      rw [kind.delete_eq]
      exact deleteRecord_unrefused

end Registry

/-! ### The span buffer -/

section Buffer

variable {clock : LocalClock} {state : TraceState}

theorem traceWriteSpan_unrefused {duplicated : Bool}
    {span : Option TraceSpan} :
    (traceWriteSpan duplicated span state).2 ≠ .errCircuitOpen := by
  unfold traceWriteSpan
  split
  · nofun
  split
  · nofun
  split
  · nofun
  split
  · nofun
  split <;> nofun

theorem traceWriteSpansBatch_unrefused {duplicated : Nat → Bool}
    {batch : Option SpanArray} :
    (traceWriteSpansBatch duplicated batch state).2 ≠ .errCircuitOpen := by
  unfold traceWriteSpansBatch
  split
  · nofun
  split
  · nofun
  split
  · nofun
  split
  · nofun
  split <;> nofun

theorem traceFlush_unrefused {now : Int} {opened : Bool} :
    (traceFlush clock now opened state).2 ≠ .errCircuitOpen := by
  unfold traceFlush
  split
  · nofun
  split
  · nofun
  split <;> nofun

theorem spansCollect_unrefused {allocated : Bool} {duplicated : Nat → Bool}
    {wanted : TraceSpan → Bool} :
    (spansCollect allocated duplicated wanted state).error ≠
      .errCircuitOpen := by
  unfold spansCollect
  simp only
  split
  · nofun
  split
  · nofun
  split <;> nofun

theorem traceQueryByTrace_unrefused {calls : Trace.QueryCalls}
    {traceId : Option Bytes} {outs : Bool} :
    (traceQueryByTrace calls traceId outs state).error ≠ .errCircuitOpen := by
  unfold traceQueryByTrace
  split
  · nofun
  split
  · nofun
  split
  · nofun
  · exact spansCollect_unrefused

theorem traceQueryByTimeRange_unrefused {calls : Trace.QueryCalls}
    {startTime endTime : UInt64} {outs : Bool} :
    (traceQueryByTimeRange calls startTime endTime outs state).error ≠
      .errCircuitOpen := by
  unfold traceQueryByTimeRange
  split
  · nofun
  split
  · nofun
  · exact spansCollect_unrefused

theorem bufferAnswer_unrefused (call : BufferCall) :
    answerError (bufferAnswer clock state call) ≠ .errCircuitOpen := by
  cases call with
  | writeSpan duplicated span => exact traceWriteSpan_unrefused
  | writeSpansBatch duplicated batch => exact traceWriteSpansBatch_unrefused
  | flush now opened => exact traceFlush_unrefused
  | queryByTrace calls traceId outs => exact traceQueryByTrace_unrefused
  | queryByTimeRange calls startTime endTime outs =>
      exact traceQueryByTimeRange_unrefused

end Buffer

/-- No call of the store but a write answers as an open breaker makes it. -/
theorem serviceStep_unrefused (platform : Platform) (clock : LocalClock)
    (process : Process) (call : ServiceCall) :
    answerError (serviceStep platform clock process call).2 ≠
      .errCircuitOpen := by
  cases call with
  | start manager calls => exact heapstoreInit_unrefused
  | stop => nofun
  | exit => nofun
  | reload manager calls =>
      change (heapstoreReloadConfig calls manager process).2 ≠ _
      unfold heapstoreReloadConfig
      split
      · nofun
      · cases manager <;> nofun
  | record kind call => exact run_unrefused call
  | buffer call => exact bufferAnswer_unrefused call

end Heapstore.Durability
