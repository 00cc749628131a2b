/-
The locks of the store.

Each entry point is kept as the list of the locks it takes, releases, makes and
destroys, under the tests that decide about them; what a test or a call inside
yields is an argument.  Locks are only taken in one order, so threads that call
the entry points never block each other for good.  A start, a stop and the
first and the last call of a batch make or destroy locks, and run beside no
call of another thread that uses these.
-/

import Heapstore.CoreInit
import Heapstore.Foundation.LockOrder
import Heapstore.LogWrites
import Heapstore.MemoryRecords
import Heapstore.RegistrySqliteResources

namespace Heapstore.Locks

open ByteText LockOrder
open RegistrySqlite Trace Memory Log

/-- The mutexes of the modules; every batch context has one of its own.  The
locks of the service log entries are made and destroyed, but never taken. -/
inductive StoreLock where
  | integration
  | config
  | circuit
  | log
  | service
  | trace
  | memory
  | registry
  | batch (context : Nat)
  deriving DecidableEq

abbrev Script := List (LockAction StoreLock)

/-- A call that takes the lock for a section without further locks, if it gets
past its tests. -/
def locking (lock : StoreLock) (passes : Bool) : Script :=
  if passes then critical lock [] else []

/-! ### Circuit breaker -/

/-- `cb_enter` and the release behind it; without a breaker it releases the
lock itself. -/
def cbEnterLocks (lockReady : Bool) : Script := locking .circuit lockReady

/-- A lock that is not there is made first. -/
def coreCircuitInitLocks (lockReady made : Bool) : Script :=
  if lockReady then critical .circuit []
  else .renew .circuit :: locking .circuit made

def circStopLocks (lockReady : Bool) : Script :=
  if lockReady then critical .circuit [] ++ [.renew .circuit] else []

def recordSuccessLocks (lockReady : Bool) : Script := cbEnterLocks lockReady
def recordFailureLocks (lockReady : Bool) : Script := cbEnterLocks lockReady
def circuitOpenLocks (lockReady : Bool) : Script := cbEnterLocks lockReady

def applyConfigLocks (lockReady : Bool) : Script := locking .circuit lockReady

def getCircuitStateLocks (ready info lockReady : Bool) : Script :=
  if ready && info then cbEnterLocks lockReady else []

def resetCircuitLocks (ready lockReady : Bool) : Script :=
  if ready then cbEnterLocks lockReady else []

/-! ### Log -/

/-- `get_service_log_file` -/
def serviceLogFileLocks (service : Option Bytes) : Script :=
  match service with
  | none => []
  | some [] => []
  | some (byte :: rest) =>
      locking .service (pathClean 64 (byte :: rest)).isSome

def logWriteLocks (level : Level) (service : Option Bytes) (log : LogState) :
    Script :=
  if log.initialized = false then []
  else if level > log.logLevel then []
  else critical .log (serviceLogFileLocks service)

def logInitLocks (initialized : Bool) : Script :=
  if initialized then [] else [.renew .log, .renew .service]

def logShutdownLocks (log : LogState) : Script :=
  if log.initialized then critical .log (locking .service true) else []

def logRotateLocks (log : LogState) : Script := locking .log log.initialized

/-! ### Trace -/

def traceWriteSpanLocks (initialized : Bool) (span : Option TraceSpan) :
    Script :=
  locking .trace (initialized && span.any fun span =>
    decide (span.spanId.text ≠ [] ∧ span.traceId.text ≠ []))

def traceWriteSpansBatchLocks (initialized : Bool) (batch : Option SpanArray) :
    Script :=
  locking .trace (initialized && batch.any fun batch =>
    decide (batch.spans.length ≠ 0))

def traceQueryByTraceLocks (initialized : Bool) (traceId : Option Bytes)
    (outs : Bool) : Script :=
  locking .trace (initialized && traceId.isSome && outs)

def traceQueryByTimeRangeLocks (initialized outs : Bool) : Script :=
  locking .trace (initialized && outs)

def traceConfigExporterLocks (initialized given : Bool) : Script :=
  locking .trace (initialized && given)

def traceFlushLocks (initialized : Bool) : Script := locking .trace initialized

def traceGetStatsLocks (initialized : Bool) : Script :=
  locking .trace initialized

/-- `heapstore_trace_cleanup`, behind `heapstore_pre_clean`. -/
def traceCleanupLocks (initialized : Bool) (daysToKeep : Int32) : Script :=
  locking .trace (initialized && decide (0 < daysToKeep))

def traceExportToJsonLocks (initialized out : Bool) : Script :=
  locking .trace (initialized && out)

def traceInitLocks (initialized : Bool) : Script :=
  if initialized then [] else [.renew .trace]

def traceShutdownLocks (initialized : Bool) : Script :=
  locking .trace initialized

/-! ### Memory records -/

def memoryRecordPoolLocks (initialized : Bool) (pool : Option MemoryPool) :
    Script :=
  locking .memory (initialized && pool.any fun pool =>
    decide (pool.poolId.text ≠ []))

def memoryGetPoolLocks (initialized : Bool) (id : Option Bytes) (out : Bool) :
    Script :=
  locking .memory (initialized && id.isSome && out)

def memoryUpdatePoolUsageLocks (initialized : Bool) (id : Option Bytes) :
    Script :=
  locking .memory (initialized && id.isSome)

def memRecordLocks (initialized : Bool) (allocation : Option MemoryAllocation) :
    Script :=
  locking .memory (initialized && allocation.any fun allocation =>
    decide (allocation.allocationId.text ≠ []))

def memoryGetAllocationLocks (initialized : Bool) (id : Option Bytes)
    (out : Bool) : Script :=
  locking .memory (initialized && id.isSome && out)

def memoryFreeAllocationLocks (initialized : Bool) (id : Option Bytes) :
    Script :=
  locking .memory (initialized && id.isSome)

def memoryGetStatsLocks (initialized : Bool) : Script :=
  locking .memory initialized

def memoryInitLocks (initialized : Bool) : Script :=
  if initialized then [] else [.renew .memory]

def memoryShutdownLocks (initialized : Bool) : Script :=
  locking .memory initialized

/-! ### Registry -/

def registryAction : ResourceEvent → Option (LockAction StoreLock)
  | .locked => some (.acquire .registry)
  | .unlocked => some (.release .registry)
  | .prepared _ => none
  | .finalized _ => none

/-- A call of the registry with what it finds and what its calls yield. -/
structure RegistryVisit where
  entry : RegistryEntry
  ready : Bool
  outcomes : EngineOutcomes
  statement : Nat

def RegistryVisit.locks (visit : RegistryVisit) : Script :=
  (visit.entry.traced visit.ready visit.outcomes
    visit.statement).events.filterMap registryAction

/-- The lock is made once the database is there. -/
def registryInitLocks (initialized databaseMade : Bool) : Script :=
  if initialized then [] else if databaseMade then [.renew .registry] else []

def registryShutdownLocks (initialized : Bool) : Script :=
  if initialized then critical .registry [] ++ [.renew .registry] else []

/-! ### Batches -/

def batchBeginLocks (context : Nat) (made : Bool) : Script :=
  if made then [.renew (.batch context)] else []

/-- `heapstore_batch_add_session`: the item is there, and there is room. -/
def batchAddSessionLocks (context : Nat) (given made room : Bool) : Script :=
  locking (.batch context) (given && made && room)

def batchDiscardLocks (context : Nat) (given : Bool) : Script :=
  locking (.batch context) given

/-- `heapstore_batch_context_destroy` -/
def batchContextDestroyLocks (context : Nat) (given : Bool) : Script :=
  if given then batchDiscardLocks context true ++ [.renew (.batch context)]
  else []

/-- `heapstore_batch_commit`, with the adds of the detached items. -/
def batchCommitLocks (context : Nat) (given : Bool)
    (adds : List RegistryVisit) : Script :=
  if given then
    locking (.batch context) true ++ (adds.map RegistryVisit.locks).flatten
  else []

/-! ### Core -/

/-- The four subsystems as a start or a stop finds them. -/
structure Running where
  log : LogState
  trace : Bool
  memory : Bool
  registry : Bool

inductive InitEnd where
  | alreadyInitialized
  | directories
  | schema
  | registry
  | trace
  | memory
  | log
  | done
  deriving DecidableEq

/-- A start: whether it reads its configuration, whether the lock of the
breaker is there or can be made, where it ends and what it finds running. -/
structure InitVisit where
  readsConfig : Bool
  lockReady : Bool
  lockMade : Bool
  ended : InitEnd
  found : Running

/-- The starts of the subsystems, as far as they are reached. -/
def InitVisit.stages (visit : InitVisit) : Script :=
  let registry := registryInitLocks visit.found.registry
    (decide (visit.ended ≠ .registry))
  let trace := registry ++ traceInitLocks visit.found.trace
  let memory := trace ++ memoryInitLocks visit.found.memory
  match visit.ended with
  | .registry => registry
  | .trace => trace
  | .memory => memory
  | .log => memory ++ logInitLocks visit.found.log.initialized
  | .done => memory ++ logInitLocks visit.found.log.initialized
  | _ => []

/-- The stops after a failed stage, of what runs by then. -/
def InitVisit.undo (visit : InitVisit) : Script :=
  match visit.ended with
  | .trace => registryShutdownLocks true
  | .memory => traceShutdownLocks true ++ registryShutdownLocks true
  | .log =>
      memoryShutdownLocks true ++ traceShutdownLocks true ++
        registryShutdownLocks true
  | _ => []

def heapstoreInitLocks (visit : InitVisit) : Script :=
  if visit.ended = .alreadyInitialized then []
  else
    let configured :=
      .renew .config ::
        if visit.readsConfig then applyConfigLocks visit.lockReady else []
    if visit.ended = .directories then configured
    else
      configured ++ coreCircuitInitLocks visit.lockReady visit.lockMade ++
        visit.stages ++ visit.undo

def heapstoreShutdownLocks (initialized lockReady : Bool) (running : Running) :
    Script :=
  if initialized then
    circStopLocks lockReady ++ logShutdownLocks running.log ++
      traceShutdownLocks running.trace ++ memoryShutdownLocks running.memory ++
      registryShutdownLocks running.registry
  else []

/-- `heapstore_reload_config`: the breaker is configured under the lock of the
configuration. -/
def heapstoreReloadConfigLocks (initialized given lockReady : Bool) : Script :=
  if initialized && given then critical .config (applyConfigLocks lockReady)
  else []

def heapstoreFlushLocks (initialized traceInitialized : Bool) : Script :=
  if initialized then traceFlushLocks traceInitialized else []

/-- `heapstore_cleanup` takes its settings under the lock and cleans later. -/
def heapstoreCleanupLocks (ready enabled traceInitialized : Bool)
    (traceDays : Int32) : Script :=
  if ready then
    locking .config true ++
      if enabled then traceCleanupLocks traceInitialized traceDays else []
  else []

/-- A log write through the breaker, with what it finds. -/
structure DispatchVisit where
  ready : Bool
  message : Bool
  lockReady : Bool
  blocked : Bool
  stillReady : Bool
  level : Level
  service : Option Bytes
  log : LogState

def writeDispatchLocks (visit : DispatchVisit) : Script :=
  if visit.ready && visit.message then
    circuitOpenLocks visit.lockReady ++
      if visit.blocked then []
      else if visit.stillReady then
        logWriteLocks visit.level visit.service visit.log ++
          recordSuccessLocks visit.lockReady
      else recordFailureLocks visit.lockReady
  else []

/-- `heapstore_health_check`, with the writes about unhealthy subsystems. -/
def heapstoreHealthCheckLocks (initialized lockReady : Bool)
    (reports : List DispatchVisit) : Script :=
  if initialized then
    (reports.map writeDispatchLocks).flatten ++ circuitOpenLocks lockReady
  else []

/-! ### Integration -/

def integrationInitLocks (initialized : Bool) (visit : InitVisit) : Script :=
  critical .integration (if initialized then [] else heapstoreInitLocks visit)

def integrationShutdownLocks (initialized storeInitialized lockReady : Bool)
    (running : Running) : Script :=
  critical .integration
    (if initialized then
      heapstoreShutdownLocks storeInitialized lockReady running
    else [])

def syscallSessionLocks (initialized given : Bool) (visit : RegistryVisit) :
    Script :=
  if initialized && given then visit.locks else []

def syscallTraceSaveLocks (initialized given duplicated traceInitialized : Bool)
    (span : TraceSpan) : Script :=
  if initialized && given && duplicated then
    traceWriteSpanLocks traceInitialized (some span)
  else []

def syscallTraceExportLocks (initialized out traceInitialized : Bool) : Script :=
  if initialized && out then traceExportToJsonLocks traceInitialized true
  else []

def loggingWriteLocks (initialized given : Bool) (level : Level)
    (service : Bytes) (log : LogState) : Script :=
  if initialized && given then logWriteLocks level (some service) log else []

/-! ### Calls -/

inductive StoreVisit where
  | init (visit : InitVisit)
  | shutdown (initialized lockReady : Bool) (running : Running)
  | reloadConfig (initialized given lockReady : Bool)
  | flush (initialized traceInitialized : Bool)
  | cleanup (ready enabled traceInitialized : Bool) (traceDays : Int32)
  | writeDispatch (visit : DispatchVisit)
  | healthCheck (initialized lockReady : Bool) (reports : List DispatchVisit)
  | getCircuitState (ready info lockReady : Bool)
  | resetCircuit (ready lockReady : Bool)
  | logInit (initialized : Bool)
  | logWrite (level : Level) (service : Option Bytes) (log : LogState)
  | logRotate (log : LogState)
  | logShutdown (log : LogState)
  | traceWriteSpan (initialized : Bool) (span : Option TraceSpan)
  | traceWriteSpansBatch (initialized : Bool) (batch : Option SpanArray)
  | traceQueryByTrace (initialized : Bool) (traceId : Option Bytes)
      (outs : Bool)
  | traceQueryByTimeRange (initialized outs : Bool)
  | traceConfigExporter (initialized given : Bool)
  | traceFlush (initialized : Bool)
  | traceGetStats (initialized : Bool)
  | traceCleanup (initialized : Bool) (daysToKeep : Int32)
  | traceExportToJson (initialized out : Bool)
  | traceInit (initialized : Bool)
  | traceShutdown (initialized : Bool)
  | memoryRecordPool (initialized : Bool) (pool : Option MemoryPool)
  | memoryGetPool (initialized : Bool) (id : Option Bytes) (out : Bool)
  | memoryUpdatePoolUsage (initialized : Bool) (id : Option Bytes)
  | memRecord (initialized : Bool) (allocation : Option MemoryAllocation)
  | memoryGetAllocation (initialized : Bool) (id : Option Bytes) (out : Bool)
  | memoryFreeAllocation (initialized : Bool) (id : Option Bytes)
  | memoryGetStats (initialized : Bool)
  | memoryInit (initialized : Bool)
  | memoryShutdown (initialized : Bool)
  | registry (visit : RegistryVisit)
  | registryInit (initialized databaseMade : Bool)
  | registryShutdown (initialized : Bool)
  | batchBegin (context : Nat) (made : Bool)
  | batchAddSession (context : Nat) (given made room : Bool)
  | batchCommit (context : Nat) (given : Bool) (adds : List RegistryVisit)
  | batchContextDestroy (context : Nat) (given : Bool)
  | integrationInit (initialized : Bool) (visit : InitVisit)
  | integrationShutdown (initialized storeInitialized lockReady : Bool)
      (running : Running)
  | syscallSession (initialized given : Bool) (visit : RegistryVisit)
  | syscallTraceSave (initialized given duplicated traceInitialized : Bool)
      (span : TraceSpan)
  | syscallTraceExport (initialized out traceInitialized : Bool)
  | loggingWrite (initialized given : Bool) (level : Level) (service : Bytes)
      (log : LogState)

def StoreVisit.locks : StoreVisit → Script
  | .init visit => heapstoreInitLocks visit
  | .shutdown initialized lockReady running =>
      heapstoreShutdownLocks initialized lockReady running
  | .reloadConfig initialized given lockReady =>
      heapstoreReloadConfigLocks initialized given lockReady
  | .flush initialized traceInitialized =>
      heapstoreFlushLocks initialized traceInitialized
  | .cleanup ready enabled traceInitialized traceDays =>
      heapstoreCleanupLocks ready enabled traceInitialized traceDays
  | .writeDispatch visit => writeDispatchLocks visit
  | .healthCheck initialized lockReady reports =>
      heapstoreHealthCheckLocks initialized lockReady reports
  | .getCircuitState ready info lockReady =>
      getCircuitStateLocks ready info lockReady
  | .resetCircuit ready lockReady => resetCircuitLocks ready lockReady
  | .logInit initialized => logInitLocks initialized
  | .logWrite level service log => logWriteLocks level service log
  | .logRotate log => logRotateLocks log
  | .logShutdown log => logShutdownLocks log
  | .traceWriteSpan initialized span => traceWriteSpanLocks initialized span
  | .traceWriteSpansBatch initialized batch =>
      traceWriteSpansBatchLocks initialized batch
  | .traceQueryByTrace initialized traceId outs =>
      traceQueryByTraceLocks initialized traceId outs
  | .traceQueryByTimeRange initialized outs =>
      traceQueryByTimeRangeLocks initialized outs
  | .traceConfigExporter initialized given =>
      traceConfigExporterLocks initialized given
  | .traceFlush initialized => traceFlushLocks initialized
  | .traceGetStats initialized => traceGetStatsLocks initialized
  | .traceCleanup initialized daysToKeep =>
      traceCleanupLocks initialized daysToKeep
  | .traceExportToJson initialized out => traceExportToJsonLocks initialized out
  | .traceInit initialized => traceInitLocks initialized
  | .traceShutdown initialized => traceShutdownLocks initialized
  | .memoryRecordPool initialized pool => memoryRecordPoolLocks initialized pool
  | .memoryGetPool initialized id out => memoryGetPoolLocks initialized id out
  | .memoryUpdatePoolUsage initialized id =>
      memoryUpdatePoolUsageLocks initialized id
  | .memRecord initialized allocation => memRecordLocks initialized allocation
  | .memoryGetAllocation initialized id out =>
      memoryGetAllocationLocks initialized id out
  | .memoryFreeAllocation initialized id =>
      memoryFreeAllocationLocks initialized id
  | .memoryGetStats initialized => memoryGetStatsLocks initialized
  | .memoryInit initialized => memoryInitLocks initialized
  | .memoryShutdown initialized => memoryShutdownLocks initialized
  | .registry visit => visit.locks
  | .registryInit initialized databaseMade =>
      registryInitLocks initialized databaseMade
  | .registryShutdown initialized => registryShutdownLocks initialized
  | .batchBegin context made => batchBeginLocks context made
  | .batchAddSession context given made room =>
      batchAddSessionLocks context given made room
  | .batchCommit context given adds => batchCommitLocks context given adds
  | .batchContextDestroy context given =>
      batchContextDestroyLocks context given
  | .integrationInit initialized visit => integrationInitLocks initialized visit
  | .integrationShutdown initialized storeInitialized lockReady running =>
      integrationShutdownLocks initialized storeInitialized lockReady running
  | .syscallSession initialized given visit =>
      syscallSessionLocks initialized given visit
  | .syscallTraceSave initialized given duplicated traceInitialized span =>
      syscallTraceSaveLocks initialized given duplicated traceInitialized span
  | .syscallTraceExport initialized out traceInitialized =>
      syscallTraceExportLocks initialized out traceInitialized
  | .loggingWrite initialized given level service log =>
      loggingWriteLocks initialized given level service log

/-! ### The order -/

/-- The integration layer first, then the configuration, then the modules, of
which only the log module takes a second lock. -/
def StoreLock.rank : StoreLock → Nat
  | .integration => 1
  | .config => 2
  | .service => 4
  | _ => 3

theorem StoreLock.rank_le (lock : StoreLock) : lock.rank ≤ 4 := by
  cases lock <;> exact Nat.le_of_ble_eq_true rfl

theorem orderly_locking (lock : StoreLock) {floor : Nat} {passes : Bool}
    (above : floor < lock.rank) :
    Orderly StoreLock.rank floor (locking lock passes) :=
  .ite (orderly_nil.critical above) orderly_nil

theorem orderly_making (lock : StoreLock) {floor : Nat}
    (above : floor < lock.rank) :
    Orderly StoreLock.rank floor [.renew lock] :=
  orderly_renew lock above

/-- A section, after which the lock is destroyed. -/
theorem orderly_closing (lock : StoreLock) {floor : Nat}
    (above : floor < lock.rank) :
    Orderly StoreLock.rank floor (critical lock [] ++ [.renew lock]) :=
  (orderly_nil.critical above).append (orderly_making lock above)

section Calls

variable {floor : Nat} (low : floor < 3)
include low

theorem orderly_logWriteLocks (level : Level) (service : Option Bytes)
    (log : LogState) :
    Orderly StoreLock.rank floor (logWriteLocks level service log) := by
  refine .ite orderly_nil (.ite orderly_nil (.critical low ?_))
  unfold serviceLogFileLocks
  split
  · exact orderly_nil
  · exact orderly_nil
  · exact orderly_locking .service (by decide)

theorem orderly_logShutdownLocks (log : LogState) :
    Orderly StoreLock.rank floor (logShutdownLocks log) :=
  .ite (.critical low (orderly_locking .service (by decide))) orderly_nil

theorem orderly_registryInitLocks (initialized databaseMade : Bool) :
    Orderly StoreLock.rank floor
      (registryInitLocks initialized databaseMade) :=
  .ite orderly_nil (.ite (orderly_making .registry low) orderly_nil)

theorem orderly_registryShutdownLocks (initialized : Bool) :
    Orderly StoreLock.rank floor (registryShutdownLocks initialized) :=
  .ite (orderly_closing .registry low) orderly_nil

theorem orderly_circStopLocks (lockReady : Bool) :
    Orderly StoreLock.rank floor (circStopLocks lockReady) :=
  .ite (orderly_closing .circuit low) orderly_nil

theorem orderly_coreCircuitInitLocks (lockReady made : Bool) :
    Orderly StoreLock.rank floor (coreCircuitInitLocks lockReady made) :=
  .ite (orderly_nil.critical low)
    ((orderly_making .circuit low).append (orderly_locking .circuit low))

theorem orderly_logInitLocks (initialized : Bool) :
    Orderly StoreLock.rank floor (logInitLocks initialized) :=
  .ite orderly_nil ((orderly_making .log low).append
    (orderly_making .service (low.trans (by decide))))

/-- Whatever its engine calls yield, a call of the registry takes its lock once
or not at all. -/
theorem orderly_registryVisit (visit : RegistryVisit) :
    Orderly StoreLock.rank floor visit.locks := by
  have once : Orderly StoreLock.rank floor (locking .registry true) :=
    orderly_locking .registry low
  unfold RegistryVisit.locks
  have effect := (@RegistryEntry.traced_effect visit.ready visit.outcomes
    visit.statement visit.entry).1
  generalize visit.entry.traced visit.ready visit.outcomes visit.statement =
    called at effect ⊢
  cases effect with
  | refused error => exact orderly_nil
  | locked error => exact once
  | finalized error => exact once
  | opened => exact once

/-- The subsystems are started and stopped one after the other. -/
theorem orderly_stages_undo (visit : InitVisit) :
    Orderly StoreLock.rank floor visit.stages ∧
      Orderly StoreLock.rank floor visit.undo := by
  have registry := orderly_registryInitLocks low visit.found.registry
    (decide (visit.ended ≠ .registry))
  have trace : Orderly StoreLock.rank floor
      (traceInitLocks visit.found.trace) :=
    .ite orderly_nil (orderly_making .trace low)
  have memory : Orderly StoreLock.rank floor
      (memoryInitLocks visit.found.memory) :=
    .ite orderly_nil (orderly_making .memory low)
  have log := orderly_logInitLocks low visit.found.log.initialized
  have traced := registry.append trace
  have recorded := traced.append memory
  have noRegistry := orderly_registryShutdownLocks low true
  have noTrace : Orderly StoreLock.rank floor (traceShutdownLocks true) :=
    orderly_locking .trace low
  have noMemory : Orderly StoreLock.rank floor (memoryShutdownLocks true) :=
    orderly_locking .memory low
  unfold InitVisit.stages InitVisit.undo
  constructor
  · simp only
    split
    · exact registry
    · exact traced
    · exact recorded
    · exact recorded.append log
    · exact recorded.append log
    · exact orderly_nil
  · split
    · exact noRegistry
    · exact noTrace.append noRegistry
    · exact (noMemory.append noTrace).append noRegistry
    · exact orderly_nil

end Calls

/-- A start makes the lock of the configuration first. -/
theorem orderly_heapstoreInitLocks {floor : Nat} (low : floor < 2)
    (visit : InitVisit) :
    Orderly StoreLock.rank floor (heapstoreInitLocks visit) := by
  have lower : floor < 3 := low.trans (by decide)
  have configured : Orderly StoreLock.rank floor
      (.renew .config ::
        if visit.readsConfig then applyConfigLocks visit.lockReady else []) :=
    (orderly_making .config low).append
      (.ite (orderly_locking .circuit lower) orderly_nil)
  obtain ⟨stages, undo⟩ := orderly_stages_undo lower visit
  exact .ite orderly_nil (.ite configured
    (((configured.append (orderly_coreCircuitInitLocks lower _ _)).append
      stages).append undo))

section Calls

variable {floor : Nat} (low : floor < 3)
include low

theorem orderly_heapstoreShutdownLocks (initialized lockReady : Bool)
    (running : Running) :
    Orderly StoreLock.rank floor
      (heapstoreShutdownLocks initialized lockReady running) :=
  .ite (((((orderly_circStopLocks low _).append
    (orderly_logShutdownLocks low _)).append (orderly_locking .trace low)).append
    (orderly_locking .memory low)).append (orderly_registryShutdownLocks low _))
    orderly_nil

theorem orderly_writeDispatchLocks (visit : DispatchVisit) :
    Orderly StoreLock.rank floor (writeDispatchLocks visit) :=
  .ite ((orderly_locking .circuit low).append (.ite orderly_nil
    (.ite ((orderly_logWriteLocks low _ _ _).append
      (orderly_locking .circuit low)) (orderly_locking .circuit low))))
    orderly_nil

end Calls

theorem StoreVisit.orderly (visit : StoreVisit) :
    Orderly StoreLock.rank 0 visit.locks := by
  have low : 0 < 3 := by decide
  cases visit with
  | init visit => exact orderly_heapstoreInitLocks (by decide) visit
  | shutdown initialized lockReady running =>
      exact orderly_heapstoreShutdownLocks low _ _ running
  | reloadConfig initialized given lockReady =>
      exact .ite (.critical (by decide) (orderly_locking .circuit (by decide)))
        orderly_nil
  | flush initialized traceInitialized =>
      exact .ite (orderly_locking .trace low) orderly_nil
  | cleanup ready enabled traceInitialized traceDays =>
      exact .ite ((orderly_locking .config (by decide)).append
        (.ite (orderly_locking .trace low) orderly_nil)) orderly_nil
  | writeDispatch visit => exact orderly_writeDispatchLocks low visit
  | healthCheck initialized lockReady reports =>
      refine .ite (.append (.flatten ?_) (orderly_locking .circuit low))
        orderly_nil
      intro script member
      obtain ⟨report, _, rfl⟩ := List.mem_map.mp member
      exact orderly_writeDispatchLocks low report
  | getCircuitState ready info lockReady =>
      exact .ite (orderly_locking .circuit low) orderly_nil
  | resetCircuit ready lockReady =>
      exact .ite (orderly_locking .circuit low) orderly_nil
  | logInit initialized => exact orderly_logInitLocks low initialized
  | traceInit initialized => exact .ite orderly_nil (orderly_making .trace low)
  | memoryInit initialized =>
      exact .ite orderly_nil (orderly_making .memory low)
  | registryInit initialized databaseMade =>
      exact orderly_registryInitLocks low initialized databaseMade
  | registryShutdown initialized =>
      exact orderly_registryShutdownLocks low initialized
  | batchBegin context made =>
      exact .ite (orderly_making (.batch context) low) orderly_nil
  | batchContextDestroy context given =>
      exact .ite ((orderly_locking (.batch context) low).append
        (orderly_making (.batch context) low)) orderly_nil
  | logWrite level service log => exact orderly_logWriteLocks low _ _ _
  | logShutdown log => exact orderly_logShutdownLocks low log
  | registry visit => exact orderly_registryVisit low visit
  | batchCommit context given adds =>
      refine .ite ((orderly_locking (.batch context) low).append (.flatten ?_))
        orderly_nil
      intro script member
      obtain ⟨visit, _, rfl⟩ := List.mem_map.mp member
      exact orderly_registryVisit low visit
  | integrationInit initialized visit =>
      exact .critical (by decide)
        (.ite orderly_nil (orderly_heapstoreInitLocks (by decide) visit))
  | integrationShutdown initialized storeInitialized lockReady running =>
      exact .critical (by decide)
        (.ite (orderly_heapstoreShutdownLocks (by decide) _ _ _) orderly_nil)
  | syscallSession initialized given visit =>
      exact .ite (orderly_registryVisit low visit) orderly_nil
  | syscallTraceSave initialized given duplicated traceInitialized span =>
      exact .ite (orderly_locking .trace low) orderly_nil
  | syscallTraceExport initialized out traceInitialized =>
      exact .ite (orderly_locking .trace low) orderly_nil
  | loggingWrite initialized given level service log =>
      exact .ite (orderly_logWriteLocks low _ _ _) orderly_nil
  -- The other calls take one lock of their module at most.
  | _ => exact orderly_locking _ low

/-- The locks that a thread takes in calling the store. -/
def callLocks (calls : List StoreVisit) : Script :=
  (calls.map StoreVisit.locks).flatten

theorem inOrder_calls {threads : Nat} (calls : Fin threads → List StoreVisit)
    (apart : Apart fun thread => callLocks (calls thread)) :
    InOrder StoreLock.rank (Threads.start fun thread =>
      callLocks (calls thread)) := by
  refine inOrder_start (fun thread => ?_) apart
  apply Orderly.flatten
  intro script member
  obtain ⟨visit, _, rfl⟩ := List.mem_map.mp member
  exact visit.orderly

/-- What holds while threads call the store: a lock is held by one thread at
most and once only, one that is made or destroyed is free and used by no other
thread, somebody can always go on, and all calls can be run to their ends,
after which no lock is held. -/
structure NeverStuck {threads : Nat}
    (state : Threads (Fin threads) StoreLock) : Prop where
  once : ∀ thread, (state.held thread).Nodup
  exclusive : ∀ first second lock, lock ∈ state.held first →
    lock ∈ state.held second → first = second
  renewed : ∀ thread lock rest, state.left thread = .renew lock :: rest →
    state.Free lock ∧ ∀ other, other ≠ thread →
      ∀ action ∈ state.left other, action.lock ≠ lock
  progress : ¬state.Finished → ∃ thread next, Step state thread next
  completes : ∃ last, Reaches state last ∧ last.Finished ∧
    ∀ lock, last.Free lock

/-- However threads that call the store interleave, they never get stuck, where
no thread uses a lock that a call of another one makes or destroys. -/
theorem store_threads_never_deadlock {threads : Nat}
    (calls : Fin threads → List StoreVisit)
    (apart : Apart fun thread => callLocks (calls thread))
    (state : Threads (Fin threads) StoreLock)
    (reached : Reaches
      (Threads.start fun thread => callLocks (calls thread)) state) :
    NeverStuck state := by
  have inOrder := inOrder_reached (inOrder_calls calls apart) reached
  obtain ⟨last, later, finished⟩ := inOrder.completes StoreLock.rank_le
  exact
    { once := inOrder.distinct
      exclusive := inOrder.exclusive
      renewed := fun _ _ _ next => inOrder.renews next
      progress := inOrder.progress StoreLock.rank_le
      completes := ⟨last, later, finished,
        (inOrder_reached inOrder later).all_free finished⟩ }

/-- A reload, beside a thread with a batch of its own that flushes. -/
def reloadBesideBatch (thread : Fin 2) : List StoreVisit :=
  if thread = 0 then [.reloadConfig true true true]
  else [.batchBegin 0 true, .traceFlush true, .batchContextDestroy 0 true]

theorem reloadBesideBatch_apart :
    Apart fun thread => callLocks (reloadBesideBatch thread) := by
  intro first second lock different renewed
  match first, second with
  | 0, 0 => exact absurd rfl different
  | 1, 1 => exact absurd rfl different
  | 0, 1 =>
      revert renewed
      simp [reloadBesideBatch, callLocks, StoreVisit.locks,
        heapstoreReloadConfigLocks, applyConfigLocks, locking, critical]
  | 1, 0 =>
      have own : lock = .batch 0 := by
        revert renewed
        simp [reloadBesideBatch, callLocks, StoreVisit.locks, batchBeginLocks,
          traceFlushLocks, batchContextDestroyLocks, batchDiscardLocks,
          locking, critical]
      rw [own]
      decide

/-- The reload holds the lock of the configuration. -/
theorem store_threads_never_deadlock_reload :
    NeverStuck ((Threads.start fun thread =>
      callLocks (reloadBesideBatch thread)).move 0 [StoreLock.config]
        [.acquire .circuit, .release .circuit, .release .config]) := by
  refine store_threads_never_deadlock reloadBesideBatch reloadBesideBatch_apart
    _ (.step .refl (.acquire rfl ?_))
  intro thread member
  cases member

end Heapstore.Locks
