/-
What a health check can find.

The store is followed with its breaker and its log through starts that fail
anywhere, stops, ends of the process, reloads, writes, rotations and the calls
of the registry and the span buffer.  Nothing in such a run opens the breaker,
and of the four subsystems of a running store only the log module is ever found
unhealthy: after a rotation that failed, until its file is opened again.
-/

import Heapstore.CoreLive
import Heapstore.CoreWrite
import Heapstore.LogRotation
import Heapstore.RegistryThreads
import Heapstore.StoreAnswers

namespace Heapstore.Health

open ByteText CivilTime SqlConnection OperationRun CircuitBreaker
open RegistrySqlite Trace Memory Log Circuit Durability RegistryThreads
open Heapstore.Core

/-! ### The four subsystems -/

/-- The span buffer is there exactly while its module is initialised. -/
def traceIsHealthy (state : TraceState) : Bool :=
  state.initialized

def logIsHealthy (state : LogState) : Bool :=
  state.initialized && state.mainLogFile.isSome

def memoryIsHealthy (state : MemoryState) : Bool :=
  state.initialized

/-! ### Writes -/

section Writes

variable {Runtime : Type*}

def LiveProcess.afterWrite (live : LiveProcess Runtime)
    (store : LiveStore Runtime) : LiveProcess Runtime :=
  LiveProcess.withCircuit
    { live with
      process :=
        { live.process with
            log := store.logger.log
            disk := store.logger.disk } } store.circuit

/-- Nobody stops the store during the write. -/
def undisturbed : WriteCall → WriteCall
  | .fast request => .fast { request with stillReady := true }
  | .slow request timeoutMs =>
      .slow { request with stillReady := true } timeoutMs

def liveWrite (breaker : Breaker CbConfig Runtime) (call : WriteCall)
    (live : LiveProcess Runtime) : LiveProcess Runtime × HeapstoreError :=
  let ran := dispatchMachine breaker live.store (undisturbed call)
  (LiveProcess.afterWrite live ran.1, ran.2.1)

end Writes

/-! ### The check -/

/-- The clock and the platform during the message about a subsystem. -/
structure MessageCalls where
  asked : Nat
  recorded : Nat
  write : WriteCalls
  undefinedText : Bytes → Bytes

structure HealthCalls where
  registry : MessageCalls
  trace : MessageCalls
  log : MessageCalls
  memory : MessageCalls
  asked : Nat

/-- Which of the five out parameters are given. -/
structure HealthOuts where
  registry : Bool
  trace : Bool
  log : Bool
  ipc : Bool
  memory : Bool

/-- What the out parameters are set to. -/
structure HealthReport where
  registry : Option Bool
  trace : Option Bool
  log : Option Bool
  ipc : Option Bool
  memory : Option Bool
  error : HeapstoreError
  deriving DecidableEq

/-- The out parameter of `update_health_status`. -/
def updateHealthStatus (given healthy : Bool) : Option Bool :=
  if given then some healthy else none

section Check

variable {Runtime : Type*} (breaker : Breaker CbConfig Runtime)

def checkSubsystemHealth (calls : MessageCalls) (name : String)
    (healthy : Bool) (live : LiveProcess Runtime) : LiveProcess Runtime :=
  if healthy then live
  else
    (liveWrite breaker (.fast
      { asked := calls.asked
        recorded := calls.recorded
        stillReady := true
        write := calls.write
        undefinedText := calls.undefinedText
        service := some (ofString "health")
        level := levelWarn.toInt32
        message := some (ofString name)
        traceId := none }) live).1

/-- `heapstore_health_check` -/
def heapstoreHealthCheck (calls : HealthCalls) (outs : HealthOuts)
    (live : LiveProcess Runtime) : LiveProcess Runtime × HealthReport :=
  if live.process.initialized = false then
    (live,
      { registry := updateHealthStatus outs.registry false
        trace := updateHealthStatus outs.trace false
        log := updateHealthStatus outs.log false
        ipc := updateHealthStatus outs.ipc false
        memory := updateHealthStatus outs.memory false
        error := .errNotInitialized })
  else
    let registryOk := registryIsHealthy live.process.registry
    let first :=
      checkSubsystemHealth breaker calls.registry "registry" registryOk live
    let traceOk := traceIsHealthy first.process.trace
    let second := checkSubsystemHealth breaker calls.trace "trace" traceOk first
    let logOk := logIsHealthy second.process.log
    let third := checkSubsystemHealth breaker calls.log "log" logOk second
    let memoryOk := memoryIsHealthy third.process.memory
    let fourth :=
      checkSubsystemHealth breaker calls.memory "memory" memoryOk third
    let asked := circuitOpen breaker calls.asked fourth.circuit
    let allHealthy :=
      registryOk && traceOk && logOk && memoryOk && !asked.2
    (fourth.withCircuit asked.1,
      { registry := updateHealthStatus outs.registry registryOk
        trace := updateHealthStatus outs.trace traceOk
        log := updateHealthStatus outs.log logOk
        ipc := updateHealthStatus outs.ipc true
        memory := updateHealthStatus outs.memory memoryOk
        error := if allHealthy then .success else .errInternal })

end Check

/-! ### Runs of the store -/

inductive LiveCall where
  | service (call : ServiceCall)
  | resetCircuit
  | write (call : WriteCall)
  | rotate (calls : RotateCalls)
  | healthCheck (calls : HealthCalls) (outs : HealthOuts)

inductive LiveAnswer where
  | service (answer : ServiceAnswer)
  | code (error : HeapstoreError)
  | health (report : HealthReport)

def LiveAnswer.error : LiveAnswer → HeapstoreError
  | .service answer => answerError answer
  | .code error => error
  | .health report => report.error

theorem respawned_paired (Runtime : Type*) (process : Process) :
    (none : Option Runtime).isSome =
      (respawned process).circuit.breaker.isSome :=
  rfl

section Steps

variable {Runtime : Type*} (breaker : ResettableBreaker CbConfig Runtime)
  (platform : Platform) (clock : LocalClock)

/-- `serviceStep` with a running breaker. -/
def liveServiceStep :
    Machine (LiveProcess Runtime) ServiceCall ServiceAnswer := fun live call =>
  match call with
  | .start manager calls =>
      let started := liveHeapstoreInit breaker.toBreaker platform manager calls
        live
      (started.1, .code started.2)
  | .stop => (liveHeapstoreShutdown live, .code .success)
  | .exit =>
      ({ process := respawned live.process
         runtime := none
         paired := respawned_paired Runtime live.process }, .code .success)
  | .reload manager calls =>
      let reloaded := liveReloadConfig breaker.toBreaker calls manager live
      (reloaded.1, .code reloaded.2)
  | .record kind call =>
      let ran := call.run live.process.registry
      (LiveProcess.withCircuit { live with
          process :=
            { filed { live.process with registry := ran.1 } with
                circuit := live.process.circuit } } live.circuit,
        .record kind ran.2)
  | .buffer call =>
      ({ live with
          process :=
            { live.process with
                trace := (bufferCall clock live.process.trace call).1 } },
        bufferAnswer clock live.process.trace call)

def liveStep : Machine (LiveProcess Runtime) LiveCall LiveAnswer :=
  fun live call =>
    match call with
    | .service call =>
        let ran := liveServiceStep breaker platform clock live call
        (ran.1, .service ran.2)
    | .resetCircuit =>
        let reset := heapstoreResetCircuit breaker live
        (reset.1, .code reset.2)
    | .write call =>
        let ran := liveWrite breaker.toBreaker call live
        (ran.1, .code ran.2)
    | .rotate calls =>
        let ran := logRotate clock calls live.store.logger
        ({ live with
            process :=
              { live.process with log := ran.1.log, disk := ran.1.disk } },
          .code ran.2)
    | .healthCheck calls outs =>
        let ran := heapstoreHealthCheck breaker.toBreaker calls outs live
        (ran.1, .health ran.2)

end Steps

/-! ### What becomes of the subsystems -/

/-- Whether a rotation has failed since the last start. -/
def rotationFailed (failed : Bool) (exchange : LiveCall × LiveAnswer) : Bool :=
  match exchange with
  | (.service (.start _ _), .service (.code .success)) => false
  | (.rotate _, .code error) => failed || decide (error ≠ .success)
  | _ => failed

/-- A running store has all its subsystems, its database is open, and so is the
main log unless a rotation failed. -/
structure Sound (process : Process) (failed : Bool) : Prop where
  inStep : process.InStep
  opened : process.initialized = true → process.registry.db.isSome = true
  logged : process.initialized = true → failed = false →
    process.log.mainLogFile.isSome = true

section Processes

variable {platform : Platform} {clock : LocalClock} {process : Process}
  {failed : Bool}

/-- A start that is not answered with success leaves a running store, or one
that is down. -/
theorem start_sound (manager : Option HeapstoreConfig) (calls : InitCalls)
    (sound : Sound process failed) :
    Sound (heapstoreInit platform manager calls process).1
      (rotationFailed failed (.service (.start manager calls),
        .service (.code (heapstoreInit platform manager calls process).2))) := by
  cases running : process.initialized with
  | true =>
      have refused : heapstoreInit platform manager calls process =
          (process, .errAlreadyInitialized) := by
        unfold heapstoreInit
        rw [running, if_pos rfl]
      rw [refused]
      exact sound
  | false =>
      have inStep := @heapstoreInit_inStep platform manager calls process
        sound.inStep
      have flag := congrArg Flags.store
        (@heapstoreInit_settled platform manager calls process running
          sound.inStep)
      change (heapstoreInit platform manager calls process).1.initialized = _
        at flag
      by_cases succeeded :
          (heapstoreInit platform manager calls process).2 = .success
      · obtain ⟨version, migrated, opened, started⟩ :=
          heapstoreInit_started succeeded
        have down : process.registry.initialized = false :=
          (congrArg Flags.registry sound.inStep).trans running
        obtain ⟨database, script, _, registry⟩ := started.registry down
        refine ⟨inStep, fun _ => ?_, fun _ _ => ?_⟩
        · rw [registry]
          rfl
        · rw [started.log]
          rfl
      · rw [decide_eq_false succeeded] at flag
        refine ⟨inStep, fun up => ?_, fun up => ?_⟩
        · rw [flag] at up
          cases up
        · rw [flag] at up
          cases up

theorem stop_sound (sound : Sound process failed) :
    Sound (heapstoreShutdown process) failed := by
  refine ⟨heapstoreShutdown_inStep sound.inStep, ?_, ?_⟩ <;>
    unfold heapstoreShutdown <;> split
  · nofun
  · exact sound.opened
  · nofun
  · exact sound.logged

theorem run_open {kind : RecordKind} (call : RecordCall kind)
    (registry : SqlRegistry) :
    (call.run registry).1.initialized = registry.initialized ∧
      (call.run registry).1.db.isSome = registry.db.isSome := by
  cases gate : callGate registry call with
  | inr error =>
      rw [callGate_refuses gate]
      exact ⟨rfl, rfl⟩
  | inl place =>
      obtain ⟨connection, after, reply, opened, _, same⟩ :=
        callGate_admits gate
      rw [same, opened]
      exact ⟨rfl, rfl⟩

/-- The file of the database is all that the disk gains. -/
theorem filed_kept (process : Process) :
    (filed process).flags = process.flags ∧
      (filed process).registry = process.registry ∧
      (filed process).log = process.log ∧
      (filed process).circuit = process.circuit := by
  unfold filed
  split <;> exact ⟨rfl, rfl, rfl, rfl⟩

theorem sound_of_same {next : Process} (sound : Sound process failed)
    (flags : next.flags = process.flags)
    (database : next.registry.db.isSome = process.registry.db.isSome)
    (log : process.log.mainLogFile.isSome = true →
      next.log.mainLogFile.isSome = true) :
    Sound next failed := by
  have store : next.initialized = process.initialized :=
    congrArg Flags.store flags
  refine ⟨?_, ?_, ?_⟩
  · have inStep := sound.inStep
    unfold Process.InStep at inStep ⊢
    rw [flags, store]
    exact inStep
  · rw [store, database]
    exact sound.opened
  · rw [store]
    exact fun up settled => log (sound.logged up settled)

theorem record_sound {kind : RecordKind} (call : RecordCall kind)
    (sound : Sound process failed) :
    Sound (filed { process with registry := (call.run process.registry).1 })
      failed := by
  obtain ⟨flag, database⟩ := run_open call process.registry
  obtain ⟨flags, registry, log, _⟩ :=
    filed_kept { process with registry := (call.run process.registry).1 }
  apply sound_of_same sound
  · rw [flags]
    unfold Process.flags
    simp only [flag]
  · rw [registry]
    exact database
  · rw [log]
    exact id

theorem service_sound (call : ServiceCall) (sound : Sound process failed) :
    Sound (serviceStep platform clock process call).1
      (rotationFailed failed (.service call,
        .service (serviceStep platform clock process call).2)) := by
  cases call with
  | start manager calls => exact start_sound manager calls sound
  | stop => exact stop_sound sound
  | exit => exact ⟨rfl, nofun, nofun⟩
  | reload manager calls =>
      change Sound (heapstoreReloadConfig calls manager process).1 failed
      unfold heapstoreReloadConfig
      split
      · exact sound
      · cases manager with
        | none => exact sound
        | some given => exact sound_of_same sound rfl rfl id
  | record kind call => exact record_sound call sound
  | buffer call =>
      refine sound_of_same sound ?_ rfl id
      change Process.flags { process with
        trace := (bufferCall clock process.trace call).1 } = process.flags
      unfold Process.flags
      simp only [bufferCall_initialized]

end Processes

/-! ### Writes and rotations -/

/-- The module stays started or stopped, and an open main log stays open. -/
structure KeepsOpen (before after : LogState) : Prop where
  initialized : after.initialized = before.initialized
  main : before.mainLogFile.isSome = true → after.mainLogFile.isSome = true

theorem keepsOpen_refl (log : LogState) : KeepsOpen log log :=
  ⟨rfl, id⟩

theorem getMainLogFile_keepsOpen (calls : WriteCalls) (logger : Logger) :
    KeepsOpen logger.log (getMainLogFile calls logger).1.log := by
  unfold getMainLogFile
  split
  · exact keepsOpen_refl _
  · split
    · exact keepsOpen_refl _
    · next closed =>
        split
        · exact ⟨rfl, id⟩
        · exact ⟨rfl, fun _ => rfl⟩

theorem getServiceLogFile_keepsOpen (calls : WriteCalls)
    (service : Option Bytes) (logger : Logger) :
    KeepsOpen logger.log (getServiceLogFile calls service logger).1.log := by
  rcases service with _ | _ | ⟨byte, rest⟩
  · exact getMainLogFile_keepsOpen calls logger
  · exact getMainLogFile_keepsOpen calls logger
  · unfold getServiceLogFile
    simp only
    split
    · exact keepsOpen_refl _
    · split
      · exact keepsOpen_refl _
      · split
        · split
          · exact keepsOpen_refl _
          · exact ⟨rfl, id⟩
        · exact getMainLogFile_keepsOpen calls logger

theorem logWrite_keepsOpen (calls : WriteCalls) (level : Level)
    (service traceId : Option Bytes) (place : SourcePlace) (printed : Bytes)
    (logger : Logger) :
    KeepsOpen logger.log
      (logWrite calls level service traceId place printed logger).1.log := by
  have found := getServiceLogFile_keepsOpen calls service logger
  unfold logWrite
  split
  · exact keepsOpen_refl _
  · split
    · exact keepsOpen_refl _
    · simp only
      split
      · exact found
      · exact found

theorem logRotate_keeps (clock : LocalClock) (calls : RotateCalls)
    (logger : Logger) :
    (logRotate clock calls logger).1.log.initialized =
        logger.log.initialized ∧
      ((logRotate clock calls logger).2 = .success →
        (logRotate clock calls logger).1.log.mainLogFile.isSome = true) ∧
      (logRotate clock calls logger).2 ≠ .errCircuitOpen := by
  unfold logRotate
  split
  · exact ⟨rfl, nofun, nofun⟩
  · simp only
    split
    · exact ⟨rfl, nofun, nofun⟩
    · split
      · exact ⟨rfl, nofun, nofun⟩
      · exact ⟨rfl, fun _ => rfl, nofun⟩

section Lives

variable {Runtime : Type*} {breaker : Breaker CbConfig Runtime}
  {live : LiveProcess Runtime} {failed : Bool}

theorem liveDispatch_keepsOpen (request : WriteRequest)
    (store : LiveStore Runtime) :
    KeepsOpen store.logger.log
      (liveDispatch breaker request store).1.logger.log := by
  unfold liveDispatch
  split
  · exact keepsOpen_refl _
  · split
    · exact keepsOpen_refl _
    · simp only
      split
      · exact keepsOpen_refl _
      · split
        · exact keepsOpen_refl _
        · exact logWrite_keepsOpen _ _ _ _ _ _ _

theorem liveWrite_sound (call : WriteCall) (sound : Sound live.process failed) :
    Sound (liveWrite breaker call live).1.process failed := by
  obtain ⟨initialized, main⟩ := @liveDispatch_keepsOpen _ breaker
    (undisturbed call).request live.store
  refine @sound_of_same _ _ (liveWrite breaker call live).1.process sound ?_
    rfl main
  change { live.process.flags with
    log := (liveDispatch breaker (undisturbed call).request
      live.store).1.logger.log.initialized } = _
  rw [initialized]
  rfl

/-- A check does nothing to the store but to write and to ask the breaker. -/
theorem healthCheck_keeps {Keeps : LiveProcess Runtime → Prop}
    (calls : HealthCalls) (outs : HealthOuts)
    (write : ∀ other call, Keeps other →
      Keeps (liveWrite breaker call other).1)
    (asked : ∀ other, Keeps other → Keeps (other.withCircuit
      (circuitOpen breaker calls.asked other.circuit).1))
    (kept : Keeps live) :
    Keeps (heapstoreHealthCheck breaker calls outs live).1 := by
  have check : ∀ other messages name healthy, Keeps other →
      Keeps (checkSubsystemHealth breaker messages name healthy other) := by
    intro other messages name healthy kept
    unfold checkSubsystemHealth
    split
    · exact kept
    · exact write other _ kept
  unfold heapstoreHealthCheck
  split
  · exact kept
  · apply asked
    apply check
    apply check
    apply check
    apply check
    exact kept

theorem rotate_sound (clock : LocalClock) (calls : RotateCalls)
    (sound : Sound live.process failed) :
    let ran := logRotate clock calls live.store.logger
    Sound { live.process with log := ran.1.log, disk := ran.1.disk }
      (failed || decide (ran.2 ≠ .success)) := by
  intro ran
  obtain ⟨initialized, main, _⟩ :=
    logRotate_keeps clock calls live.store.logger
  have flags : Process.flags
      { live.process with log := ran.1.log, disk := ran.1.disk } =
        live.process.flags := by
    change { live.process.flags with log := ran.1.log.initialized } = _
    rw [initialized]
    rfl
  by_cases succeeded : ran.2 = .success
  · rw [decide_eq_false (not_not.mpr succeeded), Bool.or_false]
    exact sound_of_same sound flags rfl fun _ => main succeeded
  · rw [decide_eq_true succeeded, Bool.or_true]
    refine ⟨?_, sound.opened, nofun⟩
    have inStep := sound.inStep
    unfold Process.InStep at inStep ⊢
    rw [flags]
    exact inStep

end Lives

/-! ### The breaker -/

/-- The breaker is the one that the adapter has, and it is closed. -/
structure Closed {Runtime : Type*} (breaker : Breaker CbConfig Runtime)
    (live : LiveProcess Runtime) : Prop where
  mirrored : live.process.circuit.Mirrored
  phase : (live.circuit.view breaker).phase = .closed

section Closing

variable {Runtime : Type*} {breaker : Breaker CbConfig Runtime}
  {live next : LiveProcess Runtime}

/-- A breaker that is kept, dropped or created stays closed. -/
theorem Closed.renewed (lawful : breaker.Lawful) (closed : Closed breaker live)
    (mirrored : next.process.circuit.Mirrored)
    (renews : Renews breaker live.runtime next.runtime) :
    Closed breaker next := by
  refine ⟨mirrored, ?_⟩
  obtain same | fresh := view_of_renews lawful live.circuit next.circuit
    closed.mirrored mirrored renews
  · rw [same]
    exact closed.phase
  · rw [fresh]
    rfl

theorem liveWrite_closed (lawful : breaker.Lawful) (call : WriteCall)
    (closed : Closed breaker live) :
    Closed breaker (liveWrite breaker call live).1 ∧
      (liveWrite breaker call live).2 ≠ .errCircuitOpen := by
  have stillReady : (undisturbed call).request.stillReady = true := by
    cases call <;> rfl
  obtain ⟨phase, admitted⟩ := @dispatchMachine_closed _ breaker live.store
    lawful (undisturbed call) stillReady closed.phase
  refine ⟨⟨?_, phase⟩, admitted⟩
  have adapter := @dispatchMachine_adapter _ breaker live.store
    (undisturbed call)
  change (dispatchMachine breaker live.store
    (undisturbed call)).1.circuit.adapter.Mirrored
  rw [adapter]
  exact closed.mirrored

theorem healthCheck_unrefused (calls : HealthCalls) (outs : HealthOuts) :
    (heapstoreHealthCheck breaker calls outs live).2.error ≠
      .errCircuitOpen := by
  unfold heapstoreHealthCheck
  split
  · nofun
  · simp only
    split <;> nofun

theorem healthCheck_closed (lawful : breaker.Lawful) (calls : HealthCalls)
    (outs : HealthOuts) (closed : Closed breaker live) :
    Closed breaker (heapstoreHealthCheck breaker calls outs live).1 := by
  apply @healthCheck_keeps _ breaker live (Closed breaker) calls outs
    (fun _ call closed => (liveWrite_closed lawful call closed).1) _ closed
  intro other closed
  rw [circuitOpen_of_not_opened calls.asked
    (ne_of_eq_of_ne closed.phase (by decide))]
  exact ⟨closed.mirrored, closed.phase⟩

end Closing

/-! ### Failures -/

section Failures

variable {Runtime : Type*} {live : LiveProcess Runtime}

/-- A write that nobody disturbs has no failure to report. -/
theorem liveWrite_withFail (breaker : Breaker CbConfig Runtime)
    (fail : Nat → Runtime → Runtime) (call : WriteCall) :
    liveWrite (breaker.withFail fail) call live =
      liveWrite breaker call live := by
  have stillReady : (undisturbed call).request.stillReady = true := by
    cases call <;> rfl
  have same : liveDispatch (breaker.withFail fail) (undisturbed call).request
      live.store = liveDispatch breaker (undisturbed call).request
        live.store := by
    unfold liveDispatch
    rw [stillReady]
    simp only [Bool.true_eq_false, if_false]
    rfl
  unfold liveWrite dispatchMachine
  simp only [same]

theorem checkSubsystemHealth_withFail (breaker : Breaker CbConfig Runtime)
    (fail : Nat → Runtime → Runtime) (calls : MessageCalls) (name : String)
    (healthy : Bool) (live : LiveProcess Runtime) :
    checkSubsystemHealth (breaker.withFail fail) calls name healthy live =
      checkSubsystemHealth breaker calls name healthy live := by
  unfold checkSubsystemHealth
  rw [liveWrite_withFail]

theorem liveStep_withFail (breaker : ResettableBreaker CbConfig Runtime)
    (fail : Nat → Runtime → Runtime) (platform : Platform)
    (clock : LocalClock) :
    liveStep (breaker.withFail fail) platform clock =
      liveStep breaker platform clock := by
  funext live call
  cases call with
  | service call => cases call <;> rfl
  | resetCircuit => rfl
  | write call =>
      have same := @liveWrite_withFail _ live breaker.toBreaker fail call
      exact congrArg (fun ran => (ran.1, LiveAnswer.code ran.2)) same
  | rotate calls => rfl
  | healthCheck calls outs =>
      have same : heapstoreHealthCheck (breaker.toBreaker.withFail fail) calls
          outs live = heapstoreHealthCheck breaker.toBreaker calls outs
            live := by
        unfold heapstoreHealthCheck
        simp only [checkSubsystemHealth_withFail]
        rfl
      exact congrArg (fun ran => (ran.1, LiveAnswer.health ran.2)) same

end Failures

/-! ### Steps and runs -/

section Runs

variable {Runtime : Type*} {breaker : ResettableBreaker CbConfig Runtime}
  {platform : Platform} {clock : LocalClock} {live : LiveProcess Runtime}
  {failed : Bool}

/-- Without its breaker, a call of the running store is one of `serviceStep`. -/
theorem liveServiceStep_process (call : ServiceCall) :
    (liveServiceStep breaker platform clock live call).1.process =
        (serviceStep platform clock live.process call).1 ∧
      (liveServiceStep breaker platform clock live call).2 =
        (serviceStep platform clock live.process call).2 := by
  cases call with
  | start manager calls =>
      refine ⟨liveHeapstoreInit_process, ?_⟩
      change ServiceAnswer.code (liveHeapstoreInit breaker.toBreaker platform
        manager calls live).2 = _
      unfold liveHeapstoreInit
      simp only
      split <;> rfl
  | stop => exact ⟨liveHeapstoreShutdown_process, rfl⟩
  | exit => exact ⟨rfl, rfl⟩
  | reload manager calls =>
      obtain ⟨process, code⟩ := @liveReloadConfig_process _ breaker.toBreaker
        calls manager live
      exact ⟨process, congrArg ServiceAnswer.code code⟩
  | record kind call =>
      refine ⟨?_, rfl⟩
      have kept := (filed_kept { live.process with
        registry := (call.run live.process.registry).1 }).2.2.2
      exact congrArg (fun circuit => { filed { live.process with
        registry := (call.run live.process.registry).1 } with
          circuit := circuit }) kept.symm
  | buffer call => exact ⟨rfl, rfl⟩

theorem liveServiceStep_closed (lawful : breaker.toBreaker.Lawful)
    (call : ServiceCall) (closed : Closed breaker.toBreaker live) :
    Closed breaker.toBreaker
      (liveServiceStep breaker platform clock live call).1 := by
  have process := (@liveServiceStep_process _ breaker platform clock live
    call).1
  cases call with
  | start manager calls =>
      refine closed.renewed lawful ?_
        (liveHeapstoreInit_renews platform manager calls live)
      rw [process]
      exact heapstoreInit_mirrored closed.mirrored
  | stop =>
      refine closed.renewed lawful ?_ (liveHeapstoreShutdown_renews live)
      rw [process]
      exact heapstoreShutdown_mirrored closed.mirrored
  | exit => exact ⟨clearedCircuit_mirrored, rfl⟩
  | reload manager calls =>
      refine closed.renewed lawful ?_
        (liveReloadConfig_renews calls manager live)
      rw [process]
      change (heapstoreReloadConfig calls manager
        live.process).1.circuit.Mirrored
      unfold heapstoreReloadConfig
      split
      · exact closed.mirrored
      · cases manager with
        | none => exact closed.mirrored
        | some given =>
            exact coreCircuitApplyConfig_mirrored _ _ _ closed.mirrored
  | record kind call => exact ⟨closed.mirrored, closed.phase⟩
  | buffer call => exact ⟨closed.mirrored, closed.phase⟩

theorem liveStep_closed (lawful : breaker.toBreaker.Lawful)
    (cleared : ∀ runtime, breaker.view (breaker.reset runtime) = View.fresh)
    (call : LiveCall) (closed : Closed breaker.toBreaker live) :
    Closed breaker.toBreaker (liveStep breaker platform clock live call).1 ∧
      (liveStep breaker platform clock live call).2.error ≠
        .errCircuitOpen := by
  cases call with
  | service call =>
      refine ⟨liveServiceStep_closed lawful call closed, ?_⟩
      change answerError
        (liveServiceStep breaker platform clock live call).2 ≠ _
      rw [(liveServiceStep_process call).2]
      exact serviceStep_unrefused platform clock live.process call
  | resetCircuit =>
      simp only [liveStep, heapstoreResetCircuit]
      split
      · exact ⟨closed, nofun⟩
      · refine ⟨⟨?_, congrArg View.phase (resetCircuit_view cleared)⟩, nofun⟩
        change (resetCircuit breaker live.circuit).adapter.Mirrored
        rw [resetCircuit_adapter]
        exact closed.mirrored
  | write call => exact liveWrite_closed lawful call closed
  | rotate calls =>
      exact ⟨⟨closed.mirrored, closed.phase⟩,
        (logRotate_keeps clock calls live.store.logger).2.2⟩
  | healthCheck calls outs =>
      exact ⟨healthCheck_closed lawful calls outs closed,
        healthCheck_unrefused calls outs⟩

theorem liveStep_sound (call : LiveCall) (sound : Sound live.process failed) :
    Sound (liveStep breaker platform clock live call).1.process
      (rotationFailed failed
        (call, (liveStep breaker platform clock live call).2)) := by
  cases call with
  | service call =>
      obtain ⟨process, answer⟩ := @liveServiceStep_process _ breaker platform
        clock live call
      simp only [liveStep]
      rw [process, answer]
      exact service_sound call sound
  | resetCircuit =>
      simp only [liveStep, heapstoreResetCircuit]
      split
      · exact sound
      · exact sound_of_same sound rfl rfl id
  | write call => exact liveWrite_sound call sound
  | rotate calls => exact rotate_sound clock calls sound
  | healthCheck calls outs =>
      exact @healthCheck_keeps _ breaker.toBreaker live
        (fun other => Sound other.process failed) calls outs
        (fun _ call sound => liveWrite_sound call sound)
        (fun _ sound => sound_of_same sound rfl rfl id) sound

/-- What a check says of a sound store whose breaker is closed. -/
def expectedReport (outs : HealthOuts) (process : Process) : HealthReport :=
  let up := process.initialized
  let log := up && process.log.mainLogFile.isSome
  { registry := updateHealthStatus outs.registry up
    trace := updateHealthStatus outs.trace up
    log := updateHealthStatus outs.log log
    ipc := updateHealthStatus outs.ipc up
    memory := updateHealthStatus outs.memory up
    error :=
      if up = false then .errNotInitialized
      else if log then .success
      else .errInternal }

end Runs

section Report

variable {Runtime : Type*} {breaker : Breaker CbConfig Runtime}
  {live : LiveProcess Runtime} {failed : Bool}

/-- The message about the log leaves the memory tables and a closed breaker. -/
theorem checked_log (lawful : breaker.Lawful) (calls : MessageCalls)
    (healthy : Bool) (closed : Closed breaker live) :
    (checkSubsystemHealth breaker calls "log" healthy live).process.memory =
        live.process.memory ∧
      Closed breaker (checkSubsystemHealth breaker calls "log" healthy live) := by
  unfold checkSubsystemHealth
  split
  · exact ⟨rfl, closed⟩
  · exact ⟨rfl, (liveWrite_closed lawful _ closed).1⟩

theorem healthCheck_report (lawful : breaker.Lawful) (calls : HealthCalls)
    (outs : HealthOuts) (sound : Sound live.process failed)
    (closed : Closed breaker live) :
    (heapstoreHealthCheck breaker calls outs live).2 =
      expectedReport outs live.process := by
  unfold heapstoreHealthCheck expectedReport
  cases running : live.process.initialized with
  | false => rfl
  | true =>
      have flags := sound.inStep
      unfold Process.InStep at flags
      rw [running] at flags
      have registry : registryIsHealthy live.process.registry = true := by
        unfold registryIsHealthy
        rw [show live.process.registry.initialized = true from
          congrArg Flags.registry flags, sound.opened running]
        rfl
      have trace : traceIsHealthy live.process.trace = true :=
        congrArg Flags.trace flags
      have log : logIsHealthy live.process.log =
          live.process.log.mainLogFile.isSome := by
        unfold logIsHealthy
        rw [show live.process.log.initialized = true from
          congrArg Flags.log flags, Bool.true_and]
      have passes : ∀ messages name (other : LiveProcess Runtime),
          checkSubsystemHealth breaker messages name true other = other :=
        fun _ _ _ => rfl
      simp only [Bool.true_eq_false, if_false, registry, trace, passes, log]
      obtain ⟨memory, still⟩ := checked_log lawful calls.log
        live.process.log.mainLogFile.isSome closed
      have healthy : memoryIsHealthy (checkSubsystemHealth breaker calls.log
          "log" live.process.log.mainLogFile.isSome live).process.memory =
            true := by
        rw [memory]
        exact congrArg Flags.memory flags
      simp only [healthy, passes]
      rw [circuitOpen_of_not_opened calls.asked
        (ne_of_eq_of_ne still.phase (by decide))]
      cases live.process.log.mainLogFile.isSome <;> rfl

end Report

section Laws

variable {Runtime : Type*} (breaker : ResettableBreaker CbConfig Runtime)
  (lawful : breaker.toBreaker.Lawful)
  (cleared : ∀ runtime, breaker.view (breaker.reset runtime) = View.fresh)
  (platform : Platform) (clock : LocalClock) (disk : Disk)
  (calls : List LiveCall)

theorem closed_fresh :
    Closed breaker.toBreaker (freshLiveProcess Runtime disk) :=
  ⟨clearedCircuit_mirrored, rfl⟩

theorem sound_fresh :
    Sound (freshLiveProcess Runtime disk).process false :=
  ⟨rfl, nofun, nofun⟩

include lawful cleared in
/-- Calls that are made one after the other never open the breaker: it is closed
after every run, no call of the run was answered as an open breaker makes it,
and the run is the same whatever the breaker does at a failure, since none is
reported to it. -/
theorem breaker_never_opens :
    let start := freshLiveProcess Runtime disk
    let step := liveStep breaker platform clock
    ((final step start calls).circuit.view breaker.toBreaker).phase = .closed ∧
      (∀ answer ∈ answers step start calls, answer.error ≠ .errCircuitOpen) ∧
      ∀ fail, let changed := liveStep (breaker.withFail fail) platform clock
        final changed start calls = final step start calls ∧
          answers changed start calls = answers step start calls := by
  intro start step
  obtain ⟨closed, admitted⟩ := traced_invariant step
    (fun live trace => Closed breaker.toBreaker live ∧
      ∀ answer ∈ trace, answer.error ≠ .errCircuitOpen)
    (by
      rintro live trace call ⟨closed, admitted⟩
      obtain ⟨still, here⟩ := @liveStep_closed _ breaker platform clock live
        lawful cleared call closed
      refine ⟨still, ?_⟩
      intro answer member
      rcases List.mem_append.mp member with before | last
      · exact admitted answer before
      · rw [List.mem_singleton.mp last]
        exact here)
    start [] calls ⟨closed_fresh breaker disk, List.forall_mem_nil _⟩
  refine ⟨closed.phase, admitted, ?_⟩
  intro fail changed
  have same : changed = step := liveStep_withFail breaker fail platform clock
  rw [same]
  exact ⟨rfl, rfl⟩

include lawful cleared in
/-- A health check after any run finds a running store healthy but for its log,
and the log as well unless a rotation failed since the last start. -/
theorem health_check_blames_only_log (health : HealthCalls)
    (outs : HealthOuts) :
    let live := final (liveStep breaker platform clock)
      (freshLiveProcess Runtime disk) calls
    (heapstoreHealthCheck breaker.toBreaker health outs live).2 =
        expectedReport outs live.process ∧
      (live.process.initialized = true →
        (transcript (liveStep breaker platform clock)
          (freshLiveProcess Runtime disk) calls).foldl rotationFailed false =
            false →
        live.process.log.mainLogFile.isSome = true) := by
  intro live
  obtain ⟨sound, closed⟩ := folded_invariant (liveStep breaker platform clock)
    rotationFailed
    (fun live failed => Sound live.process failed ∧
      Closed breaker.toBreaker live)
    (by
      rintro live failed call ⟨sound, closed⟩
      exact ⟨liveStep_sound call sound,
        (liveStep_closed lawful cleared call closed).1⟩)
    (freshLiveProcess Runtime disk) false calls
    ⟨sound_fresh disk, closed_fresh breaker disk⟩
  exact ⟨healthCheck_report lawful health outs sound closed, sound.logged⟩

end Laws

def everyOut : HealthOuts where
  registry := true
  trace := true
  log := true
  ipc := true
  memory := true

def plainMessage : MessageCalls where
  asked := 0
  recorded := 0
  write := writeCallsOk
  undefinedText := id

def plainHealth : HealthCalls where
  registry := plainMessage
  trace := plainMessage
  log := plainMessage
  memory := plainMessage
  asked := 0

/-- A rotation that cannot rename the main log. -/
def failedRotation : List LiveCall :=
  [.service (plainStart .ok),
    .rotate
      { base := ofString "/logs", now := 0, replaced := false, opened := true }]

/-- A start in vain, a rotation that fails, a message that is lost because no
file can be opened, a check that finds the log unhealthy, a reload that asks for
a threshold of one, another lost message, a stop and a write after it. -/
def troubledRun : List LiveCall :=
  let lost : WriteCall :=
    .fast
      { asked := 1
        recorded := 2
        stillReady := true
        write := { writeCallsOk with opened := false }
        undefinedText := id
        service := some (ofString "db")
        level := levelError.toInt32
        message := some (ofString "lost")
        traceId := none }
  [.service (plainStart { InitCalls.ok with traceAllocated := false })] ++
    failedRotation ++
    [.write lost, .healthCheck plainHealth everyOut,
      .service (.reload
        (some { defConfig none with circuitBreakerThreshold := 1 }) .ok),
      .write lost, .service .stop, .write lost]

theorem breaker_never_opens_troubled :
    let start := freshLiveProcess Counter fun _ => none
    let step := liveStep (resettableCounting CbConfig.limits) plainPlatform
      gmtime
    ((final step start troubledRun).circuit.view
        (counting CbConfig.limits)).phase = .closed ∧
      (∀ answer ∈ answers step start troubledRun,
        answer.error ≠ .errCircuitOpen) ∧
      (answers step start troubledRun).map LiveAnswer.error =
        [.errOutOfMemory, .success, .errFileOperationFailed, .success,
          .errInternal, .success, .success, .success, .errNotInitialized] := by
  intro start step
  obtain ⟨closed, admitted, _⟩ := breaker_never_opens
    (resettableCounting CbConfig.limits) (counting_lawful CbConfig.limits)
    (fun _ => rfl) plainPlatform gmtime (fun _ => none) troubledRun
  exact ⟨closed, admitted, by decide +kernel⟩

theorem health_check_blames_only_log_rotation :
    (heapstoreHealthCheck (counting CbConfig.limits) plainHealth everyOut
      (final (liveStep (resettableCounting CbConfig.limits) plainPlatform
        gmtime) (freshLiveProcess Counter fun _ => none) failedRotation)).2 =
      { registry := some true
        trace := some true
        log := some false
        ipc := some true
        memory := some true
        error := .errInternal } :=
  (health_check_blames_only_log (resettableCounting CbConfig.limits)
    (counting_lawful CbConfig.limits) (fun _ => rfl) plainPlatform gmtime
    (fun _ => none) failedRotation plainHealth everyOut).1.trans
      (by decide +kernel)

end Heapstore.Health
