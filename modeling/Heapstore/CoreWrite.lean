/-
Writing through the circuit breaker.

The dispatcher asks the breaker, writes and reports an outcome to it.  The log
module tells it nothing, so what it reports is a success whatever became of the
message.
-/

import Heapstore.CoreReload
import Heapstore.LogLevels

namespace Heapstore.Core

open ByteText OperationRun CircuitBreaker
open Circuit Log

structure LiveStore (Runtime : Type*) where
  logger : Logger
  circuit : LiveCircuit Runtime

def LiveProcess.store {Runtime : Type*} (live : LiveProcess Runtime) :
    LiveStore Runtime where
  logger :=
    { ready := live.process.initialized
      integrated := false
      log := live.process.log
      disk := live.process.disk }
  circuit := live.circuit

/-- A call of the dispatcher, with the clock when it asks and when it reports,
and whether the store is still ready in between. -/
structure WriteRequest where
  asked : Nat
  recorded : Nat
  stillReady : Bool
  write : WriteCalls
  undefinedText : Bytes → Bytes
  service : Option Bytes
  level : Int32
  message : Option Bytes
  traceId : Option Bytes

inductive WriteCall where
  | fast (request : WriteRequest)
  | slow (request : WriteRequest) (timeoutMs : UInt32)

def WriteCall.request : WriteCall → WriteRequest
  | .fast request => { request with traceId := none }
  | .slow request _ => request

section Dispatch

variable {Runtime : Type*} (breaker : Breaker CbConfig Runtime)

/-- `write_dispatch` with a running breaker. -/
def liveDispatch (request : WriteRequest) (store : LiveStore Runtime) :
    LiveStore Runtime × HeapstoreError × Written :=
  if store.logger.ready = false then (store, .errNotInitialized, none)
  else
    match request.message with
    | none => (store, .errInvalidParam, none)
    | some message =>
        let asked := circuitOpen breaker request.asked store.circuit
        if asked.2 then
          ({ store with circuit := asked.1 }, .errCircuitOpen, none)
        else if request.stillReady = false then
          ({ store with
              circuit := recordFailure breaker request.recorded asked.1 },
            .errNotInitialized, none)
        else
          let result := logWrite request.write request.level.toUInt32
            request.service request.traceId nullPlace
            (printAlone request.undefinedText message) store.logger
          ({ logger := result.1
             circuit := recordSuccess breaker request.recorded asked.1 },
            .success, result.2)

def dispatchMachine :
    Machine (LiveStore Runtime) WriteCall (HeapstoreError × Written) :=
  fun store call => liveDispatch breaker call.request store

/-- The message reaches the log module, which needs a file that is not open and
cannot open it. -/
structure OpenFails (store : LiveStore Runtime) (call : WriteCall) : Prop where
  ready : store.logger.ready = true
  message : call.request.message.isSome = true
  admitted :
    (circuitOpen breaker call.request.asked store.circuit).2 = false
  stillReady : call.request.stillReady = true
  started : store.logger.log.initialized = true
  level : call.request.level.toUInt32 ≤ store.logger.log.logLevel
  accepted : ServiceAccepted call.request.service
  opened : call.request.write.opened = false
  notOpen : (getServiceLogFile call.request.write call.request.service
    store.logger).2 = none

/-- None of the calls that fail succeeds, and the call after them is refused. -/
def Trips (store : LiveStore Runtime) (failing : List WriteCall)
    (current : WriteCall) : Prop :=
  (∀ answer ∈ answers (dispatchMachine breaker) store failing,
      answer.1 ≠ .success) ∧
    (dispatchMachine breaker (final (dispatchMachine breaker) store failing)
      current).2.1 = .errCircuitOpen

end Dispatch

section Outcomes

variable {Runtime : Type*} {breaker : Breaker CbConfig Runtime}
  {store : LiveStore Runtime}

/-- To the log module a dispatch is one with the answer of the breaker. -/
theorem liveDispatch_log (request : WriteRequest)
    (stillReady : request.stillReady = true) :
    let dispatched := writeDispatch
      { request.write with
          blocked := (circuitOpen breaker request.asked store.circuit).2 }
      request.undefinedText request.service request.level request.message
      request.traceId store.logger
    (liveDispatch breaker request store).1.logger = dispatched.1 ∧
      (liveDispatch breaker request store).2 = dispatched.2 := by
  unfold liveDispatch writeDispatch
  cases ready : store.logger.ready with
  | false => exact ⟨rfl, rfl⟩
  | true =>
      simp only [Bool.true_eq_false, if_false, stillReady]
      cases request.message with
      | none => exact ⟨rfl, rfl⟩
      | some message =>
          simp only
          cases (circuitOpen breaker request.asked store.circuit).2 with
          | true => exact ⟨rfl, rfl⟩
          | false => exact ⟨rfl, rfl⟩

/-- A message that is lost because its file cannot be opened is a success. -/
theorem liveDispatch_of_openFails {call : WriteCall}
    (fails : OpenFails breaker store call) :
    (dispatchMachine breaker store call).2 = (.success, none) := by
  obtain ⟨message, given⟩ := Option.isSome_iff_exists.mp fails.message
  unfold dispatchMachine liveDispatch
  simp only [fails.ready, given, fails.admitted, fails.stillReady,
    Bool.true_eq_false, Bool.false_eq_true, if_false]
  unfold logWrite
  simp only [fails.started, Bool.true_eq_false, if_false]
  rw [if_neg (UInt32.not_lt.mpr fails.level)]
  simp only [fails.notOpen]

theorem answers_of_openFails {calls : List WriteCall}
    (fail : Meets (dispatchMachine breaker) (OpenFails breaker) store calls) :
    ∀ answer ∈ answers (dispatchMachine breaker) store calls,
      answer = (.success, none) := by
  induction calls generalizing store with
  | nil => exact nofun
  | cons call rest ih =>
      obtain ⟨here, later⟩ := fail
      intro answer member
      rcases List.mem_cons.mp member with first | others
      · rw [first]
        exact liveDispatch_of_openFails here
      · exact ih later answer others

theorem dispatchMachine_adapter (call : WriteCall) :
    (dispatchMachine breaker store call).1.circuit.adapter =
      store.circuit.adapter := by
  unfold dispatchMachine liveDispatch
  split
  · rfl
  split
  · rfl
  simp only
  split
  · exact circuitOpen_adapter _
  split
  · exact (recordFailure_adapter _).trans (circuitOpen_adapter _)
  · exact (recordSuccess_adapter _).trans (circuitOpen_adapter _)

theorem dispatchMachine_closed (lawful : breaker.Lawful) {call : WriteCall}
    (stillReady : call.request.stillReady = true)
    (closed : (store.circuit.view breaker).phase = .closed) :
    ((dispatchMachine breaker store call).1.circuit.view breaker).phase =
        .closed ∧
      (dispatchMachine breaker store call).2.1 ≠ .errCircuitOpen := by
  have admitted : circuitOpen breaker call.request.asked store.circuit =
      (store.circuit, false) := by
    apply circuitOpen_of_not_opened
    rw [closed]
    decide
  unfold dispatchMachine liveDispatch
  split
  · exact ⟨closed, nofun⟩
  split
  · exact ⟨closed, nofun⟩
  simp only [admitted, stillReady, Bool.true_eq_false, Bool.false_eq_true,
    if_false]
  exact ⟨recordSuccess_closed lawful _ closed, nofun⟩

/-- No message that is lost counts against a closed breaker: it stays closed, and
no call is refused. -/
theorem dispatch_stays_closed (lawful : breaker.Lawful)
    (calls : List WriteCall)
    (stillReady : ∀ call ∈ calls, call.request.stillReady = true)
    (closed : (store.circuit.view breaker).phase = .closed) :
    ((final (dispatchMachine breaker) store calls).circuit.view breaker).phase =
        .closed ∧
      ∀ answer ∈ answers (dispatchMachine breaker) store calls,
        answer.1 ≠ .errCircuitOpen := by
  induction calls generalizing store with
  | nil => exact ⟨closed, nofun⟩
  | cons call rest ih =>
      obtain ⟨still, admitted⟩ := dispatchMachine_closed lawful
        (stillReady call List.mem_cons_self) closed
      obtain ⟨last, later⟩ := ih
        (fun other member => stillReady other (List.mem_cons_of_mem _ member))
        still
      refine ⟨last, ?_⟩
      intro answer member
      rcases List.mem_cons.mp member with first | others
      · rw [first]
        exact admitted
      · exact later answer others

end Outcomes

/-! ### The threshold -/

theorem heapstoreInit_threshold {platform : Platform}
    {manager : Option HeapstoreConfig} {calls : InitCalls} {process : Process}
    (positive : 0 < process.circuit.threshold) :
    0 < (heapstoreInit platform manager calls process).1.circuit.threshold := by
  let Keeps (other : Process) : Prop := 0 < other.circuit.threshold
  have configured : Keeps (configure platform manager calls process) := by
    unfold configure
    rw [applyUserConfig_eq, setDefaultConfig_eq]
    cases readConfig manager with
    | none => exact positive
    | some given => exact coreCircuitApplyConfig_threshold _ _ _ positive
  have armed : Keeps (arm platform manager calls process) := by
    change 0 < (coreCircuitInit calls.armed _).threshold
    rw [(coreCircuitInit_copy calls.armed _).1]
    exact configured
  refine @heapstoreInit_keeps _ _ _ _ Keeps configured ?_ positive
  apply startStages_keeps
  · intro other kept
    change 0 < (getRoot platform other).1.circuit.threshold
    rw [getRoot_circuit]
    exact kept
  · intro _ _ _ _ _ _ kept
    exact kept
  · intro _ kept
    exact kept
  · exact armed

/-- Whatever a store went through, the threshold of its breaker is positive. -/
theorem store_runs_threshold (platform : Platform) (disk : Disk)
    (history : List StoreCall) :
    0 < (final (storeStep platform) (freshProcess disk)
      history).circuit.threshold := by
  apply invariant (storeStep platform) fun process =>
    0 < process.circuit.threshold
  · intro process call positive
    cases call with
    | start manager calls => exact heapstoreInit_threshold positive
    | stop =>
        change 0 < (heapstoreShutdown process).circuit.threshold
        unfold heapstoreShutdown
        split
        · rw [circStop_threshold]
          exact positive
        · exact positive
    | reload manager calls =>
        change 0 < (heapstoreReloadConfig calls manager
          process).1.circuit.threshold
        unfold heapstoreReloadConfig
        split
        · exact positive
        · cases manager with
          | none => exact positive
          | some manager =>
              exact coreCircuitApplyConfig_threshold _ _ _ positive
  · change 0 < defaultCircuitThreshold
    decide

theorem dispatch_runs_adapter {Runtime : Type*}
    (breaker : Breaker CbConfig Runtime) (store : LiveStore Runtime)
    (calls : List WriteCall) :
    (final (dispatchMachine breaker) store calls).circuit.adapter =
      store.circuit.adapter := by
  apply invariant (dispatchMachine breaker) fun other =>
    other.circuit.adapter = store.circuit.adapter
  · intro other call same
    exact (dispatchMachine_adapter call).trans same
  · rfl

/-- After any history of the store and any writes, as many writes as the breaker
counts failures, each of which loses its message because the file cannot be
opened, do not trip it. -/
theorem openFails_never_trip {Runtime : Type*}
    (breaker : Breaker CbConfig Runtime) (platform : Platform) (disk : Disk)
    (history : List StoreCall) (live : LiveProcess Runtime)
    (reached : live.process =
      final (storeStep platform) (freshProcess disk) history)
    (before failing : List WriteCall) (current : WriteCall)
    (count : failing.length = live.process.circuit.threshold.toNat)
    (fail : Meets (dispatchMachine breaker) (OpenFails breaker)
      (final (dispatchMachine breaker) live.store before) failing) :
    ¬Trips breaker (final (dispatchMachine breaker) live.store before) failing
      current := by
  intro trips
  have positive : 0 < live.process.circuit.threshold.toNat := by
    rw [reached]
    exact UInt32.lt_iff_toNat_lt.mp (store_runs_threshold platform disk history)
  cases failing with
  | nil =>
      change 0 = _ at count
      omega
  | cons first rest =>
      have succeeded := liveDispatch_of_openFails fail.1
      have refused := trips.1 _ List.mem_cons_self
      rw [succeeded] at refused
      exact refused rfl

/-- A store that was started with a threshold of one failure. -/
def touchyStore : LiveProcess Counter where
  process := final (storeStep plainPlatform) (freshProcess fun _ => none)
    [.start (some { defConfig (some (ofString "/srv/store")) with
      circuitBreakerThreshold := 1 }) .ok]
  runtime := some (Counter.cleared
    { failureThreshold := 1, timeout := 30000, halfOpenMaxCalls := 1 })
  paired := rfl

/-- A message for a service whose log file cannot be opened. -/
def lostMessage : WriteCall :=
  .fast
    { asked := 0
      recorded := 0
      stillReady := true
      write := { writeCallsOk with opened := false }
      undefinedText := id
      service := some (ofString "db")
      level := 1
      message := some (ofString "lost")
      traceId := none }

theorem lostMessage_openFails :
    Meets (dispatchMachine (counting CbConfig.limits))
      (OpenFails (counting CbConfig.limits)) touchyStore.store [lostMessage] :=
  ⟨{ ready := rfl
     message := rfl
     admitted := rfl
     stillReady := rfl
     started := rfl
     level := by decide
     accepted := Or.inr rfl
     opened := rfl
     notOpen := rfl }, trivial⟩

theorem openFails_never_trip_once :
    ¬Trips (counting CbConfig.limits)
      (final (dispatchMachine (counting CbConfig.limits)) touchyStore.store [])
      [lostMessage] lostMessage :=
  openFails_never_trip (counting CbConfig.limits) plainPlatform (fun _ => none)
    [.start (some { defConfig (some (ofString "/srv/store")) with
      circuitBreakerThreshold := 1 }) .ok]
    touchyStore rfl [] [lostMessage] lostMessage rfl lostMessage_openFails

/-- A lost message is a success, and the message after it is let through. -/
theorem openFails_never_refused :
    ¬∀ (live : LiveProcess Counter) (failing : List WriteCall)
      (current : WriteCall),
      failing.length = live.process.circuit.threshold.toNat →
      Meets (dispatchMachine (counting CbConfig.limits))
        (OpenFails (counting CbConfig.limits)) live.store failing →
      Trips (counting CbConfig.limits) live.store failing current := by
  intro always
  have trips := always touchyStore [lostMessage] lostMessage rfl
    lostMessage_openFails
  have refused := trips.2
  revert refused
  decide

end Heapstore.Core
