/-
The store with a running breaker.

Each function does to the process what it does without a running breaker, and
to the breaker what the adapter does with it.
-/

import Heapstore.CircuitService
import Heapstore.CoreLifecycle
import Heapstore.CoreReload

namespace Heapstore.Core

open CircuitBreaker
open Circuit

def LiveProcess.withCircuit {Runtime : Type*} (live : LiveProcess Runtime)
    (circuit : LiveCircuit Runtime) : LiveProcess Runtime where
  process := { live.process with circuit := circuit.adapter }
  runtime := circuit.runtime
  paired := circuit.paired

theorem freshProcess_paired (Runtime : Type*) (disk : Disk) :
    (none : Option Runtime).isSome =
      (freshProcess disk).circuit.breaker.isSome :=
  rfl

def freshLiveProcess (Runtime : Type*) (disk : Disk) :
    LiveProcess Runtime where
  process := freshProcess disk
  runtime := none
  paired := freshProcess_paired Runtime disk

section Functions

variable {Runtime : Type*} (breaker : Breaker CbConfig Runtime)

/-- The breaker after `apply_user_config`. -/
def liveConfigure (platform : Platform) (manager : Option HeapstoreConfig)
    (calls : InitCalls) (live : LiveProcess Runtime) : LiveCircuit Runtime :=
  match readConfig manager with
  | none => live.circuit
  | some _ =>
      let config := (configure platform manager calls live.process).config
      liveApplyConfig breaker calls.applied config.circuitBreakerThreshold
        config.circuitBreakerTimeoutSec live.circuit

/-- `heapstore_init` with a running breaker, which is armed anew once the
directories are there. -/
def liveHeapstoreInit (platform : Platform) (manager : Option HeapstoreConfig)
    (calls : InitCalls) (live : LiveProcess Runtime) :
    LiveProcess Runtime × HeapstoreError :=
  let started := heapstoreInit platform manager calls live.process
  if live.process.initialized then (live, started.2)
  else
    let configured := liveConfigure breaker platform manager calls live
    let root := (configure platform manager calls live.process).rootPath
    let circuit :=
      if createDirectoryStructure calls.structureEnsured root ≠ .success then
        configured
      else liveInit breaker calls.armed configured
    (LiveProcess.withCircuit { live with
        process := { started.1 with circuit := live.process.circuit } } circuit,
      started.2)

def liveHeapstoreShutdown (live : LiveProcess Runtime) : LiveProcess Runtime :=
  if live.process.initialized then
    LiveProcess.withCircuit { live with
        process :=
          { heapstoreShutdown live.process with
              circuit := live.process.circuit } }
      (liveCircStop live.circuit)
  else live

def heapstoreResetCircuit (breaker : ResettableBreaker CbConfig Runtime)
    (live : LiveProcess Runtime) : LiveProcess Runtime × HeapstoreError :=
  if heapstoreReady live.process = false then (live, .errNotInitialized)
  else (live.withCircuit (resetCircuit breaker live.circuit), .success)

end Functions

/-! ### The process -/

section Processes

variable {Runtime : Type*} {breaker : Breaker CbConfig Runtime}
  {platform : Platform} {manager : Option HeapstoreConfig} {calls : InitCalls}
  {live : LiveProcess Runtime}

theorem withCircuit_process {circuit : LiveCircuit Runtime}
    (same : circuit.adapter = live.process.circuit) :
    (live.withCircuit circuit).process = live.process := by
  change ({ live.process with circuit := circuit.adapter } : Process) =
    live.process
  rw [same]

theorem liveConfigure_adapter :
    (liveConfigure breaker platform manager calls live).adapter =
      (configure platform manager calls live.process).circuit := by
  unfold liveConfigure configure
  rw [applyUserConfig_eq, setDefaultConfig_eq]
  cases read : readConfig manager with
  | none => rfl
  | some given =>
      simp only [userConfig, read]
      exact liveApplyConfig_adapter _ _ _

theorem liveHeapstoreInit_process :
    (liveHeapstoreInit breaker platform manager calls live).1.process =
      (heapstoreInit platform manager calls live.process).1 := by
  have armed : coreCircuitInit calls.armed
      (configure platform manager calls live.process).circuit =
        (startStages platform calls
          (arm platform manager calls live.process)).1.circuit := by
    symm
    let Keeps (other : Process) : Prop :=
      other.circuit = (arm platform manager calls live.process).circuit
    exact @startStages_keeps _ _ _ Keeps
      (fun _ kept => getRoot_circuit.trans kept)
      (fun _ _ _ _ _ _ kept => kept) (fun _ kept => kept) rfl
  unfold liveHeapstoreInit LiveProcess.withCircuit
  rw [heapstoreInit_eq]
  cases live.process.initialized with
  | true => rfl
  | false =>
      simp only [Bool.false_eq_true, if_false]
      split
      · rw [liveConfigure_adapter]
      · rw [liveInit_adapter, liveConfigure_adapter, armed]

theorem liveHeapstoreShutdown_process :
    (liveHeapstoreShutdown live).process =
      heapstoreShutdown live.process := by
  unfold liveHeapstoreShutdown heapstoreShutdown
  split
  · rfl
  · rfl

/-! ### The breaker -/

theorem liveHeapstoreInit_renews (platform : Platform)
    (manager : Option HeapstoreConfig) (calls : InitCalls)
    (live : LiveProcess Runtime) :
    Renews breaker live.runtime
      (liveHeapstoreInit breaker platform manager calls live).1.runtime := by
  have configured : Renews breaker live.runtime
      (liveConfigure breaker platform manager calls live).runtime := by
    unfold liveConfigure
    split
    · exact .kept
    · exact liveApplyConfig_renews _ _ _ live.circuit
  unfold liveHeapstoreInit
  simp only
  split
  · exact .kept
  · change Renews breaker live.runtime (LiveCircuit.runtime (if _ then _ else _))
    split
    · exact configured
    · exact configured.trans (liveInit_renews _ _)

theorem liveHeapstoreShutdown_renews (live : LiveProcess Runtime) :
    Renews breaker live.runtime (liveHeapstoreShutdown live).runtime := by
  unfold liveHeapstoreShutdown
  split
  · exact liveCircStop_renews live.circuit
  · exact .kept

theorem liveReloadConfig_renews (calls : ArmCalls)
    (manager : Option HeapstoreConfig) (live : LiveProcess Runtime) :
    Renews breaker live.runtime
      (liveReloadConfig breaker calls manager live).1.runtime := by
  unfold liveReloadConfig
  split
  · exact .kept
  · cases manager with
    | none => exact .kept
    | some given => exact liveApplyConfig_renews _ _ _ live.circuit

end Processes

/-! ### Breakers in service -/

/-- The breaker of a store follows the adapter and is served. -/
structure LiveProcess.InService {Runtime : Type*}
    (breaker : ResettableBreaker CbConfig Runtime)
    (live : LiveProcess Runtime) : Prop where
  mirrored : live.process.circuit.Mirrored
  served : live.circuit.Served breaker

section Service

variable {Runtime : Type*} {breaker : ResettableBreaker CbConfig Runtime}
  {live : LiveProcess Runtime}

theorem freshLiveProcess_inService (disk : Disk) :
    (freshLiveProcess Runtime disk).InService breaker where
  mirrored := clearedCircuit_mirrored
  served := by
    intro config runtime kept
    cases kept

theorem liveHeapstoreInit_inService (platform : Platform)
    (manager : Option HeapstoreConfig) (calls : InitCalls)
    (service : live.InService breaker) :
    (liveHeapstoreInit breaker.toBreaker platform manager calls
      live).1.InService breaker := by
  constructor
  · rw [liveHeapstoreInit_process]
    exact heapstoreInit_mirrored service.mirrored
  · have configured : (liveConfigure breaker.toBreaker platform manager calls
        live).Served breaker := by
      unfold liveConfigure
      split
      · exact service.served
      · exact liveApplyConfig_served _ _ _ service.served
    unfold liveHeapstoreInit
    simp only
    split
    · exact service.served
    · change LiveCircuit.Served breaker (if _ then _ else _)
      split
      · exact configured
      · exact liveInit_served _ configured

theorem liveHeapstoreShutdown_inService (service : live.InService breaker) :
    (liveHeapstoreShutdown live).InService breaker := by
  constructor
  · rw [liveHeapstoreShutdown_process]
    exact heapstoreShutdown_mirrored service.mirrored
  · unfold liveHeapstoreShutdown
    split
    · exact liveCircStop_served service.served
    · exact service.served

theorem liveReloadConfig_inService (calls : ArmCalls)
    (manager : Option HeapstoreConfig) (service : live.InService breaker) :
    (liveReloadConfig breaker.toBreaker calls manager live).1.InService
      breaker := by
  unfold liveReloadConfig
  split
  · exact service
  · cases manager with
    | none => exact service
    | some given =>
        constructor
        · change (liveApplyConfig _ _ _ _ _).adapter.Mirrored
          rw [liveApplyConfig_adapter]
          exact coreCircuitApplyConfig_mirrored _ _ _ service.mirrored
        · exact liveApplyConfig_served _ _ _ service.served

theorem heapstoreResetCircuit_inService (service : live.InService breaker) :
    (heapstoreResetCircuit breaker live).1.InService breaker := by
  unfold heapstoreResetCircuit
  split
  · exact service
  · constructor
    · change (resetCircuit breaker live.circuit).adapter.Mirrored
      rw [resetCircuit_adapter]
      exact service.mirrored
    · exact resetCircuit_served service.served

end Service

end Heapstore.Core
