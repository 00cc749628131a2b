/-
What a reload touches.

A reload changes the settings and the breaker's copy of them, and where the copy
changes it replaces the running breaker.  Everything else is left alone.
-/

import Heapstore.CircuitLive
import Heapstore.CoreSettings

namespace Heapstore.Core

open ByteText CircuitBreaker
open Circuit

/-- A process and the breaker that its adapter owns. -/
structure LiveProcess (Runtime : Type*) where
  process : Process
  runtime : Option Runtime
  paired : runtime.isSome = process.circuit.breaker.isSome

section Reload

variable {Runtime : Type*} (breaker : Breaker CbConfig Runtime)

def LiveProcess.circuit (live : LiveProcess Runtime) : LiveCircuit Runtime where
  adapter := live.process.circuit
  runtime := live.runtime
  paired := live.paired

/-- The settings after a reload; the root stays. -/
def updatedConfig (manager present : HeapstoreConfig) : HeapstoreConfig :=
  { mergeConfig manager present with rootPath := present.rootPath }

/-- `heapstore_reload_config` with a running breaker. -/
def liveReloadConfig (calls : ArmCalls) (manager : Option HeapstoreConfig)
    (live : LiveProcess Runtime) : LiveProcess Runtime × HeapstoreError :=
  if live.process.initialized = false then (live, .errNotInitialized)
  else
    match manager with
    | none => (live, .errInvalidParam)
    | some manager =>
        let config := updatedConfig manager live.process.config
        let circuit := liveApplyConfig breaker calls
          config.circuitBreakerThreshold config.circuitBreakerTimeoutSec
          live.circuit
        ({ process :=
             { live.process with config := config, circuit := circuit.adapter }
           runtime := circuit.runtime
           paired := circuit.paired }, .success)

/-- What a reload must not touch: what the breaker shows, the registry, the span
buffer, the memory tables, the open log files and the disk. -/
structure ReloadFrame (before after : LiveProcess Runtime) : Prop where
  view : after.circuit.view breaker = before.circuit.view breaker
  registry : after.process.registry = before.process.registry
  trace : after.process.trace = before.process.trace
  memory : after.process.memory = before.process.memory
  log : after.process.log = before.process.log
  disk : after.process.disk = before.process.disk

end Reload

section Frames

variable {Runtime : Type*} {breaker : Breaker CbConfig Runtime}

theorem liveReloadConfig_process (calls : ArmCalls)
    (manager : Option HeapstoreConfig) (live : LiveProcess Runtime) :
    (liveReloadConfig breaker calls manager live).1.process =
        (heapstoreReloadConfig calls manager live.process).1 ∧
      (liveReloadConfig breaker calls manager live).2 =
        (heapstoreReloadConfig calls manager live.process).2 := by
  unfold liveReloadConfig heapstoreReloadConfig
  split
  · exact ⟨rfl, rfl⟩
  · cases manager with
    | none => exact ⟨rfl, rfl⟩
    | some manager =>
        refine ⟨?_, rfl⟩
        simp only [liveApplyConfig_adapter]
        rfl

/-- The reload leaves the breaker that runs alone, or the breaker was as good as
new. -/
def LeavesBreaker (breaker : Breaker CbConfig Runtime) (calls : ArmCalls)
    (given : HeapstoreConfig) (live : LiveProcess Runtime) : Prop :=
  let config := updatedConfig given live.process.config
  ¬live.circuit.Replaces calls config.circuitBreakerThreshold
      config.circuitBreakerTimeoutSec ∨
    live.circuit.view breaker = View.fresh

/-- In every initialised state, a reload touches nothing but the settings
exactly if it leaves the running breaker alone or finds it as good as new. -/
theorem reloadConfig_frame_iff (lawful : breaker.Lawful)
    (live : LiveProcess Runtime) (ready : live.process.initialized = true)
    (given : HeapstoreConfig) (calls : ArmCalls) :
    ReloadFrame breaker live
        (liveReloadConfig breaker calls (some given) live).1 ↔
      LeavesBreaker breaker calls given live := by
  have changed := @liveApplyConfig_view _ breaker live.circuit lawful calls
    (updatedConfig given live.process.config).circuitBreakerThreshold
    (updatedConfig given live.process.config).circuitBreakerTimeoutSec
  unfold liveReloadConfig LeavesBreaker
  simp only [ready, Bool.true_eq_false, if_false]
  constructor
  · intro frame
    rcases changed with ⟨_, fresh⟩ | ⟨kept, _⟩
    · right
      exact frame.view.symm.trans fresh
    · exact Or.inl kept
  · intro leaves
    refine ⟨?_, rfl, rfl, rfl, rfl, rfl⟩
    rcases changed with ⟨replaced, fresh⟩ | ⟨_, same⟩
    · have before := leaves.resolve_left (not_not.mpr replaced)
      exact fresh.trans before.symm
    · exact same

end Frames

/-- A store that was started, with a breaker in this state. -/
def runningWith (counter : Counter) : LiveProcess Counter where
  process := (heapstoreInit plainPlatform none .ok (freshProcess fun _ => none)).1
  runtime := some counter
  paired := rfl

def freshCounter : Counter :=
  Counter.cleared { failureThreshold := 5, timeout := 30000, halfOpenMaxCalls := 1 }

/-- A breaker that five failures in a row opened. -/
def failedCounter : Counter :=
  [1000, 1001, 1002, 1003, 1004].foldl
    (fun counter now => (counting CbConfig.limits).fail now counter)
    freshCounter

theorem reloadConfig_frame_iff_three :
    ReloadFrame (counting CbConfig.limits) (runningWith freshCounter)
        (liveReloadConfig (counting CbConfig.limits) .ok
          (some (threeFailures none)) (runningWith freshCounter)).1 ↔
      LeavesBreaker (counting CbConfig.limits) .ok (threeFailures none)
        (runningWith freshCounter) :=
  reloadConfig_frame_iff (counting_lawful CbConfig.limits)
    (runningWith freshCounter) rfl (threeFailures none) .ok

/-- A new threshold closes a breaker that is open. -/
theorem reloadConfig_closes_breaker :
    ¬∀ (live : LiveProcess Counter) (given : HeapstoreConfig) (calls : ArmCalls),
      live.process.initialized = true →
        ReloadFrame (counting CbConfig.limits) live
          (liveReloadConfig (counting CbConfig.limits) calls (some given)
            live).1 := by
  intro always
  have frame := always (runningWith failedCounter) (threeFailures none) .ok rfl
  exact absurd frame.view (by decide)

end Heapstore.Core
