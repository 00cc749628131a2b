/-
The circuit breaker adapter with a running breaker.

The breaker itself belongs to another library and is a parameter.  Each function
does to the adapter what it does without a running breaker, and asks or tells
the breaker in between.
-/

import Heapstore.CircuitAdapter
import Heapstore.Foundation.CircuitBreaker

namespace Heapstore.Circuit

open CircuitBreaker

/-- The adapter and the breaker that it owns, which is there exactly if the
adapter has created one. -/
structure LiveCircuit (Runtime : Type*) where
  adapter : CircuitAdapter
  runtime : Option Runtime
  paired : runtime.isSome = adapter.breaker.isSome

section Functions

variable {Runtime : Type*} (breaker : Breaker CbConfig Runtime)

def LiveCircuit.cleared : LiveCircuit Runtime where
  adapter := clearedCircuit
  runtime := none
  paired := rfl

/-- `cb_enter`: the breaker, if the lock and the breaker exist. -/
def LiveCircuit.entered (circuit : LiveCircuit Runtime) : Option Runtime :=
  if circuit.adapter.lockReady then circuit.runtime else none

def LiveCircuit.put (circuit : LiveCircuit Runtime) (runtime : Runtime) :
    LiveCircuit Runtime :=
  { circuit with
      runtime := circuit.runtime.map fun _ => runtime
      paired := Option.isSome_map.trans circuit.paired }

/-- `cb_arm` -/
def liveArm (calls : ArmCalls) (circuit : LiveCircuit Runtime) :
    LiveCircuit Runtime :=
  if missing : circuit.adapter.manager = false ∧ calls.manager = false then
    circuit
  else
    { adapter := cbArm calls circuit.adapter
      runtime :=
        if calls.breaker then
          some (breaker.create (cbConfigBuild circuit.adapter))
        else none
      paired := by
        unfold cbArm
        rw [if_neg missing]
        cases calls.breaker <;> rfl }

def LiveCircuit.relabel (circuit : LiveCircuit Runtime)
    (lockReady : Bool) (threshold timeoutSec : UInt32) : LiveCircuit Runtime :=
  { circuit with
      adapter :=
        { circuit.adapter with
            lockReady := lockReady
            threshold := threshold
            timeoutSec := timeoutSec } }

def liveInit (calls : ArmCalls) (circuit : LiveCircuit Runtime) :
    LiveCircuit Runtime :=
  if circuit.adapter.lockReady = false ∧ calls.lock = false then circuit
  else
    liveArm breaker calls
      (circuit.relabel true circuit.adapter.threshold circuit.adapter.timeoutSec)

/-- `heapstore_core_circuit_apply_config` -/
def liveApplyConfig (calls : ArmCalls) (threshold timeoutSec : UInt32)
    (circuit : LiveCircuit Runtime) : LiveCircuit Runtime :=
  let adapter := circuit.adapter
  let newThreshold := if 0 < threshold then threshold else adapter.threshold
  let newTimeout := if 0 < timeoutSec then timeoutSec else adapter.timeoutSec
  let configured := circuit.relabel adapter.lockReady newThreshold newTimeout
  if adapter.lockReady = false then configured
  else if newThreshold ≠ adapter.threshold ∨ newTimeout ≠ adapter.timeoutSec then
    liveArm breaker calls configured
  else circuit

/-- `heapstore_circuit_open`: only an open breaker is asked. -/
def circuitOpen (now : Nat) (circuit : LiveCircuit Runtime) :
    LiveCircuit Runtime × Bool :=
  match circuit.entered with
  | none => (circuit, false)
  | some runtime =>
      if (breaker.view runtime).phase = .opened then
        let asked := breaker.allow now runtime
        (circuit.put asked.1, !asked.2)
      else (circuit, false)

def recordSuccess (now : Nat) (circuit : LiveCircuit Runtime) :
    LiveCircuit Runtime :=
  match circuit.entered with
  | none => circuit
  | some runtime => circuit.put (breaker.succeed now runtime)

def recordFailure (now : Nat) (circuit : LiveCircuit Runtime) :
    LiveCircuit Runtime :=
  match circuit.entered with
  | none => circuit
  | some runtime => circuit.put (breaker.fail now runtime)

/-- What `heapstore_get_circuit_state` reports of the breaker; without one it
reports a closed breaker. -/
def LiveCircuit.view (circuit : LiveCircuit Runtime) : View :=
  match circuit.entered with
  | none => View.fresh
  | some runtime => breaker.view runtime

end Functions

/-- The limits that the configuration of the adapter asks for. -/
def CbConfig.limits (config : CbConfig) : Limits where
  failureThreshold := config.failureThreshold.toNat
  timeout := config.timeoutMs.toNat
  halfOpenMaxCalls := config.halfOpenMaxCalls.toNat

/-! ### The adapter alone -/

section Adapter

variable {Runtime : Type*} {breaker : Breaker CbConfig Runtime}
  {circuit : LiveCircuit Runtime}

theorem liveArm_adapter (calls : ArmCalls) :
    (liveArm breaker calls circuit).adapter = cbArm calls circuit.adapter := by
  unfold liveArm
  split
  · next missing =>
      unfold cbArm
      rw [if_pos missing]
  · rfl

theorem liveInit_adapter (calls : ArmCalls) :
    (liveInit breaker calls circuit).adapter =
      coreCircuitInit calls circuit.adapter := by
  unfold liveInit coreCircuitInit
  split
  · rfl
  · exact liveArm_adapter calls

theorem liveApplyConfig_adapter (calls : ArmCalls)
    (threshold timeoutSec : UInt32) :
    (liveApplyConfig breaker calls threshold timeoutSec circuit).adapter =
      coreCircuitApplyConfig calls threshold timeoutSec circuit.adapter := by
  simp only [liveApplyConfig, coreCircuitApplyConfig]
  generalize (if 0 < threshold then threshold
    else circuit.adapter.threshold) = newThreshold
  generalize (if 0 < timeoutSec then timeoutSec
    else circuit.adapter.timeoutSec) = newTimeout
  split
  · rfl
  · split
    · exact liveArm_adapter calls
    · rfl

theorem circuitOpen_adapter (now : Nat) :
    (circuitOpen breaker now circuit).1.adapter = circuit.adapter := by
  unfold circuitOpen
  cases circuit.entered with
  | none => rfl
  | some runtime =>
      simp only
      split <;> rfl

theorem recordSuccess_adapter (now : Nat) :
    (recordSuccess breaker now circuit).adapter = circuit.adapter := by
  unfold recordSuccess
  cases circuit.entered <;> rfl

theorem recordFailure_adapter (now : Nat) :
    (recordFailure breaker now circuit).adapter = circuit.adapter := by
  unfold recordFailure
  cases circuit.entered <;> rfl

end Adapter

/-! ### What the breaker shows -/

section Views

variable {Runtime : Type*} {breaker : Breaker CbConfig Runtime}
  {circuit : LiveCircuit Runtime} {runtime : Runtime}

theorem LiveCircuit.entered_put (present : circuit.entered = some runtime)
    (next : Runtime) : (circuit.put next).entered = some next := by
  unfold LiveCircuit.entered at present ⊢
  split at present
  · next ready =>
      rw [if_pos (show (circuit.put next).adapter.lockReady = true from ready)]
      exact congrArg (Option.map fun _ => next) present
  · cases present

theorem LiveCircuit.view_entered (present : circuit.entered = some runtime) :
    circuit.view breaker = breaker.view runtime := by
  unfold LiveCircuit.view
  rw [present]

/-- Only an open breaker is asked; any other admits everybody. -/
theorem circuitOpen_of_not_opened (now : Nat)
    (notOpened : (circuit.view breaker).phase ≠ .opened) :
    circuitOpen breaker now circuit = (circuit, false) := by
  unfold circuitOpen
  unfold LiveCircuit.view at notOpened
  cases entered : circuit.entered with
  | none => rfl
  | some runtime =>
      rw [entered] at notOpened
      exact if_neg notOpened

theorem recordSuccess_closed (lawful : breaker.Lawful) (now : Nat)
    (closed : (circuit.view breaker).phase = .closed) :
    ((recordSuccess breaker now circuit).view breaker).phase = .closed := by
  unfold recordSuccess
  cases entered : circuit.entered with
  | none => exact closed
  | some runtime =>
      rw [LiveCircuit.view_entered entered] at closed
      rw [LiveCircuit.view_entered (LiveCircuit.entered_put entered _)]
      exact lawful.succeeded now runtime closed

/-- The configuration that is applied replaces the breaker. -/
def LiveCircuit.Replaces (circuit : LiveCircuit Runtime) (calls : ArmCalls)
    (threshold timeoutSec : UInt32) : Prop :=
  circuit.adapter.lockReady = true ∧
    (0 < threshold ∧ threshold ≠ circuit.adapter.threshold ∨
      0 < timeoutSec ∧ timeoutSec ≠ circuit.adapter.timeoutSec) ∧
    (circuit.adapter.manager = true ∨ calls.manager = true)

theorem liveArm_view (lawful : breaker.Lawful) (calls : ArmCalls)
    (owned : circuit.adapter.manager = true ∨ calls.manager = true) :
    (liveArm breaker calls circuit).view breaker = View.fresh := by
  have present : ¬(circuit.adapter.manager = false ∧ calls.manager = false) := by
    intro missing
    rcases owned with manager | manager
    · rw [missing.1] at manager
      cases manager
    · rw [missing.2] at manager
      cases manager
  have entered : (liveArm breaker calls circuit).entered =
      if (cbArm calls circuit.adapter).lockReady then
        if calls.breaker then
          some (breaker.create (cbConfigBuild circuit.adapter))
        else none
      else none := by
    unfold liveArm
    rw [dif_neg present]
    rfl
  unfold LiveCircuit.view
  rw [entered]
  cases (cbArm calls circuit.adapter).lockReady with
  | false => rfl
  | true =>
      cases calls.breaker with
      | false => rfl
      | true => exact lawful.created _

/-- A breaker that is replaced is a fresh one; otherwise it is left alone. -/
theorem liveApplyConfig_view (lawful : breaker.Lawful) (calls : ArmCalls)
    (threshold timeoutSec : UInt32) :
    (circuit.Replaces calls threshold timeoutSec ∧
        (liveApplyConfig breaker calls threshold timeoutSec circuit).view
          breaker = View.fresh) ∨
      (¬circuit.Replaces calls threshold timeoutSec ∧
        (liveApplyConfig breaker calls threshold timeoutSec circuit).view
          breaker = circuit.view breaker) := by
  have changes : ∀ given mirrored : UInt32,
      (if 0 < given then given else mirrored) ≠ mirrored ↔
        0 < given ∧ given ≠ mirrored := by
    intro given mirrored
    by_cases positive : 0 < given
    · rw [if_pos positive, and_iff_right positive]
    · rw [if_neg positive]
      exact iff_of_false (fun differs => differs rfl) fun both => positive both.1
  unfold LiveCircuit.Replaces
  rw [← changes, ← changes]
  simp only [liveApplyConfig]
  generalize (if 0 < threshold then threshold
    else circuit.adapter.threshold) = newThreshold
  generalize (if 0 < timeoutSec then timeoutSec
    else circuit.adapter.timeoutSec) = newTimeout
  by_cases free : circuit.adapter.lockReady = false
  · right
    rw [if_pos free]
    refine ⟨fun replaced => ?_, rfl⟩
    rw [free] at replaced
    cases replaced.1
  have locked := (Bool.not_eq_false _).mp free
  rw [if_neg free, and_iff_right locked]
  by_cases changed : newThreshold ≠ circuit.adapter.threshold ∨
      newTimeout ≠ circuit.adapter.timeoutSec
  · rw [and_iff_right changed, if_pos changed]
    by_cases owned : circuit.adapter.manager = true ∨ calls.manager = true
    · left
      exact ⟨owned, liveArm_view lawful calls owned⟩
    · right
      refine ⟨owned, ?_⟩
      obtain ⟨manager, created⟩ := not_or.mp owned
      unfold liveArm
      rw [dif_pos ⟨(Bool.not_eq_true _).mp manager,
        (Bool.not_eq_true _).mp created⟩]
      rfl
  · right
    exact ⟨fun replaced => changed replaced.1, by rw [if_neg changed]⟩

end Views

end Heapstore.Circuit
