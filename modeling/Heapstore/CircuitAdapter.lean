/-
The circuit breaker adapter.

The adapter mirrors a threshold and a timeout and creates the breaker from
them.  A breaker is the configuration it was created with; its counters belong
to the library that owns it.
-/

import Mathlib.Data.Option.Basic

namespace Heapstore.Circuit

/-- The fields that `cb_config_build` sets. -/
structure CbConfig where
  failureThreshold : UInt32
  successThreshold : UInt32
  timeoutMs : UInt32
  halfOpenMaxCalls : UInt32
  failureRateThreshold : UInt32
  enableSlowCallDetection : Bool
  deriving DecidableEq

structure CircuitAdapter where
  manager : Bool
  breaker : Option CbConfig
  lockReady : Bool
  threshold : UInt32
  timeoutSec : UInt32
  deriving DecidableEq

def defaultCircuitThreshold : UInt32 := 5

def defaultCircuitTimeoutSec : UInt32 := 30

def clearedCircuit : CircuitAdapter where
  manager := false
  breaker := none
  lockReady := false
  threshold := defaultCircuitThreshold
  timeoutSec := defaultCircuitTimeoutSec

structure ArmCalls where
  lock : Bool
  manager : Bool
  breaker : Bool
  deriving DecidableEq

def ArmCalls.ok : ArmCalls := { lock := true, manager := true, breaker := true }

def cbConfigBuild (adapter : CircuitAdapter) : CbConfig where
  failureThreshold := adapter.threshold
  successThreshold := 1
  timeoutMs := adapter.timeoutSec * 1000
  halfOpenMaxCalls := 1
  failureRateThreshold := 0
  enableSlowCallDetection := false

def cbArm (calls : ArmCalls) (adapter : CircuitAdapter) : CircuitAdapter :=
  if adapter.manager = false ∧ calls.manager = false then adapter
  else
    { adapter with
        manager := true
        breaker := if calls.breaker then some (cbConfigBuild adapter) else none }

def coreCircuitInit (calls : ArmCalls) (adapter : CircuitAdapter) :
    CircuitAdapter :=
  if adapter.lockReady = false ∧ calls.lock = false then adapter
  else cbArm calls { adapter with lockReady := true }

def coreCircuitApplyConfig (calls : ArmCalls) (threshold timeoutSec : UInt32)
    (adapter : CircuitAdapter) : CircuitAdapter :=
  let configured : CircuitAdapter :=
    { adapter with
        threshold := if 0 < threshold then threshold else adapter.threshold
        timeoutSec := if 0 < timeoutSec then timeoutSec else adapter.timeoutSec }
  if adapter.lockReady = false then configured
  else if configured.threshold ≠ adapter.threshold ∨
      configured.timeoutSec ≠ adapter.timeoutSec then
    cbArm calls configured
  else adapter

/-- `heapstore_circ_stop`; the mirrored values survive. -/
def circStop (adapter : CircuitAdapter) : CircuitAdapter :=
  if adapter.lockReady = false then adapter
  else { adapter with manager := false, breaker := none, lockReady := false }

/-! ### The breaker follows the mirror -/

/-- A live breaker has its owners and was created from the mirrored values. -/
def CircuitAdapter.Mirrored (adapter : CircuitAdapter) : Prop :=
  ∀ config, adapter.breaker = some config →
    adapter.manager = true ∧ adapter.lockReady = true ∧
      config = cbConfigBuild adapter

theorem clearedCircuit_mirrored : clearedCircuit.Mirrored := nofun

theorem cbArm_mirrored (calls : ArmCalls) {adapter : CircuitAdapter}
    (ready : adapter.lockReady = true)
    (owned : adapter.breaker ≠ none → adapter.manager = true) :
    (cbArm calls adapter).Mirrored := by
  unfold cbArm
  split
  · next missing =>
      intro config live
      have present := owned (by rw [live]; nofun)
      rw [missing.1] at present
      cases present
  · intro config live
    change (if calls.breaker then some (cbConfigBuild adapter) else none) =
      some config at live
    split at live
    · cases live
      exact ⟨rfl, ready, rfl⟩
    · cases live

private theorem CircuitAdapter.Mirrored.owned {adapter : CircuitAdapter}
    (mirrored : adapter.Mirrored) (live : adapter.breaker ≠ none) :
    adapter.manager = true := by
  obtain ⟨config, present⟩ := Option.ne_none_iff_exists'.mp live
  exact (mirrored config present).1

theorem coreCircuitInit_mirrored (calls : ArmCalls) {adapter : CircuitAdapter}
    (mirrored : adapter.Mirrored) :
    (coreCircuitInit calls adapter).Mirrored := by
  unfold coreCircuitInit
  split
  · exact mirrored
  · exact cbArm_mirrored calls rfl mirrored.owned

theorem coreCircuitApplyConfig_mirrored (calls : ArmCalls)
    (threshold timeoutSec : UInt32) {adapter : CircuitAdapter}
    (mirrored : adapter.Mirrored) :
    (coreCircuitApplyConfig calls threshold timeoutSec adapter).Mirrored := by
  unfold coreCircuitApplyConfig
  cases ready : adapter.lockReady with
  | false =>
      intro config live
      have present := (mirrored config live).2.1
      rw [ready] at present
      cases present
  | true =>
      simp only [Bool.true_eq_false, if_false]
      apply iteInduction
      · intro _
        exact cbArm_mirrored calls rfl mirrored.owned
      · intro _
        exact mirrored

theorem circStop_mirrored {adapter : CircuitAdapter}
    (mirrored : adapter.Mirrored) : (circStop adapter).Mirrored := by
  unfold circStop
  split
  · exact mirrored
  · exact nofun

/-! ### What arming keeps and makes -/

/-- New values that differ from the mirrored ones replace the breaker of an
adapter whose lock exists. -/
def CircuitAdapter.Rearms (adapter : CircuitAdapter)
    (threshold timeoutSec : UInt32) : Prop :=
  adapter.lockReady = true ∧
    (threshold ≠ adapter.threshold ∨ timeoutSec ≠ adapter.timeoutSec)

theorem cbArm_copy (calls : ArmCalls) (adapter : CircuitAdapter) :
    (cbArm calls adapter).threshold = adapter.threshold ∧
      (cbArm calls adapter).timeoutSec = adapter.timeoutSec ∧
      (cbArm calls adapter).lockReady = adapter.lockReady := by
  unfold cbArm
  split <;> exact ⟨rfl, rfl, rfl⟩

theorem cbArm_manager (calls : ArmCalls) (adapter : CircuitAdapter) :
    (cbArm calls adapter).manager = (adapter.manager || calls.manager) := by
  unfold cbArm
  cases managed : adapter.manager <;> cases calls.manager <;> simp [managed]

theorem coreCircuitInit_copy (calls : ArmCalls) (adapter : CircuitAdapter) :
    (coreCircuitInit calls adapter).threshold = adapter.threshold ∧
      (coreCircuitInit calls adapter).timeoutSec = adapter.timeoutSec := by
  unfold coreCircuitInit
  split
  · exact ⟨rfl, rfl⟩
  · obtain ⟨threshold, timeoutSec, _⟩ :=
      cbArm_copy calls { adapter with lockReady := true }
    exact ⟨threshold, timeoutSec⟩

/-- A start has a breaker exactly if it has the lock and the manager and creates
the breaker. -/
theorem coreCircuitInit_live (calls : ArmCalls) {adapter : CircuitAdapter}
    (mirrored : adapter.Mirrored) :
    (coreCircuitInit calls adapter).breaker.isSome = true ↔
      (adapter.lockReady = true ∨ calls.lock = true) ∧
        (adapter.manager = true ∨ calls.manager = true) ∧
        calls.breaker = true := by
  have unowned : adapter.lockReady = false ∨ adapter.manager = false →
      adapter.breaker = none := by
    intro missing
    by_contra live
    obtain ⟨config, present⟩ := Option.ne_none_iff_exists'.mp live
    obtain ⟨managed, ready, _⟩ := mirrored config present
    rcases missing with missing | missing
    · rw [ready] at missing
      cases missing
    · rw [managed] at missing
      cases missing
  unfold coreCircuitInit cbArm
  cases ready : adapter.lockReady <;> cases managed : adapter.manager <;>
    cases calls.lock <;> cases calls.manager <;> cases calls.breaker <;>
    simp [ready, managed, unowned]

theorem coreCircuitApplyConfig_copy (calls : ArmCalls)
    {threshold timeoutSec : UInt32} (adapter : CircuitAdapter)
    (someThreshold : 0 < threshold) (someTimeout : 0 < timeoutSec) :
    (coreCircuitApplyConfig calls threshold timeoutSec adapter).threshold =
        threshold ∧
      (coreCircuitApplyConfig calls threshold timeoutSec adapter).timeoutSec =
        timeoutSec ∧
      (coreCircuitApplyConfig calls threshold timeoutSec adapter).lockReady =
        adapter.lockReady := by
  simp only [coreCircuitApplyConfig, if_pos someThreshold, if_pos someTimeout]
  split
  · exact ⟨rfl, rfl, rfl⟩
  · split
    · exact cbArm_copy calls _
    · next same =>
        obtain ⟨threshold, timeoutSec⟩ := not_or.mp same
        exact ⟨(not_not.mp threshold).symm, (not_not.mp timeoutSec).symm, rfl⟩

theorem coreCircuitApplyConfig_timeoutSec (calls : ArmCalls)
    (threshold timeoutSec : UInt32) (adapter : CircuitAdapter) :
    (coreCircuitApplyConfig calls threshold timeoutSec adapter).timeoutSec =
      if 0 < timeoutSec then timeoutSec else adapter.timeoutSec := by
  simp only [coreCircuitApplyConfig]
  generalize (if 0 < threshold then threshold
    else adapter.threshold) = newThreshold
  generalize (if 0 < timeoutSec then timeoutSec
    else adapter.timeoutSec) = newTimeout
  split
  · rfl
  · split
    · exact (cbArm_copy calls _).2.1
    · next same => exact (not_not.mp (not_or.mp same).2).symm

theorem coreCircuitApplyConfig_threshold (calls : ArmCalls)
    (threshold timeoutSec : UInt32) {adapter : CircuitAdapter}
    (positive : 0 < adapter.threshold) :
    0 < (coreCircuitApplyConfig calls threshold timeoutSec adapter).threshold := by
  have chosen :
      0 < if 0 < threshold then threshold else adapter.threshold := by
    split
    · assumption
    · exact positive
  simp only [coreCircuitApplyConfig]
  generalize (if 0 < threshold then threshold
    else adapter.threshold) = next at chosen ⊢
  generalize (if 0 < timeoutSec then timeoutSec
    else adapter.timeoutSec) = newTimeout
  split
  · exact chosen
  · split
    · rw [(cbArm_copy calls _).1]
      exact chosen
    · exact positive

theorem circStop_threshold (adapter : CircuitAdapter) :
    (circStop adapter).threshold = adapter.threshold := by
  unfold circStop
  split <;> rfl

theorem coreCircuitApplyConfig_manager (calls : ArmCalls)
    {threshold timeoutSec : UInt32} (adapter : CircuitAdapter)
    (someThreshold : 0 < threshold) (someTimeout : 0 < timeoutSec) :
    (coreCircuitApplyConfig calls threshold timeoutSec adapter).manager = true ↔
      adapter.manager = true ∨
        adapter.Rearms threshold timeoutSec ∧ calls.manager = true := by
  simp only [coreCircuitApplyConfig, if_pos someThreshold, if_pos someTimeout,
    CircuitAdapter.Rearms]
  cases ready : adapter.lockReady with
  | false => simp
  | true =>
      simp only [Bool.true_eq_false, if_false, true_and]
      split
      · next changed =>
          rw [cbArm_manager, Bool.or_eq_true, and_iff_right changed]
      · next same =>
          rw [or_iff_left (fun both => same both.1)]

end Heapstore.Circuit
