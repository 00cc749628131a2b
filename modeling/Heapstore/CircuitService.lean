/-
What becomes of the breaker that an adapter owns.

The adapter keeps its breaker, drops it or creates a new one; all that happens
to a breaker in between are requests and resets.  So a breaker is always what
became of one that was created from the configuration the adapter has for it.
-/

import Heapstore.CircuitLive
import Heapstore.Foundation.TimedBreaker

namespace Heapstore.Circuit

open CircuitBreaker

section Functions

variable {Runtime : Type*}

/-- `heapstore_circ_stop` with a running breaker. -/
def liveCircStop (circuit : LiveCircuit Runtime) : LiveCircuit Runtime where
  adapter := circStop circuit.adapter
  runtime :=
    if circuit.adapter.lockReady = false then circuit.runtime else none
  paired := by
    unfold circStop
    split
    · exact circuit.paired
    · rfl

/-- `heapstore_core_circuit_record_success` or
`heapstore_core_circuit_record_failure`. -/
def recordOutcome (breaker : Breaker CbConfig Runtime) (now : Nat)
    (succeeded : Bool) (circuit : LiveCircuit Runtime) : LiveCircuit Runtime :=
  if succeeded then recordSuccess breaker now circuit
  else recordFailure breaker now circuit

/-- The breaker part of `heapstore_reset_circuit`. -/
def resetCircuit (breaker : ResettableBreaker CbConfig Runtime)
    (circuit : LiveCircuit Runtime) : LiveCircuit Runtime :=
  match circuit.entered with
  | none => circuit
  | some runtime => circuit.put (breaker.reset runtime)

end Functions

section Outcomes

variable {Runtime : Type*} {breaker : Breaker CbConfig Runtime}
  {circuit : LiveCircuit Runtime} {now : Nat} {succeeded : Bool}

theorem recordOutcome_eq :
    recordOutcome breaker now succeeded circuit =
      match circuit.entered with
      | none => circuit
      | some runtime =>
          circuit.put (breaker.after now runtime (.report succeeded)) := by
  cases succeeded with
  | false => rfl
  | true => rfl

theorem recordOutcome_adapter :
    (recordOutcome breaker now succeeded circuit).adapter = circuit.adapter := by
  rw [recordOutcome_eq]
  split <;> rfl

end Outcomes

/-! ### Keeping, dropping and creating -/

/-- A breaker that is kept, dropped or created. -/
inductive Renews {Runtime : Type*} (breaker : Breaker CbConfig Runtime)
    (before : Option Runtime) : Option Runtime → Prop where
  | kept : Renews breaker before before
  | dropped : Renews breaker before none
  | created (config : CbConfig) :
      Renews breaker before (some (breaker.create config))

section Renewals

variable {Runtime : Type*} {breaker : Breaker CbConfig Runtime}

theorem Renews.trans {first second third : Option Runtime}
    (early : Renews breaker first second)
    (late : Renews breaker second third) : Renews breaker first third := by
  cases late with
  | kept => exact early
  | dropped => exact .dropped
  | created config => exact .created config

theorem liveArm_renews (calls : ArmCalls) (circuit : LiveCircuit Runtime) :
    Renews breaker circuit.runtime
      (liveArm breaker calls circuit).runtime := by
  unfold liveArm
  split
  · exact .kept
  · change Renews breaker circuit.runtime (if calls.breaker then _ else _)
    split
    · exact .created _
    · exact .dropped

theorem liveArm_relabel_renews (calls : ArmCalls)
    (circuit : LiveCircuit Runtime) (lockReady : Bool)
    (threshold timeoutSec : UInt32) :
    Renews breaker circuit.runtime
      (liveArm breaker calls
        (circuit.relabel lockReady threshold timeoutSec)).runtime :=
  @liveArm_renews _ breaker calls
    (circuit.relabel lockReady threshold timeoutSec)

theorem liveInit_renews (calls : ArmCalls) (circuit : LiveCircuit Runtime) :
    Renews breaker circuit.runtime
      (liveInit breaker calls circuit).runtime := by
  unfold liveInit
  split
  · exact .kept
  · exact liveArm_relabel_renews calls circuit _ _ _

/-- New values are noted, and the adapter may be armed with them. -/
theorem liveApplyConfig_cases {Holds : LiveCircuit Runtime → Prop}
    {circuit : LiveCircuit Runtime} (calls : ArmCalls)
    (threshold timeoutSec : UInt32) (same : Holds circuit)
    (noted : ∀ newThreshold newTimeout, Holds
      (circuit.relabel circuit.adapter.lockReady newThreshold newTimeout))
    (armed : ∀ newThreshold newTimeout, Holds
      (liveArm breaker calls
        (circuit.relabel circuit.adapter.lockReady newThreshold newTimeout))) :
    Holds (liveApplyConfig breaker calls threshold timeoutSec circuit) := by
  simp only [liveApplyConfig]
  generalize (if 0 < threshold then threshold
    else circuit.adapter.threshold) = newThreshold
  generalize (if 0 < timeoutSec then timeoutSec
    else circuit.adapter.timeoutSec) = newTimeout
  split
  · exact noted newThreshold newTimeout
  · split
    · exact armed newThreshold newTimeout
    · exact same

theorem liveApplyConfig_renews (calls : ArmCalls)
    (threshold timeoutSec : UInt32) (circuit : LiveCircuit Runtime) :
    Renews breaker circuit.runtime
      (liveApplyConfig breaker calls threshold timeoutSec circuit).runtime :=
  @liveApplyConfig_cases _ _
    (fun next => Renews breaker circuit.runtime next.runtime) circuit calls
    threshold timeoutSec .kept (fun _ _ => .kept)
    fun _ _ => liveArm_relabel_renews calls circuit _ _ _

theorem liveCircStop_renews (circuit : LiveCircuit Runtime) :
    Renews breaker circuit.runtime (liveCircStop circuit).runtime := by
  change Renews breaker circuit.runtime (if _ then _ else _)
  split
  · exact .kept
  · exact .dropped

/-- A breaker that the adapter follows is entered. -/
theorem entered_eq_runtime {circuit : LiveCircuit Runtime}
    (mirrored : circuit.adapter.Mirrored) :
    circuit.entered = circuit.runtime := by
  unfold LiveCircuit.entered
  cases running : circuit.runtime with
  | none => exact ite_self none
  | some runtime =>
      have paired := circuit.paired
      rw [running] at paired
      obtain ⟨config, kept⟩ := Option.isSome_iff_exists.mp paired.symm
      exact if_pos (mirrored config kept).2.1

/-- A renewal keeps what is seen of the breaker, or makes it fresh. -/
theorem view_of_renews (lawful : breaker.Lawful)
    (before after : LiveCircuit Runtime)
    (mirroredBefore : before.adapter.Mirrored)
    (mirroredAfter : after.adapter.Mirrored)
    (renews : Renews breaker before.runtime after.runtime) :
    after.view breaker = before.view breaker ∨
      after.view breaker = View.fresh := by
  unfold LiveCircuit.view
  rw [entered_eq_runtime mirroredAfter, entered_eq_runtime mirroredBefore]
  generalize after.runtime = next at renews
  cases renews with
  | kept => exact Or.inl rfl
  | dropped => exact Or.inr rfl
  | created config => exact Or.inr (lawful.created config)

/-- A renewal opens no breaker. -/
theorem opened_before_renewal (lawful : breaker.Lawful)
    (before after : LiveCircuit Runtime)
    (mirroredBefore : before.adapter.Mirrored)
    (mirroredAfter : after.adapter.Mirrored)
    (renews : Renews breaker before.runtime after.runtime)
    (opened : (after.view breaker).phase = .opened) :
    (before.view breaker).phase = .opened := by
  obtain same | fresh := view_of_renews lawful before after mirroredBefore
    mirroredAfter renews
  · rw [← same]
    exact opened
  · rw [fresh] at opened
    cases opened

end Renewals

/-! ### Breakers in service -/

/-- The breaker is what became of one that was created from the configuration
that the adapter has for it. -/
def LiveCircuit.Served {Runtime : Type*}
    (breaker : ResettableBreaker CbConfig Runtime)
    (circuit : LiveCircuit Runtime) : Prop :=
  ∀ config runtime, circuit.adapter.breaker = some config →
    circuit.runtime = some runtime → breaker.Serves config runtime

section Service

variable {Runtime : Type*} {breaker : ResettableBreaker CbConfig Runtime}
  {circuit : LiveCircuit Runtime}

theorem liveArm_served (calls : ArmCalls) (served : circuit.Served breaker) :
    (liveArm breaker.toBreaker calls circuit).Served breaker := by
  unfold liveArm
  split
  · exact served
  · next present =>
      intro config runtime kept running
      change (cbArm calls circuit.adapter).breaker = some config at kept
      unfold cbArm at kept
      rw [if_neg present] at kept
      change (if calls.breaker then some (cbConfigBuild circuit.adapter)
        else none) = some config at kept
      change (if calls.breaker then
        some (breaker.create (cbConfigBuild circuit.adapter)) else none) =
          some runtime at running
      split at kept
      · next made =>
          rw [if_pos made] at running
          cases kept
          cases running
          exact .created
      · cases kept

theorem liveInit_served (calls : ArmCalls) (served : circuit.Served breaker) :
    (liveInit breaker.toBreaker calls circuit).Served breaker := by
  unfold liveInit
  split
  · exact served
  · exact liveArm_served calls served

theorem liveApplyConfig_served (calls : ArmCalls)
    (threshold timeoutSec : UInt32) (served : circuit.Served breaker) :
    (liveApplyConfig breaker.toBreaker calls threshold timeoutSec
      circuit).Served breaker :=
  liveApplyConfig_cases calls threshold timeoutSec served (fun _ _ => served)
    fun _ _ => liveArm_served calls served

theorem liveCircStop_served (served : circuit.Served breaker) :
    (liveCircStop circuit).Served breaker := by
  intro config runtime kept running
  change (circStop circuit.adapter).breaker = some config at kept
  change (if circuit.adapter.lockReady = false then circuit.runtime
    else none) = some runtime at running
  unfold circStop at kept
  split at kept
  · next free =>
      rw [if_pos free] at running
      exact served config runtime kept running
  · cases kept

theorem put_served {runtime next : Runtime} (served : circuit.Served breaker)
    (present : circuit.entered = some runtime)
    (stays : ∀ config, breaker.Serves config runtime →
      breaker.Serves config next) : (circuit.put next).Served breaker := by
  intro config other kept running
  change circuit.runtime.map (fun _ => next) = some other at running
  unfold LiveCircuit.entered at present
  split at present
  · rw [present] at running
    cases running
    exact stays config (served config runtime kept present)
  · cases present

theorem circuitOpen_served (now : Nat) (served : circuit.Served breaker) :
    (circuitOpen breaker.toBreaker now circuit).1.Served breaker := by
  unfold circuitOpen
  cases present : circuit.entered with
  | none => exact served
  | some runtime =>
      simp only
      split
      · exact put_served served present fun _ before =>
          .requested now .allow before
      · exact served

theorem recordOutcome_served (now : Nat) (succeeded : Bool)
    (served : circuit.Served breaker) :
    (recordOutcome breaker.toBreaker now succeeded circuit).Served breaker := by
  rw [recordOutcome_eq]
  cases present : circuit.entered with
  | none => exact served
  | some runtime =>
      exact put_served served present fun _ before =>
        .requested now _ before

theorem resetCircuit_served (served : circuit.Served breaker) :
    (resetCircuit breaker circuit).Served breaker := by
  unfold resetCircuit
  cases present : circuit.entered with
  | none => exact served
  | some runtime =>
      exact put_served served present fun _ before => .reset before

theorem resetCircuit_adapter :
    (resetCircuit breaker circuit).adapter = circuit.adapter := by
  unfold resetCircuit
  split <;> rfl

theorem resetCircuit_view
    (cleared : ∀ runtime, breaker.view (breaker.reset runtime) = View.fresh) :
    (resetCircuit breaker circuit).view breaker.toBreaker = View.fresh := by
  unfold resetCircuit
  cases present : circuit.entered with
  | none =>
      unfold LiveCircuit.view
      rw [present]
  | some runtime =>
      exact (LiveCircuit.view_entered (LiveCircuit.entered_put present _)).trans
        (cleared runtime)

end Service

end Heapstore.Circuit
