/-
The operation metrics under concurrency.

Every call of the update runs through atomic steps on shared counters; the
steps of different calls interleave in any order.  Each counter is a sum over
the places where the calls stand, and no value that the number of calls inside
reaches is missed by the peak, because the call that reached it raises it.
-/

import Heapstore.Foundation.ConcurrentCounters
import Heapstore.Foundation.OperationRun

namespace Heapstore.Core

open ConcurrentCounters OperationRun

/-- `heapstore_internal_metrics_t`; the number of calls inside is a fast type,
64 bits wide under glibc. -/
structure InternalMetrics where
  totalOperations : UInt64
  failedOperations : UInt64
  fastPathOperations : UInt64
  slowPathOperations : UInt64
  circuitBreakerTrips : UInt64
  totalOperationTimeNs : UInt64
  peakConcurrentOps : UInt64
  currentConcurrentOps : UInt64
  deriving DecidableEq

def coreMetricsInit : InternalMetrics where
  totalOperations := 0
  failedOperations := 0
  fastPathOperations := 0
  slowPathOperations := 0
  circuitBreakerTrips := 0
  totalOperationTimeNs := 0
  peakConcurrentOps := 0
  currentConcurrentOps := 0

/-- The arguments of one call. -/
structure MetricsUpdate where
  elapsedNs : UInt64
  isFastPath : Bool
  isFailed : Bool
  deriving DecidableEq

/-- The atomic operation that a call performs next. -/
inductive UpdatePlace where
  | total
  | elapsed
  | enter
  | peak (currentOps : UInt32) (raiser : Raiser UInt64)
  | leave
  | path
  | failed
  | returned
  deriving DecidableEq

/-- The place of a call in its loop; one that is settled goes on behind it. -/
def peakPlace (currentOps : UInt32) : Raiser UInt64 → UpdatePlace
  | .settled => .leave
  | raiser => .peak currentOps raiser

/-- One atomic step of `heapstore_core_metrics_update`. -/
def coreMetricsUpdate (update : MetricsUpdate) (metrics : InternalMetrics) :
    UpdatePlace → InternalMetrics × UpdatePlace
  | .total =>
      ({ metrics with totalOperations := metrics.totalOperations + 1 }, .elapsed)
  | .elapsed =>
      ({ metrics with
          totalOperationTimeNs :=
            metrics.totalOperationTimeNs + update.elapsedNs }, .enter)
  | .enter =>
      ({ metrics with
          currentConcurrentOps := metrics.currentConcurrentOps + 1 },
        .peak (metrics.currentConcurrentOps + 1).toUInt32 .loading)
  | .peak currentOps raiser =>
      let raised := raise currentOps.toUInt64 metrics.peakConcurrentOps raiser
      ({ metrics with peakConcurrentOps := raised.1 },
        peakPlace currentOps raised.2)
  | .leave =>
      ({ metrics with
          currentConcurrentOps := metrics.currentConcurrentOps - 1 }, .path)
  | .path =>
      if update.isFastPath then
        ({ metrics with
            fastPathOperations := metrics.fastPathOperations + 1 }, .failed)
      else
        ({ metrics with
            slowPathOperations := metrics.slowPathOperations + 1 }, .failed)
  | .failed =>
      if update.isFailed then
        ({ metrics with failedOperations := metrics.failedOperations + 1 },
          .returned)
      else (metrics, .returned)
  | .returned => (metrics, .returned)

/-! ### Interleaved calls -/

structure MetricsState (calls : Nat) where
  metrics : InternalMetrics
  place : Fin calls → UpdatePlace

def metricsStart (calls : Nat) : MetricsState calls where
  metrics := coreMetricsInit
  place := fun _ => .total

def UpdatePlace.compares : UpdatePlace → Bool
  | .peak _ (.comparing _) => true
  | _ => false

/-- One atomic step as seen from outside: whose it was, whether it was a
compare-and-swap, and the number of calls inside right after it. -/
structure MetricsAnswer (calls : Nat) where
  call : Fin calls
  compared : Bool
  currentOps : UInt64
  deriving DecidableEq

def metricsMachine {calls : Nat} (updates : Fin calls → MetricsUpdate) :
    Machine (MetricsState calls) (Fin calls) (MetricsAnswer calls) :=
  fun state call =>
    let stepped :=
      coreMetricsUpdate (updates call) state.metrics (state.place call)
    ({ metrics := stepped.1
       place := Function.update state.place call stepped.2 },
      { call := call
        compared := (state.place call).compares
        currentOps := stepped.1.currentConcurrentOps })

/-- How often a call has moved. -/
def moves {calls : Nat} (call : Fin calls) (trace : List (MetricsAnswer calls)) :
    Nat :=
  trace.countP fun answer => answer.call = call

/-- How often a call has tried to swap. -/
def comparisons {calls : Nat} (call : Fin calls)
    (trace : List (MetricsAnswer calls)) : Nat :=
  trace.countP fun answer => answer.call = call && answer.compared

/-- The values that the number of calls inside has had. -/
def reached {calls : Nat} (trace : List (MetricsAnswer calls)) : List UInt64 :=
  0 :: trace.map MetricsAnswer.currentOps

/-! ### What the counters count -/

/-- A counter moves with the weight of the call that takes the step. -/
def Counts (update : MetricsUpdate) (read : InternalMetrics → UInt64)
    (weight : UpdatePlace → Nat) : Prop :=
  ∀ metrics place,
    read (coreMetricsUpdate update metrics place).1 +
        UInt64.ofNat (weight place) =
      read metrics +
        UInt64.ofNat (weight (coreMetricsUpdate update metrics place).2)

def startedWeight : UpdatePlace → Nat
  | .total => 0
  | _ => 1

def insideWeight : UpdatePlace → Nat
  | .peak _ _ => 1
  | .leave => 1
  | _ => 0

def pathWeight (taken : Bool) : UpdatePlace → Nat
  | .failed => taken.toNat
  | .returned => taken.toNat
  | _ => 0

def failedWeight (failed : Bool) : UpdatePlace → Nat
  | .returned => failed.toNat
  | _ => 0

theorem peakPlace_cases (currentOps : UInt32) (raiser : Raiser UInt64) :
    (raiser = .settled ∧ peakPlace currentOps raiser = .leave) ∨
      (raiser ≠ .settled ∧
        peakPlace currentOps raiser = .peak currentOps raiser) := by
  cases raiser with
  | settled => exact Or.inl ⟨rfl, rfl⟩
  | loading => exact Or.inr ⟨nofun, rfl⟩
  | comparing seen => exact Or.inr ⟨nofun, rfl⟩

/-- Every counter is counted by its own weight. -/
theorem coreMetricsUpdate_counts (update : MetricsUpdate) :
    Counts update InternalMetrics.totalOperations startedWeight ∧
      Counts update InternalMetrics.currentConcurrentOps insideWeight ∧
      Counts update InternalMetrics.fastPathOperations
        (pathWeight update.isFastPath) ∧
      Counts update InternalMetrics.slowPathOperations
        (pathWeight !update.isFastPath) ∧
      Counts update InternalMetrics.failedOperations
        (failedWeight update.isFailed) := by
  refine ⟨?_, ?_, ?_, ?_, ?_⟩
  all_goals
    intro metrics place
    cases place with
    | peak currentOps raiser =>
        rcases peakPlace_cases currentOps (raise currentOps.toUInt64
          metrics.peakConcurrentOps raiser).2 with ⟨_, next⟩ | ⟨_, next⟩ <;>
          simp [coreMetricsUpdate, next, startedWeight, insideWeight,
            pathWeight, failedWeight]
    | path =>
        cases fast : update.isFastPath <;>
          simp [coreMetricsUpdate, fast, startedWeight, insideWeight,
            pathWeight, failedWeight]
    | failed =>
        cases failed : update.isFailed <;>
          simp [coreMetricsUpdate, failed, startedWeight, insideWeight,
            pathWeight, failedWeight]
    | _ =>
        simp [coreMetricsUpdate, startedWeight, insideWeight, pathWeight,
          failedWeight]

section Runs

variable {calls : Nat} {updates : Fin calls → MetricsUpdate}

/-- The counter holds the sum of the weights, as far as its width goes. -/
def Holds (read : InternalMetrics → UInt64)
    (weight : Fin calls → UpdatePlace → Nat) (state : MetricsState calls) :
    Prop :=
  read state.metrics = UInt64.ofNat (tally weight state.place)

theorem holds_step {read : InternalMetrics → UInt64}
    {weight : Fin calls → UpdatePlace → Nat}
    (counts : ∀ call, Counts (updates call) read (weight call))
    (state : MetricsState calls) (call : Fin calls)
    (held : Holds read weight state) :
    Holds read weight (metricsMachine updates state call).1 := by
  have moved := counts call state.metrics (state.place call)
  have exchanged := tally_update weight state.place call
    (coreMetricsUpdate (updates call) state.metrics (state.place call)).2
  have words := congrArg UInt64.ofNat exchanged
  rw [UInt64.ofNat_add, UInt64.ofNat_add, ← held] at words
  exact (UInt64.add_left_inj _).mp (moved.trans words.symm)

variable (updates) in
theorem holds_run {read : InternalMetrics → UInt64}
    {weight : Fin calls → UpdatePlace → Nat}
    (counts : ∀ call, Counts (updates call) read (weight call))
    (zeroed : read coreMetricsInit = 0)
    (outside : ∀ call, weight call .total = 0) (run : List (Fin calls)) :
    Holds read weight (final (metricsMachine updates) (metricsStart calls) run) := by
  apply invariant _ (Holds read weight)
  · intro state call held
    exact holds_step counts state call held
  · have none : tally weight (metricsStart calls).place = 0 :=
      (tally_const weight _ (fun _ => 0) outside).trans Finset.sum_const_zero
    change read coreMetricsInit = _
    rw [none, zeroed]
    rfl

/-! ### Every call ends -/

def progress : UpdatePlace → Nat
  | .total => 0
  | .elapsed => 1
  | .enter => 2
  | .peak _ .loading => 3
  | .peak _ _ => 4
  | .leave => 5
  | .path => 6
  | .failed => 7
  | .returned => 8

/-- How many swaps a call at the place may have tried. -/
def allowance (calls : Nat) : UpdatePlace → Nat
  | .total => 0
  | .elapsed => 0
  | .enter => 0
  | .peak _ .loading => 0
  | .peak _ (.comparing seen) => seen.toNat
  | _ => calls

/-- A call in its loop raises a number of calls that were inside at once. -/
def Raises (calls : Nat) (metrics : InternalMetrics) : UpdatePlace → Prop
  | .peak currentOps raiser =>
      currentOps.toNat ≤ calls ∧
        Sound currentOps.toUInt64 metrics.peakConcurrentOps raiser
  | _ => True

/-- What one step in the loop does to the bounds of its call. -/
theorem peak_paced (metrics : InternalMetrics) {currentOps : UInt32}
    {raiser : Raiser UInt64} (small : currentOps.toNat ≤ calls)
    (sound : Sound currentOps.toUInt64 metrics.peakConcurrentOps raiser) :
    let place := UpdatePlace.peak currentOps raiser
    let raised := raise currentOps.toUInt64 metrics.peakConcurrentOps raiser
    let next := peakPlace currentOps raised.2
    Raises calls { metrics with peakConcurrentOps := raised.1 } next ∧
      allowance calls place + place.compares.toNat ≤ allowance calls next ∧
      progress place + 1 ≤ progress next + place.compares.toNat := by
  have after := raise_sound sound
  have below : ∀ {seen : UInt64}, seen < currentOps.toUInt64 →
      seen.toNat + 1 ≤ calls := by
    intro seen less
    have words := UInt64.lt_iff_toNat_lt.mp less
    rw [UInt32.toNat_toUInt64] at words
    omega
  intro place raised next
  have settled : raised.2 = .settled → next = .leave := fun done => by
    unfold next
    rw [done]
    rfl
  have comparing : ∀ again, raised.2 = .comparing again →
      next = .peak currentOps (.comparing again) := fun again done => by
    unfold next
    rw [done]
    rfl
  cases stands : raised.2 with
  | loading => exact absurd stands (raise_ne_loading _ _ _)
  | settled =>
      rw [settled stands]
      cases raiser with
      | loading => exact ⟨trivial, Nat.zero_le calls, Nat.le_succ 4⟩
      | settled => exact ⟨trivial, Nat.le_refl calls, Nat.le_refl 5⟩
      | comparing seen => exact ⟨trivial, below sound.2, Nat.le_succ 5⟩
  | comparing again =>
      rw [comparing again stands]
      rw [stands] at after
      refine ⟨⟨small, after⟩, ?_⟩
      cases raiser with
      | loading => exact ⟨Nat.zero_le _, Nat.le_refl 4⟩
      | settled => cases stands
      | comparing seen =>
          have grown := (raise_failed sound stands).1
          exact ⟨UInt64.lt_iff_toNat_lt.mp grown, Nat.le_refl 5⟩

/-- What one step of a call does to its own bounds. -/
theorem coreMetricsUpdate_paced {metrics : InternalMetrics}
    {place : UpdatePlace} (update : MetricsUpdate)
    (raises : Raises calls metrics place)
    (room : place = .enter → (metrics.currentConcurrentOps + 1).toNat ≤ calls) :
    let next := coreMetricsUpdate update metrics place
    Raises calls next.1 next.2 ∧
      allowance calls place + place.compares.toNat ≤ allowance calls next.2 ∧
      (next.2 ≠ .returned →
        progress place + 1 ≤ progress next.2 + place.compares.toNat) := by
  cases place with
  | total => exact ⟨trivial, Nat.le_refl 0, fun _ => Nat.le_refl 1⟩
  | elapsed => exact ⟨trivial, Nat.le_refl 0, fun _ => Nat.le_refl 2⟩
  | enter =>
      refine ⟨⟨?_, trivial⟩, Nat.le_refl 0, fun _ => Nat.le_refl 3⟩
      have low : (metrics.currentConcurrentOps + 1).toUInt32.toNat ≤
          (metrics.currentConcurrentOps + 1).toNat := by
        rw [UInt64.toNat_toUInt32]
        exact Nat.mod_le _ _
      exact low.trans (room rfl)
  | peak currentOps raiser =>
      obtain ⟨raises, tried, moved⟩ := peak_paced metrics raises.1 raises.2
      exact ⟨raises, tried, fun _ => moved⟩
  | leave => exact ⟨trivial, Nat.le_refl calls, fun _ => Nat.le_refl 6⟩
  | path =>
      have ends : (coreMetricsUpdate update metrics .path).2 = .failed := by
        rw [coreMetricsUpdate]
        split <;> rfl
      intro next
      rw [ends]
      exact ⟨trivial, Nat.le_refl calls, fun _ => Nat.le_refl 7⟩
  | failed =>
      have ends : (coreMetricsUpdate update metrics .failed).2 = .returned := by
        rw [coreMetricsUpdate]
        split <;> rfl
      intro next
      rw [ends]
      exact ⟨trivial, Nat.le_refl calls, fun on => absurd rfl on⟩
  | returned => exact ⟨trivial, Nat.le_refl calls, fun on => absurd rfl on⟩

/-- A step changes the peak only in the loop, and there it raises it. -/
theorem coreMetricsUpdate_peak {metrics : InternalMetrics}
    {place : UpdatePlace} (update : MetricsUpdate)
    (raises : Raises calls metrics place) :
    metrics.peakConcurrentOps ≤
      (coreMetricsUpdate update metrics place).1.peakConcurrentOps := by
  cases place with
  | peak currentOps raiser => exact raise_grows raises.2
  | path =>
      rw [coreMetricsUpdate]
      split <;> exact Std.le_refl metrics.peakConcurrentOps
  | failed =>
      rw [coreMetricsUpdate]
      split <;> exact Std.le_refl metrics.peakConcurrentOps
  | _ => exact Std.le_refl metrics.peakConcurrentOps

theorem Raises.mono {metrics raised : InternalMetrics} {place : UpdatePlace}
    (raises : Raises calls metrics place)
    (grown : metrics.peakConcurrentOps ≤ raised.peakConcurrentOps) :
    Raises calls raised place := by
  cases place with
  | peak currentOps raiser => exact ⟨raises.1, raises.2.mono grown⟩
  | _ => trivial

theorem moves_snoc (call : Fin calls) (trace : List (MetricsAnswer calls))
    (answer : MetricsAnswer calls) :
    moves call (trace ++ [answer]) =
      moves call trace + if answer.call = call then 1 else 0 := by
  unfold moves
  rw [List.countP_append, List.countP_singleton]
  simp only [decide_eq_true_eq]

theorem comparisons_snoc (call : Fin calls)
    (trace : List (MetricsAnswer calls)) (answer : MetricsAnswer calls) :
    comparisons call (trace ++ [answer]) = comparisons call trace +
      if answer.call = call then answer.compared.toNat else 0 := by
  unfold comparisons
  rw [List.countP_append, List.countP_singleton]
  by_cases same : answer.call = call
  · cases answer.compared <;> simp [same]
  · simp [same]

/-- The bounds of all calls over what has been seen of a run. -/
structure Steady (state : MetricsState calls)
    (trace : List (MetricsAnswer calls)) : Prop where
  inside : Holds InternalMetrics.currentConcurrentOps (fun _ => insideWeight)
    state
  raises : ∀ call, Raises calls state.metrics (state.place call)
  tried : ∀ call, comparisons call trace ≤ allowance calls (state.place call)
  moved : ∀ call, state.place call ≠ .returned →
    moves call trace ≤ progress (state.place call) + comparisons call trace

variable (updates) in
theorem inside_step (state : MetricsState calls) (call : Fin calls)
    (inside : Holds InternalMetrics.currentConcurrentOps
      (fun _ => insideWeight) state) :
    Holds InternalMetrics.currentConcurrentOps (fun _ => insideWeight)
      (metricsMachine updates state call).1 :=
  holds_step (fun other => (coreMetricsUpdate_counts (updates other)).2.1)
    state call inside

/-- No more calls are inside than there are. -/
theorem inside_le (state : MetricsState calls)
    (inside : Holds InternalMetrics.currentConcurrentOps
      (fun _ => insideWeight) state) :
    state.metrics.currentConcurrentOps.toNat ≤ calls := by
  have small : ∀ place, insideWeight place ≤ 1 := by
    intro place
    unfold insideWeight
    split <;> omega
  have bound := tally_le_card state.place fun (_ : Fin calls) => small
  rw [Fintype.card_fin] at bound
  rw [inside, UInt64.toNat_ofNat']
  exact (Nat.mod_le _ _).trans bound

theorem steady_step (state : MetricsState calls)
    (trace : List (MetricsAnswer calls)) (call : Fin calls)
    (steady : Steady state trace) :
    Steady (metricsMachine updates state call).1
      (trace ++ [(metricsMachine updates state call).2]) := by
  have inside := inside_step updates state call steady.inside
  have room : state.place call = .enter →
      (state.metrics.currentConcurrentOps + 1).toNat ≤ calls := by
    intro entering
    have bound := inside_le _ inside
    unfold metricsMachine at bound
    rw [entering] at bound
    exact bound
  obtain ⟨raises, tried, moved⟩ :=
    coreMetricsUpdate_paced (updates call) (steady.raises call) room
  have grown := coreMetricsUpdate_peak (updates call) (steady.raises call)
  have here : (metricsMachine updates state call).1.place call =
      (coreMetricsUpdate (updates call) state.metrics (state.place call)).2 :=
    Function.update_self ..
  have there : ∀ other, other ≠ call →
      (metricsMachine updates state call).1.place other = state.place other :=
    fun other different => Function.update_of_ne different ..
  have whose : (metricsMachine updates state call).2.call = call := rfl
  refine ⟨inside, ?_, ?_, ?_⟩
  · intro other
    by_cases same : other = call
    · rw [same, here]
      exact raises
    · rw [there other same]
      exact (steady.raises other).mono grown
  · intro other
    rw [comparisons_snoc]
    by_cases same : other = call
    · rw [same, here, if_pos whose]
      exact (Nat.add_le_add_right (steady.tried call) _).trans tried
    · rw [there other same, if_neg (fun equal => same (equal.symm.trans whose)),
        Nat.add_zero]
      exact steady.tried other
  · intro other on
    rw [comparisons_snoc, moves_snoc]
    by_cases same : other = call
    · rw [same, here] at on ⊢
      rw [if_pos whose, if_pos whose]
      have before : state.place call ≠ .returned := by
        intro ended
        rw [ended] at on
        exact on rfl
      have earlier := steady.moved call before
      have later := moved on
      change moves call trace + 1 ≤ _ + (comparisons call trace +
        (state.place call).compares.toNat)
      omega
    · rw [there other same] at on ⊢
      rw [if_neg (fun equal => same (equal.symm.trans whose)),
        if_neg (fun equal => same (equal.symm.trans whose))]
      exact steady.moved other on

variable (updates) in
theorem steady_run (run : List (Fin calls)) :
    Steady (final (metricsMachine updates) (metricsStart calls) run)
      (answers (metricsMachine updates) (metricsStart calls) run) := by
  have start : Steady (metricsStart calls) [] := by
    refine ⟨?_, fun _ => trivial, fun _ => Nat.le_refl 0, fun _ _ => Nat.le_refl 0⟩
    exact holds_run (fun _ => ⟨0, false, false⟩)
      (fun other => (coreMetricsUpdate_counts _).2.1) rfl (fun _ => rfl) []
  exact traced_invariant (metricsMachine updates) Steady steady_step _ [] run
    start

/-! ### What the peak has followed -/

/-- Only entering and leaving change the number of calls inside. -/
theorem coreMetricsUpdate_current (update : MetricsUpdate)
    (metrics : InternalMetrics) {place : UpdatePlace}
    (enters : place ≠ .enter) (leaves : place ≠ .leave) :
    (coreMetricsUpdate update metrics place).1.currentConcurrentOps =
      metrics.currentConcurrentOps := by
  cases place with
  | enter => exact absurd rfl enters
  | leave => exact absurd rfl leaves
  | path =>
      rw [coreMetricsUpdate]
      split <;> rfl
  | failed =>
      rw [coreMetricsUpdate]
      split <;> rfl
  | _ => rfl

/-- A call comes to its loop by entering, and keeps the number it has there. -/
theorem coreMetricsUpdate_loops {update : MetricsUpdate}
    {metrics : InternalMetrics} {place : UpdatePlace} {currentOps : UInt32}
    {raiser : Raiser UInt64}
    (loops : (coreMetricsUpdate update metrics place).2 =
      .peak currentOps raiser) :
    (place = .enter ∧
        currentOps = (metrics.currentConcurrentOps + 1).toUInt32) ∨
      ∃ earlier, place = .peak currentOps earlier := by
  cases place with
  | enter =>
      cases loops
      exact Or.inl ⟨rfl, rfl⟩
  | peak here earlier =>
      change peakPlace here _ = _ at loops
      rcases peakPlace_cases here (raise here.toUInt64
        metrics.peakConcurrentOps earlier).2 with ⟨_, next⟩ | ⟨_, next⟩
      · rw [next] at loops
        cases loops
      · rw [next] at loops
        cases loops
        exact Or.inr ⟨earlier, rfl⟩
  | path =>
      rw [coreMetricsUpdate] at loops
      split at loops <;> cases loops
  | failed =>
      rw [coreMetricsUpdate] at loops
      split at loops <;> cases loops
  | total => cases loops
  | elapsed => cases loops
  | leave => cases loops
  | returned => cases loops

/-- The peak stays, or becomes the number that the moving call raises. -/
theorem coreMetricsUpdate_raised (update : MetricsUpdate)
    (metrics : InternalMetrics) (place : UpdatePlace) :
    (coreMetricsUpdate update metrics place).1.peakConcurrentOps =
        metrics.peakConcurrentOps ∨
      ∃ currentOps raiser, place = .peak currentOps raiser ∧
        (coreMetricsUpdate update metrics place).1.peakConcurrentOps =
          currentOps.toUInt64 := by
  cases place with
  | peak currentOps raiser =>
      rcases raise_register currentOps.toUInt64 metrics.peakConcurrentOps
        raiser with same | swapped
      · exact Or.inl same
      · exact Or.inr ⟨currentOps, raiser, rfl, swapped⟩
  | path =>
      rw [coreMetricsUpdate]
      split <;> exact Or.inl rfl
  | failed =>
      rw [coreMetricsUpdate]
      split <;> exact Or.inl rfl
  | _ => exact Or.inl rfl

/-- The value is below the peak, or a call is still raising the peak to it. -/
def Covered (state : MetricsState calls) (value : UInt64) : Prop :=
  value ≤ state.metrics.peakConcurrentOps ∨
    ∃ call currentOps raiser, state.place call = .peak currentOps raiser ∧
      value ≤ currentOps.toUInt64

variable (updates) in
theorem covered_step {state : MetricsState calls}
    {trace : List (MetricsAnswer calls)} (call : Fin calls)
    (steady : Steady state trace) {value : UInt64}
    (covered : Covered state value) :
    Covered (metricsMachine updates state call).1 value := by
  have grown := coreMetricsUpdate_peak (updates call) (steady.raises call)
  rcases covered with below | ⟨other, currentOps, raiser, stands, below⟩
  · exact Or.inl (Std.le_trans below grown)
  · by_cases same : other = call
    · rw [same] at stands
      have sound : Sound currentOps.toUInt64 state.metrics.peakConcurrentOps
          raiser := by
        have raises := steady.raises call
        rw [stands] at raises
        exact raises.2
      have after := raise_sound sound
      have moved : (metricsMachine updates state call).1.place call =
          peakPlace currentOps (raise currentOps.toUInt64
            state.metrics.peakConcurrentOps raiser).2 := by
        unfold metricsMachine
        rw [stands]
        exact Function.update_self ..
      have shown : (metricsMachine updates state call).1.metrics.peakConcurrentOps =
          (raise currentOps.toUInt64 state.metrics.peakConcurrentOps
            raiser).1 := by
        unfold metricsMachine
        rw [stands]
        rfl
      rcases peakPlace_cases currentOps (raise currentOps.toUInt64
        state.metrics.peakConcurrentOps raiser).2 with
        ⟨settled, _⟩ | ⟨_, next⟩
      · rw [settled] at after
        left
        rw [shown]
        exact Std.le_trans below after
      · exact Or.inr ⟨call, currentOps, _, moved.trans next, below⟩
    · exact Or.inr ⟨other, currentOps, raiser,
        (Function.update_of_ne same ..).trans stands, below⟩

theorem Covered.mono {state : MetricsState calls} {small large : UInt64}
    (covered : Covered state large) (below : small ≤ large) :
    Covered state small := by
  rcases covered with reached | ⟨call, currentOps, raiser, stands, reached⟩
  · exact Or.inl (Std.le_trans below reached)
  · exact Or.inr ⟨call, currentOps, raiser, stands,
      Std.le_trans below reached⟩

/-- Fewer than 2^32 calls have been inside at any time. -/
def Small (trace : List (MetricsAnswer calls)) : Prop :=
  ∀ value ∈ reached trace, value.toNat < 2 ^ 32

theorem reached_snoc (trace : List (MetricsAnswer calls))
    (answer : MetricsAnswer calls) :
    reached (trace ++ [answer]) = reached trace ++ [answer.currentOps] := by
  unfold reached
  rw [List.map_append, List.cons_append]
  rfl

/-- The number inside and the peak against the values seen so far. -/
structure Follows (state : MetricsState calls)
    (trace : List (MetricsAnswer calls)) : Prop where
  counted : state.metrics.currentConcurrentOps.toNat =
    tally (fun _ => insideWeight) state.place
  here : state.metrics.currentConcurrentOps ∈ reached trace
  peakReached : state.metrics.peakConcurrentOps ∈ reached trace
  raisedReached : ∀ call currentOps raiser,
    state.place call = .peak currentOps raiser →
      currentOps.toUInt64 ∈ reached trace
  covered : ∀ value ∈ reached trace, Covered state value

theorem small_left {trace : List (MetricsAnswer calls)}
    {answer : MetricsAnswer calls} (small : Small (trace ++ [answer])) :
    Small trace ∧ answer.currentOps.toNat < 2 ^ 32 := by
  rw [Small, reached_snoc] at small
  exact ⟨fun value member => small value (List.mem_append_left _ member),
    small _ (List.mem_append_right _ (List.mem_singleton.mpr rfl))⟩

section Step

variable {state : MetricsState calls} {trace : List (MetricsAnswer calls)}
  {call : Fin calls}

theorem counted_step (small : Small trace) (steady : Steady state trace)
    (follows : Follows state trace) :
    (metricsMachine updates state call).1.metrics.currentConcurrentOps.toNat =
      tally (fun _ => insideWeight)
        (metricsMachine updates state call).1.place := by
  have held := inside_step updates state call steady.inside
  have exchanged := tally_update (fun _ => insideWeight) state.place call
    (coreMetricsUpdate (updates call) state.metrics (state.place call)).2
  have one : ∀ place, insideWeight place ≤ 1 := by
    intro place
    unfold insideWeight
    split <;> omega
  have next := one
    (coreMetricsUpdate (updates call) state.metrics (state.place call)).2
  have before := small _ follows.here
  rw [follows.counted] at before
  rw [held, UInt64.toNat_ofNat', Nat.mod_eq_of_lt]
  change tally (fun _ => insideWeight) (Function.update _ _ _) < 2 ^ 64
  omega

/-- The number that a call in its loop raises has been reached, also where the
call enters its loop by this step. -/
theorem raisedReached_step
    (small : Small (trace ++ [(metricsMachine updates state call).2]))
    (follows : Follows state trace) :
    ∀ other currentOps raiser,
      (metricsMachine updates state call).1.place other =
          .peak currentOps raiser →
        currentOps.toUInt64 ∈
          reached (trace ++ [(metricsMachine updates state call).2]) := by
  intro other currentOps raiser stands
  rw [reached_snoc]
  by_cases same : other = call
  · rw [same] at stands
    have loops := (Function.update_self ..).symm.trans stands
    rcases coreMetricsUpdate_loops loops with
      ⟨entering, rfl⟩ | ⟨earlier, looping⟩
    · have reachedHere : (metricsMachine updates state call).2.currentOps =
          state.metrics.currentConcurrentOps + 1 := by
        unfold metricsMachine
        rw [entering]
        rfl
      have fits := (small_left small).2
      rw [reachedHere] at fits
      apply List.mem_append_right
      rw [List.mem_singleton, reachedHere]
      apply UInt64.toNat.inj
      rw [UInt32.toNat_toUInt64, UInt64.toNat_toUInt32,
        Nat.mod_eq_of_lt fits]
    · exact List.mem_append_left _
        (follows.raisedReached call currentOps earlier looping)
  · exact List.mem_append_left _ (follows.raisedReached other currentOps raiser
      ((Function.update_of_ne same ..).symm.trans stands))

/-- The number inside after the step is covered: the call that enters raises
the peak to it, and a call that leaves makes it smaller. -/
theorem coveredHere_step
    (small : Small (trace ++ [(metricsMachine updates state call).2]))
    (steady : Steady state trace) (follows : Follows state trace) :
    Covered (metricsMachine updates state call).1
      (metricsMachine updates state call).2.currentOps := by
  have before := covered_step updates call steady
    (follows.covered _ follows.here)
  by_cases enters : state.place call = .enter
  · have reachedHere : (metricsMachine updates state call).2.currentOps =
        state.metrics.currentConcurrentOps + 1 := by
      unfold metricsMachine
      rw [enters]
      rfl
    have fits := (small_left small).2
    rw [reachedHere] at fits ⊢
    refine Or.inr ⟨call, (state.metrics.currentConcurrentOps + 1).toUInt32,
      .loading, ?_, ?_⟩
    · unfold metricsMachine
      rw [enters]
      exact Function.update_self ..
    · rw [UInt64.le_iff_toNat_le, UInt32.toNat_toUInt64,
        UInt64.toNat_toUInt32, Nat.mod_eq_of_lt fits]
  · by_cases leaves : state.place call = .leave
    · apply before.mono
      have inside := weight_le_tally (fun (_ : Fin calls) => insideWeight)
        state.place call
      rw [leaves, ← follows.counted] at inside
      change 1 ≤ state.metrics.currentConcurrentOps.toNat at inside
      unfold metricsMachine
      rw [leaves]
      change state.metrics.currentConcurrentOps - 1 ≤ _
      rw [UInt64.le_iff_toNat_le, UInt64.toNat_sub_of_le]
      · exact Nat.sub_le _ _
      · exact UInt64.le_iff_toNat_le.mpr inside
    · have same : (metricsMachine updates state call).2.currentOps =
          state.metrics.currentConcurrentOps :=
        coreMetricsUpdate_current _ _ enters leaves
      rw [same]
      exact before

theorem follows_step
    (small : Small (trace ++ [(metricsMachine updates state call).2]))
    (steady : Steady state trace) (follows : Follows state trace) :
    Follows (metricsMachine updates state call).1
      (trace ++ [(metricsMachine updates state call).2]) := by
  refine ⟨counted_step (small_left small).1 steady follows, ?_, ?_,
    raisedReached_step small follows, ?_⟩
  · rw [reached_snoc]
    exact List.mem_append_right _ (List.mem_singleton.mpr rfl)
  · rw [reached_snoc]
    apply List.mem_append_left
    rcases coreMetricsUpdate_raised (updates call) state.metrics
      (state.place call) with same | ⟨currentOps, raiser, looping, raised⟩
    · exact same ▸ follows.peakReached
    · exact raised ▸ follows.raisedReached call currentOps raiser looping
  · intro value member
    rw [reached_snoc] at member
    rcases List.mem_append.mp member with earlier | now
    · exact covered_step updates call steady (follows.covered value earlier)
    · rw [List.mem_singleton.mp now]
      exact coveredHere_step small steady follows

end Step

theorem follows_run (run : List (Fin calls))
    (small : Small (answers (metricsMachine updates) (metricsStart calls) run)) :
    Follows (final (metricsMachine updates) (metricsStart calls) run)
      (answers (metricsMachine updates) (metricsStart calls) run) := by
  have start : Follows (metricsStart calls) [] := by
    have outside : tally (fun _ => insideWeight) (metricsStart calls).place = 0 :=
      (tally_const _ _ (fun _ => 0) fun _ => rfl).trans Finset.sum_const_zero
    refine ⟨outside.symm, List.mem_cons_self, List.mem_cons_self, nofun, ?_⟩
    intro value member
    rw [List.mem_singleton.mp member]
    exact Or.inl (Std.le_refl (0 : UInt64))
  have kept := traced_invariant (metricsMachine updates)
    (fun state trace => Steady state trace ∧
      (Small trace → Follows state trace))
    (fun state trace call held =>
      ⟨steady_step state trace call held.1, fun small =>
        follows_step small held.1 (held.2 (small_left small).1)⟩)
    (metricsStart calls) [] run
    ⟨steady_run updates [], fun _ => start⟩
  exact kept.2 small

/-! ### Any interleaving of any calls -/

theorem moves_answers (call : Fin calls) (state : MetricsState calls)
    (run : List (Fin calls)) :
    moves call (answers (metricsMachine updates) state run) = run.count call := by
  induction run generalizing state with
  | nil => rfl
  | cons first rest ih =>
      rw [answers_cons, moves, List.countP_cons, List.count_cons]
      change moves call _ + _ = _
      rw [ih]
      change _ + (if decide (first = call) = true then 1 else 0) = _
      simp only [decide_eq_true_eq, beq_iff_eq]

variable (updates) in
theorem comparisons_le (run : List (Fin calls)) (call : Fin calls) :
    comparisons call (answers (metricsMachine updates) (metricsStart calls) run) ≤
      calls := by
  have steady := steady_run updates run
  refine (steady.tried call).trans ?_
  have raises := steady.raises call
  generalize (final (metricsMachine updates) (metricsStart calls) run).place
    call = place at raises
  unfold allowance
  split
  · exact Nat.zero_le calls
  · exact Nat.zero_le calls
  · exact Nat.zero_le calls
  · exact Nat.zero_le calls
  · next currentOps seen =>
      have below := UInt64.lt_iff_toNat_lt.mp raises.2.2
      rw [UInt32.toNat_toUInt64] at below
      have bound := raises.1
      omega
  · exact Nat.le_refl calls

/-- A call that is scheduled often enough returns, whatever the others do. -/
theorem returned_of_scheduled {run : List (Fin calls)} {call : Fin calls}
    (scheduled : calls + 8 ≤ run.count call) :
    (final (metricsMachine updates) (metricsStart calls) run).place call =
      .returned := by
  have steady := steady_run updates run
  have tried := comparisons_le updates run call
  by_cases ended : (final (metricsMachine updates) (metricsStart calls)
      run).place call = .returned
  · exact ended
  · exfalso
    have moved := steady.moved call ended
    rw [moves_answers] at moved
    have early : progress ((final (metricsMachine updates) (metricsStart calls)
        run).place call) ≤ 7 := by
      revert ended
      generalize (final (metricsMachine updates) (metricsStart calls) run).place
        call = place
      intro ended
      unfold progress
      split
      case h_9 => exact absurd rfl ended
      all_goals omega
    omega

private theorem sum_ones (calls : Nat) : (∑ _call : Fin calls, 1) = calls :=
  (Finset.card_eq_sum_ones Finset.univ).symm.trans (Fintype.card_fin calls)

section Returned

variable {run : List (Fin calls)}
  (ended : ∀ call, (final (metricsMachine updates) (metricsStart calls)
    run).place call = .returned)

include ended

/-- A counter once all calls have returned: each call has left its share. -/
theorem returned_run {read : InternalMetrics → UInt64}
    {weight : Fin calls → UpdatePlace → Nat}
    (counts : ∀ call, Counts (updates call) read (weight call))
    (zeroed : read coreMetricsInit = 0)
    (outside : ∀ call, weight call .total = 0) :
    read (final (metricsMachine updates) (metricsStart calls) run).metrics =
      UInt64.ofNat (∑ call, weight call .returned) := by
  have held := holds_run updates counts zeroed outside run
  rw [Holds, tally_const weight _ (fun call => weight call .returned)
    (fun call => by rw [ended call])] at held
  exact held

theorem total_run :
    (final (metricsMachine updates) (metricsStart calls)
      run).metrics.totalOperations = UInt64.ofNat calls := by
  have held := returned_run ended
    (fun call => (coreMetricsUpdate_counts (updates call)).1) rfl fun _ => rfl
  exact held.trans (congrArg UInt64.ofNat (sum_ones calls))

/-- Each call has taken one of the two paths. -/
theorem paths_run :
    let metrics := (final (metricsMachine updates) (metricsStart calls)
      run).metrics
    metrics.fastPathOperations + metrics.slowPathOperations =
      UInt64.ofNat calls := by
  intro metrics
  have fast : metrics.fastPathOperations =
      UInt64.ofNat (∑ call, (updates call).isFastPath.toNat) :=
    returned_run ended
      (fun call => (coreMetricsUpdate_counts (updates call)).2.2.1) rfl
      fun _ => rfl
  have slow : metrics.slowPathOperations =
      UInt64.ofNat (∑ call, (!(updates call).isFastPath).toNat) :=
    returned_run ended
      (fun call => (coreMetricsUpdate_counts (updates call)).2.2.2.1) rfl
      fun _ => rfl
  have each : ∀ call : Fin calls, (updates call).isFastPath.toNat +
      (!(updates call).isFastPath).toNat = 1 := by
    intro call
    cases (updates call).isFastPath <;> rfl
  have both : (∑ call, (updates call).isFastPath.toNat) +
      ∑ call, (!(updates call).isFastPath).toNat = calls := by
    rw [← Finset.sum_add_distrib, Finset.sum_congr rfl fun call _ => each call,
      sum_ones]
  rw [fast, slow, ← UInt64.ofNat_add, both]

theorem failed_run :
    (final (metricsMachine updates) (metricsStart calls)
      run).metrics.failedOperations = UInt64.ofNat
        (Finset.univ.filter fun call => (updates call).isFailed = true).card := by
  have held := returned_run ended
    (fun call => (coreMetricsUpdate_counts (updates call)).2.2.2.2) rfl
    fun _ => rfl
  refine held.trans (congrArg UInt64.ofNat ?_)
  rw [Finset.card_filter]
  apply Finset.sum_congr rfl
  intro call _
  change (updates call).isFailed.toNat = _
  cases (updates call).isFailed <;> rfl

theorem inside_run :
    (final (metricsMachine updates) (metricsStart calls)
      run).metrics.currentConcurrentOps = 0 := by
  have held := returned_run ended
    (fun call => (coreMetricsUpdate_counts (updates call)).2.1) rfl fun _ => rfl
  exact held.trans (congrArg UInt64.ofNat Finset.sum_const_zero)

/-- Nothing is left to be raised, so the peak covers what was reached. -/
theorem peak_run
    (small : Small (answers (metricsMachine updates) (metricsStart calls) run)) :
    let peak := (final (metricsMachine updates) (metricsStart calls)
      run).metrics.peakConcurrentOps
    let trace := answers (metricsMachine updates) (metricsStart calls) run
    peak ∈ reached trace ∧ ∀ value ∈ reached trace, value ≤ peak := by
  intro peak trace
  have follows := follows_run run small
  refine ⟨follows.peakReached, ?_⟩
  intro value member
  rcases follows.covered value member with
    below | ⟨call, currentOps, raiser, stands, _⟩
  · exact below
  · rw [ended call] at stands
    cases stands

end Returned

/-- For any interleaving of any number of updates, the counters are exact up to
their width, every loop ends, and while fewer than 2^32 calls are inside the
peak is the largest number of calls that were. -/
theorem metrics_updates_exact (calls : Nat) (updates : Fin calls → MetricsUpdate)
    (run : List (Fin calls)) :
    let last := final (metricsMachine updates) (metricsStart calls) run
    let trace := answers (metricsMachine updates) (metricsStart calls) run
    (∀ call, comparisons call trace ≤ calls ∧
        (calls + 8 ≤ run.count call → last.place call = .returned)) ∧
      ((∀ call, last.place call = .returned) →
        last.metrics.totalOperations = UInt64.ofNat calls ∧
          last.metrics.fastPathOperations + last.metrics.slowPathOperations =
            last.metrics.totalOperations ∧
          last.metrics.failedOperations = UInt64.ofNat
            (Finset.univ.filter fun call => (updates call).isFailed = true).card ∧
          last.metrics.currentConcurrentOps = 0 ∧
          (Small trace → last.metrics.peakConcurrentOps ∈ reached trace ∧
            ∀ value ∈ reached trace,
              value ≤ last.metrics.peakConcurrentOps)) := by
  intro last trace
  refine ⟨fun call => ⟨comparisons_le updates run call, returned_of_scheduled⟩, ?_⟩
  intro ended
  have total := total_run ended
  exact ⟨total, (paths_run ended).trans total.symm, failed_run ended,
    inside_run ended, peak_run ended⟩

/-! ### A peak that is missed -/

/-- What a call compares with the peak is a word of 32 bits. -/
theorem peak_fits (run : List (Fin calls)) :
    (final (metricsMachine updates) (metricsStart calls)
      run).metrics.peakConcurrentOps.toNat < 2 ^ 32 := by
  apply invariant (metricsMachine updates) fun state =>
    state.metrics.peakConcurrentOps.toNat < 2 ^ 32
  · intro state call fits
    change (coreMetricsUpdate (updates call) state.metrics
      (state.place call)).1.peakConcurrentOps.toNat < 2 ^ 32
    rcases coreMetricsUpdate_raised (updates call) state.metrics
      (state.place call) with same | ⟨currentOps, _, _, raised⟩
    · rw [same]
      exact fits
    · rw [raised, UInt32.toNat_toUInt64]
      exact currentOps.toNat_lt
  · change 0 < 2 ^ 32
    decide

theorem here_reached (run : List (Fin calls)) :
    (final (metricsMachine updates) (metricsStart calls)
        run).metrics.currentConcurrentOps ∈
      reached (answers (metricsMachine updates) (metricsStart calls) run) := by
  apply traced_invariant (metricsMachine updates) (fun state trace =>
    state.metrics.currentConcurrentOps ∈ reached trace)
    (fun state trace call _ => by
      rw [reached_snoc]
      exact List.mem_append_right _ List.mem_cons_self)
    (metricsStart calls) [] run
  exact List.mem_cons_self

/-- Each of the calls has entered and not left. -/
def entering (list : List (Fin calls)) : List (Fin calls) :=
  list.flatMap fun call => List.replicate 3 call

theorem enter_once {state : MetricsState calls} {call : Fin calls}
    (outside : state.place call = .total) :
    let after := final (metricsMachine updates) state (List.replicate 3 call)
    insideWeight (after.place call) = 1 ∧
      ∀ other, other ≠ call → after.place other = state.place other := by
  intro after
  have places : after.place = Function.update (Function.update
      (Function.update state.place call .elapsed) call .enter) call
      (after.place call) := by
    simp [after, List.replicate, final, metricsMachine, outside,
      coreMetricsUpdate]
  refine ⟨?_, ?_⟩
  · simp [after, List.replicate, final, metricsMachine, outside,
      coreMetricsUpdate, insideWeight]
  · intro other apart
    rw [places]
    simp [Function.update_of_ne apart]

theorem entering_inside {list : List (Fin calls)} (distinct : list.Nodup)
    {state : MetricsState calls}
    (outside : ∀ call ∈ list, state.place call = .total) :
    let after := final (metricsMachine updates) state (entering list)
    (∀ call ∈ list, insideWeight (after.place call) = 1) ∧
      ∀ other, other ∉ list → after.place other = state.place other := by
  induction list generalizing state with
  | nil => exact ⟨nofun, fun _ _ => rfl⟩
  | cons first rest ih =>
      obtain ⟨absent, distinct⟩ := List.nodup_cons.mp distinct
      obtain ⟨entered, others⟩ := @enter_once calls updates state first
        (outside first List.mem_cons_self)
      have apart : ∀ call ∈ rest, call ≠ first := by
        rintro call member rfl
        exact absent member
      obtain ⟨inside, kept⟩ := @ih distinct
        (final (metricsMachine updates) state (List.replicate 3 first))
        fun call member => (others call (apart call member)).trans
          (outside call (List.mem_cons_of_mem _ member))
      intro after
      have split : after = final (metricsMachine updates)
          (final (metricsMachine updates) state (List.replicate 3 first))
          (entering rest) := final_append ..
      rw [split]
      constructor
      · intro call member
        rcases List.mem_cons.mp member with rfl | later
        · rw [kept call absent]
          exact entered
        · exact inside call later
      · intro other outsider
        rw [List.mem_cons, not_or] at outsider
        obtain ⟨different, elsewhere⟩ := outsider
        exact (kept other elsewhere).trans (others other different)

variable (updates) in
/-- Where all calls are inside at once, their number is reached. -/
theorem entering_reached :
    UInt64.ofNat calls ∈ reached (answers (metricsMachine updates)
      (metricsStart calls) (entering (List.finRange calls))) := by
  have inside := (@entering_inside calls updates (List.finRange calls)
    (List.nodup_finRange calls) (metricsStart calls) fun _ _ => rfl).1
  have held := holds_run updates
    (fun call => (coreMetricsUpdate_counts (updates call)).2.1) rfl
    (fun _ => rfl) (entering (List.finRange calls))
  rw [Holds, tally_const _ _ (fun _ => 1)
    fun call => inside call (List.mem_finRange call), sum_ones] at held
  rw [← held]
  exact here_reached _

end Runs

/-- Every call in turn, each often enough to return. -/
def inTurn (calls : Nat) : List (Fin calls) :=
  (List.finRange calls).flatMap fun call => List.replicate (calls + 8) call

theorem count_inTurn (calls : Nat) (call : Fin calls) :
    calls + 8 ≤ (inTurn calls).count call := by
  obtain ⟨before, after, split⟩ := List.append_of_mem (List.mem_finRange call)
  unfold inTurn
  rw [split, List.flatMap_append, List.flatMap_cons, List.count_append,
    List.count_append, List.count_replicate_self]
  omega

theorem inTurn_returns {calls : Nat} (updates : Fin calls → MetricsUpdate)
    (call : Fin calls) :
    (final (metricsMachine updates) (metricsStart calls)
      (inTurn calls)).place call = .returned :=
  returned_of_scheduled (count_inTurn calls call)

/-- All calls are inside at once before the first one leaves. -/
def allAtOnce (calls : Nat) : List (Fin calls) :=
  entering (List.finRange calls) ++ inTurn calls

theorem allAtOnce_returns {calls : Nat} (updates : Fin calls → MetricsUpdate)
    (call : Fin calls) :
    (final (metricsMachine updates) (metricsStart calls)
      (allAtOnce calls)).place call = .returned := by
  apply returned_of_scheduled
  unfold allAtOnce
  rw [List.count_append]
  exact (count_inTurn calls call).trans (Nat.le_add_left _ _)

/-- After 2^64 calls the total is zero again, and where 2^32 calls are inside at
once the peak stays below their number. -/
theorem metrics_words_wrap :
    (¬∀ (calls : Nat) (updates : Fin calls → MetricsUpdate)
      (run : List (Fin calls)),
      (∀ call, (final (metricsMachine updates) (metricsStart calls)
        run).place call = .returned) →
      (final (metricsMachine updates) (metricsStart calls)
        run).metrics.totalOperations.toNat = calls) ∧
    ¬∀ (calls : Nat) (updates : Fin calls → MetricsUpdate)
      (run : List (Fin calls)),
      (∀ call, (final (metricsMachine updates) (metricsStart calls)
        run).place call = .returned) →
      ∀ value ∈ reached (answers (metricsMachine updates) (metricsStart calls)
        run), value ≤ (final (metricsMachine updates) (metricsStart calls)
          run).metrics.peakConcurrentOps := by
  constructor
  · intro always
    have updates : Fin (2 ^ 64) → MetricsUpdate := fun _ => ⟨0, true, false⟩
    have counted := always (2 ^ 64) updates (inTurn (2 ^ 64))
      (inTurn_returns updates)
    rw [total_run (inTurn_returns updates), UInt64.toNat_ofNat',
      Nat.mod_self] at counted
    cases counted
  · intro always
    have updates : Fin (2 ^ 32) → MetricsUpdate := fun _ => ⟨0, true, false⟩
    have here : UInt64.ofNat (2 ^ 32) ∈ reached (answers
        (metricsMachine updates) (metricsStart (2 ^ 32))
        (allAtOnce (2 ^ 32))) := by
      unfold allAtOnce
      rw [answers_append, reached, List.map_append, ← List.cons_append]
      exact List.mem_append_left _ (entering_reached updates)
    have below := UInt64.le_iff_toNat_le.mp (always (2 ^ 32) updates
      (allAtOnce (2 ^ 32)) (allAtOnce_returns updates) _ here)
    have fits := @peak_fits (2 ^ 32) updates (allAtOnce (2 ^ 32))
    rw [UInt64.toNat_ofNat', Nat.mod_eq_of_lt (by decide)] at below
    omega

end Heapstore.Core
