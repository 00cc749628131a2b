/-
How long an open breaker refuses.

A timeout is set in seconds, copied by the adapter and handed to the breaker in
milliseconds of 32 bits.  Calls come one after another, each some milliseconds
after the one before; the writers that ask and report may be any.
-/

import Heapstore.CoreLive

namespace Heapstore.Core

open ByteText OperationRun CircuitBreaker
open Circuit

/-- A store, its clock in milliseconds and the timeout that was set last. -/
structure ClockedStore (Runtime : Type*) where
  clock : Nat
  live : LiveProcess Runtime
  timeoutSet : UInt32

def ClockedStore.fresh (Runtime : Type*) (disk : Disk) :
    ClockedStore Runtime where
  clock := 0
  live := freshLiveProcess Runtime disk
  timeoutSet := defaultCircuitTimeoutSec

inductive StoreEvent where
  | start (manager : Option HeapstoreConfig) (calls : InitCalls)
  | stop
  | reload (manager : Option HeapstoreConfig) (calls : ArmCalls)
  | reset
  | query
  | record (succeeded : Bool)

/-- A start sets the timeout that it is given or the documented default, and a
reload the one that it is given. -/
def timeoutAfter {Runtime : Type*} (platform : Platform)
    (store : ClockedStore Runtime) : StoreEvent → UInt32
  | .start manager _ =>
      if store.live.process.initialized then store.timeoutSet
      else (documentedConfig platform manager).circuitBreakerTimeoutSec
  | .reload (some given) _ =>
      if store.live.process.initialized = true ∧
          0 < given.circuitBreakerTimeoutSec then
        given.circuitBreakerTimeoutSec
      else store.timeoutSet
  | _ => store.timeoutSet

section Machine

variable {Runtime : Type*} (breaker : ResettableBreaker CbConfig Runtime)
  (platform : Platform)

/-- An event at a time; a query is answered. -/
def liveEvent (now : Nat) (live : LiveProcess Runtime) :
    StoreEvent → LiveProcess Runtime × Option Bool
  | .start manager calls =>
      ((liveHeapstoreInit breaker.toBreaker platform manager calls live).1, none)
  | .stop => (liveHeapstoreShutdown live, none)
  | .reload manager calls =>
      ((liveReloadConfig breaker.toBreaker calls manager live).1, none)
  | .reset => ((heapstoreResetCircuit breaker live).1, none)
  | .query =>
      let asked := circuitOpen breaker.toBreaker now live.circuit
      (live.withCircuit asked.1, some asked.2)
  | .record succeeded =>
      (live.withCircuit
        (recordOutcome breaker.toBreaker now succeeded live.circuit), none)

/-- Events, each with the milliseconds since the one before. -/
def clockedMachine :
    Machine (ClockedStore Runtime) (Nat × StoreEvent) (Option Bool) :=
  fun store step =>
    let now := store.clock + step.1
    let moved := liveEvent breaker platform now store.live step.2
    ({ clock := now
       live := moved.1
       timeoutSet := timeoutAfter platform store step.2 }, moved.2)

/-- The breaker is neither reset nor replaced nor dropped: writers ask and
report, and starts of the running store are refused. -/
def Undisturbed (store : ClockedStore Runtime) (step : Nat × StoreEvent) :
    Prop :=
  match step.2 with
  | .query => True
  | .record _ => True
  | .start _ _ => store.live.process.initialized = true
  | _ => False

/-- Whatever is asked and reported from now on, every query before the time is
refused. -/
def RefusesUntil (store : ClockedStore Runtime) (time : Nat) : Prop :=
  ∀ between,
    Meets (clockedMachine breaker platform) Undisturbed store between →
    ∀ wait,
      let query := clockedMachine breaker platform
        (final (clockedMachine breaker platform) store between) (wait, .query)
      query.1.clock < time → query.2 = some true

end Machine

/-! ### An open breaker -/

/-- The adapter enters a breaker that was created from the configuration and is
open since the given time. -/
def HoldsOpen {Runtime : Type*} (breaker : ResettableBreaker CbConfig Runtime)
    (config : CbConfig) (since : Nat) (circuit : LiveCircuit Runtime) : Prop :=
  ∃ runtime, circuit.entered = some runtime ∧ breaker.Serves config runtime ∧
    (breaker.view runtime).OpenSince since

section Open

variable {Runtime : Type*} {breaker : ResettableBreaker CbConfig Runtime}
  {circuit : LiveCircuit Runtime} {config : CbConfig} {since now : Nat}

section Requests

variable (timed : breaker.Timed fun config => config.timeoutMs.toNat)

include timed

theorem put_holdsOpen
    {runtime : Runtime} (present : circuit.entered = some runtime)
    (serves : breaker.Serves config runtime)
    (isOpen : (breaker.view runtime).OpenSince since)
    (early : now < since + config.timeoutMs.toNat) (request : Request) :
    HoldsOpen breaker config since
      (circuit.put (breaker.after now runtime request)) :=
  ⟨_, LiveCircuit.entered_put present _, .requested now request serves,
    timed.stays config runtime since now request serves isOpen early⟩

theorem circuitOpen_holdsOpen
    (held : HoldsOpen breaker config since circuit)
    (early : now < since + config.timeoutMs.toNat) :
    (circuitOpen breaker.toBreaker now circuit).2 = true ∧
      HoldsOpen breaker config since
        (circuitOpen breaker.toBreaker now circuit).1 := by
  obtain ⟨runtime, present, serves, isOpen⟩ := held
  unfold circuitOpen
  simp only [present, if_pos isOpen.1]
  refine ⟨?_, put_holdsOpen timed present serves isOpen early .allow⟩
  rw [timed.refuses config runtime since now serves isOpen early]
  rfl

/-- After the timeout the first query is let through. -/
theorem circuitOpen_late
    (held : HoldsOpen breaker config since circuit)
    (late : since + config.timeoutMs.toNat < now) :
    (circuitOpen breaker.toBreaker now circuit).2 = false := by
  obtain ⟨runtime, present, serves, isOpen⟩ := held
  unfold circuitOpen
  simp only [present, if_pos isOpen.1]
  rw [timed.admits config runtime since now serves isOpen late]
  rfl

theorem recordOutcome_holdsOpen
    (held : HoldsOpen breaker config since circuit)
    (early : now < since + config.timeoutMs.toNat) (succeeded : Bool) :
    HoldsOpen breaker config since
      (recordOutcome breaker.toBreaker now succeeded circuit) := by
  obtain ⟨runtime, present, serves, isOpen⟩ := held
  rw [recordOutcome_eq, present]
  exact put_holdsOpen timed present serves isOpen early _

end Requests

/-- A breaker in service that shows itself open was created from what the
adapter mirrors. -/
theorem holdsOpen_of_view {live : LiveProcess Runtime}
    (service : live.InService breaker)
    (isOpen : (live.circuit.view breaker.toBreaker).OpenSince since) :
    HoldsOpen breaker (cbConfigBuild live.process.circuit) since
      live.circuit := by
  have entered : live.circuit.entered = live.circuit.runtime :=
    entered_eq_runtime service.mirrored
  unfold LiveCircuit.view at isOpen
  cases running : live.circuit.runtime with
  | none =>
      rw [entered, running] at isOpen
      cases isOpen.1
  | some runtime =>
      have paired := live.circuit.paired
      rw [running] at paired
      obtain ⟨config, kept⟩ := Option.isSome_iff_exists.mp paired.symm
      have made : config = cbConfigBuild live.process.circuit :=
        (service.mirrored config kept).2.2
      rw [entered, running] at isOpen
      refine ⟨runtime, entered.trans running, ?_, isOpen⟩
      rw [← made]
      exact service.served config runtime kept running

end Open

/-! ### Opening -/

section Events

variable {Runtime : Type*} {breaker : ResettableBreaker CbConfig Runtime}
  {live : LiveProcess Runtime} {now : Nat}

theorem liveEvent_inService (platform : Platform) (now : Nat)
    (service : live.InService breaker) (event : StoreEvent) :
    (liveEvent breaker platform now live event).1.InService breaker := by
  cases event with
  | start manager calls =>
      exact liveHeapstoreInit_inService platform manager calls service
  | stop => exact liveHeapstoreShutdown_inService service
  | reload manager calls => exact liveReloadConfig_inService calls manager service
  | reset => exact heapstoreResetCircuit_inService service
  | query =>
      constructor
      · change (circuitOpen breaker.toBreaker now
          live.circuit).1.adapter.Mirrored
        rw [circuitOpen_adapter]
        exact service.mirrored
      · exact circuitOpen_served now service.served
  | record succeeded =>
      constructor
      · change (recordOutcome breaker.toBreaker now succeeded
          live.circuit).adapter.Mirrored
        rw [recordOutcome_adapter]
        exact service.mirrored
      · exact recordOutcome_served now succeeded service.served

variable (timed : breaker.Timed fun config => config.timeoutMs.toNat)

include timed

/-- A report that opens the breaker opens it now. -/
theorem recordOutcome_opens
    {circuit : LiveCircuit Runtime} (succeeded : Bool)
    (closed : (circuit.view breaker.toBreaker).phase ≠ .opened)
    (opened : ((recordOutcome breaker.toBreaker now succeeded circuit).view
      breaker.toBreaker).phase = .opened) :
    ((recordOutcome breaker.toBreaker now succeeded circuit).view
      breaker.toBreaker).OpenSince now := by
  rw [recordOutcome_eq] at opened ⊢
  cases present : circuit.entered with
  | none =>
      rw [present] at opened
      exact absurd opened closed
  | some runtime =>
      rw [present] at opened
      have shown : (circuit.put (breaker.after now runtime
          (.report succeeded))).view breaker.toBreaker =
            breaker.view (breaker.after now runtime (.report succeeded)) :=
        LiveCircuit.view_entered (LiveCircuit.entered_put present _)
      rw [LiveCircuit.view_entered present] at closed
      simp only at opened ⊢
      rw [shown] at opened ⊢
      exact ⟨opened, timed.opened now runtime _ closed opened⟩

/-- The event that opens a breaker opens it at its own time. -/
theorem liveEvent_opens
    (platform : Platform) (service : live.InService breaker)
    (closed : (live.circuit.view breaker.toBreaker).phase ≠ .opened)
    (event : StoreEvent)
    (opened : ((liveEvent breaker platform now live event).1.circuit.view
      breaker.toBreaker).phase = .opened) :
    ((liveEvent breaker platform now live event).1.circuit.view
      breaker.toBreaker).OpenSince now := by
  have after := liveEvent_inService platform now service event
  have renewed (renews : Renews breaker.toBreaker live.runtime
      (liveEvent breaker platform now live event).1.runtime) : False :=
    closed (opened_before_renewal timed.lawful live.circuit
      (liveEvent breaker platform now live event).1.circuit service.mirrored
      after.mirrored renews opened)
  cases event with
  | start manager calls =>
      exact (renewed (liveHeapstoreInit_renews platform manager calls live)).elim
  | stop => exact (renewed (liveHeapstoreShutdown_renews live)).elim
  | reload manager calls =>
      exact (renewed (liveReloadConfig_renews calls manager live)).elim
  | reset =>
      change ((heapstoreResetCircuit breaker live).1.circuit.view _).phase = _
        at opened
      unfold heapstoreResetCircuit at opened
      split at opened
      · exact absurd opened closed
      · change ((resetCircuit breaker live.circuit).view _).phase = _ at opened
        rw [resetCircuit_view timed.cleared] at opened
        cases opened
  | query =>
      change ((circuitOpen breaker.toBreaker now live.circuit).1.view _).phase = _
        at opened
      rw [circuitOpen_of_not_opened now closed] at opened
      exact absurd opened closed
  | record succeeded =>
      exact recordOutcome_opens timed succeeded closed opened

end Events

/-- The seconds of the adapter as the breaker gets them. -/
def copiedMilliseconds (adapter : CircuitAdapter) : Nat :=
  adapter.timeoutSec.toNat * 1000 % 2 ^ 32

theorem timeoutMs_eq (adapter : CircuitAdapter) :
    (cbConfigBuild adapter).timeoutMs.toNat =
      copiedMilliseconds adapter :=
  UInt32.toNat_mul adapter.timeoutSec 1000

/-! ### Runs -/

section Runs

variable {Runtime : Type*} {breaker : ResettableBreaker CbConfig Runtime}
  {platform : Platform} {store : ClockedStore Runtime} {config : CbConfig}
  {since : Nat}

theorem clocked_runs_inService (platform : Platform) (disk : Disk)
    (history : List (Nat × StoreEvent)) :
    (final (clockedMachine breaker platform) (ClockedStore.fresh Runtime disk)
      history).live.InService breaker := by
  apply invariant (clockedMachine breaker platform) fun store =>
    store.live.InService breaker
  · intro store step service
    exact liveEvent_inService platform _ service step.2
  · exact freshLiveProcess_inService disk

variable (timed : breaker.Timed fun config => config.timeoutMs.toNat)

include timed

/-- As long as the timeout is not over, a step that does not disturb the breaker
leaves it open. -/
theorem clockedMachine_holdsOpen
    (step : Nat × StoreEvent) (undisturbed : Undisturbed store step)
    (held : store.clock < since + config.timeoutMs.toNat →
      HoldsOpen breaker config since store.live.circuit)
    (early : (clockedMachine breaker platform store step).1.clock <
      since + config.timeoutMs.toNat) :
    HoldsOpen breaker config since
      (clockedMachine breaker platform store step).1.live.circuit := by
  obtain ⟨wait, event⟩ := step
  change store.clock + wait < _ at early
  have open_ := held (Nat.lt_of_le_of_lt (Nat.le_add_right _ _) early)
  cases event with
  | start manager calls =>
      change HoldsOpen breaker config since (liveHeapstoreInit _ _ _ _ _).1.circuit
      have running : store.live.process.initialized = true := undisturbed
      unfold liveHeapstoreInit
      simp only [running, if_true]
      exact open_
  | query => exact (circuitOpen_holdsOpen timed open_ early).2
  | record succeeded => exact recordOutcome_holdsOpen timed open_ early succeeded
  | stop => cases undisturbed
  | reload manager calls => cases undisturbed
  | reset => cases undisturbed

theorem undisturbed_run_holdsOpen
    (held : HoldsOpen breaker config since store.live.circuit)
    (between : List (Nat × StoreEvent))
    (undisturbed :
      Meets (clockedMachine breaker platform) Undisturbed store between)
    (early : (final (clockedMachine breaker platform) store between).clock <
      since + config.timeoutMs.toNat) :
    HoldsOpen breaker config since
      (final (clockedMachine breaker platform) store between).live.circuit :=
  guarded_invariant (clockedMachine breaker platform) Undisturbed
    (fun store => store.clock < since + config.timeoutMs.toNat →
      HoldsOpen breaker config since store.live.circuit)
    (fun _ step held guard early =>
      clockedMachine_holdsOpen timed step guard held early)
    store between (fun _ => held) undisturbed early

/-- An open breaker refuses for so many seconds exactly if its milliseconds last
for them. -/
theorem refusesUntil_iff
    (held : HoldsOpen breaker (cbConfigBuild store.live.process.circuit)
      store.clock store.live.circuit)
    (seconds : Nat) :
    RefusesUntil breaker platform store (store.clock + seconds * 1000) ↔
      seconds * 1000 ≤ copiedMilliseconds store.live.process.circuit := by
  have timeout := timeoutMs_eq store.live.process.circuit
  constructor
  · intro refuses
    by_contra short
    -- Both numbers are multiples of eight, so they differ by more than one.
    have later : copiedMilliseconds store.live.process.circuit + 1 <
        seconds * 1000 := by
      unfold copiedMilliseconds at short ⊢
      omega
    have answered := refuses [] trivial
      (copiedMilliseconds store.live.process.circuit + 1)
      (Nat.add_lt_add_left later store.clock)
    have late : store.clock +
        (cbConfigBuild store.live.process.circuit).timeoutMs.toNat <
          store.clock +
            (copiedMilliseconds store.live.process.circuit + 1) := by
      rw [timeout]
      exact Nat.lt_succ_self _
    have admitted := circuitOpen_late timed held late
    cases admitted.symm.trans (Option.some.inj answered)
  · intro enough between undisturbed wait query before
    have early : query.1.clock < store.clock +
        (cbConfigBuild store.live.process.circuit).timeoutMs.toNat := by
      rw [timeout]
      exact Nat.lt_of_lt_of_le before (Nat.add_le_add_left enough _)
    have sooner : (final (clockedMachine breaker platform) store between).clock ≤
        query.1.clock := Nat.le_add_right _ wait
    have open_ := undisturbed_run_holdsOpen timed held between undisturbed
      (Nat.lt_of_le_of_lt sooner early)
    exact congrArg some (circuitOpen_holdsOpen timed open_ early).1

/-- A step that opens the breaker leaves it open since the time of the step. -/
theorem clockedMachine_opens
    (service : store.live.InService breaker) (step : Nat × StoreEvent)
    (closed : (store.live.circuit.view breaker.toBreaker).phase ≠ .opened)
    (opened : ((clockedMachine breaker platform store
      step).1.live.circuit.view breaker.toBreaker).phase = .opened) :
    let after := (clockedMachine breaker platform store step).1
    HoldsOpen breaker (cbConfigBuild after.live.process.circuit) after.clock
      after.live.circuit :=
  holdsOpen_of_view (liveEvent_inService platform _ service step.2)
    (liveEvent_opens timed platform service closed step.2 opened)

end Runs

/-- After any history, whatever opens the breaker: while nobody resets or
replaces it, every query before the timeout that was set last is refused exactly
if the seconds that the adapter has copied make as many milliseconds in 32
bits. -/
theorem open_time_iff {Runtime : Type*}
    (breaker : ResettableBreaker CbConfig Runtime)
    (timed : breaker.Timed fun config => config.timeoutMs.toNat)
    (platform : Platform) (disk : Disk) (history : List (Nat × StoreEvent))
    (opening : Nat × StoreEvent) :
    let before := final (clockedMachine breaker platform)
      (ClockedStore.fresh Runtime disk) history
    let store := (clockedMachine breaker platform before opening).1
    (before.live.circuit.view breaker.toBreaker).phase ≠ .opened →
    (store.live.circuit.view breaker.toBreaker).phase = .opened →
      (RefusesUntil breaker platform store
          (store.clock + store.timeoutSet.toNat * 1000) ↔
        store.timeoutSet.toNat * 1000 ≤
          copiedMilliseconds store.live.process.circuit) := by
  intro before store closed opened
  have service := @clocked_runs_inService _ breaker platform disk history
  exact refusesUntil_iff timed
    (clockedMachine_opens timed service opening closed opened) _

/-! ### A breaker that one failure opens -/

def touchyConfig (timeoutSec : UInt32) : HeapstoreConfig :=
  { defConfig (some (ofString "/srv/store")) with
      circuitBreakerThreshold := 1
      circuitBreakerTimeoutSec := timeoutSec }

def startedTouchy (timeoutSec : UInt32) : List (Nat × StoreEvent) :=
  [(0, .start (some (touchyConfig timeoutSec)) .ok)]

/-- The store after the failure. -/
def trippedStore (timeoutSec : UInt32) : ClockedStore Counter :=
  (clockedMachine (resettableCounting CbConfig.limits) plainPlatform
    (final (clockedMachine (resettableCounting CbConfig.limits) plainPlatform)
      (ClockedStore.fresh Counter fun _ => none) (startedTouchy timeoutSec))
    (0, .record false)).1

theorem open_time_iff_thirty :
    RefusesUntil (resettableCounting CbConfig.limits) plainPlatform
      (trippedStore 30) 30000 :=
  (open_time_iff (resettableCounting CbConfig.limits) resettableCounting_timed
    plainPlatform (fun _ => none) (startedTouchy 30) (0, .record false)
    (by decide) (by decide)).mpr (by decide)

/-- A timeout whose milliseconds do not fit is over within a second. -/
theorem open_time_wraps :
    ¬∀ (platform : Platform) (disk : Disk) (history : List (Nat × StoreEvent))
      (opening : Nat × StoreEvent),
      let machine :=
        clockedMachine (resettableCounting CbConfig.limits) platform
      let before := final machine (ClockedStore.fresh Counter disk) history
      let store := (machine before opening).1
      (before.live.circuit.view (counting CbConfig.limits)).phase ≠ .opened →
      (store.live.circuit.view (counting CbConfig.limits)).phase = .opened →
      RefusesUntil (resettableCounting CbConfig.limits) platform store
        (store.clock + store.timeoutSet.toNat * 1000) := by
  intro always
  have refuses := always plainPlatform (fun _ => none) (startedTouchy 4294968)
    (0, .record false) (by decide) (by decide)
  have refused := refuses [] trivial 1000 (by decide)
  revert refused
  decide

/-! ### Stores that are started with a root -/

/-- Every start that is not refused is given a root, so its configuration is
read. -/
def RootedStart {Runtime : Type*} (store : ClockedStore Runtime)
    (step : Nat × StoreEvent) : Prop :=
  match step.2 with
  | .start manager _ =>
      store.live.process.initialized = true ∨ readConfig manager ≠ none
  | _ => True

/-- The adapter has the timeout that was set last, and in a store that runs so
have the settings. -/
structure ClockedStore.Copied {Runtime : Type*} (store : ClockedStore Runtime) :
    Prop where
  copy : store.live.process.circuit.timeoutSec = store.timeoutSet
  settings : store.live.process.initialized = true →
    store.live.process.config.circuitBreakerTimeoutSec = store.timeoutSet

section Copies

variable {Runtime : Type*} {breaker : ResettableBreaker CbConfig Runtime}
  {platform : Platform} {store : ClockedStore Runtime}

/-- A start whose configuration is read copies the timeout, whether it succeeds
or not. -/
theorem heapstoreInit_copies {manager : Option HeapstoreConfig}
    {calls : InitCalls} {process : Process}
    (stopped : process.initialized = false)
    (read : readConfig manager ≠ none) :
    let timeoutSec :=
      (documentedConfig platform manager).circuitBreakerTimeoutSec
    let started := (heapstoreInit platform manager calls process).1
    started.circuit.timeoutSec = timeoutSec ∧
      started.config.circuitBreakerTimeoutSec = timeoutSec := by
  intro timeoutSec started
  obtain ⟨given, present⟩ := Option.ne_none_iff_exists'.mp read
  have same : manager = some given := (Option.filter_eq_some_iff.mp present).1
  have positive : 0 < timeoutSec := by
    unfold timeoutSec
    rw [same]
    exact (mergeConfig_positive given (some platform.resolvedRoot)).2
  let Keeps (other : Process) : Prop :=
    other.circuit.timeoutSec = timeoutSec ∧
      other.config.circuitBreakerTimeoutSec = timeoutSec
  have configured : Keeps (configure platform manager calls process) := by
    unfold Keeps configure
    rw [applyUserConfig_eq, setDefaultConfig_eq]
    simp only [userConfig, present]
    rw [coreCircuitApplyConfig_timeoutSec]
    have merged : (mergeConfig given (defConfig (some
        (process.root platform)))).circuitBreakerTimeoutSec = timeoutSec := by
      unfold timeoutSec
      rw [same]
      rfl
    rw [merged, if_pos positive]
    exact ⟨rfl, rfl⟩
  have armed : Keeps (arm platform manager calls process) :=
    ⟨(coreCircuitInit_copy calls.armed _).2.trans configured.1, configured.2⟩
  have rooted : ∀ other, Keeps other → Keeps (getRoot platform other).1 := by
    intro other kept
    unfold Keeps
    rw [getRoot_settings.1, getRoot_settings.2]
    exact kept
  change Keeps started
  unfold started
  rw [heapstoreInit_eq, stopped]
  simp only [Bool.false_eq_true, if_false]
  split
  · exact configured
  · exact startStages_keeps rooted (fun _ _ _ _ _ _ kept => kept)
      (fun _ kept => kept) armed

theorem heapstoreShutdown_copy (process : Process) :
    (heapstoreShutdown process).circuit.timeoutSec = process.circuit.timeoutSec ∧
      (heapstoreShutdown process).initialized = false := by
  unfold heapstoreShutdown circStop
  cases running : process.initialized with
  | false => exact ⟨rfl, running⟩
  | true =>
      simp only [if_true, and_true]
      split <;> rfl

theorem ClockedStore.Copied.of_process {after : ClockedStore Runtime}
    (copied : store.Copied) (process : after.live.process = store.live.process)
    (timeoutSet : after.timeoutSet = store.timeoutSet) : after.Copied := by
  obtain ⟨copy, settings⟩ := copied
  rw [← process, ← timeoutSet] at copy settings
  exact ⟨copy, settings⟩

theorem start_copied (now : Nat) (manager : Option HeapstoreConfig)
    (calls : InitCalls) (copied : store.Copied)
    (rooted : store.live.process.initialized = true ∨
      readConfig manager ≠ none) :
    ClockedStore.Copied
      { clock := now
        live := (liveHeapstoreInit breaker.toBreaker platform manager calls
          store.live).1
        timeoutSet := timeoutAfter platform store (.start manager calls) } := by
  have process : (liveHeapstoreInit breaker.toBreaker platform manager calls
      store.live).1.process = _ := liveHeapstoreInit_process
  cases running : store.live.process.initialized with
  | true =>
      apply copied.of_process
      · rw [process]
        unfold heapstoreInit
        rw [if_pos running]
      · exact if_pos running
  | false =>
      have read : readConfig manager ≠ none := by
        rcases rooted with already | read
        · rw [running] at already
          cases already
        · exact read
      obtain ⟨copy, settings⟩ := @heapstoreInit_copies platform manager calls
        store.live.process running read
      have timeoutSet : timeoutAfter platform store (.start manager calls) =
          (documentedConfig platform manager).circuitBreakerTimeoutSec := by
        unfold timeoutAfter
        rw [running]
        rfl
      constructor
      · change _ = timeoutAfter platform store (.start manager calls)
        rw [timeoutSet, process]
        exact copy
      · intro _
        change _ = timeoutAfter platform store (.start manager calls)
        rw [timeoutSet, process]
        exact settings

/-- The timeout of a reload is the one that is given or the one in force. -/
theorem reload_copied (now : Nat) (manager : Option HeapstoreConfig)
    (calls : ArmCalls) (copied : store.Copied) :
    ClockedStore.Copied
      { clock := now
        live := (liveReloadConfig breaker.toBreaker calls manager store.live).1
        timeoutSet := timeoutAfter platform store (.reload manager calls) } := by
  unfold liveReloadConfig
  cases running : store.live.process.initialized with
  | false =>
      apply copied.of_process
      · rfl
      · cases manager with
        | none => rfl
        | some given =>
            unfold timeoutAfter
            simp only [running]
            exact if_neg fun both => absurd both.1 Bool.false_ne_true
  | true =>
      cases manager with
      | none => exact copied.of_process rfl rfl
      | some given =>
          have settings : (updatedConfig given
              store.live.process.config).circuitBreakerTimeoutSec =
                timeoutAfter platform store (.reload (some given) calls) := by
            unfold timeoutAfter
            simp only [running, true_and]
            rw [← copied.settings running]
            rfl
          refine ⟨?_, fun _ => settings⟩
          change (liveApplyConfig _ _ _ _ _).adapter.timeoutSec = _
          rw [liveApplyConfig_adapter, coreCircuitApplyConfig_timeoutSec,
            settings]
          split
          · rfl
          · next absent =>
              have kept : timeoutAfter platform store (.reload (some given)
                  calls) = store.timeoutSet := by
                unfold timeoutAfter at absent ⊢
                simp only at absent ⊢
                split at absent
                · next given_ => exact absurd given_.2 absent
                · next notGiven => exact if_neg notGiven
              exact copied.copy.trans kept.symm

theorem clockedMachine_copied (step : Nat × StoreEvent)
    (copied : store.Copied) (rooted : RootedStart store step) :
    (clockedMachine breaker platform store step).1.Copied := by
  obtain ⟨wait, event⟩ := step
  cases event with
  | start manager calls => exact start_copied _ manager calls copied rooted
  | stop =>
      obtain ⟨copy, stopped⟩ := heapstoreShutdown_copy store.live.process
      constructor
      · change (liveHeapstoreShutdown store.live).process.circuit.timeoutSec = _
        rw [liveHeapstoreShutdown_process, copy]
        exact copied.copy
      · intro running
        change (liveHeapstoreShutdown store.live).process.initialized = true
          at running
        rw [liveHeapstoreShutdown_process, stopped] at running
        cases running
  | reload manager calls => exact reload_copied _ manager calls copied
  | reset =>
      refine copied.of_process ?_ rfl
      change (heapstoreResetCircuit breaker store.live).1.process = _
      unfold heapstoreResetCircuit
      split
      · rfl
      · exact withCircuit_process resetCircuit_adapter
  | query =>
      exact copied.of_process (withCircuit_process (circuitOpen_adapter _)) rfl
  | record succeeded =>
      exact copied.of_process (withCircuit_process recordOutcome_adapter) rfl

/-- Where every start is given a root, an open breaker refuses for the timeout
that was set last exactly if that is below 4294968 seconds. -/
theorem rooted_open_time_iff
    (timed : breaker.Timed fun config => config.timeoutMs.toNat)
    (disk : Disk) (history : List (Nat × StoreEvent))
    (rooted : Meets (clockedMachine breaker platform) RootedStart
      (ClockedStore.fresh Runtime disk) history)
    (step : Nat × StoreEvent) :
    let before := final (clockedMachine breaker platform)
      (ClockedStore.fresh Runtime disk) history
    let store := (clockedMachine breaker platform before step).1
    RootedStart before step →
    (before.live.circuit.view breaker.toBreaker).phase ≠ .opened →
    (store.live.circuit.view breaker.toBreaker).phase = .opened →
      (RefusesUntil breaker platform store
          (store.clock + store.timeoutSet.toNat * 1000) ↔
        store.timeoutSet.toNat < 4294968) := by
  intro before store given closed opened
  have service := @clocked_runs_inService _ breaker platform disk history
  have start : (ClockedStore.fresh Runtime disk).Copied := ⟨rfl, nofun⟩
  have copied : store.Copied := clockedMachine_copied step
    (guarded_invariant (clockedMachine breaker platform) RootedStart
      ClockedStore.Copied
      (fun _ step copied rooted => clockedMachine_copied step copied rooted)
      _ history start rooted) given
  rw [refusesUntil_iff timed (clockedMachine_opens timed service step closed
    opened), copiedMilliseconds, copied.copy]
  omega

end Copies

end Heapstore.Core
