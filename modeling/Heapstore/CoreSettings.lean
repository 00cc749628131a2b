/-
The settings in force and the breaker's copy of them.

A start resets the settings and takes those of a configuration that names a
root; a reload takes those of any configuration.  The breaker's copy is only
written along with the settings that were taken, and it outlives a stop.
-/

import Heapstore.CorePaths

namespace Heapstore.Core

open ByteText OperationRun
open Circuit

/-! ### Reloading -/

/-- `apply_config_update`; the root stays. -/
def applyConfigUpdate (calls : ArmCalls) (manager : HeapstoreConfig)
    (process : Process) : Process :=
  let config :=
    { mergeConfig manager process.config with
        rootPath := process.config.rootPath }
  { process with
      config := config
      circuit := coreCircuitApplyConfig calls config.circuitBreakerThreshold
        config.circuitBreakerTimeoutSec process.circuit }

def heapstoreReloadConfig (calls : ArmCalls) (manager : Option HeapstoreConfig)
    (process : Process) : Process × HeapstoreError :=
  if process.initialized = false then (process, .errNotInitialized)
  else
    match manager with
    | none => (process, .errInvalidParam)
    | some manager => (applyConfigUpdate calls manager process, .success)

inductive StoreCall where
  | start (manager : Option HeapstoreConfig) (calls : InitCalls)
  | stop
  | reload (manager : Option HeapstoreConfig) (calls : ArmCalls)

/-- The calls of a process, whose environment stays the same. -/
def storeStep (platform : Platform) :
    Machine Process StoreCall HeapstoreError := fun process call =>
  match call with
  | .start manager calls => heapstoreInit platform manager calls process
  | .stop => (heapstoreShutdown process, .success)
  | .reload manager calls => heapstoreReloadConfig calls manager process

/-! ### The settings a start leaves -/

/-- The configuration that `apply_user_config` reads. -/
def readConfig (manager : Option HeapstoreConfig) : Option HeapstoreConfig :=
  manager.filter fun given => given.rootPath.isSome

def userConfig (manager : Option HeapstoreConfig) (present : HeapstoreConfig) :
    HeapstoreConfig :=
  match readConfig manager with
  | none => present
  | some given => mergeConfig given present

section Settings

variable {platform : Platform} {manager : Option HeapstoreConfig}
  {calls : InitCalls} {process : Process}

/-- The default root, resolved at its first use. -/
def Process.root (platform : Platform) (process : Process) : Bytes :=
  process.defaultRoot.getD platform.resolvedRoot

theorem setDefaultConfig_eq :
    setDefaultConfig platform process =
      { process with
          config := defConfig (some (process.root platform))
          defaultRoot := some (process.root platform) } := by
  unfold setDefaultConfig getDefaultRoot Process.root
  cases resolved : process.defaultRoot with
  | none => rfl
  | some root =>
      simp only [Option.getD_some]
      rw [← resolved]

theorem applyUserConfig_eq (applied : ArmCalls) :
    applyUserConfig applied manager process =
      { process with
          config := userConfig manager process.config
          circuit :=
            match readConfig manager with
            | none => process.circuit
            | some given =>
                coreCircuitApplyConfig applied
                  (mergeConfig given process.config).circuitBreakerThreshold
                  (mergeConfig given process.config).circuitBreakerTimeoutSec
                  process.circuit } := by
  unfold applyUserConfig userConfig readConfig
  cases manager with
  | none => rfl
  | some given =>
      cases rooted : given.rootPath with
      | none => simp [Option.filter, rooted]
      | some root => simp [Option.filter, rooted]

theorem getRoot_settings :
    (getRoot platform process).1.config = process.config ∧
      (getRoot platform process).1.circuit = process.circuit := by
  unfold getRoot getDefaultRoot
  split
  · cases process.defaultRoot <;> exact ⟨rfl, rfl⟩
  · exact ⟨rfl, rfl⟩

/-- No stage touches the settings or the breaker once the store is armed. -/
theorem heapstoreInit_settings
    (succeeded :
      (heapstoreInit platform manager calls process).2 = .success) :
    (heapstoreInit platform manager calls process).1.config =
        (arm platform manager calls process).config ∧
      (heapstoreInit platform manager calls process).1.circuit =
        (arm platform manager calls process).circuit := by
  let Keeps (other : Process) : Prop :=
    other.config = (arm platform manager calls process).config ∧
      other.circuit = (arm platform manager calls process).circuit
  have rooted : ∀ other, Keeps other → Keeps (getRoot platform other).1 := by
    intro other kept
    exact ⟨getRoot_settings.1.trans kept.1, getRoot_settings.2.trans kept.2⟩
  rw [(heapstoreInit_success succeeded).2.2]
  exact @startStages_keeps _ _ _ Keeps rooted (fun _ _ _ _ _ _ kept => kept)
    (fun _ kept => kept) ⟨rfl, rfl⟩

theorem arm_settings :
    (arm platform manager calls process).config =
        userConfig manager (defConfig (process.root platform)) ∧
      (arm platform manager calls process).circuit =
        coreCircuitInit calls.armed
          (match readConfig manager with
          | none => process.circuit
          | some given =>
              coreCircuitApplyConfig calls.applied
                (mergeConfig given
                  (defConfig (process.root platform))).circuitBreakerThreshold
                (mergeConfig given
                  (defConfig (process.root platform))).circuitBreakerTimeoutSec
                process.circuit) := by
  unfold arm configure
  rw [applyUserConfig_eq, setDefaultConfig_eq]
  exact ⟨rfl, rfl⟩

end Settings

/-! ### The settings that were asked for -/

/-- Each number that is given and positive, each flag that is given, the root
that is given, and the documented defaults elsewhere. -/
def documentedConfig (platform : Platform) (manager : Option HeapstoreConfig) :
    HeapstoreConfig :=
  let default := defConfig (some platform.resolvedRoot)
  match manager with
  | none => default
  | some given =>
      { mergeConfig given default with
          rootPath := some (given.rootPath.getD platform.resolvedRoot) }

/-- The settings in force are the ones asked for, and the breaker has them. -/
structure Effective (platform : Platform) (manager : Option HeapstoreConfig)
    (process : Process) : Prop where
  config : process.config = documentedConfig platform manager
  threshold : process.circuit.threshold = process.config.circuitBreakerThreshold
  timeoutSec :
    process.circuit.timeoutSec = process.config.circuitBreakerTimeoutSec
  live : ∀ breaker, process.circuit.breaker = some breaker →
    breaker.failureThreshold = process.config.circuitBreakerThreshold ∧
      breaker.timeoutMs.toNat =
        process.config.circuitBreakerTimeoutSec.toNat * 1000

/-- What a configuration gives is what the defaults are anyway. -/
structure AsDefault (given : HeapstoreConfig) : Prop where
  maxLogSizeMb : 0 < given.maxLogSizeMb → given.maxLogSizeMb = 100
  logRetentionDays : 0 < given.logRetentionDays → given.logRetentionDays = 7
  traceRetentionDays :
    0 < given.traceRetentionDays → given.traceRetentionDays = 3
  enableAutoCleanup : given.enableAutoCleanup = true
  enableLogRotation : given.enableLogRotation = true
  enableTraceExport : given.enableTraceExport = true
  dbVacuumIntervalDays :
    0 < given.dbVacuumIntervalDays → given.dbVacuumIntervalDays = 7
  circuitBreakerThreshold :
    0 < given.circuitBreakerThreshold → given.circuitBreakerThreshold = 5
  circuitBreakerTimeoutSec :
    0 < given.circuitBreakerTimeoutSec → given.circuitBreakerTimeoutSec = 30

def DefaultCopy (adapter : CircuitAdapter) : Prop :=
  adapter.threshold = defaultCircuitThreshold ∧
    adapter.timeoutSec = defaultCircuitTimeoutSec

/-- The start with this configuration makes a breaker. -/
def MakesBreaker (given : HeapstoreConfig) (calls : InitCalls)
    (adapter : CircuitAdapter) : Prop :=
  let config := mergeConfig given (defConfig none)
  (adapter.lockReady = true ∨ calls.armed.lock = true) ∧
    (adapter.manager = true ∨ calls.armed.manager = true ∨
      adapter.Rearms config.circuitBreakerThreshold
          config.circuitBreakerTimeoutSec ∧
        calls.applied.manager = true) ∧
    calls.armed.breaker = true

/-- Without a root only a configuration that asks for the defaults is served,
and only while the breaker's copy still has the defaults; with a root, a breaker
that is made needs a timeout whose milliseconds fit into 32 bits. -/
def Served (manager : Option HeapstoreConfig) (calls : InitCalls)
    (adapter : CircuitAdapter) : Prop :=
  match manager with
  | none => DefaultCopy adapter
  | some given =>
      match given.rootPath with
      | none => AsDefault given ∧ DefaultCopy adapter
      | some _ =>
          MakesBreaker given calls adapter →
            (mergeConfig given
              (defConfig none)).circuitBreakerTimeoutSec.toNat < 4294968

theorem default_eq_given_iff {α : Type} [LT α] [OfNat α 0] {given default : α}
    [Decidable (0 < given)] :
    (default = if 0 < given then given else default) ↔
      (0 < given → given = default) := by
  split
  · next positive => exact ⟨fun same _ => same.symm, fun same => (same positive).symm⟩
  · next absent => exact ⟨fun _ positive => absurd positive absent, fun _ => rfl⟩

/-- The defaults are what a configuration without a root asks for exactly if it
asks for them. -/
theorem defConfig_eq_documented_iff {platform : Platform}
    {given : HeapstoreConfig} (rootless : given.rootPath = none) :
    defConfig (some platform.resolvedRoot) =
        documentedConfig platform (some given) ↔ AsDefault given := by
  unfold documentedConfig mergeConfig defConfig
  simp only [rootless, Option.getD_none, HeapstoreConfig.mk.injEq,
    default_eq_given_iff, true_and]
  constructor
  · intro same
    obtain ⟨size, logs, traces, cleanup, rotation, export_, vacuum, threshold,
      timeout⟩ := same
    exact ⟨size, logs, traces, cleanup.symm, rotation.symm, export_.symm, vacuum,
      threshold, timeout⟩
  · intro same
    obtain ⟨size, logs, traces, cleanup, rotation, export_, vacuum, threshold,
      timeout⟩ := same
    exact ⟨size, logs, traces, cleanup.symm, rotation.symm, export_.symm, vacuum,
      threshold, timeout⟩

/-! ### What the calls before keep -/

/-- The breaker follows its copy, and the default root is the one that the
environment resolves to. -/
structure Sound (platform : Platform) (process : Process) : Prop where
  mirrored : process.circuit.Mirrored
  root : process.root platform = platform.resolvedRoot

theorem getRoot_root {platform : Platform} {process : Process} :
    (getRoot platform process).1.root platform = process.root platform := by
  unfold getRoot getDefaultRoot Process.root
  split
  · cases resolved : process.defaultRoot with
    | none => rfl
    | some root => simp [resolved]
  · rfl

theorem heapstoreInit_root {platform : Platform}
    {manager : Option HeapstoreConfig} {calls : InitCalls} {process : Process}
    (known : process.root platform = platform.resolvedRoot) :
    (heapstoreInit platform manager calls process).1.root platform =
      platform.resolvedRoot := by
  let Keeps (other : Process) : Prop :=
    other.root platform = platform.resolvedRoot
  have configured : Keeps (configure platform manager calls process) := by
    unfold configure
    rw [applyUserConfig_eq, setDefaultConfig_eq]
    exact known
  refine @heapstoreInit_keeps _ _ _ _ Keeps configured ?_ known
  exact startStages_keeps (fun _ kept => getRoot_root.trans kept)
    (fun _ _ _ _ _ _ kept => kept) (fun _ kept => kept) configured

theorem heapstoreReloadConfig_sound {platform : Platform} {calls : ArmCalls}
    {manager : Option HeapstoreConfig} {process : Process}
    (sound : Sound platform process) :
    Sound platform (heapstoreReloadConfig calls manager process).1 := by
  unfold heapstoreReloadConfig
  split
  · exact sound
  · cases manager with
    | none => exact sound
    | some manager =>
        exact ⟨coreCircuitApplyConfig_mirrored _ _ _ sound.mirrored, sound.root⟩

theorem heapstoreShutdown_root {platform : Platform} {process : Process} :
    (heapstoreShutdown process).root platform = process.root platform := by
  unfold heapstoreShutdown
  split <;> rfl

theorem store_runs_sound (platform : Platform) (disk : Disk)
    (history : List StoreCall) :
    Sound platform (final (storeStep platform) (freshProcess disk) history) := by
  apply invariant (storeStep platform) (Sound platform)
  · intro process call sound
    cases call with
    | start manager calls =>
        exact ⟨heapstoreInit_mirrored sound.mirrored,
          heapstoreInit_root sound.root⟩
    | stop =>
        exact ⟨heapstoreShutdown_mirrored sound.mirrored,
          heapstoreShutdown_root.trans sound.root⟩
    | reload manager calls => exact heapstoreReloadConfig_sound sound
  · exact ⟨clearedCircuit_mirrored, rfl⟩

/-! ### When the settings are the ones asked for -/

theorem milliseconds_iff (seconds : UInt32) :
    (seconds * 1000).toNat = seconds.toNat * 1000 ↔
      seconds.toNat < 4294968 := by
  rw [UInt32.toNat_mul]
  change seconds.toNat * 1000 % 4294967296 = seconds.toNat * 1000 ↔ _
  omega

/-- The breaker part of `Effective`, for an adapter that follows its copy. -/
theorem live_iff {adapter : CircuitAdapter} (mirrored : adapter.Mirrored) :
    (∀ breaker, adapter.breaker = some breaker →
      breaker.failureThreshold = adapter.threshold ∧
        breaker.timeoutMs.toNat = adapter.timeoutSec.toNat * 1000) ↔
      (adapter.breaker.isSome = true → adapter.timeoutSec.toNat < 4294968) := by
  constructor
  · intro agrees live
    obtain ⟨breaker, present⟩ := Option.isSome_iff_exists.mp live
    have timeout := (agrees breaker present).2
    rw [(mirrored breaker present).2.2] at timeout
    exact (milliseconds_iff adapter.timeoutSec).mp timeout
  · intro fits breaker present
    rw [(mirrored breaker present).2.2]
    exact ⟨rfl, (milliseconds_iff adapter.timeoutSec).mpr
      (fits (Option.isSome_iff_exists.mpr ⟨breaker, present⟩))⟩

theorem effective_iff {platform : Platform} {manager : Option HeapstoreConfig}
    {process : Process} (mirrored : process.circuit.Mirrored) :
    Effective platform manager process ↔
      process.config = documentedConfig platform manager ∧
        process.circuit.threshold = process.config.circuitBreakerThreshold ∧
        process.circuit.timeoutSec = process.config.circuitBreakerTimeoutSec ∧
        (process.circuit.breaker.isSome = true →
          process.config.circuitBreakerTimeoutSec.toNat < 4294968) := by
  constructor
  · intro effective
    obtain ⟨config, threshold, timeoutSec, live⟩ := effective
    rw [← threshold, ← timeoutSec] at live
    refine ⟨config, threshold, timeoutSec, ?_⟩
    rw [← timeoutSec]
    exact (live_iff mirrored).mp live
  · intro parts
    obtain ⟨config, threshold, timeoutSec, fits⟩ := parts
    refine ⟨config, threshold, timeoutSec, ?_⟩
    rw [← timeoutSec] at fits ⊢
    rw [← threshold]
    exact (live_iff mirrored).mpr fits

section Final

variable {platform : Platform} {manager : Option HeapstoreConfig}
  {calls : InitCalls} {process : Process}

/-- A start whose configuration is not read leaves the defaults in force and the
breaker with the copy it had. -/
theorem effective_unread_iff (sound : Sound platform process)
    (succeeded :
      (heapstoreInit platform manager calls process).2 = .success)
    (unread : readConfig manager = none) :
    Effective platform manager
        (heapstoreInit platform manager calls process).1 ↔
      defConfig (some platform.resolvedRoot) =
          documentedConfig platform manager ∧
        DefaultCopy process.circuit := by
  obtain ⟨config, circuit⟩ := heapstoreInit_settings succeeded
  obtain ⟨armedConfig, armedCircuit⟩ := @arm_settings platform manager calls
    process
  rw [effective_iff (heapstoreInit_mirrored sound.mirrored), config, circuit,
    armedConfig, armedCircuit, userConfig, unread, sound.root]
  obtain ⟨threshold, timeoutSec⟩ :=
    coreCircuitInit_copy calls.armed process.circuit
  simp only
  rw [threshold, timeoutSec]
  constructor
  · intro parts
    exact ⟨parts.1, parts.2.1, parts.2.2.1⟩
  · intro parts
    obtain ⟨same, sameThreshold, sameTimeout⟩ := parts
    refine ⟨same, sameThreshold, sameTimeout, fun _ => ?_⟩
    change defaultCircuitTimeoutSec.toNat < 4294968
    decide

/-- The settings of a configuration that is read have a positive threshold and a
positive timeout. -/
theorem mergeConfig_positive (given : HeapstoreConfig) (root : Option Bytes) :
    0 < (mergeConfig given (defConfig root)).circuitBreakerThreshold ∧
      0 < (mergeConfig given (defConfig root)).circuitBreakerTimeoutSec := by
  unfold mergeConfig
  constructor
  · simp only
    split
    · assumption
    · change 0 < defaultCircuitThreshold
      decide
  · simp only
    split
    · assumption
    · change 0 < defaultCircuitTimeoutSec
      decide

theorem effective_read_iff (sound : Sound platform process)
    {given : HeapstoreConfig} {root : Bytes} (rooted : given.rootPath = some root)
    (succeeded :
      (heapstoreInit platform (some given) calls process).2 = .success) :
    Effective platform (some given)
        (heapstoreInit platform (some given) calls process).1 ↔
      (MakesBreaker given calls process.circuit →
        (mergeConfig given
          (defConfig none)).circuitBreakerTimeoutSec.toNat < 4294968) := by
  have read : readConfig (some given) = some given := by
    simp [readConfig, Option.filter, rooted]
  obtain ⟨config, circuit⟩ := heapstoreInit_settings succeeded
  obtain ⟨armedConfig, armedCircuit⟩ := @arm_settings platform (some given) calls
    process
  rw [effective_iff (heapstoreInit_mirrored sound.mirrored), config, circuit,
    armedConfig, armedCircuit, userConfig, read, sound.root]
  obtain ⟨someThreshold, someTimeout⟩ :=
    mergeConfig_positive given (some platform.resolvedRoot)
  have documented : mergeConfig given (defConfig (some platform.resolvedRoot)) =
      documentedConfig platform (some given) := by
    unfold documentedConfig mergeConfig
    simp only [rooted, Option.getD_some]
  have live := coreCircuitInit_live calls.armed
    (coreCircuitApplyConfig_mirrored calls.applied
      (mergeConfig given (defConfig none)).circuitBreakerThreshold
      (mergeConfig given (defConfig none)).circuitBreakerTimeoutSec
      sound.mirrored)
  have managed := coreCircuitApplyConfig_manager calls.applied process.circuit
    someThreshold someTimeout
  obtain ⟨threshold, timeoutSec, lock⟩ := coreCircuitApplyConfig_copy
    calls.applied process.circuit someThreshold someTimeout
  obtain ⟨keptThreshold, keptTimeout⟩ := coreCircuitInit_copy calls.armed
    (coreCircuitApplyConfig calls.applied
      (mergeConfig given (defConfig none)).circuitBreakerThreshold
      (mergeConfig given (defConfig none)).circuitBreakerTimeoutSec
      process.circuit)
  have makes : MakesBreaker given calls process.circuit ↔
      (coreCircuitInit calls.armed (coreCircuitApplyConfig calls.applied
        (mergeConfig given (defConfig none)).circuitBreakerThreshold
        (mergeConfig given (defConfig none)).circuitBreakerTimeoutSec
        process.circuit)).breaker.isSome = true := by
    rw [live]
    unfold MakesBreaker
    apply and_congr
    · rw [← lock]
      rfl
    · apply and_congr_left'
      rw [← or_assoc, or_right_comm]
      exact or_congr_left managed.symm
  constructor
  · intro parts makesBreaker
    exact parts.2.2.2 (makes.mp makesBreaker)
  · intro fits
    exact ⟨documented, keptThreshold.trans threshold,
      keptTimeout.trans timeoutSec, fun present => fits (makes.mpr present)⟩

/-- After any calls, the settings in force after a start that succeeds and the
breaker's copy of them are the ones asked for exactly if the start is one that is
served. -/
theorem heapstoreInit_effective_iff (platform : Platform) (disk : Disk)
    (history : List StoreCall) (manager : Option HeapstoreConfig)
    (calls : InitCalls)
    (succeeded :
      (heapstoreInit platform manager calls
        (final (storeStep platform) (freshProcess disk) history)).2 =
          .success) :
    Effective platform manager
        (heapstoreInit platform manager calls
          (final (storeStep platform) (freshProcess disk) history)).1 ↔
      Served manager calls
        (final (storeStep platform) (freshProcess disk) history).circuit := by
  have sound := store_runs_sound platform disk history
  cases manager with
  | none =>
      rw [effective_unread_iff sound succeeded rfl]
      exact and_iff_right rfl
  | some given =>
      unfold Served
      cases rooted : given.rootPath with
      | none =>
          have unread : readConfig (some given) = none := by
            simp [readConfig, Option.filter, rooted]
          rw [effective_unread_iff sound succeeded unread,
            defConfig_eq_documented_iff rooted]
          simp only [rooted]
      | some root =>
          simp only [rooted]
          exact effective_read_iff sound rooted succeeded

end Final

/-- The default configuration with a threshold of three failures. -/
def threeFailures (root : Option Bytes) : HeapstoreConfig :=
  { defConfig root with circuitBreakerThreshold := 3 }

/-- An earlier start on another root, a reload and a stop. -/
def earlierCalls : List StoreCall :=
  [.start (some (defConfig (some (ofString "/srv/old")))) .ok,
    .reload
      (some { defConfig none with
        circuitBreakerThreshold := 7
        circuitBreakerTimeoutSec := 60 }) .ok, .stop]

theorem heapstoreInit_effective_iff_earlier :
    let process := final (storeStep plainPlatform) (freshProcess fun _ => none)
      earlierCalls
    process.circuit.threshold = 7 ∧
      Effective plainPlatform
        (some (threeFailures (some (ofString "/srv/store"))))
        (heapstoreInit plainPlatform
          (some (threeFailures (some (ofString "/srv/store")))) .ok
          process).1 := by
  refine ⟨by decide +kernel, ?_⟩
  apply (heapstoreInit_effective_iff plainPlatform (fun _ => none)
    earlierCalls (some (threeFailures (some (ofString "/srv/store")))) .ok
    (by decide +kernel)).mpr
  intro _
  decide

/-- A threshold that an earlier start set stays with the breaker when the store
starts again with the defaults. -/
theorem heapstoreInit_keeps_old_threshold :
    ¬∀ (platform : Platform) (disk : Disk) (history : List StoreCall)
      (manager : Option HeapstoreConfig) (calls : InitCalls),
      (heapstoreInit platform manager calls
          (final (storeStep platform) (freshProcess disk) history)).2 =
            .success →
        Effective platform manager
          (heapstoreInit platform manager calls
            (final (storeStep platform) (freshProcess disk) history)).1 := by
  intro always
  have effective := always plainPlatform (fun _ => none)
    [.start (some (threeFailures (some (ofString "/srv/store")))) .ok, .stop]
    none .ok rfl
  exact absurd effective.threshold (by decide)

end Heapstore.Core
