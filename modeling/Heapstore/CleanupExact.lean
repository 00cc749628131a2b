/-
Exactness of the retention cleanup.

While a store runs, all its parts run and keep their files for some days, so a
cleanup visits the four log directories and the span directory.  These lose
exactly the files that have expired, and the sizes add up in a word.
-/

import Heapstore.Cleanup
import Heapstore.CoreLifecycle

namespace Heapstore.Core

open ByteText OperationRun Sweep Cleanup Trace Log Circuit

/-! ### Stores that run -/

/-- What a cleanup finds of a store that runs. -/
structure Serving (process : Process) : Prop where
  inStep : process.InStep
  windows : process.initialized = true →
    0 < process.config.logRetentionDays ∧ 0 < process.config.traceRetentionDays
  tracePath : process.initialized = true →
    process.trace.tracePath = traceBasePath process.rootPath

/-- Of a store that is stopped nothing more is asked. -/
theorem Serving.of_stopped {process : Process} (inStep : process.InStep)
    (down : process.initialized = false) : Serving process := by
  have absent : process.initialized ≠ true := by
    rw [down]
    exact Bool.false_ne_true
  exact ⟨inStep, fun up => absurd up absent, fun up => absurd up absent⟩

theorem mergeConfig_windows (given : HeapstoreConfig)
    {present : HeapstoreConfig}
    (positive : 0 < present.logRetentionDays ∧ 0 < present.traceRetentionDays) :
    0 < (mergeConfig given present).logRetentionDays ∧
      0 < (mergeConfig given present).traceRetentionDays := by
  unfold mergeConfig
  constructor
  · simp only
    split
    · assumption
    · exact positive.1
  · simp only
    split
    · assumption
    · exact positive.2

theorem userConfig_windows (manager : Option HeapstoreConfig)
    (root : Option Bytes) :
    0 < (userConfig manager (defConfig root)).logRetentionDays ∧
      0 < (userConfig manager (defConfig root)).traceRetentionDays := by
  have defaults : 0 < (defConfig root).logRetentionDays ∧
      0 < (defConfig root).traceRetentionDays := by
    change (0 : Int32) < 7 ∧ (0 : Int32) < 3
    decide
  unfold userConfig
  cases readConfig manager with
  | none => exact defaults
  | some given => exact mergeConfig_windows given defaults

theorem heapstoreInit_serving {platform : Platform}
    {manager : Option HeapstoreConfig} {calls : InitCalls} {process : Process}
    (serving : Serving process) :
    Serving (heapstoreInit platform manager calls process).1 := by
  have inStep := @heapstoreInit_inStep platform manager calls process
    serving.inStep
  by_cases succeeded :
      (heapstoreInit platform manager calls process).2 = .success
  · have stopped := (heapstoreInit_success succeeded).1
    have traceStopped : process.trace.initialized = false :=
      (congrArg Flags.trace serving.inStep).trans stopped
    obtain ⟨version, migrated, opened, started⟩ :=
      heapstoreInit_started succeeded
    refine ⟨inStep, fun _ => ?_, fun _ => ?_⟩
    · rw [(heapstoreInit_settings succeeded).1, arm_settings.1]
      exact userConfig_windows manager _
    · rw [started.trace traceStopped, started.rootPath]
  · cases running : process.initialized with
    | true =>
        unfold heapstoreInit
        rw [if_pos running]
        exact serving
    | false =>
        have settled := @heapstoreInit_settled platform manager calls process
          running serving.inStep
        have down := congrArg Flags.store settled
        rw [decide_eq_false succeeded] at down
        exact .of_stopped inStep down

theorem heapstoreShutdown_serving {process : Process}
    (serving : Serving process) : Serving (heapstoreShutdown process) := by
  have inStep := @heapstoreShutdown_inStep process serving.inStep
  have down : (heapstoreShutdown process).initialized = false := by
    unfold heapstoreShutdown
    split
    · rfl
    · next stopped => exact Bool.eq_false_of_not_eq_true stopped
  exact .of_stopped inStep down

theorem heapstoreReloadConfig_serving {calls : ArmCalls}
    {manager : Option HeapstoreConfig} {process : Process}
    (serving : Serving process) :
    Serving (heapstoreReloadConfig calls manager process).1 := by
  unfold heapstoreReloadConfig
  split
  · exact serving
  · cases manager with
    | none => exact serving
    | some given =>
        refine ⟨serving.inStep, fun up => ?_, serving.tracePath⟩
        exact mergeConfig_windows given (serving.windows up)

theorem store_runs_serving (platform : Platform) (disk : Disk)
    (history : List StoreCall) :
    Serving (final (storeStep platform) (freshProcess disk) history) := by
  apply invariant (storeStep platform) Serving
  · intro process call serving
    cases call with
    | start manager calls => exact heapstoreInit_serving serving
    | stop => exact heapstoreShutdown_serving serving
    | reload manager calls => exact heapstoreReloadConfig_serving serving
  · exact .of_stopped rfl rfl

/-! ### The directories of a cleanup -/

/-- The log directories and the span directory, with the time before which
their files have expired. -/
def retentionPlaces (platform : Platform) (clock : CleanupClock)
    (process : Process) : List CleanPlace :=
  let base := logBasePath platform.env platform.dataDir
  placesAt (retentionCutoff process.config.logRetentionDays clock.log)
      [base, base ++ ofString "/kernel", base ++ ofString "/services",
        base ++ ofString "/apps"] ++
    placesAt (retentionCutoff process.config.traceRetentionDays clock.trace)
      [process.rootPath ++ ofString "/traces/spans"]

/-- The longest log directory and the span directory fit their buffers. -/
def RetentionPathsFit (platform : Platform) (process : Process) : Prop :=
  (logBasePath platform.env platform.dataDir ++
      ofString "/services").length < logMaxPath ∧
    (process.rootPath ++ ofString "/traces/spans").length < traceMaxPath

instance (platform : Platform) (process : Process) :
    Decidable (RetentionPathsFit platform process) :=
  inferInstanceAs (Decidable (_ ∧ _))

theorem logDirs_eq {base : Bytes}
    (fits : (base ++ ofString "/services").length < logMaxPath) :
    logDirs base =
      [base, base ++ ofString "/kernel", base ++ ofString "/services",
        base ++ ofString "/apps"] := by
  have short : base.length + 9 < 512 := by
    rw [List.length_append] at fits
    exact fits
  have whole (sub : String) (few : (ofString sub).length ≤ 8) :
      logSubPath base sub = base ++ (ofString "/" ++ ofString sub) := by
    unfold logSubPath
    rw [List.append_assoc]
    apply printTo_of_fits
    rw [List.length_append, List.length_append]
    change base.length + (1 + (ofString sub).length) < 512
    omega
  unfold logDirs
  simp only [List.map_cons, List.map_nil]
  rw [whole "kernel" (by decide), whole "services" (by decide),
    whole "apps" (by decide)]
  rfl

theorem spansPath_eq {root : Bytes}
    (fits : (root ++ ofString "/traces/spans").length < traceMaxPath) :
    spansPath (traceBasePath root) = root ++ ofString "/traces/spans" := by
  have short : root.length + 13 < 512 := by
    rw [List.length_append] at fits
    exact fits
  have traces : (root ++ ofString "/traces").length < traceMaxPath := by
    rw [List.length_append]
    change root.length + 7 < 512
    omega
  have spans : root ++ ofString "/traces" ++ ofString "/spans" =
      root ++ ofString "/traces/spans" := List.append_assoc ..
  unfold spansPath traceBasePath
  rw [printTo_of_fits traces, printTo_of_fits traces, spans,
    printTo_of_fits fits]

theorem cleanupPlaces_eq {platform : Platform} {process : Process}
    (serving : Serving process) (ready : process.initialized = true)
    (fits : RetentionPathsFit platform process) (clock : CleanupClock) :
    cleanupPlaces platform clock process =
      retentionPlaces platform clock process := by
  obtain ⟨logWindow, traceWindow⟩ := serving.windows ready
  have logRuns : process.log.initialized = true :=
    (congrArg Flags.log serving.inStep).trans ready
  have traceRuns : process.trace.initialized = true :=
    (congrArg Flags.trace serving.inStep).trans ready
  unfold cleanupPlaces logPlaces tracePlaces partPlaces
  rw [if_pos ⟨logRuns, logWindow⟩, if_pos ⟨traceRuns, traceWindow⟩,
    logDirs_eq fits.1, serving.tracePath ready, spansPath_eq fits.2]
  rfl

theorem heapstoreCleanup_success {platform : Platform} {process : Process}
    (serving : Serving process) (ready : process.initialized = true)
    (clock : CleanupClock) (dryRun : Bool) (freedBytes : Option UInt64)
    (tree : FileTree) :
    (heapstoreCleanup platform clock dryRun freedBytes process tree).error =
      .success := by
  have logRuns : process.log.initialized = true :=
    (congrArg Flags.log serving.inStep).trans ready
  have traceRuns : process.trace.initialized = true :=
    (congrArg Flags.trace serving.inStep).trans ready
  unfold heapstoreCleanup
  simp only [ready, Bool.true_eq_false, if_false]
  split
  · rfl
  · unfold logCleanup traceCleanup
    rw [(partCleanup_outcome ..).2.2, (partCleanup_outcome ..).2.2, logRuns,
      traceRuns]
    rfl

/-! ### Exactness -/

/-- In a store that runs after any calls, a cleanup leaves in every directory
the entries that do not expire, and reports the bytes of the others as a word.
Without automatic cleanup it deletes nothing and reports nothing. -/
theorem heapstoreCleanup_deletes_expired (platform : Platform) (disk : Disk)
    (history : List StoreCall) (clock : CleanupClock) (before : UInt64)
    (tree : FileTree)
    (ready : (final (storeStep platform) (freshProcess disk)
      history).initialized = true)
    (fits : RetentionPathsFit platform
      (final (storeStep platform) (freshProcess disk) history)) :
    let process := final (storeStep platform) (freshProcess disk) history
    let places := retentionPlaces platform clock process
    let result :=
      heapstoreCleanup platform clock false (some before) process tree
    result.error = .success ∧ result.tree.directory = tree.directory ∧
      (process.config.enableAutoCleanup = true →
        (∀ index, result.tree.entries index =
          (tree.entries index).filter fun entry =>
            !tree.expires places index entry) ∧
        ∃ freed, result.freed = some freed ∧
          freed.toNat = tree.expiredBytes places % 2 ^ 64) ∧
      (process.config.enableAutoCleanup = false →
        result.tree = tree ∧ result.freed = some 0) := by
  intro process places result
  have serving := store_runs_serving platform disk history
  have success : result.error = .success :=
    heapstoreCleanup_success serving ready clock false (some before) tree
  cases enabled : process.config.enableAutoCleanup with
  | false =>
      have idle : result =
          { tree := tree, freed := some 0, error := .success } := by
        unfold result heapstoreCleanup coreGetCleanupConfig
        simp only [enabled, show process.initialized = true from ready]
        rfl
      rw [idle]
      exact ⟨rfl, rfl, nofun, fun _ => ⟨rfl, rfl⟩⟩
  | true =>
      obtain ⟨cleaned, freed⟩ := heapstoreCleanup_outcome ready enabled platform
        clock false (some before) tree
      rw [cleanupPlaces_eq serving ready fits] at cleaned freed
      refine ⟨success, ?_, fun _ => ⟨fun index => ?_, _, freed, ?_⟩, nofun⟩
      · exact (congrArg FileTree.directory cleaned).trans rfl
      · exact (congrArg (fun left => left.entries index) cleaned).trans
          (tree.cleaned_entries places index)
      · rw [← tree.weigh_deleted]
        exact UInt64.toNat_ofNat'

/-- On the eighth day the file of the services is deleted and counted. -/
theorem heapstoreCleanup_deletes_expired_eighth :
    let process := final (storeStep plainPlatform) (freshProcess fun _ => none)
      [.start none .ok]
    let result := heapstoreCleanup plainPlatform (afterDays 8) false (some 0)
      process oneServiceLog
    result.tree.entries 0 = [] ∧ result.freed = some 1024 := by
  intro process result
  obtain ⟨-, -, enabled, -⟩ := heapstoreCleanup_deletes_expired plainPlatform
    (fun _ => none) [.start none .ok] (afterDays 8) 0 oneServiceLog rfl
    (by decide)
  obtain ⟨entries, freed, reported, bytes⟩ := enabled rfl
  refine ⟨(entries 0).trans (by decide), reported.trans ?_⟩
  congr 1
  apply UInt64.toNat_inj.mp
  exact bytes.trans (by decide)

/-- Three files of the largest size a file can have. -/
def threeLargeLogs : FileTree where
  directory := fun path => if path = serviceLogDir then some 0 else none
  entries := fun _ =>
    ["a.log", "b.log", "c.log"].map fun name =>
      { name := ofString name
        regular := true
        stat := some { modified := 0, size := 0x7fffffffffffffff }
        unlinks := true }

/-- The sizes of three deleted files can exceed what is reported. -/
theorem heapstoreCleanup_freed_wraps :
    ¬∀ (platform : Platform) (disk : Disk) (history : List StoreCall)
      (clock : CleanupClock) (before : UInt64) (tree : FileTree),
      let process := final (storeStep platform) (freshProcess disk) history
      process.initialized = true → RetentionPathsFit platform process →
      process.config.enableAutoCleanup = true →
      ∃ freed,
        (heapstoreCleanup platform clock false (some before) process
            tree).freed = some freed ∧
          freed.toNat =
            tree.expiredBytes (retentionPlaces platform clock process) := by
  intro always
  obtain ⟨freed, -, bytes⟩ := always plainPlatform (fun _ => none)
    [.start none .ok] (afterDays 8) 0 threeLargeLogs rfl (by decide) rfl
  have total : threeLargeLogs.expiredBytes (retentionPlaces plainPlatform
      (afterDays 8) (final (storeStep plainPlatform) (freshProcess fun _ => none)
        [.start none .ok])) = 3 * 0x7fffffffffffffff := by decide +kernel
  have fits := freed.toNat_lt
  rw [bytes, total] at fits
  exact absurd fits (by decide)

end Heapstore.Core
