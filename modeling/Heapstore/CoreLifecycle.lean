/-
Starts and stops of the store.

Each of the flags of the subsystems follows the flag of the store over every run
of starts and stops, at whatever stage a start fails.  A start from a store that
is stopped does what a first start does on the same disk.
-/

import Heapstore.CoreSettings

namespace Heapstore.Core

open ByteText SqlConnection OperationRun
open Migration RegistrySqlite Trace Memory Log Circuit

def heapstoreReady (process : Process) : Bool :=
  process.initialized

/-- The flags of the store and of its four subsystems. -/
structure Flags where
  store : Bool
  registry : Bool
  trace : Bool
  memory : Bool
  log : Bool
  deriving DecidableEq

def Process.flags (process : Process) : Flags where
  store := process.initialized
  registry := process.registry.initialized
  trace := process.trace.initialized
  memory := process.memory.initialized
  log := process.log.initialized

def Flags.all (up : Bool) : Flags where
  store := up
  registry := up
  trace := up
  memory := up
  log := up

/-- The subsystems run exactly while the store does. -/
def Process.InStep (process : Process) : Prop :=
  process.flags = Flags.all process.initialized

/-! ### Flags after each stage -/

section Stages

variable {platform : Platform} {calls : InitCalls} {process : Process}

theorem getRoot_flags :
    (getRoot platform process).1.flags = process.flags := by
  unfold getRoot getDefaultRoot
  split
  · cases process.defaultRoot <;> rfl
  · rfl

theorem schemaStage_flags :
    (schemaStage platform calls process).1.flags = process.flags := by
  unfold schemaStage
  simp only
  split
  · exact getRoot_flags
  · split <;> exact getRoot_flags

theorem registryInit_flag {root dataDir : Option Bytes}
    {opened : Bytes → Option Database} {succeeds : Nat → Bool}
    {registry : SqlRegistry} (stopped : registry.initialized = false) :
    (registryInit root dataDir opened succeeds registry).1.initialized =
      decide ((registryInit root dataDir opened succeeds registry).2 =
        .success) := by
  unfold registryInit
  simp only [stopped, Bool.false_eq_true, if_false]
  split
  · rfl
  · split
    · rfl
    · next failed => exact (decide_eq_false failed).symm

theorem traceInit_flag {root : Bytes} {allocated : Bool} {state : TraceState}
    (stopped : state.initialized = false) :
    (traceInit root allocated state).1.initialized =
      decide ((traceInit root allocated state).2 = .success) := by
  unfold traceInit
  simp only [stopped, Bool.false_eq_true, if_false]
  cases allocated <;> rfl

theorem memoryInit_flag {root dataDir : Bytes} {ensured : Bytes → Bool}
    {state : MemoryState} (stopped : state.initialized = false) :
    (memoryInit root dataDir ensured state).1.initialized =
      decide ((memoryInit root dataDir ensured state).2 = .success) := by
  unfold memoryInit
  simp only [stopped, Bool.false_eq_true, if_false]
  split
  · rfl
  · split <;> rfl

theorem logInit_flag {env : Option Bytes} {dataDir : Bytes} {opened : Bool}
    {state : LogState} {disk : Disk} (stopped : state.initialized = false) :
    (logInit env dataDir opened state disk).1.initialized =
      decide ((logInit env dataDir opened state disk).2.2 = .success) := by
  unfold logInit
  simp only [stopped, Bool.false_eq_true, if_false]
  cases opened <;> rfl

theorem registryShutdown_flag (registry : SqlRegistry) :
    (registryShutdown registry).initialized = false := by
  unfold registryShutdown
  split
  · rfl
  · next stopped => exact Bool.eq_false_of_not_eq_true stopped

theorem traceShutdown_flag (state : TraceState) :
    (traceShutdown state).initialized = false := by
  unfold traceShutdown
  split
  · rfl
  · next stopped => exact Bool.eq_false_of_not_eq_true stopped

theorem memoryShutdown_flag (state : MemoryState) :
    (memoryShutdown state).initialized = false := by
  unfold memoryShutdown
  split
  · rfl
  · next stopped => exact Bool.eq_false_of_not_eq_true stopped

theorem logShutdown_flag (state : LogState) :
    (logShutdown state).initialized = false := by
  unfold logShutdown
  split
  · rfl
  · next stopped => exact Bool.eq_false_of_not_eq_true stopped

theorem registryStage_flags (stopped : process.flags.registry = false) :
    (registryStage platform calls process).1.flags =
      { process.flags with
          registry :=
            decide ((registryStage platform calls process).2 = .success) } := by
  have rooted := @getRoot_flags platform process
  rw [← rooted] at stopped ⊢
  exact congrArg
    (fun flag => { (getRoot platform process).1.flags with registry := flag })
    (registryInit_flag stopped)

theorem traceStage_flags (stopped : process.flags.trace = false) :
    (traceStage platform calls process).1.flags =
      { process.flags with
          trace := decide ((traceStage platform calls process).2 = .success) } := by
  have rooted := @getRoot_flags platform process
  rw [← rooted] at stopped ⊢
  exact congrArg
    (fun flag => { (getRoot platform process).1.flags with trace := flag })
    (traceInit_flag stopped)

theorem memoryStage_flags (stopped : process.flags.memory = false) :
    (memoryStage platform calls process).1.flags =
      { process.flags with
          memory :=
            decide ((memoryStage platform calls process).2 = .success) } := by
  have rooted := @getRoot_flags platform process
  rw [← rooted] at stopped ⊢
  exact congrArg
    (fun flag => { (getRoot platform process).1.flags with memory := flag })
    (memoryInit_flag stopped)

theorem logStage_flags (stopped : process.flags.log = false) :
    (logStage platform calls process).1.flags =
      { process.flags with
          log := decide ((logStage platform calls process).2 = .success) } :=
  congrArg (fun flag => { process.flags with log := flag })
    (logInit_flag stopped)

theorem stopRegistry_flags :
    (stopRegistry process).flags = { process.flags with registry := false } :=
  congrArg (fun flag => { process.flags with registry := flag })
    (registryShutdown_flag process.registry)

theorem stopTrace_flags :
    (stopTrace process).flags = { process.flags with trace := false } :=
  congrArg (fun flag => { process.flags with trace := flag })
    (traceShutdown_flag process.trace)

theorem stopMemory_flags :
    (stopMemory process).flags = { process.flags with memory := false } :=
  congrArg (fun flag => { process.flags with memory := flag })
    (memoryShutdown_flag process.memory)

end Stages

/-! ### Flags after a call -/

/-- A start that succeeds leaves everything running, one that fails nothing. -/
def Settled (outcome : Process × HeapstoreError) : Prop :=
  outcome.1.flags = Flags.all (decide (outcome.2 = .success))

theorem stage_settled {ran : Process × HeapstoreError}
    {undo : Process → Process} {next : Process → Process × HeapstoreError}
    (failed : ran.2 ≠ .success →
      { (undo ran.1).flags with store := false } = Flags.all false)
    (later : ran.2 = .success → Settled (next ran.1)) :
    Settled (stage ran undo next) := by
  unfold stage
  by_cases done : ran.2 = .success
  · rw [if_pos done]
    exact later done
  · rw [if_neg done]
    unfold Settled
    rw [decide_eq_false done]
    exact failed done

section Calls

variable {platform : Platform} {manager : Option HeapstoreConfig}
  {calls : InitCalls} {process : Process}

theorem configure_flags :
    (configure platform manager calls process).flags = process.flags := by
  unfold configure
  rw [applyUserConfig_eq, setDefaultConfig_eq]
  rfl

/-- Each stage finds the flags of the stages before it raised, and where it
fails the shutdowns that follow are those of exactly these subsystems. -/
theorem startStages_settled
    (armed : process.flags = { Flags.all false with store := true }) :
    Settled (startStages platform calls process) := by
  unfold startStages
  have schema := @schemaStage_flags platform calls process
  rw [armed] at schema
  generalize schemaStage platform calls process = migrated at schema ⊢
  apply stage_settled
  · intro _
    rw [id, schema]
    rfl
  intro _
  have registry := @registryStage_flags platform calls migrated.1
    (congrArg Flags.registry schema)
  rw [schema] at registry
  generalize registryStage platform calls migrated.1 = opened at registry ⊢
  apply stage_settled
  · intro failed
    rw [id, registry, decide_eq_false failed]
    rfl
  intro openedOk
  rw [decide_eq_true openedOk] at registry
  have trace := @traceStage_flags platform calls opened.1
    (congrArg Flags.trace registry)
  rw [registry] at trace
  generalize traceStage platform calls opened.1 = traced at trace ⊢
  apply stage_settled
  · intro failed
    rw [stopRegistry_flags, trace, decide_eq_false failed]
    rfl
  intro tracedOk
  rw [decide_eq_true tracedOk] at trace
  have memory := @memoryStage_flags platform calls traced.1
    (congrArg Flags.memory trace)
  rw [trace] at memory
  generalize memoryStage platform calls traced.1 = remembered at memory ⊢
  apply stage_settled
  · intro failed
    rw [stopRegistry_flags, stopTrace_flags, memory, decide_eq_false failed]
    rfl
  intro rememberedOk
  rw [decide_eq_true rememberedOk] at memory
  have log := @logStage_flags platform calls remembered.1
    (congrArg Flags.log memory)
  rw [memory] at log
  generalize logStage platform calls remembered.1 = logged at log ⊢
  apply stage_settled
  · intro failed
    rw [stopRegistry_flags, stopTrace_flags, stopMemory_flags, log,
      decide_eq_false failed]
    rfl
  intro loggedOk
  rw [decide_eq_true loggedOk] at log
  exact log

theorem heapstoreInit_settled (stopped : process.initialized = false)
    (inStep : process.InStep) :
    Settled (heapstoreInit platform manager calls process) := by
  unfold Process.InStep at inStep
  rw [stopped] at inStep
  have configured : (configure platform manager calls process).flags =
      Flags.all false := configure_flags.trans inStep
  have armed : (arm platform manager calls process).flags =
      { Flags.all false with store := true } := by
    rw [← configured]
    rfl
  rw [heapstoreInit_eq]
  simp only [stopped, Bool.false_eq_true, if_false]
  by_cases created : createDirectoryStructure calls.structureEnsured
      (configure platform manager calls process).rootPath = .success
  · rw [if_neg (not_not.mpr created)]
    exact startStages_settled armed
  · rw [if_pos created]
    unfold Settled
    rw [configured, decide_eq_false created]

theorem heapstoreInit_inStep (inStep : process.InStep) :
    (heapstoreInit platform manager calls process).1.InStep := by
  cases running : process.initialized with
  | true =>
      unfold heapstoreInit
      rw [if_pos running]
      exact inStep
  | false =>
      have settled := @heapstoreInit_settled platform manager calls process
        running inStep
      have flag := congrArg Flags.store settled
      exact settled.trans (congrArg Flags.all flag.symm)

theorem heapstoreShutdown_inStep (inStep : process.InStep) :
    (heapstoreShutdown process).InStep := by
  unfold heapstoreShutdown
  split
  · unfold Process.InStep Process.flags
    simp only
    rw [registryShutdown_flag, traceShutdown_flag, memoryShutdown_flag,
      logShutdown_flag]
    rfl
  · exact inStep

end Calls

theorem core_runs_inStep (disk : Disk) (calls : List CoreCall) :
    (final coreStep (freshProcess disk) calls).InStep := by
  apply invariant coreStep Process.InStep
  · intro process call inStep
    cases call with
    | start platform manager calls => exact heapstoreInit_inStep inStep
    | stop => exact heapstoreShutdown_inStep inStep
  · rfl

/-! ### A start after a stop -/

/-- A process that never started anything, on the disk of this one. -/
def Process.unstarted (process : Process) : Process :=
  { freshProcess process.disk with defaultRoot := process.defaultRoot }

/-- Every stage of a start succeeds, each on what the stages before it left. -/
def StagesSucceed (platform : Platform) (manager : Option HeapstoreConfig)
    (calls : InitCalls) (process : Process) : Prop :=
  let migrated := schemaStage platform calls (arm platform manager calls process)
  let opened := registryStage platform calls migrated.1
  let traced := traceStage platform calls opened.1
  let remembered := memoryStage platform calls traced.1
  let logged := logStage platform calls remembered.1
  createDirectoryStructure calls.structureEnsured
      (configure platform manager calls process).rootPath = .success ∧
    migrated.2 = .success ∧ opened.2 = .success ∧ traced.2 = .success ∧
    remembered.2 = .success ∧ logged.2 = .success

/-- What of a process the results of the stages depend on. -/
structure Alike (left right : Process) : Prop where
  flags : left.flags = right.flags
  rootPath : left.rootPath = right.rootPath
  defaultRoot : left.defaultRoot = right.defaultRoot
  disk : left.disk = right.disk

section Alike

variable {platform : Platform} {manager : Option HeapstoreConfig}
  {calls : InitCalls} {left right : Process}

theorem getRoot_alike (alike : Alike left right) :
    Alike (getRoot platform left).1 (getRoot platform right).1 ∧
      (getRoot platform left).2 = (getRoot platform right).2 := by
  obtain ⟨flags, rootPath, defaultRoot, disk⟩ := alike
  unfold getRoot getDefaultRoot
  rw [rootPath, defaultRoot]
  split
  · cases right.defaultRoot with
    | none => exact ⟨⟨flags, rfl, rfl, disk⟩, rfl⟩
    | some root => exact ⟨⟨flags, rfl, defaultRoot, disk⟩, rfl⟩
  · exact ⟨⟨flags, rootPath, defaultRoot, disk⟩, rfl⟩

theorem arm_alike (same : left.flags = right.flags)
    (defaultRoot : left.defaultRoot = right.defaultRoot)
    (disk : left.disk = right.disk) :
    Alike (arm platform manager calls left)
        (arm platform manager calls right) ∧
      (configure platform manager calls left).rootPath =
        (configure platform manager calls right).rootPath := by
  have roots : left.root platform = right.root platform := by
    unfold Process.root
    rw [defaultRoot]
  have flags := congrArg (fun flags => { flags with store := true }) same
  unfold arm configure
  rw [applyUserConfig_eq, applyUserConfig_eq, setDefaultConfig_eq,
    setDefaultConfig_eq, roots]
  exact ⟨⟨flags, rfl, rfl, disk⟩, rfl⟩

theorem schemaStage_alike (alike : Alike left right) :
    (schemaStage platform calls left).2 = (schemaStage platform calls right).2 ∧
      Alike (schemaStage platform calls left).1
        (schemaStage platform calls right).1 := by
  obtain ⟨⟨flags, rootPath, defaultRoot, disk⟩, root⟩ :=
    @getRoot_alike platform left right alike
  have store : (getRoot platform left).1.initialized =
      (getRoot platform right).1.initialized := congrArg Flags.store flags
  have kept : (schemaStage platform calls left).1.flags =
      (schemaStage platform calls right).1.flags :=
    schemaStage_flags.trans (alike.flags.trans schemaStage_flags.symm)
  have others : (schemaStage platform calls left).2 =
        (schemaStage platform calls right).2 ∧
      (schemaStage platform calls left).1.rootPath =
        (schemaStage platform calls right).1.rootPath ∧
      (schemaStage platform calls left).1.defaultRoot =
        (schemaStage platform calls right).1.defaultRoot ∧
      (schemaStage platform calls left).1.disk =
        (schemaStage platform calls right).1.disk := by
    unfold schemaStage
    simp only
    rw [root, store, disk]
    split
    · exact ⟨rfl, rootPath, defaultRoot, rfl⟩
    · split
      · exact ⟨rfl, rootPath, defaultRoot, rfl⟩
      · exact ⟨rfl, rootPath, defaultRoot, rfl⟩
  exact ⟨others.1, kept, others.2.1, others.2.2.1, others.2.2.2⟩

theorem registryInit_alike {root dataDir : Option Bytes}
    {opened : Bytes → Option Database} {succeeds : Nat → Bool}
    {first second : SqlRegistry} (same : first.initialized = second.initialized) :
    (registryInit root dataDir opened succeeds first).2 =
      (registryInit root dataDir opened succeeds second).2 := by
  unfold registryInit
  rw [same]
  split
  · rfl
  · simp only

theorem registryStage_alike (alike : Alike left right)
    (stopped : right.flags.registry = false) :
    (registryStage platform calls left).2 =
        (registryStage platform calls right).2 ∧
      Alike (registryStage platform calls left).1
        (registryStage platform calls right).1 := by
  obtain ⟨⟨flags, rootPath, defaultRoot, disk⟩, root⟩ :=
    @getRoot_alike platform left right alike
  have registry : (getRoot platform left).1.registry.initialized =
      (getRoot platform right).1.registry.initialized :=
    congrArg Flags.registry flags
  have result : (registryStage platform calls left).2 =
      (registryStage platform calls right).2 := by
    unfold registryStage
    simp only
    rw [root, disk]
    exact registryInit_alike registry
  have written : (registryStage platform calls left).1.disk =
      (registryStage platform calls right).1.disk := by
    unfold registryStage
    simp only
    rw [root, disk, registry]
  have kept : (registryStage platform calls left).1.flags =
      (registryStage platform calls right).1.flags := by
    rw [registryStage_flags stopped, ← result, ← alike.flags]
    exact registryStage_flags (alike.flags ▸ stopped)
  exact ⟨result, kept, rootPath, defaultRoot, written⟩

theorem traceStage_alike (alike : Alike left right)
    (stopped : right.flags.trace = false) :
    (traceStage platform calls left).2 =
        (traceStage platform calls right).2 ∧
      Alike (traceStage platform calls left).1
        (traceStage platform calls right).1 := by
  obtain ⟨⟨flags, rootPath, defaultRoot, disk⟩, root⟩ :=
    @getRoot_alike platform left right alike
  have trace : (getRoot platform left).1.trace.initialized =
      (getRoot platform right).1.trace.initialized :=
    congrArg Flags.trace flags
  have result : (traceStage platform calls left).2 =
      (traceStage platform calls right).2 := by
    unfold traceStage traceInit
    simp only
    rw [root, trace]
    split
    · rfl
    · split <;> rfl
  have kept : (traceStage platform calls left).1.flags =
      (traceStage platform calls right).1.flags := by
    rw [traceStage_flags stopped, ← result, ← alike.flags]
    exact traceStage_flags (alike.flags ▸ stopped)
  exact ⟨result, kept, rootPath, defaultRoot, disk⟩

theorem memoryStage_alike (alike : Alike left right)
    (stopped : right.flags.memory = false) :
    (memoryStage platform calls left).2 =
        (memoryStage platform calls right).2 ∧
      Alike (memoryStage platform calls left).1
        (memoryStage platform calls right).1 := by
  obtain ⟨⟨flags, rootPath, defaultRoot, disk⟩, root⟩ :=
    @getRoot_alike platform left right alike
  have memory : (getRoot platform left).1.memory.initialized =
      (getRoot platform right).1.memory.initialized :=
    congrArg Flags.memory flags
  have result : (memoryStage platform calls left).2 =
      (memoryStage platform calls right).2 := by
    unfold memoryStage memoryInit
    simp only
    rw [root, memory]
    split
    · rfl
    · split
      · rfl
      · split <;> rfl
  have kept : (memoryStage platform calls left).1.flags =
      (memoryStage platform calls right).1.flags := by
    rw [memoryStage_flags stopped, ← result, ← alike.flags]
    exact memoryStage_flags (alike.flags ▸ stopped)
  exact ⟨result, kept, rootPath, defaultRoot, disk⟩

theorem logStage_alike (alike : Alike left right) :
    (logStage platform calls left).2 = (logStage platform calls right).2 := by
  have log : left.log.initialized = right.log.initialized :=
    congrArg Flags.log alike.flags
  unfold logStage logInit
  simp only
  rw [log]
  split
  · rfl
  · split <;> rfl

theorem stage_result {ran other : Process × HeapstoreError}
    {undo : Process → Process} {next : Process → Process × HeapstoreError}
    (result : ran.2 = other.2)
    (later : other.2 = .success → (next ran.1).2 = (next other.1).2) :
    (stage ran undo next).2 = (stage other undo next).2 := by
  unfold stage
  rw [result]
  by_cases done : other.2 = .success
  · rw [if_pos done, if_pos done]
    exact later done
  · rw [if_neg done, if_neg done]

theorem startStages_alike (alike : Alike left right)
    (armed : right.flags = { Flags.all false with store := true }) :
    (startStages platform calls left).2 =
      (startStages platform calls right).2 := by
  unfold startStages
  obtain ⟨result, migrated⟩ := @schemaStage_alike platform calls left right alike
  have schema := @schemaStage_flags platform calls right
  rw [armed] at schema
  apply stage_result result
  intro _
  have stopped := congrArg Flags.registry schema
  obtain ⟨result, opened⟩ :=
    @registryStage_alike platform calls _ _ migrated stopped
  have registry := @registryStage_flags platform calls _ stopped
  rw [schema] at registry
  apply stage_result result
  intro _
  have stopped := congrArg Flags.trace registry
  obtain ⟨result, traced⟩ := @traceStage_alike platform calls _ _ opened stopped
  have trace := @traceStage_flags platform calls _ stopped
  rw [registry] at trace
  apply stage_result result
  intro _
  have stopped := congrArg Flags.memory trace
  obtain ⟨result, remembered⟩ :=
    @memoryStage_alike platform calls _ _ traced stopped
  apply stage_result result
  intro _
  apply stage_result (@logStage_alike platform calls _ _ remembered)
  intro _
  rfl

/-- Two stores that are stopped start with the same result on the same disk. -/
theorem heapstoreInit_alike (stopped : left.initialized = false)
    (inStep : left.InStep) (down : right.flags = Flags.all false)
    (defaultRoot : left.defaultRoot = right.defaultRoot)
    (disk : left.disk = right.disk) :
    (heapstoreInit platform manager calls left).2 =
      (heapstoreInit platform manager calls right).2 := by
  have same : left.flags = right.flags := by
    rw [down]
    unfold Process.InStep at inStep
    rw [inStep, stopped]
  obtain ⟨alike, rootPath⟩ := @arm_alike platform manager calls left right same
    defaultRoot disk
  have armed : (arm platform manager calls right).flags =
      { Flags.all false with store := true } := by
    rw [← down, ← @configure_flags platform manager calls right]
    rfl
  rw [heapstoreInit_eq, heapstoreInit_eq, rootPath, stopped,
    show right.initialized = false from congrArg Flags.store down]
  simp only [Bool.false_eq_true, if_false]
  split
  · rfl
  · exact startStages_alike alike armed

theorem stage_success_iff {ran : Process × HeapstoreError}
    {undo : Process → Process} {next : Process → Process × HeapstoreError} :
    (stage ran undo next).2 = .success ↔
      ran.2 = .success ∧ (next ran.1).2 = .success := by
  unfold stage
  by_cases done : ran.2 = .success
  · rw [if_pos done, and_iff_right done]
  · rw [if_neg done]
    exact iff_of_false done fun both => done both.1

theorem heapstoreInit_success_iff (stopped : left.initialized = false) :
    (heapstoreInit platform manager calls left).2 = .success ↔
      StagesSucceed platform manager calls left := by
  rw [heapstoreInit_eq, stopped]
  simp only [Bool.false_eq_true, if_false, StagesSucceed]
  by_cases created : createDirectoryStructure calls.structureEnsured
      (configure platform manager calls left).rootPath = .success
  · rw [if_neg (not_not.mpr created), and_iff_right created]
    unfold startStages
    rw [stage_success_iff, stage_success_iff, stage_success_iff,
      stage_success_iff, stage_success_iff, and_iff_left rfl]
  · rw [if_pos created]
    exact iff_of_false created fun both => created both.1

end Alike

/-- Over every run of starts and stops the store is ready exactly while its four
subsystems run, and none of them runs while it is not.  A store that is not
ready starts whenever every stage succeeds for a store that never started
anything. -/
theorem core_runs_lifecycle (disk : Disk) (history : List CoreCall) :
    let process := final coreStep (freshProcess disk) history
    (heapstoreReady process = true ↔
        process.registry.initialized = true ∧
          process.trace.initialized = true ∧
          process.memory.initialized = true ∧ process.log.initialized = true) ∧
      (heapstoreReady process = false →
        (process.registry.initialized = false ∧
            process.trace.initialized = false ∧
            process.memory.initialized = false ∧
            process.log.initialized = false) ∧
          ∀ platform manager calls,
            (heapstoreInit platform manager calls process).2 = .success ↔
              StagesSucceed platform manager calls process.unstarted) := by
  intro process
  have inStep := core_runs_inStep disk history
  have registry : process.registry.initialized = process.initialized :=
    congrArg Flags.registry inStep
  have trace : process.trace.initialized = process.initialized :=
    congrArg Flags.trace inStep
  have memory : process.memory.initialized = process.initialized :=
    congrArg Flags.memory inStep
  have log : process.log.initialized = process.initialized :=
    congrArg Flags.log inStep
  rw [registry, trace, memory, log]
  unfold heapstoreReady
  constructor
  · constructor
    · intro ready
      exact ⟨ready, ready, ready, ready⟩
    · intro all
      exact all.1
  · intro stopped
    refine ⟨⟨stopped, stopped, stopped, stopped⟩, ?_⟩
    intro platform manager calls
    have same := @heapstoreInit_alike platform manager calls process
      process.unstarted stopped inStep rfl rfl rfl
    rw [same]
    exact heapstoreInit_success_iff rfl

end Heapstore.Core
