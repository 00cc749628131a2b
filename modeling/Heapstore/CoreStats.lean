/-
The disk usage that the store reports.

Five of the seven directories of the store are measured, each into a part of its
own, and all of them into the total.
-/

import Heapstore.CoreInit
import Heapstore.DirectorySize

namespace Heapstore.Core

open ByteText FileTrees Cleanup DirectorySize

inductive PathType where
  | kernel
  | logs
  | registry
  | services
  | traces
  | kernelIpc
  | kernelMemory
  deriving DecidableEq

/-- `heapstore_core_path_order` -/
def corePathOrder : List PathType :=
  [.kernel, .logs, .registry, .services, .traces, .kernelIpc, .kernelMemory]

def getPathName : PathType → Option String
  | .logs => some "logs"
  | .registry => some "registry"
  | .traces => some "traces"
  | .kernelIpc => some "kernel/ipc"
  | .kernelMemory => some "kernel/memory"
  | _ => none

structure HeapstoreStats where
  totalDiskUsageBytes : UInt64
  logUsageBytes : UInt64
  registryUsageBytes : UInt64
  traceUsageBytes : UInt64
  ipcUsageBytes : UInt64
  memoryUsageBytes : UInt64
  logFileCount : UInt32
  traceFileCount : UInt32
  deriving DecidableEq

def zeroedStats : HeapstoreStats where
  totalDiskUsageBytes := 0
  logUsageBytes := 0
  registryUsageBytes := 0
  traceUsageBytes := 0
  ipcUsageBytes := 0
  memoryUsageBytes := 0
  logFileCount := 0
  traceFileCount := 0

def updateStatsForPath (stats : HeapstoreStats) (type : PathType)
    (usage : DirTotals) : HeapstoreStats :=
  match type with
  | .logs =>
      { stats with
          logUsageBytes := stats.logUsageBytes + usage.size
          logFileCount := stats.logFileCount + usage.count }
  | .registry =>
      { stats with registryUsageBytes := stats.registryUsageBytes + usage.size }
  | .traces =>
      { stats with
          traceUsageBytes := stats.traceUsageBytes + usage.size
          traceFileCount := stats.traceFileCount + usage.count }
  | .kernelIpc => { stats with ipcUsageBytes := stats.ipcUsageBytes + usage.size }
  | .kernelMemory =>
      { stats with memoryUsageBytes := stats.memoryUsageBytes + usage.size }
  | _ => stats

/-- The path that is measured, in a buffer of 512 bytes. -/
def usagePath (root : Bytes) (name : String) : Bytes :=
  printTo 512 (root ++ slash :: ofString name)

/-- A round of the loop; the result of the measurement is not looked at. -/
def statsForPath (volume : Volume FileStat) (fuel : Nat) (root : Bytes)
    (stats : HeapstoreStats) (type : PathType) : Option HeapstoreStats :=
  match getPathName type with
  | none => some stats
  | some name =>
      (dirSize volume fuel (usagePath root name) DirTotals.zero).map
        fun measured =>
          let updated := updateStatsForPath stats type measured.1
          { updated with
              totalDiskUsageBytes :=
                updated.totalDiskUsageBytes + measured.1.size }

structure StatsAnswer where
  process : Process
  stats : Option HeapstoreStats
  error : HeapstoreError

/-- `heapstore_get_stats` -/
def heapstoreGetStats (volume : Volume FileStat) (fuel : Nat)
    (platform : Platform) (stats : Option HeapstoreStats) (process : Process) :
    Option StatsAnswer :=
  if process.initialized = false then
    some { process := process, stats := stats, error := .errNotInitialized }
  else
    match stats with
    | none =>
        some { process := process, stats := none, error := .errInvalidParam }
    | some _ =>
        let rooted := getRoot platform process
        (corePathOrder.foldlM (statsForPath volume fuel rooted.2)
          zeroedStats).map fun measured =>
            { process := rooted.1, stats := some measured, error := .success }

section Parts

variable {volume : Volume FileStat} {fuel : Nat} {root : Bytes}
  {stats next : HeapstoreStats}

/-- What every round keeps, the loop keeps. -/
theorem statsForPath_keeps {Keeps : HeapstoreStats → Prop}
    {types : List PathType}
    (round : ∀ type ∈ types, ∀ stats next, Keeps stats →
      statsForPath volume fuel root stats type = some next → Keeps next)
    (kept : Keeps stats)
    (ran : types.foldlM (statsForPath volume fuel root) stats = some next) :
    Keeps next := by
  induction types generalizing stats with
  | nil =>
      cases ran
      exact kept
  | cons type types ih =>
      obtain ⟨here, later⟩ := List.forall_mem_cons.mp round
      rw [List.foldlM_cons] at ran
      obtain ⟨middle, first, rest⟩ := Option.bind_eq_some_iff.mp ran
      exact ih later (here stats middle kept first) rest

/-- The bytes of the parts. -/
def HeapstoreStats.parts (stats : HeapstoreStats) : UInt64 :=
  stats.logUsageBytes + stats.registryUsageBytes + stats.traceUsageBytes +
    stats.ipcUsageBytes + stats.memoryUsageBytes

theorem statsForPath_total (type : PathType)
    (exact_ : stats.totalDiskUsageBytes = stats.parts)
    (ran : statsForPath volume fuel root stats type = some next) :
    next.totalDiskUsageBytes = next.parts := by
  unfold statsForPath at ran
  cases type with
  | kernel =>
      cases ran
      exact exact_
  | services =>
      cases ran
      exact exact_
  | logs | registry | traces | kernelIpc | kernelMemory =>
      obtain ⟨measured, -, rfl⟩ := Option.map_eq_some_iff.mp ran
      unfold HeapstoreStats.parts at exact_ ⊢
      simp only [updateStatsForPath]
      rw [exact_]
      ac_rfl

/-- The total is the sum of the parts. -/
theorem heapstoreGetStats_total {platform : Platform} {process : Process}
    {before : Option HeapstoreStats} {answer : StatsAnswer}
    (ran : heapstoreGetStats volume fuel platform before process = some answer)
    (succeeded : answer.error = .success) :
    ∃ stats, answer.stats = some stats ∧
      stats.totalDiskUsageBytes = stats.parts := by
  unfold heapstoreGetStats at ran
  split at ran
  · cases ran
    cases succeeded
  · cases before with
    | none =>
        cases ran
        cases succeeded
    | some before =>
        obtain ⟨stats, looped, rfl⟩ := Option.map_eq_some_iff.mp ran
        refine ⟨stats, rfl, ?_⟩
        apply statsForPath_keeps _ _ looped
        · intro type _ stats next kept round
          exact statsForPath_total type kept round
        · decide

/-- The part of the logs is the size of the directory below the root. -/
theorem heapstoreGetStats_logs {platform : Platform} {process : Process}
    (ready : process.initialized = true) {before : HeapstoreStats}
    {answer : StatsAnswer}
    (ran : heapstoreGetStats volume fuel platform (some before) process =
      some answer) :
    ∃ measured stats,
      dirSize volume fuel (usagePath (getRoot platform process).2 "logs")
          DirTotals.zero = some measured ∧
        answer.stats = some stats ∧ answer.error = .success ∧
        stats.logUsageBytes = measured.1.size ∧
        stats.logFileCount = measured.1.count := by
  unfold heapstoreGetStats at ran
  rw [if_neg (by rw [ready]; nofun)] at ran
  obtain ⟨stats, looped, rfl⟩ := Option.map_eq_some_iff.mp ran
  have split : corePathOrder =
      .kernel :: .logs :: [.registry, .services, .traces, .kernelIpc,
        .kernelMemory] := rfl
  rw [split, List.foldlM_cons, Option.bind_eq_bind] at looped
  change (List.foldlM _ zeroedStats _) = _ at looped
  rw [List.foldlM_cons, Option.bind_eq_bind] at looped
  obtain ⟨logged, first, rest⟩ := Option.bind_eq_some_iff.mp looped
  obtain ⟨measured, sized, rfl⟩ := Option.map_eq_some_iff.mp first
  refine ⟨measured, stats, sized, rfl, rfl, ?_⟩
  refine @statsForPath_keeps volume fuel _ _ _ (fun stats =>
    stats.logUsageBytes = measured.1.size ∧
      stats.logFileCount = measured.1.count) _ ?_ ?_ rest
  · intro type member stats next kept round
    unfold statsForPath at round
    cases type with
    | logs => simp at member
    | kernel =>
        cases round
        exact kept
    | services =>
        cases round
        exact kept
    | registry | traces | kernelIpc | kernelMemory =>
        obtain ⟨other, -, rfl⟩ := Option.map_eq_some_iff.mp round
        exact kept
  · exact ⟨UInt64.zero_add _, UInt32.zero_add _⟩

end Parts

end Heapstore.Core
