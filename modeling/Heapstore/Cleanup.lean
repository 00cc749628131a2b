/-
The retention cleanup of the log and trace directories.

Both parts share one preamble and clean a list of directories with one cutoff.
A dry run differs from a real run in the reported number alone, so it is
faithful only where the real run finds nothing to delete.
-/

import Heapstore.CorePaths
import Heapstore.DirectoryClean

namespace Heapstore.Core

open ByteText Sweep Cleanup Trace Log

structure CleanupConfig where
  enableAutoCleanup : Bool
  logRetentionDays : UInt32
  traceRetentionDays : UInt32

/-- `heapstore_core_get_cleanup_config`; the windows become unsigned here and
signed again at the calls. -/
def coreGetCleanupConfig (process : Process) : CleanupConfig where
  enableAutoCleanup := process.config.enableAutoCleanup
  logRetentionDays := process.config.logRetentionDays.toUInt32
  traceRetentionDays := process.config.traceRetentionDays.toUInt32

structure Cleaned where
  tree : FileTree
  freed : Option UInt64
  error : HeapstoreError

/-- A cleanup of directories after the shared preamble. -/
def partCleanup (initialized : Bool) (dirs : List Bytes) (now : Int)
    (daysToKeep : Int32) (freedBytes : Option UInt64) (tree : FileTree) :
    Cleaned :=
  let checked := preClean initialized daysToKeep now freedBytes
  match checked.2 with
  | .error status => { tree := tree, freed := checked.1, error := status }
  | .ok cutoff =>
      let last := cleanDirs cutoff dirs checked.1 tree
      { tree := last.1, freed := last.2, error := .success }

def logSubPath (base : Bytes) (sub : String) : Bytes :=
  printTo logMaxPath (base ++ ofString "/" ++ ofString sub)

def logDirs (base : Bytes) : List Bytes :=
  base :: ["kernel", "services", "apps"].map (logSubPath base)

def spansPath (tracePath : Bytes) : Bytes :=
  printTo traceMaxPath (tracePath ++ ofString "/spans")

/-- `heapstore_log_cleanup`. -/
def logCleanup (base : Bytes) (now : Int) (daysToKeep : Int32)
    (freedBytes : Option UInt64) (log : LogState) (tree : FileTree) : Cleaned :=
  partCleanup log.initialized (logDirs base) now daysToKeep freedBytes tree

/-- `heapstore_trace_cleanup`. -/
def traceCleanup (now : Int) (daysToKeep : Int32) (freedBytes : Option UInt64)
    (trace : TraceState) (tree : FileTree) : Cleaned :=
  partCleanup trace.initialized [spansPath trace.tracePath] now daysToKeep
    freedBytes tree

/-- What each part reads from the clock. -/
structure CleanupClock where
  log : Int
  trace : Int

/-- The bytes of a part count only if it succeeded. -/
def Cleaned.counted (cleaned : Cleaned) : UInt64 :=
  if cleaned.error = .success then cleaned.freed.getD 0 else 0

/-- `heapstore_cleanup`; the flag is read after both parts have run. -/
def heapstoreCleanup (platform : Platform) (clock : CleanupClock)
    (dryRun : Bool) (freedBytes : Option UInt64) (process : Process)
    (tree : FileTree) : Cleaned :=
  let config := coreGetCleanupConfig process
  if process.initialized = false then
    { tree := tree, freed := freedBytes, error := .errNotInitialized }
  else if config.enableAutoCleanup = false then
    { tree := tree, freed := freedBytes.map fun _ => 0, error := .success }
  else
    let logged := logCleanup (logBasePath platform.env platform.dataDir)
      clock.log config.logRetentionDays.toInt32 (some 0) process.log tree
    let traced := traceCleanup clock.trace config.traceRetentionDays.toInt32
      (some 0) process.trace logged.tree
    let totalFreed := logged.counted + traced.counted
    { tree := traced.tree
      freed := freedBytes.map fun _ => if dryRun then 0 else totalFreed
      error :=
        if logged.error = .success then traced.error else logged.error }

/-! ### What a cleanup visits -/

def retentionCutoff (days : Int32) (now : Int) : Int :=
  now - days.toInt * 86400

/-- The visits of a part: none if its module is not started or if it keeps its
files for no positive number of days. -/
def partPlaces (initialized : Bool) (dirs : List Bytes) (now : Int)
    (daysToKeep : Int32) : List CleanPlace :=
  if initialized = true ∧ 0 < daysToKeep then
    placesAt (retentionCutoff daysToKeep now) dirs
  else []

def logPlaces (platform : Platform) (clock : CleanupClock)
    (process : Process) : List CleanPlace :=
  partPlaces process.log.initialized
    (logDirs (logBasePath platform.env platform.dataDir)) clock.log
    process.config.logRetentionDays

def tracePlaces (clock : CleanupClock) (process : Process) : List CleanPlace :=
  partPlaces process.trace.initialized [spansPath process.trace.tracePath]
    clock.trace process.config.traceRetentionDays

def cleanupPlaces (platform : Platform) (clock : CleanupClock)
    (process : Process) : List CleanPlace :=
  logPlaces platform clock process ++ tracePlaces clock process

theorem partCleanup_outcome (initialized : Bool) (dirs : List Bytes)
    (now : Int) (daysToKeep : Int32) (tree : FileTree) :
    let places := partPlaces initialized dirs now daysToKeep
    let result := partCleanup initialized dirs now daysToKeep (some 0) tree
    result.tree = tree.cleaned places ∧
      result.counted = bytesOf (tree.deleted places) ∧
      result.error =
        if initialized then .success else .errNotInitialized := by
  intro places result
  cases initialized with
  | false =>
      refine ⟨rfl, rfl, ?_⟩
      rw [if_neg Bool.false_ne_true]
      rfl
  | true =>
      by_cases kept : daysToKeep ≤ 0
      · have noPlace : places = [] := if_neg fun both =>
          Int32.not_le.mpr both.2 kept
        have stopped : result =
            { tree := tree, freed := some 0, error := .success } := by
          unfold result partCleanup preClean
          rw [if_neg (by decide), if_pos kept]
          rfl
        rw [noPlace, stopped]
        exact ⟨rfl, rfl, rfl⟩
      · have visits : places = dirs.map fun dir =>
            { dir := dir, cutoff := retentionCutoff daysToKeep now } :=
          if_pos ⟨rfl, Int32.not_le.mp kept⟩
        have ran : result =
            { tree := (cleanDirs (retentionCutoff daysToKeep now) dirs
                (some 0) tree).1
              freed := (cleanDirs (retentionCutoff daysToKeep now) dirs
                (some 0) tree).2
              error := .success } := by
          unfold result partCleanup preClean
          rw [if_neg (by decide), if_neg kept]
          rfl
        rw [ran, visits, cleanDirs_eq]
        refine ⟨rfl, ?_, rfl⟩
        change 0 + bytesOf _ = bytesOf _
        exact UInt64.zero_add _

/-- A cleanup of a started store deletes what its visits delete, whether or not
the run is dry, and reports the bytes unless it is. -/
theorem heapstoreCleanup_outcome {process : Process}
    (ready : process.initialized = true)
    (enabled : process.config.enableAutoCleanup = true) (platform : Platform)
    (clock : CleanupClock) (dryRun : Bool) (freedBytes : Option UInt64)
    (tree : FileTree) :
    let places := cleanupPlaces platform clock process
    let result :=
      heapstoreCleanup platform clock dryRun freedBytes process tree
    result.tree = tree.cleaned places ∧
      result.freed = freedBytes.map fun _ =>
        if dryRun then 0 else bytesOf (tree.deleted places) := by
  intro places result
  let logged := logCleanup (logBasePath platform.env platform.dataDir)
    clock.log process.config.logRetentionDays (some 0) process.log tree
  let traced := traceCleanup clock.trace process.config.traceRetentionDays
    (some 0) process.trace logged.tree
  have both : result.tree = traced.tree ∧ result.freed =
      freedBytes.map fun _ =>
        if dryRun then 0 else logged.counted + traced.counted := by
    unfold result heapstoreCleanup
    simp only [coreGetCleanupConfig, ready, enabled, Bool.true_eq_false,
      if_false]
    exact ⟨rfl, rfl⟩
  obtain ⟨logTree, logCounted, -⟩ :
      logged.tree = tree.cleaned (logPlaces platform clock process) ∧
        logged.counted =
          bytesOf (tree.deleted (logPlaces platform clock process)) ∧ _ :=
    partCleanup_outcome ..
  obtain ⟨traceTree, traceCounted, -⟩ :
      traced.tree = logged.tree.cleaned (tracePlaces clock process) ∧
        traced.counted =
          bytesOf (logged.tree.deleted (tracePlaces clock process)) ∧ _ :=
    partCleanup_outcome ..
  have total : bytesOf (tree.deleted places) =
      logged.counted + traced.counted := by
    rw [logCounted, traceCounted, logTree, ← bytesOf_append,
      ← FileTree.deleted_append]
    rfl
  refine ⟨?_, total ▸ both.2⟩
  rw [both.1, traceTree, logTree, ← FileTree.cleaned_append]
  rfl

/-- The flag does not change what is deleted. -/
theorem heapstoreCleanup_dryRun_tree {process : Process}
    (ready : process.initialized = true)
    (enabled : process.config.enableAutoCleanup = true) (platform : Platform)
    (clock : CleanupClock) (freedBytes other : Option UInt64)
    (tree : FileTree) :
    (heapstoreCleanup platform clock true freedBytes process tree).tree =
      (heapstoreCleanup platform clock false other process tree).tree :=
  (heapstoreCleanup_outcome ready enabled platform clock true freedBytes
    tree).1.trans
    (heapstoreCleanup_outcome ready enabled platform clock false other
      tree).1.symm

/-- A real run reports, as a word, the bytes that the directories lose. -/
theorem heapstoreCleanup_freed {process : Process}
    (ready : process.initialized = true)
    (enabled : process.config.enableAutoCleanup = true) (platform : Platform)
    (clock : CleanupClock) (before : UInt64) (tree : FileTree)
    {directories : Finset Nat}
    (covered : ∀ place ∈ cleanupPlaces platform clock process, ∀ index,
      tree.opened place.dir = some index → index ∈ directories) :
    let result :=
      heapstoreCleanup platform clock false (some before) process tree
    ∃ lost, result.freed = some (UInt64.ofNat lost) ∧
      weighAll DirEntry.bytes directories tree.entries =
        weighAll DirEntry.bytes directories result.tree.entries + lost := by
  intro result
  obtain ⟨cleaned, freed⟩ := heapstoreCleanup_outcome ready enabled platform
    clock false (some before) tree
  refine ⟨_, freed, ?_⟩
  change _ = weighAll DirEntry.bytes directories
    (heapstoreCleanup platform clock false (some before) process tree).tree.entries
      + _
  rw [cleaned]
  exact FileTree.bytes_cleaned covered

/-- A file younger than the retention of its part survives every cleanup. -/
theorem heapstoreCleanup_keeps {process : Process}
    (ready : process.initialized = true)
    (enabled : process.config.enableAutoCleanup = true) (platform : Platform)
    (clock : CleanupClock) (dryRun : Bool) (freedBytes : Option UInt64)
    {tree : FileTree} {index : Nat} {entry : DirEntry}
    (present : entry ∈ tree.entries index)
    (young : ∀ place ∈ cleanupPlaces platform clock process,
      tree.opened place.dir = some index →
        entry.expired place.cutoff = false) :
    entry ∈ (heapstoreCleanup platform clock dryRun freedBytes process
      tree).tree.entries index := by
  rw [(heapstoreCleanup_outcome ready enabled platform clock dryRun freedBytes
    tree).1]
  exact FileTree.cleaned_keeps present young

/-- Directories that no visited path opens keep their entries. -/
theorem heapstoreCleanup_elsewhere {process : Process}
    (ready : process.initialized = true)
    (enabled : process.config.enableAutoCleanup = true) (platform : Platform)
    (clock : CleanupClock) (dryRun : Bool) (freedBytes : Option UInt64)
    {tree : FileTree} {index : Nat}
    (elsewhere : ∀ place ∈ cleanupPlaces platform clock process,
      tree.opened place.dir ≠ some index) :
    (heapstoreCleanup platform clock dryRun freedBytes process
      tree).tree.entries index = tree.entries index := by
  rw [(heapstoreCleanup_outcome ready enabled platform clock dryRun freedBytes
    tree).1]
  exact FileTree.cleaned_elsewhere elsewhere

/-! ### Dry runs -/

/-- A dry run deletes nothing and reports what a real run frees. -/
def DryRunFaithful (platform : Platform) (clock : CleanupClock)
    (process : Process) (tree : FileTree) : Prop :=
  ∀ before other : UInt64,
    let dry := heapstoreCleanup platform clock true (some before) process tree
    let real := heapstoreCleanup platform clock false (some other) process tree
    dry.tree = tree ∧ dry.freed = real.freed

theorem heapstoreCleanup_dryRun_iff {process : Process}
    (ready : process.initialized = true)
    (enabled : process.config.enableAutoCleanup = true) (platform : Platform)
    (clock : CleanupClock) (tree : FileTree) :
    DryRunFaithful platform clock process tree ↔
      ∀ place ∈ cleanupPlaces platform clock process,
        ∀ entry ∈ tree.listing place.dir,
          entry.removable place.cutoff = false := by
  have outcome (dryRun : Bool) (before : UInt64) :=
    heapstoreCleanup_outcome ready enabled platform clock dryRun
      (some before) tree
  rw [← FileTree.cleaned_eq_self_iff]
  constructor
  · intro faithful
    rw [← (outcome true 0).1]
    exact (faithful 0 0).1
  · intro unchanged before other
    refine ⟨(outcome true before).1.trans unchanged, ?_⟩
    rw [(outcome true before).2, (outcome false other).2,
      FileTree.deleted_eq_nil unchanged]
    rfl

/-- A store that was started with the default configuration. -/
def startedProcess : Process :=
  (heapstoreInit plainPlatform
    (some (defConfig (some (ofString "/srv/store")))) .ok
    (freshProcess fun _ => none)).1

def serviceLog : DirEntry where
  name := ofString "db.log"
  regular := true
  stat := some { modified := 0, size := 1024 }
  unlinks := true

def serviceLogDir : Bytes :=
  ofString "/var/lib/agentrt/heapstore/logs/services"

/-- The service logs hold one file of 1024 bytes. -/
def oneServiceLog : FileTree where
  directory := fun path => if path = serviceLogDir then some 0 else none
  entries := fun _ => [serviceLog]

def afterDays (days : Nat) : CleanupClock where
  log := days * 86400
  trace := days * 86400

theorem heapstoreCleanup_dryRun_iff_week :
    DryRunFaithful plainPlatform (afterDays 7) startedProcess oneServiceLog :=
  (heapstoreCleanup_dryRun_iff rfl rfl plainPlatform (afterDays 7)
    oneServiceLog).mpr (by decide)

/-- A dry run on the eighth day deletes the file. -/
theorem heapstoreCleanup_dryRun_deletes :
    ¬∀ (platform : Platform) (clock : CleanupClock) (process : Process)
      (tree : FileTree), process.initialized = true →
      process.config.enableAutoCleanup = true →
      DryRunFaithful platform clock process tree := by
  intro always
  have unchanged := (always plainPlatform (afterDays 8) startedProcess
    oneServiceLog rfl rfl 0 0).1
  have entries := congrArg (fun tree => tree.entries 0) unchanged
  revert entries
  decide

end Heapstore.Core
