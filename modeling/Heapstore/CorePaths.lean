/-
Where the subsystems keep their files.

Every module prints its own paths into its own buffers.  The registry copies
the root into a shorter buffer than the others, and the log module resolves a
root of its own from the environment.
-/

import Heapstore.CoreStages
import Mathlib.Data.List.TakeDrop

namespace Heapstore.Core

open ByteText CivilTime
open Migration RegistrySqlite Trace Memory Log

/-- All paths in use are the ones below the root, each in full length. -/
structure PathsUnder (platform : Platform) (root : Bytes) (started : Process) :
    Prop where
  whole : started.rootPath = root
  directories : ∀ entry ∈ corePaths,
    belowPath started.rootPath entry.1 =
        root ++ (ofString "/" ++ ofString entry.1) ∧
      ∀ sub ∈ entry.2,
        belowPath (belowPath started.rootPath entry.1) sub =
          root ++ (ofString "/" ++ ofString entry.1) ++
            (ofString "/" ++ ofString sub)
  registry : started.registry.dbPath = root ++ ofString "/registry/registry.db"
  migration : migDbPath started.rootPath =
    root ++ ofString "/registry/registry.db"
  backup : backupPath (migDbPath started.rootPath) =
    root ++ ofString "/registry/registry.db.pre_migration_bak"
  version : versionFilePath started.rootPath = root ++ ofString "/.schema_version"
  traces : started.trace.tracePath = root ++ ofString "/traces"
  spans : ∀ time, (spanFileName time).length ≤ 64 →
    spanFilePath started.trace.tracePath time =
      root ++ (ofString "/traces/spans/" ++ spanFileName time)
  memory : started.memory.memoryPath = root ++ ofString "/kernel/memory"
  tables : ∀ name ∈ memorySubdirs,
    memorySubPath started.memory.memoryPath name =
      root ++ ofString "/kernel/memory" ++ (ofString "/" ++ ofString name)
  mainLog : started.log.mainLogFile =
    some (root ++ ofString "/logs/kernel/agentrt.log")
  serviceLogs : ∀ service : CharArray 64,
    serviceLogPath (logBasePath platform.env platform.dataDir) service =
      root ++ (ofString "/logs/services/" ++ service.text ++ ofString ".log")

/-! ### The registry path -/

theorem registryRootPath_of_ne {root : Bytes} (rooted : root ≠ [])
    (dataDir : Option Bytes) :
    registryRootPath (some root) dataDir = printTo 256 root := by
  unfold registryRootPath
  exact if_pos rooted

theorem registryPath_eq {platform : Platform} {root : Bytes}
    (rooted : root ≠ []) :
    registryPath platform root =
      printTo 256 root ++ ofString "/registry/registry.db" := by
  have short := length_printTo_lt (by decide : 0 < 256) root
  have directory : printTo 512 (printTo 256 root ++ ofString "/registry") =
      printTo 256 root ++ ofString "/registry" := by
    apply printTo_of_fits
    rw [List.length_append]
    change (printTo 256 root).length + 9 < 512
    omega
  unfold registryPath registryFilePath registryDirPath
  rw [registryRootPath_of_ne rooted, directory, printTo_of_fits,
    List.append_assoc]
  · rfl
  · rw [List.length_append, List.length_append]
    change (printTo 256 root).length + 9 + 12 < 512
    omega

theorem registryPath_whole {platform : Platform} {root whole : Bytes}
    (rooted : root ≠ [])
    (same : registryPath platform root =
      whole ++ ofString "/registry/registry.db") : whole.length ≤ 255 := by
  rw [registryPath_eq rooted] at same
  have kept := List.append_cancel_right same
  rw [← kept]
  have short := length_printTo_lt (by decide : 0 < 256) root
  omega

/-! ### The log path -/

theorem logRoot_of_mainLogPath {env : Option Bytes} {dataDir root : Bytes}
    (short : root.length ≤ 255)
    (same : mainLogPath (logBasePath env dataDir) =
      root ++ ofString "/logs/kernel/agentrt.log") :
    logRoot env dataDir = root := by
  have split : ofString "/logs/kernel/agentrt.log" =
      ofString "/logs" ++ ofString "/kernel/agentrt.log" := rfl
  rw [split, ← List.append_assoc] at same
  have full := eq_of_printTo same (by
    rw [List.length_append, List.length_append]
    change root.length + 5 + 19 < 511
    omega)
  have base := eq_of_printTo (List.append_cancel_right full) (by
    rw [List.length_append]
    change root.length + 5 < 511
    omega)
  exact List.append_cancel_right base

/-! ### Paths below a short root -/

section Short

variable {root : Bytes} (short : root.length ≤ 255)
include short

theorem printTo_below {name : Bytes} (fits : name.length ≤ 128) :
    printTo 512 (root ++ name) = root ++ name := by
  apply printTo_of_fits
  rw [List.length_append]
  omega

theorem belowPath_eq {name : String} (fits : (ofString name).length ≤ 127) :
    belowPath root name = root ++ (ofString "/" ++ ofString name) := by
  unfold belowPath
  rw [List.append_assoc]
  apply printTo_below short
  rw [List.length_append]
  change 1 + (ofString name).length ≤ 128
  omega

theorem belowPath_corePaths :
    ∀ entry ∈ corePaths,
      belowPath root entry.1 = root ++ (ofString "/" ++ ofString entry.1) ∧
        ∀ sub ∈ entry.2,
          belowPath (belowPath root entry.1) sub =
            root ++ (ofString "/" ++ ofString entry.1) ++
              (ofString "/" ++ ofString sub) := by
  have lengths : ∀ entry ∈ corePaths, (ofString entry.1).length ≤ 13 ∧
      ∀ sub ∈ entry.2, (ofString sub).length ≤ 11 := by
    decide
  intro entry member
  have outer := (lengths entry member).1
  have above : belowPath root entry.1 =
      root ++ (ofString "/" ++ ofString entry.1) :=
    belowPath_eq short (outer.trans (by decide))
  refine ⟨above, ?_⟩
  intro sub inside
  have inner := (lengths entry member).2 sub inside
  unfold belowPath at above ⊢
  rw [above]
  simp only [List.append_assoc]
  apply printTo_below short
  simp only [List.length_append]
  change 1 + ((ofString entry.1).length + (1 + (ofString sub).length)) ≤ 128
  omega

theorem registryPath_below {platform : Platform} (rooted : root ≠ []) :
    registryPath platform root = root ++ ofString "/registry/registry.db" := by
  rw [registryPath_eq rooted, printTo_of_fits (Nat.lt_succ_of_le short)]

theorem migDbPath_below :
    migDbPath root = root ++ ofString "/registry/registry.db" :=
  printTo_below short (by decide)

theorem backupPath_below :
    backupPath (migDbPath root) =
      root ++ ofString "/registry/registry.db.pre_migration_bak" := by
  unfold backupPath
  rw [migDbPath_below short, List.append_assoc]
  exact printTo_below short (by decide)

theorem versionFilePath_below :
    versionFilePath root = root ++ ofString "/.schema_version" := by
  have few : root.length < 496 := by omega
  rw [versionFilePath_of_short few, List.append_assoc]
  rfl

theorem traceBasePath_below : traceBasePath root = root ++ ofString "/traces" := by
  unfold traceBasePath
  rw [printTo_below short (by decide), printTo_below short (by decide)]

theorem spanFilePath_below {time : Tm} (name : (spanFileName time).length ≤ 64) :
    spanFilePath (traceBasePath root) time =
      root ++ (ofString "/traces/spans/" ++ spanFileName time) := by
  unfold spanFilePath
  rw [traceBasePath_below short, List.append_assoc, List.append_assoc,
    ← List.append_assoc (ofString "/traces")]
  apply printTo_below short
  rw [List.length_append]
  change 14 + (spanFileName time).length ≤ 128
  omega

theorem memoryBasePath_below (rooted : root ≠ []) (dataDir : Bytes) :
    memoryBasePath root dataDir = root ++ ofString "/kernel/memory" := by
  unfold memoryBasePath
  rw [if_pos rooted, printTo_below short (by decide),
    printTo_below short (by decide)]

theorem memorySubPath_below (rooted : root ≠ []) (dataDir : Bytes) :
    ∀ name ∈ memorySubdirs,
      memorySubPath (memoryBasePath root dataDir) name =
        root ++ ofString "/kernel/memory" ++ (ofString "/" ++ ofString name) := by
  have lengths : ∀ name ∈ memorySubdirs, (ofString name).length ≤ 11 := by
    decide
  intro name member
  have fits := lengths name member
  unfold memorySubPath
  rw [memoryBasePath_below short rooted, List.append_assoc, List.append_assoc]
  apply printTo_below short
  rw [List.length_append, List.length_append]
  change 14 + (1 + (ofString name).length) ≤ 128
  omega

theorem mainLogPath_below {env : Option Bytes} {dataDir : Bytes}
    (same : logRoot env dataDir = root) :
    mainLogPath (logBasePath env dataDir) =
      root ++ ofString "/logs/kernel/agentrt.log" := by
  unfold mainLogPath logBasePath
  rw [same, printTo_below short (by decide), List.append_assoc]
  exact printTo_below short (by decide)

theorem serviceLogPath_below {env : Option Bytes} {dataDir : Bytes}
    (same : logRoot env dataDir = root) (service : CharArray 64) :
    serviceLogPath (logBasePath env dataDir) service =
      root ++ (ofString "/logs/services/" ++ service.text ++ ofString ".log") := by
  have name := service.fits
  have split : ofString "/logs/services/" =
      ofString "/logs" ++ ofString "/services/" := rfl
  unfold serviceLogPath logBasePath
  rw [same, printTo_below short (by decide), split]
  simp only [List.append_assoc]
  apply printTo_below short
  simp only [List.length_append]
  change 5 + (10 + (service.text.length + 4)) ≤ 128
  omega

end Short

/-! ### All paths at once -/

theorem configure_rootPath {platform : Platform} {given : HeapstoreConfig}
    {calls : InitCalls} {process : Process} {root : Bytes}
    (configured : given.rootPath = some root) :
    (configure platform (some given) calls process).rootPath =
      printTo maxPathLen root := by
  unfold configure applyUserConfig mergeConfig
  simp only [configured]
  rfl

/-- The subsystems are stopped, as before the first start and after a shutdown. -/
def Process.Stopped (process : Process) : Prop :=
  process.registry.initialized = false ∧ process.trace.initialized = false ∧
    process.memory.initialized = false

theorem Started.pathsUnder {platform : Platform} {root : Bytes}
    {version : UInt32} {migrated opened : Disk} {before after : Process}
    (started : Started platform root version migrated opened before after)
    (stopped : before.Stopped) (rooted : root ≠ [])
    (short : root.length ≤ 255)
    (log : logRoot platform.env platform.dataDir = root) :
    PathsUnder platform root after := by
  obtain ⟨_, _, _, registry⟩ := started.registry stopped.1
  have traces := started.trace stopped.2.1
  have memory := started.memory stopped.2.2
  exact
    { whole := started.rootPath
      directories := by
        rw [started.rootPath]
        exact belowPath_corePaths short
      registry := by rw [registry, registryPath_below short rooted]
      migration := by rw [started.rootPath, migDbPath_below short]
      backup := by rw [started.rootPath, backupPath_below short]
      version := by rw [started.rootPath, versionFilePath_below short]
      traces := traces.trans (traceBasePath_below short)
      spans := by
        intro time name
        rw [traces, spanFilePath_below short name]
      memory := memory.trans (memoryBasePath_below short rooted _)
      tables := by
        rw [memory]
        exact memorySubPath_below short rooted _
      mainLog := by rw [started.log, mainLogPath_below short log]
      serviceLogs := serviceLogPath_below short log }

/-- After a start all paths lie below the configured root exactly when the root
fits into the buffer of the registry and is the root of the log module. -/
theorem heapstoreInit_pathsUnder_iff {platform : Platform}
    {given : HeapstoreConfig} {calls : InitCalls} {process : Process}
    {root : Bytes} (configured : given.rootPath = some root)
    (stopped : process.Stopped)
    (succeeded :
      (heapstoreInit platform (some given) calls process).2 = .success) :
    PathsUnder platform root
        (heapstoreInit platform (some given) calls process).1 ↔
      root.length ≤ 255 ∧ logRoot platform.env platform.dataDir = root := by
  obtain ⟨version, migrated, opened, started⟩ := heapstoreInit_started succeeded
  have rooted := (heapstoreInit_stages succeeded).1
  change (configure platform (some given) calls process).rootPath ≠ [] at rooted
  have cut := @configure_rootPath platform given calls process root configured
  generalize (configure platform (some given) calls process).rootPath = used
    at started rooted cut
  constructor
  · intro under
    obtain ⟨_, _, _, registry⟩ := started.registry stopped.1
    have path := under.registry
    rw [registry] at path
    have short := registryPath_whole rooted path
    have log := under.mainLog
    rw [started.log, Option.some.injEq] at log
    exact ⟨short, logRoot_of_mainLogPath short log⟩
  · rintro ⟨short, log⟩
    have whole : used = root := by
      rw [cut]
      apply printTo_of_fits
      change root.length < 512
      omega
    rw [whole] at started rooted
    exact started.pathsUnder stopped rooted short log

def plainPlatform : Platform where
  env := none
  dataDir := ofString "/var/lib"

theorem heapstoreInit_pathsUnder_default :
    PathsUnder plainPlatform (ofString "/var/lib/agentrt/heapstore")
      (heapstoreInit plainPlatform
        (some (defConfig (some (ofString "/var/lib/agentrt/heapstore")))) .ok
        (freshProcess fun _ => none)).1 :=
  (heapstoreInit_pathsUnder_iff rfl ⟨rfl, rfl, rfl⟩ rfl).mpr
    ⟨by decide, by decide⟩

/-- A configured root does not reach the log module. -/
theorem heapstoreInit_logs_elsewhere :
    ¬∀ (platform : Platform) (given : HeapstoreConfig) (calls : InitCalls)
      (disk : Disk) (root : Bytes), given.rootPath = some root →
      (heapstoreInit platform (some given) calls (freshProcess disk)).2 =
        .success →
      PathsUnder platform root
        (heapstoreInit platform (some given) calls (freshProcess disk)).1 := by
  intro always
  have under := always plainPlatform
    (defConfig (some (ofString "/srv/store"))) .ok (fun _ => none)
    (ofString "/srv/store") rfl rfl
  have log := under.mainLog
  change some (ofString "/var/lib/agentrt/heapstore/logs/kernel/agentrt.log") =
    some (ofString "/srv/store/logs/kernel/agentrt.log") at log
  revert log
  decide

end Heapstore.Core
