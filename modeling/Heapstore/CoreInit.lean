/-
Starting and stopping the store.

A start configures the core, creates the directories, brings the recorded
schema version up and starts the subsystems in order, each by a stage that
applies the start function of the subsystem to the process.  A stage that fails
stops the subsystems started before it.  The build is the one with SQLite.
-/

import Heapstore.CircuitAdapter
import Heapstore.LogFiles
import Heapstore.MemoryTables
import Heapstore.MigrationForwardRuns
import Heapstore.RegistrySqlite
import Heapstore.TraceBuffer

namespace Heapstore.Core

open ByteText SqlConnection
open Migration RegistrySqlite Trace Memory Log Circuit

structure HeapstoreConfig where
  rootPath : Option Bytes
  maxLogSizeMb : UInt64
  logRetentionDays : Int32
  traceRetentionDays : Int32
  enableAutoCleanup : Bool
  enableLogRotation : Bool
  enableTraceExport : Bool
  dbVacuumIntervalDays : Int32
  circuitBreakerThreshold : UInt32
  circuitBreakerTimeoutSec : UInt32
  deriving DecidableEq

def defConfig (rootPath : Option Bytes) : HeapstoreConfig where
  rootPath := rootPath
  maxLogSizeMb := 100
  logRetentionDays := 7
  traceRetentionDays := 3
  enableAutoCleanup := true
  enableLogRotation := true
  enableTraceExport := true
  dbVacuumIntervalDays := 7
  circuitBreakerThreshold := defaultCircuitThreshold
  circuitBreakerTimeoutSec := defaultCircuitTimeoutSec

structure Platform where
  env : Option Bytes
  dataDir : Bytes

/-- The static state of all modules, and the disk. -/
structure Process where
  initialized : Bool
  rootPath : Bytes
  config : HeapstoreConfig
  defaultRoot : Option Bytes
  circuit : CircuitAdapter
  registry : SqlRegistry
  trace : TraceState
  memory : MemoryState
  log : LogState
  disk : Disk

/-- A process that has not called the store yet. -/
def freshProcess (disk : Disk) : Process where
  initialized := false
  rootPath := []
  config :=
    { rootPath := none
      maxLogSizeMb := 0
      logRetentionDays := 0
      traceRetentionDays := 0
      enableAutoCleanup := false
      enableLogRotation := false
      enableTraceExport := false
      dbVacuumIntervalDays := 0
      circuitBreakerThreshold := 0
      circuitBreakerTimeoutSec := 0 }
  defaultRoot := none
  circuit := clearedCircuit
  registry := clearedRegistry
  trace :=
    { initialized := false
      tracePath := []
      slots := fun _ => zeroedSpan
      spanCount := 0
      files := fun _ => none }
  memory := clearedMemory
  log := clearedLog
  disk := disk

/-! ### Roots -/

/-- The root that `_get_default_root` resolves at its first call. -/
def Platform.resolvedRoot (platform : Platform) : Bytes :=
  match platform.env with
  | some (byte :: rest) => byte :: rest
  | _ =>
      if platform.dataDir ≠ [] then
        printTo 512 (platform.dataDir ++ ofString "/agentrt/heapstore")
      else printTo 512 (ofString "/tmp/agentrt/heapstore")

def getDefaultRoot (platform : Platform) (process : Process) :
    Process × Bytes :=
  match process.defaultRoot with
  | some root => (process, root)
  | none =>
      ({ process with defaultRoot := some platform.resolvedRoot },
        platform.resolvedRoot)

def getRoot (platform : Platform) (process : Process) : Process × Bytes :=
  if process.rootPath = [] then
    let resolved := getDefaultRoot platform process
    let root := printTo maxPathLen resolved.2
    ({ resolved.1 with rootPath := root }, root)
  else (process, process.rootPath)

/-! ### Configuration -/

def setDefaultConfig (platform : Platform) (process : Process) : Process :=
  let resolved := getDefaultRoot platform process
  { resolved.1 with config := defConfig (some resolved.2) }

def mergeConfig (given present : HeapstoreConfig) : HeapstoreConfig where
  rootPath := given.rootPath
  maxLogSizeMb :=
    if 0 < given.maxLogSizeMb then given.maxLogSizeMb else present.maxLogSizeMb
  logRetentionDays :=
    if 0 < given.logRetentionDays then given.logRetentionDays
    else present.logRetentionDays
  traceRetentionDays :=
    if 0 < given.traceRetentionDays then given.traceRetentionDays
    else present.traceRetentionDays
  enableAutoCleanup := given.enableAutoCleanup
  enableLogRotation := given.enableLogRotation
  enableTraceExport := given.enableTraceExport
  dbVacuumIntervalDays :=
    if 0 < given.dbVacuumIntervalDays then given.dbVacuumIntervalDays
    else present.dbVacuumIntervalDays
  circuitBreakerThreshold :=
    if 0 < given.circuitBreakerThreshold then given.circuitBreakerThreshold
    else present.circuitBreakerThreshold
  circuitBreakerTimeoutSec :=
    if 0 < given.circuitBreakerTimeoutSec then given.circuitBreakerTimeoutSec
    else present.circuitBreakerTimeoutSec

/-- `apply_user_config`: a configuration without a root is not read at all. -/
def applyUserConfig (calls : ArmCalls) (manager : Option HeapstoreConfig)
    (process : Process) : Process :=
  match manager with
  | none => process
  | some given =>
      match given.rootPath with
      | none => process
      | some _ =>
          let config := mergeConfig given process.config
          { process with
              config := config
              circuit := coreCircuitApplyConfig calls
                config.circuitBreakerThreshold config.circuitBreakerTimeoutSec
                process.circuit }

/-! ### Directories -/

/-- `heapstore_core_path_names`, each with its entry of
`heapstore_core_subpath_map`. -/
def corePaths : List (String × List String) :=
  [("kernel", []),
    ("logs", ["apps", "kernel", "services"]),
    ("registry", []),
    ("services", ["llm_d", "market_d", "tool_d"]),
    ("traces", ["spans"]),
    ("kernel/ipc", ["channels", "buffers"]),
    ("kernel/memory", ["pools", "allocations", "stats", "index", "meta",
      "patterns", "raw"])]

def belowPath (path : Bytes) (name : String) : Bytes :=
  printTo maxPathLen (path ++ ofString "/" ++ ofString name)

def createDirectoryStructure (ensured : Bytes → Bool) (root : Bytes) :
    HeapstoreError :=
  if dirEnsure ensured root = false then .errDirCreateFailed
  else if corePaths.all fun entry =>
      dirEnsure ensured (belowPath root entry.1) &&
        entry.2.all fun sub =>
          dirEnsure ensured (belowPath (belowPath root entry.1) sub) then
    .success
  else .errDirCreateFailed

/-! ### Stages of a start -/

structure InitCalls where
  applied : ArmCalls
  structureEnsured : Bytes → Bool
  armed : ArmCalls
  read : VersionReadCalls
  stamp : VersionWriteCalls
  forward : ForwardCalls
  registryOpened : Bool
  script : Nat → Bool
  traceAllocated : Bool
  memoryEnsured : Bytes → Bool
  logOpened : Bool

def InitCalls.ok : InitCalls where
  applied := .ok
  structureEnsured := fun _ => true
  armed := .ok
  read := .ok
  stamp := .ok
  forward := .ok
  registryOpened := true
  script := fun _ => true
  traceAllocated := true
  memoryEnsured := fun _ => true
  logOpened := true

/-- The schema check and the migration it asks for. -/
def schemaStage (platform : Platform) (calls : InitCalls) (process : Process) :
    Process × HeapstoreError :=
  let rooted := getRoot platform process
  let checked := migrationCheck true rooted.1.initialized rooted.2 calls.read
    calls.stamp rooted.1.disk
  let next := { rooted.1 with disk := checked.disk }
  if checked.error ≠ .success then (next, checked.error)
  else if checked.needsMigration = false then (next, .success)
  else
    let ran := migrationForward next.initialized rooted.2 calls.forward true 0
      next.disk
    ({ next with disk := ran.disk },
      if ran.error = .success then .success else .errInternal)

def openDatabase (opened : Bool) (found : Found) : Option Database :=
  match found with
  | .directory => none
  | _ => if opened then some (found.tables.getD fun _ => none) else none

def registryPath (platform : Platform) (root : Bytes) : Bytes :=
  registryFilePath (registryRootPath (some root) (some platform.dataDir))

/-- `heapstore_registry_init` on the disk.  Every statement fails on a file
that is no database; what the script created is kept. -/
def registryStage (platform : Platform) (calls : InitCalls)
    (process : Process) : Process × HeapstoreError :=
  let rooted := getRoot platform process
  let path := registryPath platform rooted.2
  let found := rooted.1.disk.find rooted.2 path
  let opened := openDatabase calls.registryOpened found
  let succeeds := fun index => calls.script index && found.tables.isSome
  let started := registryInit (some rooted.2) (some platform.dataDir)
    (fun _ => opened) succeeds rooted.1.registry
  let disk :=
    if rooted.1.registry.initialized = true ∨ found.tables = none then
      rooted.1.disk
    else
      match opened with
      | none => rooted.1.disk
      | some database =>
          rooted.1.disk.write path (.database (initDatabase succeeds database).1)
  ({ rooted.1 with registry := started.1, disk := disk }, started.2)

def traceStage (platform : Platform) (calls : InitCalls) (process : Process) :
    Process × HeapstoreError :=
  let rooted := getRoot platform process
  let started := traceInit rooted.2 calls.traceAllocated rooted.1.trace
  ({ rooted.1 with trace := started.1 }, started.2)

def memoryStage (platform : Platform) (calls : InitCalls) (process : Process) :
    Process × HeapstoreError :=
  let rooted := getRoot platform process
  let started := memoryInit rooted.2 platform.dataDir calls.memoryEnsured
    rooted.1.memory
  ({ rooted.1 with memory := started.1 }, started.2)

def logStage (platform : Platform) (calls : InitCalls) (process : Process) :
    Process × HeapstoreError :=
  let started := logInit platform.env platform.dataDir calls.logOpened
    process.log process.disk
  ({ process with log := started.1, disk := started.2.1 }, started.2.2)

def stopRegistry (process : Process) : Process :=
  { process with registry := registryShutdown process.registry }

def stopTrace (process : Process) : Process :=
  { process with trace := traceShutdown process.trace }

def stopMemory (process : Process) : Process :=
  { process with memory := memoryShutdown process.memory }

/-- A stage of a start: its failure undoes the stages before it. -/
def stage (ran : Process × HeapstoreError) (undo : Process → Process)
    (next : Process → Process × HeapstoreError) : Process × HeapstoreError :=
  if ran.2 = .success then next ran.1
  else ({ undo ran.1 with initialized := false }, ran.2)

def configure (platform : Platform) (manager : Option HeapstoreConfig)
    (calls : InitCalls) (process : Process) : Process :=
  let configured :=
    applyUserConfig calls.applied manager (setDefaultConfig platform process)
  { configured with
      rootPath := printTo maxPathLen (configured.config.rootPath.getD []) }

/-- The process that the stages start from: `initialize_atomic_vars` has armed
the breaker and the store counts as initialised. -/
def arm (platform : Platform) (manager : Option HeapstoreConfig)
    (calls : InitCalls) (process : Process) : Process :=
  let configured := configure platform manager calls process
  { configured with
      circuit := coreCircuitInit calls.armed configured.circuit
      initialized := true }

def heapstoreInit (platform : Platform) (manager : Option HeapstoreConfig)
    (calls : InitCalls) (process : Process) : Process × HeapstoreError :=
  if process.initialized then (process, .errAlreadyInitialized)
  else
    let configured := configure platform manager calls process
    let created :=
      createDirectoryStructure calls.structureEnsured configured.rootPath
    if created ≠ .success then (configured, created)
    else
      stage (schemaStage platform calls (arm platform manager calls process)) id
        fun migrated =>
      stage (registryStage platform calls migrated) id fun opened =>
      stage (traceStage platform calls opened) stopRegistry fun traced =>
      stage (memoryStage platform calls traced)
        (fun failed => stopRegistry (stopTrace failed)) fun remembered =>
      stage (logStage platform calls remembered)
        (fun failed => stopRegistry (stopTrace (stopMemory failed)))
        fun logged => (logged, .success)

def heapstoreShutdown (process : Process) : Process :=
  if process.initialized then
    { process with
        circuit := circStop process.circuit
        log := logShutdown process.log
        trace := traceShutdown process.trace
        memory := memoryShutdown process.memory
        registry := registryShutdown process.registry
        initialized := false }
  else process

end Heapstore.Core
