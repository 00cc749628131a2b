/-
The log module: where its files lie, its start and its end.

The base directory is resolved from the environment at every use.  Opening for
appending creates a missing file and keeps the content of an existing one.
-/

import Heapstore.Disk
import Heapstore.Types

namespace Heapstore.Log

open ByteText

abbrev logMaxPath : Nat := 512

/-- `HEAPSTORE_LOG_INFO`.  A level is the number a caller passes. -/
def levelInfo : UInt32 := 1

/-- An entry of `s_service_logs`: the service and the path of its open file. -/
structure ServiceLog where
  serviceName : CharArray 64
  file : Bytes
  deriving DecidableEq

structure LogState where
  initialized : Bool
  logRootPath : Bytes
  logLevel : UInt32
  mainLogFile : Option Bytes
  serviceLogs : List ServiceLog
  deriving DecidableEq

def clearedLog : LogState where
  initialized := false
  logRootPath := []
  logLevel := levelInfo
  mainLogFile := none
  serviceLogs := []

/-- The value of `AIRY_HEAPSTORE_ROOT`, unless it is empty, else the directory
below the platform's data directory. -/
def logRoot (env : Option Bytes) (dataDir : Bytes) : Bytes :=
  match env with
  | some (byte :: rest) => byte :: rest
  | _ => dataDir ++ ofString "/agentrt/heapstore"

def logBasePath (env : Option Bytes) (dataDir : Bytes) : Bytes :=
  printTo 512 (logRoot env dataDir ++ ofString "/logs")

def mainLogPath (base : Bytes) : Bytes :=
  printTo logMaxPath (base ++ ofString "/kernel/agentrt.log")

def serviceLogPath (base : Bytes) (service : CharArray 64) : Bytes :=
  printTo logMaxPath
    (base ++ ofString "/services/" ++ service.text ++ ofString ".log")

def openAppend (disk : Disk) (path : Bytes) : Disk :=
  match disk path with
  | none => disk.write path (.bytes [])
  | some _ => disk

/-- `heapstore_log_init`; the results of creating directories are ignored. -/
def logInit (env : Option Bytes) (dataDir : Bytes) (opened : Bool)
    (state : LogState) (disk : Disk) : LogState × Disk × HeapstoreError :=
  if state.initialized then (state, disk, .errAlreadyInitialized)
  else
    let base := logBasePath env dataDir
    let located := { state with logRootPath := printTo logMaxPath base }
    if opened = false then
      ({ located with mainLogFile := none }, disk, .errFileOpenFailed)
    else
      ({ located with
          initialized := true
          logLevel := levelInfo
          mainLogFile := some (mainLogPath base) },
        openAppend disk (mainLogPath base), .success)

def logShutdown (state : LogState) : LogState :=
  if state.initialized then
    { state with initialized := false, mainLogFile := none, serviceLogs := [] }
  else state

theorem openAppend_existing {disk : Disk} {path other : Bytes} {data : FileData}
    (present : disk other = some data) :
    openAppend disk path other = some data := by
  unfold openAppend
  cases found : disk path with
  | some _ => exact present
  | none =>
      have different : other ≠ path := by
        rintro rfl
        rw [found] at present
        cases present
      exact (Disk.write_of_ne different).trans present

theorem logInit_success {env : Option Bytes} {dataDir : Bytes} {opened : Bool}
    {state : LogState} {disk : Disk}
    (succeeded : (logInit env dataDir opened state disk).2.2 = .success) :
    (logInit env dataDir opened state disk).1.initialized = true ∧
      (logInit env dataDir opened state disk).1.mainLogFile =
        some (mainLogPath (logBasePath env dataDir)) ∧
      (logInit env dataDir opened state disk).2.1 =
        openAppend disk (mainLogPath (logBasePath env dataDir)) := by
  unfold logInit at succeeded ⊢
  cases running : state.initialized with
  | true => simp [running] at succeeded
  | false =>
      cases opened with
      | false => simp [running] at succeeded
      | true => exact ⟨rfl, rfl, rfl⟩

end Heapstore.Log
