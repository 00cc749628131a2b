/-
Writing log lines: the entry points, their levels and the text of a line.

A line goes to the file of its service, or to the main file.  The clock, the
base path and the results of opening files are arguments of each write.  Where
a format asks for an argument that the call does not pass, what it prints is an
argument too.
-/

import Heapstore.Foundation.OperationRun
import Heapstore.LogFiles
import Mathlib.Data.List.Infix

namespace Heapstore.Log

open ByteText OperationRun

/-! ### Levels -/

/-- `heapstore_log_level_t`.  An integer that is passed as a level keeps its
bits. -/
abbrev Level := UInt32

def levelDebug : Level := 0
def levelWarn : Level := 2
def levelError : Level := 3

def levelToString (level : Level) : Bytes :=
  if level = levelError then ofString "ERROR"
  else if level = levelWarn then ofString "WARN"
  else if level = levelInfo then ofString "INFO"
  else if level = levelDebug then ofString "DEBUG"
  else ofString "UNKNOWN"

/-- The level of `heapstore_logging_write`. -/
def loggingLevel (level : Int32) : Level :=
  if level = 0 then levelDebug
  else if level = 1 then levelInfo
  else if level = 2 then levelWarn
  else if level = 3 then levelError
  else levelInfo

/-! ### Files -/

structure Logger where
  ready : Bool
  integrated : Bool
  log : LogState
  disk : Disk

/-- The base path, the clock and the results of calls during one write. -/
structure WriteCalls where
  base : Bytes
  date : Bytes
  time : Bytes
  opened : Bool
  blocked : Bool

def logMaxServices : Nat := 32

/-- The bytes that `isalnum` accepts in the C locale. -/
def isAlnum (byte : UInt8) : Bool :=
  isDigit byte || (65 ≤ byte && byte ≤ 90) || (97 ≤ byte && byte ≤ 122)

/-- `heapstore_path_clean` -/
def pathClean (size : Nat) (input : Bytes) : Option Bytes :=
  if input = [] ∨ size ≤ input.length then none
  else if ofString ".." <:+: input then none
  else if 47 ∈ input then none
  else if 92 ∈ input then none
  else
    some (input.map fun byte =>
      if isAlnum byte || byte = 95 || byte = 45 || byte = 46 then byte else 95)

/-- `get_main_log_file` -/
def getMainLogFile (calls : WriteCalls) (logger : Logger) :
    Logger × Option Bytes :=
  if logger.log.initialized = false then (logger, none)
  else
    match logger.log.mainLogFile with
    | some path => (logger, some path)
    | none =>
        let located :=
          { logger.log with logRootPath := printTo logMaxPath calls.base }
        let path := mainLogPath calls.base
        if calls.opened = false then ({ logger with log := located }, none)
        else
          ({ logger with
              log := { located with mainLogFile := some path }
              disk := openAppend logger.disk path }, some path)

/-- `get_service_log_file` -/
def getServiceLogFile (calls : WriteCalls) (service : Option Bytes)
    (logger : Logger) : Logger × Option Bytes :=
  match service with
  | none => getMainLogFile calls logger
  | some [] => getMainLogFile calls logger
  | some (byte :: rest) =>
      match pathClean 64 (byte :: rest) with
      | none => (logger, none)
      | some safe =>
          match logger.log.serviceLogs.find? fun entry =>
              entry.serviceName.text = safe with
          | some entry => (logger, some entry.file)
          | none =>
              if logger.log.serviceLogs.length < logMaxServices then
                let name : CharArray 64 := CharArray.copy safe
                let path := serviceLogPath calls.base name
                if calls.opened = false then (logger, none)
                else
                  ({ logger with
                      log := { logger.log with
                        serviceLogs := logger.log.serviceLogs ++
                          [{ serviceName := name, file := path }] }
                      disk := openAppend logger.disk path }, some path)
              else getMainLogFile calls logger

/-- What is put into an open file; a file that was removed stays removed. -/
def appendTo (disk : Disk) (path text : Bytes) : Disk :=
  match disk path with
  | none => disk
  | some data => disk.write path (.bytes (data.content ++ text))

/-! ### Lines -/

/-- `__FILE__` and `__LINE__` of the caller. -/
structure SourcePlace where
  file : Option Bytes
  line : Int32

/-- A null file name is printed as the C library prints it. -/
def logHeader (calls : WriteCalls) (level : Level) (place : SourcePlace) :
    Bytes :=
  printTo 512 (ofString "[" ++ calls.date ++ ofString "] [" ++ calls.time ++
    ofString "] [" ++ levelToString level ++ ofString "] [" ++
    place.file.getD (ofString "(null)") ++ ofString ":" ++
    signedDecimal place.line.toInt ++ ofString "] ")

def tracePart (traceId : Option Bytes) : Bytes :=
  match traceId with
  | none => []
  | some id => printTo 512 (ofString "[trace:" ++ id ++ ofString "] ")

/-- What stands behind the header. -/
def logBody (traceId : Option Bytes) (printed : Bytes) : Bytes :=
  tracePart traceId ++ printed ++ [10]

/-- A text as a format without arguments: nothing where a conversion would need
one.  The flag says that a percent sign has opened a conversion. -/
def formatAlone : Bool → Bytes → Option Bytes
  | false, [] => some []
  | true, [] => none
  | false, byte :: rest =>
      if byte = 37 then formatAlone true rest
      else (formatAlone false rest).map (byte :: ·)
  | true, byte :: rest =>
      if byte = 37 then (formatAlone false rest).map (37 :: ·) else none

def printAlone (undefinedText : Bytes → Bytes) (message : Bytes) : Bytes :=
  (formatAlone false message).getD (undefinedText message)

/-! ### Writes -/

/-- A line that was put into a file: its path and its text. -/
abbrev Written := Option (Bytes × Bytes)

/-- `heapstore_log_write`, given the text that its format prints. -/
def logWrite (calls : WriteCalls) (level : Level)
    (service traceId : Option Bytes) (place : SourcePlace) (printed : Bytes)
    (logger : Logger) : Logger × Written :=
  if logger.log.initialized = false then (logger, none)
  else if level > logger.log.logLevel then (logger, none)
  else
    let found := getServiceLogFile calls service logger
    match found.2 with
    | none => (found.1, none)
    | some path =>
        let line := logHeader calls level place ++ logBody traceId printed
        ({ found.1 with disk := appendTo found.1.disk path line },
          some (path, line))

def nullPlace : SourcePlace := { file := none, line := 0 }

/-- `write_dispatch`: the message itself is the format. -/
def writeDispatch (calls : WriteCalls) (undefinedText : Bytes → Bytes)
    (service : Option Bytes) (level : Int32) (message traceId : Option Bytes)
    (logger : Logger) : Logger × HeapstoreError × Written :=
  if logger.ready = false then (logger, .errNotInitialized, none)
  else
    match message with
    | none => (logger, .errInvalidParam, none)
    | some message =>
        if calls.blocked then (logger, .errCircuitOpen, none)
        else
          let result := logWrite calls level.toUInt32 service traceId nullPlace
            (printAlone undefinedText message) logger
          (result.1, .success, result.2)

def logWriteFast (calls : WriteCalls) (undefinedText : Bytes → Bytes)
    (service : Option Bytes) (level : Int32) (message : Option Bytes)
    (logger : Logger) : Logger × HeapstoreError × Written :=
  writeDispatch calls undefinedText service level message none logger

def logWriteSlow (calls : WriteCalls) (undefinedText : Bytes → Bytes)
    (service : Option Bytes) (level : Int32) (message traceId : Option Bytes)
    (_timeoutMs : UInt32) (logger : Logger) :
    Logger × HeapstoreError × Written :=
  writeDispatch calls undefinedText service level message traceId logger

/-- The codes of the integration layer that the log function returns. -/
inductive AiryErr where
  | success
  | eNotInit
  | eInval
  deriving DecidableEq

/-- `heapstore_logging_write`: the format is "%s". -/
def loggingWrite (calls : WriteCalls) (place : SourcePlace)
    (module_ : Option Bytes) (level : Int32) (traceId message : Option Bytes)
    (_timestampNs : UInt64) (logger : Logger) : Logger × AiryErr × Written :=
  if logger.integrated = false then (logger, .eNotInit, none)
  else
    match module_, message with
    | some module_, some message =>
        let result := logWrite calls (loggingLevel level) (some module_) traceId
          place message logger
        (result.1, .success, result.2)
    | _, _ => (logger, .eInval, none)

def logSetLevel (level : Level) (logger : Logger) : Logger :=
  { logger with log := { logger.log with logLevel := level } }

end Heapstore.Log
