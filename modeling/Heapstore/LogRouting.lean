/-
Where the messages of a run of log writes go.

A service gets a slot of the table with its first message as long as a slot is
free; the messages of the services without a slot go to the main file.  The base
path stays the same over a run, and all file operations succeed.
-/

import Heapstore.Foundation.FirstComers
import Heapstore.Foundation.KeyedList
import Heapstore.LogWrites

namespace Heapstore.Log

open ByteText OperationRun FirstComers KeyedList

/-! ### Contents -/

def contentOf (disk : Disk) (path : Bytes) : Bytes :=
  (disk path).elim [] FileData.content

theorem contentOf_openAppend (disk : Disk) (path other : Bytes) :
    contentOf (openAppend disk path) other = contentOf disk other := by
  unfold openAppend
  cases missing : disk path with
  | some data => rfl
  | none =>
      simp only
      unfold contentOf
      by_cases same : other = path
      · subst same
        rw [Disk.write_self, missing]
        rfl
      · rw [Disk.write_of_ne same]

theorem openAppend_present (disk : Disk) (path : Bytes) :
    openAppend disk path path ≠ none := by
  unfold openAppend
  cases found : disk path with
  | some data =>
      simp only
      rw [found]
      nofun
  | none =>
      simp only
      rw [Disk.write_self]
      nofun

theorem present_openAppend {disk : Disk} {path other : Bytes}
    (present : disk other ≠ none) : openAppend disk path other ≠ none := by
  obtain ⟨data, found⟩ := Option.ne_none_iff_exists'.mp present
  rw [openAppend_existing found]
  nofun

theorem contentOf_appendTo {disk : Disk} {path : Bytes} (text other : Bytes)
    (present : disk path ≠ none) :
    contentOf (appendTo disk path text) other =
      contentOf disk other ++ if other = path then text else [] := by
  obtain ⟨data, found⟩ := Option.ne_none_iff_exists'.mp present
  unfold appendTo contentOf
  simp only [found]
  split
  · next same =>
      subst same
      rw [Disk.write_self, found]
      rfl
  · next different =>
      rw [Disk.write_of_ne different, List.append_nil]

theorem present_appendTo {disk : Disk} {path : Bytes} (text : Bytes)
    {other : Bytes} (present : disk other ≠ none) :
    appendTo disk path text other ≠ none := by
  unfold appendTo
  cases found : disk path with
  | none => exact present
  | some data =>
      simp only
      by_cases same : other = path
      · subst same
        rw [Disk.write_self]
        nofun
      · rw [Disk.write_of_ne same]
        exact present

/-! ### The routing -/

structure LogMessage where
  date : Bytes
  time : Bytes
  level : Level
  service : Option Bytes
  traceId : Option Bytes
  place : SourcePlace
  printed : Bytes

def LogMessage.calls (base : Bytes) (message : LogMessage) : WriteCalls where
  base := base
  date := message.date
  time := message.time
  opened := true
  blocked := false

def LogMessage.line (base : Bytes) (message : LogMessage) : Bytes :=
  logHeader (message.calls base) message.level message.place ++
    logBody message.traceId message.printed

def sendMessage (base : Bytes) (message : LogMessage) (logger : Logger) :
    Logger × Written :=
  logWrite (message.calls base) message.level message.service message.traceId
    message.place message.printed logger

def namedLogPath (base safe : Bytes) : Bytes :=
  printTo logMaxPath
    (base ++ ofString "/services/" ++ safe ++ ofString ".log")

/-- The sanitised names of the services, in the order in which they came. -/
def noteService (names : List Bytes) : Option Bytes → List Bytes
  | none => names
  | some service =>
      match pathClean 64 service with
      | none => names
      | some safe => note names safe

/-- The file of a service after the services with the given names. -/
def destination (base : Bytes) (names : List Bytes) :
    Option Bytes → Option Bytes
  | none => some (mainLogPath base)
  | some [] => some (mainLogPath base)
  | some (byte :: rest) =>
      match pathClean 64 (byte :: rest) with
      | none => none
      | some safe =>
          if safe ∈ (note names safe).take logMaxServices then
            some (namedLogPath base safe)
          else some (mainLogPath base)

/-- The level in force and the names of the services so far. -/
structure Routing where
  level : Level
  names : List Bytes

def Routing.target (base : Bytes) (routing : Routing) (message : LogMessage) :
    Option Bytes :=
  if message.level > routing.level then none
  else destination base routing.names message.service

def Routing.after (routing : Routing) (message : LogMessage) : Routing :=
  if message.level > routing.level then routing
  else { routing with names := noteService routing.names message.service }

inductive RoutingCall where
  | write (message : LogMessage)
  | setLevel (level : Level)

/-- The logger, and the lines of the run with the paths that they ought to be
appended to. -/
structure RoutedRun where
  logger : Logger
  routing : Routing
  sent : List (Bytes × Bytes)

def routedStep (base : Bytes) : Machine RoutedRun RoutingCall Written :=
  fun run call =>
    match call with
    | .setLevel level =>
        ({ run with
            logger := logSetLevel level run.logger
            routing := { run.routing with level := level } }, none)
    | .write message =>
        let result := sendMessage base message run.logger
        ({ logger := result.1
           routing := run.routing.after message
           sent := run.sent ++ (run.routing.target base message).toList.map
             fun path => (path, message.line base) }, result.2)

/-- The lines for a path. -/
def linesFor (path : Bytes) (sent : List (Bytes × Bytes)) : Bytes :=
  (sent.filter fun pair => pair.1 = path).flatMap Prod.snd

/-- A run starts from a logger that was just initialized. -/
def routingStart (env : Option Bytes) (dataDir : Bytes) (disk : Disk) :
    RoutedRun :=
  let started := logInit env dataDir true clearedLog disk
  { logger :=
      { ready := true
        integrated := true
        log := started.1
        disk := started.2.1 }
    routing := { level := levelInfo, names := [] }
    sent := [] }

/-! ### The table -/

/-- The table has the first services with their paths, the main file is open,
and all these files exist. -/
structure Serves (base : Bytes) (names : List Bytes) (logger : Logger) :
    Prop where
  started : logger.log.initialized = true
  main : logger.log.mainLogFile = some (mainLogPath base)
  table : logger.log.serviceLogs.map (fun entry =>
      (entry.serviceName.text, entry.file)) =
    (names.take logMaxServices).map fun name => (name, namedLogPath base name)
  mainPresent : logger.disk (mainLogPath base) ≠ none
  present : ∀ name ∈ names.take logMaxServices,
    logger.disk (namedLogPath base name) ≠ none

theorem pathClean_fits {size : Nat} {input safe : Bytes}
    (cleaned : pathClean size input = some safe) :
    safe.length < size ∧ (0 : UInt8) ∉ safe := by
  unfold pathClean at cleaned
  split at cleaned
  · cases cleaned
  split at cleaned
  · cases cleaned
  split at cleaned
  · cases cleaned
  split at cleaned
  · cases cleaned
  · next short _ _ _ =>
      cases cleaned
      constructor
      · rw [List.length_map]
        exact Nat.not_le.mp (not_or.mp short).2
      · intro member
        obtain ⟨byte, _, mapped⟩ := List.mem_map.mp member
        split at mapped
        · next kept =>
            subst mapped
            revert kept
            decide
        · cases mapped

theorem copy_cleaned {input safe : Bytes}
    (cleaned : pathClean 64 input = some safe) :
    (CharArray.copy safe : CharArray 64).text = safe := by
  obtain ⟨short, clean⟩ := pathClean_fits cleaned
  change (cString safe).take 63 = safe
  rw [cString_of_not_mem clean]
  exact List.take_of_length_le (by omega)

/-- A base of at most 434 bytes leaves room for every accepted name. -/
theorem namedLogPath_whole {base input safe : Bytes}
    (short : base.length ≤ 434) (cleaned : pathClean 64 input = some safe) :
    namedLogPath base safe =
      base ++ ofString "/services/" ++ safe ++ ofString ".log" := by
  have name := (pathClean_fits cleaned).1
  apply printTo_of_fits
  rw [List.length_append, List.length_append, List.length_append]
  change base.length + 10 + safe.length + 4 < 512
  omega

/-- The key that the linear search of the table compares. -/
def serviceText (entry : ServiceLog) : Bytes :=
  entry.serviceName.text

section Lookup

variable {base : Bytes} {names : List Bytes} {logger : Logger}

theorem Serves.length (serves : Serves base names logger) :
    logger.log.serviceLogs.length = (names.take logMaxServices).length := by
  have lengths := congrArg List.length serves.table
  rw [List.length_map, List.length_map] at lengths
  exact lengths

theorem Serves.seated (serves : Serves base names logger) :
    (logger.log.serviceLogs.map fun entry => entry.serviceName.text) =
      names.take logMaxServices := by
  have firsts := congrArg (List.map Prod.fst) serves.table
  rw [List.map_map, List.map_map] at firsts
  exact firsts.trans (List.map_id _)

/-- The linear search finds a name exactly if it is among the first ones, and
its file is that of the name. -/
theorem Serves.found (serves : Serves base names logger) {safe : Bytes}
    {entry : ServiceLog}
    (found : (logger.log.serviceLogs.find? fun entry =>
      entry.serviceName.text = safe) = some entry) :
    safe ∈ names.take logMaxServices ∧ entry.file = namedLogPath base safe := by
  have member := mem_of_lookup serviceText found
  have name : entry.serviceName.text = safe := key_of_lookup serviceText found
  have listed : (entry.serviceName.text, entry.file) ∈
      (names.take logMaxServices).map fun name =>
        (name, namedLogPath base name) := by
    rw [← serves.table]
    exact List.mem_map_of_mem member
  obtain ⟨other, first, same⟩ := List.mem_map.mp listed
  obtain ⟨left, right⟩ := Prod.mk.inj same
  rw [name] at left
  subst left
  exact ⟨first, right.symm⟩

theorem Serves.absent (serves : Serves base names logger) {safe : Bytes}
    (missing : (logger.log.serviceLogs.find? fun entry =>
      entry.serviceName.text = safe) = none) :
    safe ∉ names.take logMaxServices := by
  rw [← serves.seated]
  exact (lookup_eq_none_iff serviceText _ _).mp missing

theorem Serves.append (serves : Serves base names logger) (path text : Bytes) :
    Serves base names
      { logger with disk := appendTo logger.disk path text } where
  started := serves.started
  main := serves.main
  table := serves.table
  mainPresent := present_appendTo text serves.mainPresent
  present name member := present_appendTo text (serves.present name member)

/-- What a lookup leaves: the path to write to, and a table for the names. -/
structure Looked (base : Bytes) (names : List Bytes) (logger : Logger)
    (path : Option Bytes) (found : Logger × Option Bytes) : Prop where
  path : found.2 = path
  serves : Serves base names found.1
  level : found.1.log.logLevel = logger.log.logLevel
  contents : ∀ other, contentOf found.1.disk other = contentOf logger.disk other
  present : ∀ path, found.2 = some path → found.1.disk path ≠ none

theorem getMainLogFile_looked (serves : Serves base names logger)
    (calls : WriteCalls) :
    Looked base names logger (some (mainLogPath base))
      (getMainLogFile calls logger) := by
  have same : getMainLogFile calls logger =
      (logger, some (mainLogPath base)) := by
    unfold getMainLogFile
    rw [serves.started, if_neg nofun, serves.main]
  rw [same]
  refine ⟨rfl, serves, rfl, fun _ => rfl, ?_⟩
  intro path here
  cases here
  exact serves.mainPresent

/-- A new service gets the next slot. -/
theorem serves_added (serves : Serves base names logger) {input safe : Bytes}
    (cleaned : pathClean 64 input = some safe)
    (waiting : safe ∉ names.take logMaxServices)
    (free : (names.take logMaxServices).length < logMaxServices) :
    Serves base (note names safe)
      { logger with
          log := { logger.log with
            serviceLogs := logger.log.serviceLogs ++
              [{ serviceName := CharArray.copy safe
                 file := namedLogPath base safe }] }
          disk := openAppend logger.disk (namedLogPath base safe) } where
  started := serves.started
  main := serves.main
  table := by
    simp only
    rw [take_note_of_room waiting free, List.map_append, List.map_append,
      serves.table, List.map_singleton, List.map_singleton, copy_cleaned cleaned]
  mainPresent := present_openAppend serves.mainPresent
  present name member := by
    rw [take_note_of_room waiting free] at member
    rcases List.mem_append.mp member with old | new
    · exact present_openAppend (serves.present name old)
    · rw [List.mem_singleton.mp new]
      exact openAppend_present _ _

theorem Serves.retake {other : List Bytes} (serves : Serves base names logger)
    (same : other.take logMaxServices = names.take logMaxServices) :
    Serves base other logger where
  started := serves.started
  main := serves.main
  table := by
    rw [same]
    exact serves.table
  mainPresent := serves.mainPresent
  present := by
    rw [same]
    exact serves.present

theorem getServiceLogFile_looked (serves : Serves base names logger)
    (message : LogMessage) :
    Looked base (noteService names message.service) logger
      (destination base names message.service)
      (getServiceLogFile (message.calls base) message.service logger) := by
  rcases message.service with _ | _ | ⟨byte, rest⟩
  · exact getMainLogFile_looked serves _
  · exact getMainLogFile_looked serves _
  · unfold getServiceLogFile destination noteService
    simp only
    cases cleaned : pathClean 64 (byte :: rest) with
    | none =>
        refine ⟨rfl, serves, rfl, fun _ => rfl, ?_⟩
        intro path here
        cases here
    | some safe =>
        simp only
        cases found : logger.log.serviceLogs.find? fun entry =>
            decide (entry.serviceName.text = safe) with
        | some entry =>
            obtain ⟨seated, file⟩ := serves.found found
            have kept := take_note_of_seated seated
            simp only
            rw [kept, if_pos seated, file]
            refine ⟨rfl, serves.retake kept, rfl, fun _ => rfl, ?_⟩
            intro path here
            cases here
            exact serves.present safe seated
        | none =>
            have waiting := serves.absent found
            simp only
            rw [serves.length]
            by_cases free :
                (names.take logMaxServices).length < logMaxServices
            · have path : serviceLogPath (message.calls base).base
                  (CharArray.copy safe) = namedLogPath base safe := by
                unfold serviceLogPath namedLogPath
                rw [copy_cleaned cleaned]
                rfl
              have opened : (message.calls base).opened = true := rfl
              rw [if_pos free, if_pos ((mem_take_note_iff waiting).mpr free),
                path]
              simp only [opened, Bool.true_eq_false, if_false]
              refine ⟨rfl, serves_added serves cleaned waiting free, rfl,
                contentOf_openAppend _ _, ?_⟩
              intro path here
              cases here
              exact openAppend_present _ _
            · rw [if_neg free,
                if_neg fun seated => free ((mem_take_note_iff waiting).mp seated)]
              obtain ⟨path, kept, level, contents, present⟩ :=
                getMainLogFile_looked serves (message.calls base)
              exact ⟨path, kept.retake (take_note_of_full free), level, contents,
                present⟩

end Lookup

/-! ### Runs -/

section Runs

variable {base : Bytes} {initial : Disk}

/-- The table serves the names so far, and each file holds what it held at the
start and the lines for it. -/
structure Placed (base : Bytes) (initial : Disk) (run : RoutedRun) : Prop where
  serves : Serves base run.routing.names run.logger
  level : run.logger.log.logLevel = run.routing.level
  distinct : run.routing.names.Nodup
  contents : ∀ path, contentOf run.logger.disk path =
    contentOf initial path ++ linesFor path run.sent

theorem linesFor_append (path : Bytes) (first second : List (Bytes × Bytes)) :
    linesFor path (first ++ second) =
      linesFor path first ++ linesFor path second := by
  unfold linesFor
  rw [List.filter_append, List.flatMap_append]

theorem linesFor_singleton (path target line : Bytes) :
    linesFor path [(target, line)] = if path = target then line else [] := by
  unfold linesFor
  by_cases same : path = target
  · subst same
    rw [if_pos rfl, List.filter_cons_of_pos (by simp)]
    exact List.append_nil line
  · rw [if_neg same, List.filter_cons_of_neg (by simp [Ne.symm same])]
    rfl

theorem nodup_noteService {names : List Bytes} (distinct : names.Nodup)
    (service : Option Bytes) : (noteService names service).Nodup := by
  cases service with
  | none => exact distinct
  | some service =>
      unfold noteService
      simp only
      cases pathClean 64 service with
      | none => exact distinct
      | some safe => exact nodup_note distinct safe

theorem placed_write {run : RoutedRun} (placed : Placed base initial run)
    (message : LogMessage) :
    Placed base initial (routedStep base run (.write message)).1 := by
  obtain ⟨serves, level, distinct, contents⟩ := placed
  obtain ⟨path, kept, sameLevel, sameContents, present⟩ :=
    getServiceLogFile_looked serves message
  unfold routedStep sendMessage logWrite Routing.target Routing.after
  simp only
  rw [serves.started, if_neg nofun, level]
  by_cases above : message.level > run.routing.level
  · rw [if_pos above, if_pos above, if_pos above]
    refine ⟨serves, level, distinct, ?_⟩
    intro other
    simp only [Option.toList_none, List.map_nil, List.append_nil]
    exact contents other
  · rw [if_neg above, if_neg above, if_neg above, path]
    have names := nodup_noteService distinct message.service
    cases target : destination base run.routing.names message.service with
    | none =>
        refine ⟨kept, sameLevel.trans level, names, ?_⟩
        intro other
        simp only [Option.toList_none, List.map_nil, List.append_nil]
        exact (sameContents other).trans (contents other)
    | some file =>
        have there := present file (path.trans target)
        refine ⟨kept.append file _, sameLevel.trans level, names, ?_⟩
        intro other
        simp only [Option.toList_some, List.map_cons, List.map_nil]
        rw [contentOf_appendTo _ other there, sameContents, contents,
          linesFor_append, linesFor_singleton, List.append_assoc]
        rfl

theorem routedStep_placed (run : RoutedRun) (call : RoutingCall)
    (placed : Placed base initial run) :
    Placed base initial (routedStep base run call).1 := by
  cases call with
  | write message => exact placed_write placed message
  | setLevel level =>
      obtain ⟨serves, _, distinct, contents⟩ := placed
      exact ⟨⟨serves.started, serves.main, serves.table, serves.mainPresent,
        serves.present⟩, rfl, distinct, contents⟩

theorem placed_start (env : Option Bytes) (dataDir : Bytes) (disk : Disk) :
    Placed (logBasePath env dataDir) disk (routingStart env dataDir disk) where
  serves :=
    { started := rfl
      main := rfl
      table := rfl
      mainPresent := openAppend_present _ _
      present := nofun }
  level := rfl
  distinct := List.nodup_nil
  contents path :=
    (contentOf_openAppend disk _ path).trans (List.append_nil _).symm

end Runs

/-- After a shutdown the module starts as it did the first time. -/
theorem logInit_again (env : Option Bytes) (dataDir : Bytes) (disk : Disk)
    {state : LogState} (running : state.initialized = true) :
    logInit env dataDir true (logShutdown state) disk =
      logInit env dataDir true clearedLog disk := by
  have cleared : logShutdown state =
      { state with
          initialized := false, mainLogFile := none, serviceLogs := [] } :=
    if_pos running
  rw [cleared]
  rfl

/-- In every run of log writes after an initialization the table has at most 32
services with distinct names, and every file holds what it held before and then,
in order, the lines that the routing sends to it: a message below the level in
force or with a rejected name to no file, any other one to one file.  The paths
are whole for a base of at most 434 bytes. -/
theorem log_runs_route (env : Option Bytes) (dataDir : Bytes) (disk : Disk)
    (calls : List RoutingCall) :
    let run := final (routedStep (logBasePath env dataDir))
      (routingStart env dataDir disk) calls
    run.logger.log.serviceLogs.length ≤ logMaxServices ∧
      (run.logger.log.serviceLogs.map fun entry =>
        entry.serviceName.text).Nodup ∧
      (∀ path, contentOf run.logger.disk path =
        contentOf disk path ++ linesFor path run.sent) ∧
      ((logBasePath env dataDir).length ≤ 434 →
        ∀ input safe, pathClean 64 input = some safe →
          namedLogPath (logBasePath env dataDir) safe =
            logBasePath env dataDir ++ ofString "/services/" ++ safe ++
              ofString ".log") := by
  intro run
  have placed : Placed (logBasePath env dataDir) disk run :=
    invariant (routedStep (logBasePath env dataDir))
      (Placed (logBasePath env dataDir) disk) routedStep_placed
      (routingStart env dataDir disk) calls (placed_start env dataDir disk)
  refine ⟨?_, ?_, placed.contents,
    fun short _ _ cleaned => namedLogPath_whole short cleaned⟩
  · rw [placed.serves.length, List.length_take]
    exact Nat.min_le_left _ _
  · rw [placed.serves.seated]
    exact placed.distinct.sublist (List.take_sublist _ _)

end Heapstore.Log
