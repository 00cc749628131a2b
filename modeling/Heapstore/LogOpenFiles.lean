/-
Open log files and the retention cleanup.

The module keeps its files open while a cleanup unlinks names by their age.  A
file whose name was unlinked stays writable, so what a session writes to it can
no longer be read under any name.  All file operations succeed here, and the
base path stays the same.
-/

import Heapstore.Cleanup
import Heapstore.Foundation.FileLinks
import Heapstore.LogRouting

namespace Heapstore.Log

open ByteText OperationRun FileLinks Cleanup KeyedList

/-- An open file and the path that it was opened under. -/
structure OpenLog where
  path : Bytes
  file : Nat
  deriving DecidableEq

structure ServiceHandle where
  serviceName : CharArray 64
  log : OpenLog

/-- The state of the module with its handles. -/
structure Session where
  initialized : Bool
  logLevel : Level
  mainLogFile : Option OpenLog
  serviceLogs : List ServiceHandle
  files : Files Bytes

def Session.openLogs (session : Session) : List OpenLog :=
  session.mainLogFile.toList ++ session.serviceLogs.map ServiceHandle.log

/-! ### Writes -/

/-- `get_main_log_file` -/
def Session.getMainLogFile (base : Bytes) (now : Int) (session : Session) :
    Session × Option OpenLog :=
  if session.initialized = false then (session, none)
  else
    match session.mainLogFile with
    | some log => (session, some log)
    | none =>
        let opened := session.files.openAppend now (mainLogPath base)
        let log := { path := mainLogPath base, file := opened.2 }
        ({ session with mainLogFile := some log, files := opened.1 }, some log)

/-- `get_service_log_file` -/
def Session.getServiceLogFile (base : Bytes) (now : Int)
    (service : Option Bytes) (session : Session) : Session × Option OpenLog :=
  match service with
  | none => session.getMainLogFile base now
  | some [] => session.getMainLogFile base now
  | some (byte :: rest) =>
      match pathClean 64 (byte :: rest) with
      | none => (session, none)
      | some safe =>
          match session.serviceLogs.find? fun entry =>
              entry.serviceName.text = safe with
          | some entry => (session, some entry.log)
          | none =>
              if session.serviceLogs.length < logMaxServices then
                let name : CharArray 64 := CharArray.copy safe
                let path := serviceLogPath base name
                let opened := session.files.openAppend now path
                let log := { path := path, file := opened.2 }
                ({ session with
                    serviceLogs := session.serviceLogs ++
                      [{ serviceName := name, log := log }]
                    files := opened.1 }, some log)
              else session.getMainLogFile base now

/-- `heapstore_log_write`; the line that was appended, if any. -/
def Session.write (base : Bytes) (now : Int) (message : LogMessage)
    (session : Session) : Session × Option Bytes :=
  if session.initialized = false then (session, none)
  else if message.level > session.logLevel then (session, none)
  else
    let found := session.getServiceLogFile base now message.service
    match found.2 with
    | none => (found.1, none)
    | some log =>
        let line := message.line base
        ({ found.1 with files := found.1.files.append now log.file line },
          some line)

/-- `heapstore_log_get_service_path`, for a buffer of the given size. -/
def logGetServicePath (base : Bytes) (service : Option Bytes)
    (bufferSize : Nat) : Option Bytes × HeapstoreError :=
  if bufferSize = 0 then (none, .errInvalidParam)
  else
    match service with
    | some (byte :: rest) =>
        match pathClean 64 (byte :: rest) with
        | none => (none, .errInvalidParam)
        | some safe =>
            (some (printTo bufferSize (base ++ ofString "/services/" ++ safe ++
              ofString ".log")), .success)
    | _ => (some (printTo bufferSize (base ++ ofString "/kernel/agentrt.log")),
        .success)

/-! ### Cleanup -/

/-- The name of a path in a directory. -/
def nameIn (dir path : Bytes) : Option Bytes :=
  if (dir ++ ofString "/").isPrefixOf path then
    let name := path.drop (dir.length + 1)
    if name = [] ∨ 47 ∈ name then none else some name
  else none

/-- What a listing of a directory shows for a file. -/
def storedEntry (name : Bytes) (stored : Stored) : DirEntry where
  name := name
  regular := true
  stat := some
    { modified := stored.modified, size := UInt64.ofNat stored.content.length }
  unlinks := true

def goneFrom (cutoff : Int) (dir path : Bytes) (stored : Stored) : Bool :=
  match nameIn dir path with
  | none => false
  | some name => decide (dir ≠ []) && (storedEntry name stored).removable cutoff

/-- `heapstore_dir_clean`, for each path on its own. -/
def cleanDirectory (cutoff : Int) (files : Files Bytes) (dir : Bytes) :
    Files Bytes :=
  files.unlink fun path file => goneFrom cutoff dir path (files.stored file)

/-- `heapstore_log_cleanup` -/
def Session.cleanup (base : Bytes) (now : Int) (daysToKeep : Int32)
    (session : Session) : Session × HeapstoreError :=
  match (preClean session.initialized daysToKeep now none).2 with
  | .error status => (session, status)
  | .ok cutoff =>
      ({ session with
          files := (Core.logDirs base).foldl (cleanDirectory cutoff)
            session.files }, .success)

/-- The entries that a listing of paths of the directory shows. -/
def listedEntries (dir : Bytes) (files : Files Bytes) (paths : List Bytes) :
    List DirEntry :=
  paths.filterMap fun path =>
    match nameIn dir path, files.names path with
    | some name, some file => some (storedEntry name (files.stored file))
    | _, _ => none

/-- Whatever order a directory is listed in, the loop over its entries leaves
those of the paths that stay. -/
theorem dirClean_listed (dir : Bytes) (cutoff : Int) (freed : Option UInt64)
    (files : Files Bytes) (paths : List Bytes) (named : dir ≠ []) :
    (dirClean dir cutoff freed
        { directory := fun path => if path = dir then some 0 else none
          entries := fun _ => listedEntries dir files paths }).tree.entries 0 =
      listedEntries dir (cleanDirectory cutoff files dir) paths := by
  unfold dirClean
  rw [if_neg named]
  simp only [if_true, foldl_cleanEntry, Function.update_self, List.nil_append]
  unfold listedEntries
  rw [List.filter_filterMap]
  apply List.filterMap_congr
  intro path _
  have cleaned : (cleanDirectory cutoff files dir).names path =
      (files.names path).filter fun file =>
        !goneFrom cutoff dir path (files.stored file) := rfl
  rw [cleaned]
  cases placed : nameIn dir path with
  | none => rfl
  | some name =>
      cases files.names path with
      | none => rfl
      | some file =>
          have gone : goneFrom cutoff dir path (files.stored file) =
              (storedEntry name (files.stored file)).removable cutoff := by
            unfold goneFrom
            rw [placed, decide_eq_true named]
            rfl
          simp only [Option.filter_some, gone]
          split
          · rfl
          · rfl

/-! ### Runs -/

inductive SessionCall where
  | write (now : Int) (message : LogMessage)
  | cleanup (now : Int) (daysToKeep : Int32)

/-- A call answers with the line that it appended. -/
def sessionStep (base : Bytes) : Machine Session SessionCall (Option Bytes) :=
  fun session call =>
    match call with
    | .write now message => session.write base now message
    | .cleanup now daysToKeep => ((session.cleanup base now daysToKeep).1, none)

/-- The session that an initialization leaves. -/
def sessionStart (env : Option Bytes) (dataDir : Bytes) (now : Int)
    (files : Files Bytes) : Session :=
  let path := mainLogPath (logBasePath env dataDir)
  let opened := files.openAppend now path
  { initialized := true
    logLevel := levelInfo
    mainLogFile := some { path := path, file := opened.2 }
    serviceLogs := []
    files := opened.1 }

/-- The service is null or empty, or its own log file is open. -/
def Session.Owns (session : Session) : Option Bytes → Prop
  | none => True
  | some service => service = [] ∨
      ∀ safe, pathClean 64 service = some safe →
        ∃ entry ∈ session.serviceLogs, entry.serviceName.text = safe

def LineUnder (files : Files Bytes) (path line : Bytes) : Prop :=
  ∃ file, files.names path = some file ∧ line <:+ (files.stored file).content

/-- A line that a write has just appended is in the file of the path that the
module names for the service. -/
def LinesArrive (base : Bytes) (session : Session) : Prop :=
  ∀ now message line, (session.write base now message).2 = some line →
    (session.write base now message).1.Owns message.service →
    ∃ path,
      logGetServicePath base message.service logMaxPath =
        (some path, .success) ∧
      LineUnder (session.write base now message).1.files path line

/-- No cleanup finds an open log file that has expired. -/
def SparesOpen (base : Bytes) (session : Session) (call : SessionCall) : Prop :=
  ∀ now daysToKeep, call = .cleanup now daysToKeep → 0 < daysToKeep →
    ∀ log ∈ session.openLogs, ∀ dir ∈ Core.logDirs base,
      goneFrom (Core.retentionCutoff daysToKeep now) dir log.path
        (session.files.stored log.file) = false

/-- The path of every open log still names its file. -/
def Session.Linked (session : Session) : Prop :=
  ∀ log ∈ session.openLogs, session.files.names log.path = some log.file

/-- The main log is open, and the services have distinct accepted names and the
paths of these names. -/
structure Session.Sound (base : Bytes) (session : Session) : Prop where
  started : session.initialized = true
  main : ∃ file, session.mainLogFile =
    some { path := mainLogPath base, file := file }
  named : ∀ entry ∈ session.serviceLogs,
    entry.log.path = namedLogPath base entry.serviceName.text
  accepted : ∀ entry ∈ session.serviceLogs,
    ∃ input, pathClean 64 input = some entry.serviceName.text
  distinct : (session.serviceLogs.map fun entry =>
    entry.serviceName.text).Nodup

/-- The key that the linear search of the table compares. -/
def handleText (entry : ServiceHandle) : Bytes :=
  entry.serviceName.text

section Lookup

variable {base : Bytes} {session : Session}

/-- What a lookup for a write leaves. -/
structure Session.Opens (base : Bytes) (session : Session)
    (service : Option Bytes) (found : Session × Option OpenLog) : Prop where
  sound : found.1.Sound base
  linked : session.Linked → found.1.Linked
  single : session.files.Single → found.1.files.Single
  member : ∀ log, found.2 = some log → log ∈ found.1.openLogs
  path : ∀ log, found.2 = some log → found.1.Owns service →
    logGetServicePath base service logMaxPath = (some log.path, .success)

theorem logGetServicePath_named (base : Bytes) {byte : UInt8} {rest safe : Bytes}
    (cleaned : pathClean 64 (byte :: rest) = some safe) :
    logGetServicePath base (some (byte :: rest)) logMaxPath =
      (some (namedLogPath base safe), .success) := by
  unfold logGetServicePath
  rw [if_neg (by decide)]
  simp only [cleaned]
  rfl

theorem getMainLogFile_open (sound : session.Sound base) (now : Int) :
    ∃ file,
      session.getMainLogFile base now =
        (session, some { path := mainLogPath base, file := file }) ∧
      { path := mainLogPath base, file := file } ∈ session.openLogs := by
  obtain ⟨file, main⟩ := sound.main
  refine ⟨file, ?_, ?_⟩
  · unfold Session.getMainLogFile
    rw [sound.started, if_neg nofun, main]
  · unfold Session.openLogs
    rw [main]
    exact List.mem_append_left _ List.mem_cons_self

theorem opens_main (sound : session.Sound base) (now : Int)
    {service : Option Bytes}
    (path : session.Owns service →
      logGetServicePath base service logMaxPath =
        (some (mainLogPath base), .success)) :
    session.Opens base service (session.getMainLogFile base now) := by
  obtain ⟨file, found, member⟩ := getMainLogFile_open sound now
  rw [found]
  refine ⟨sound, id, id, ?_, ?_⟩
  · intro log here
    cases here
    exact member
  · intro log here owns
    cases here
    exact path owns

/-- The session with a slot for a new service. -/
def Session.added (base : Bytes) (now : Int) (safe : Bytes)
    (session : Session) : Session :=
  let path := namedLogPath base safe
  let opened := session.files.openAppend now path
  { session with
      serviceLogs := session.serviceLogs ++
        [{ serviceName := CharArray.copy safe
           log := { path := path, file := opened.2 } }]
      files := opened.1 }

theorem sound_added (sound : session.Sound base) (now : Int)
    {input safe : Bytes} (cleaned : pathClean 64 input = some safe)
    (new : safe ∉ session.serviceLogs.map fun entry =>
      entry.serviceName.text) :
    (session.added base now safe).Sound base where
  started := sound.started
  main := sound.main
  named entry member := by
    rcases List.mem_append.mp member with old | last
    · exact sound.named entry old
    · rw [List.mem_singleton.mp last, copy_cleaned cleaned]
  accepted entry member := by
    rcases List.mem_append.mp member with old | last
    · exact sound.accepted entry old
    · rw [List.mem_singleton.mp last]
      exact ⟨input, cleaned.trans (congrArg some (copy_cleaned cleaned).symm)⟩
  distinct := by
    unfold Session.added
    simp only
    rw [List.map_append, List.map_singleton, copy_cleaned cleaned,
      ← List.concat_eq_append]
    exact sound.distinct.concat new

theorem linked_added (linked : session.Linked) (now : Int) (safe : Bytes) :
    (session.added base now safe).Linked := by
  intro log member
  have logs : (session.added base now safe).openLogs =
      session.openLogs ++ [{ path := namedLogPath base safe
                             file := (session.files.openAppend now
                               (namedLogPath base safe)).2 }] := by
    unfold Session.openLogs Session.added
    rw [List.map_append, List.append_assoc]
    rfl
  rw [logs] at member
  rcases List.mem_append.mp member with old | last
  · exact linked_openAppend (linked log old) now _
  · rw [List.mem_singleton.mp last]
    exact openAppend_linked now _ session.files

theorem getServiceLogFile_opens (sound : session.Sound base) (now : Int)
    (service : Option Bytes) :
    session.Opens base service
      (session.getServiceLogFile base now service) := by
  rcases service with _ | _ | ⟨byte, rest⟩
  · exact opens_main sound now fun _ => rfl
  · exact opens_main sound now fun _ => rfl
  · unfold Session.getServiceLogFile
    simp only
    cases cleaned : pathClean 64 (byte :: rest) with
    | none => exact ⟨sound, id, id, nofun, nofun⟩
    | some safe =>
        simp only
        have path := logGetServicePath_named base cleaned
        cases found : session.serviceLogs.find? fun entry =>
            decide (entry.serviceName.text = safe) with
        | some entry =>
            have listed := mem_of_lookup handleText found
            have name : entry.serviceName.text = safe :=
              key_of_lookup handleText found
            refine ⟨sound, id, id, ?_, ?_⟩
            · intro log here
              cases here
              exact List.mem_append_right _ (List.mem_map_of_mem listed)
            · intro log here _
              cases here
              rw [path, sound.named entry listed, name]
        | none =>
            have new := (lookup_eq_none_iff handleText _ _).mp found
            simp only
            split
            · have serviceLog : serviceLogPath base (CharArray.copy safe) =
                  namedLogPath base safe := by
                unfold serviceLogPath namedLogPath
                rw [copy_cleaned cleaned]
              rw [serviceLog]
              refine ⟨sound_added sound now cleaned new,
                fun linked => linked_added linked now safe,
                fun single => single_openAppend single now _, ?_, ?_⟩
              · intro log here
                cases here
                apply List.mem_append_right
                rw [List.map_append]
                exact List.mem_append_right _ List.mem_cons_self
              · intro log here _
                cases here
                exact path
            · apply opens_main sound now
              intro owns
              obtain ⟨entry, listed, name⟩ :=
                owns.resolve_left (List.cons_ne_nil byte rest) safe cleaned
              exact absurd (List.mem_map.mpr ⟨entry, listed, name⟩) new

/-- A write with a level that passes appends to the file that it looks up. -/
theorem write_found (sound : session.Sound base) (now : Int)
    {message : LogMessage} (passes : ¬message.level > session.logLevel)
    {found : Session} {log : OpenLog}
    (here : session.getServiceLogFile base now message.service =
      (found, some log)) :
    session.write base now message =
      ({ found with
          files := found.files.append now log.file (message.line base) },
        some (message.line base)) := by
  unfold Session.write
  rw [sound.started, if_neg nofun, if_neg passes, here]

theorem write_step (sound : session.Sound base) (now : Int)
    (message : LogMessage) :
    (session.write base now message).1.Sound base ∧
      (session.Linked → (session.write base now message).1.Linked ∧
        ∀ line, (session.write base now message).2 = some line →
          (session.write base now message).1.Owns message.service →
          ∃ path,
            logGetServicePath base message.service logMaxPath =
              (some path, .success) ∧
            LineUnder (session.write base now message).1.files path line) := by
  by_cases above : message.level > session.logLevel
  · have same : session.write base now message = (session, none) := by
      unfold Session.write
      rw [sound.started, if_neg nofun, if_pos above]
    rw [same]
    exact ⟨sound, fun linked => ⟨linked, nofun⟩⟩
  · obtain ⟨kept, links, _, member, path⟩ :=
      getServiceLogFile_opens sound now message.service
    cases here : session.getServiceLogFile base now message.service with
    | mk found log =>
        rw [here] at kept links member path
        cases log with
        | none =>
            have same : session.write base now message = (found, none) := by
              unfold Session.write
              rw [sound.started, if_neg nofun, if_neg above, here]
            rw [same]
            exact ⟨kept, fun linked => ⟨links linked, nofun⟩⟩
        | some log =>
            rw [write_found sound now above here]
            refine ⟨⟨kept.started, kept.main, kept.named, kept.accepted,
              kept.distinct⟩, ?_⟩
            intro linked
            refine ⟨links linked, ?_⟩
            intro line appended owns
            cases appended
            refine ⟨log.path, path log rfl owns, log.file,
              links linked log (member log rfl), ?_⟩
            rw [append_content, if_pos rfl]
            exact List.suffix_append _ _

end Lookup

/-! ### Without handles -/

section Paths

variable {base : Bytes} {session : Session}

/-- What the names show of the files. -/
def filesDisk (files : Files Bytes) : Disk := fun path =>
  (files.names path).map fun file => .bytes (files.stored file).content

/-- The logger that keeps paths in the place of handles. -/
def Session.logger (base : Bytes) (session : Session) : Logger where
  ready := true
  integrated := true
  log :=
    { initialized := session.initialized
      logRootPath := printTo logMaxPath base
      logLevel := session.logLevel
      mainLogFile := session.mainLogFile.map OpenLog.path
      serviceLogs := session.serviceLogs.map fun entry =>
        { serviceName := entry.serviceName, file := entry.log.path } }
  disk := filesDisk session.files

theorem filesDisk_openAppend (now : Int) (path : Bytes) (files : Files Bytes) :
    filesDisk (files.openAppend now path).1 =
      openAppend (filesDisk files) path := by
  unfold Files.openAppend openAppend
  cases found : files.names path with
  | some file =>
      have present : filesDisk files path =
          some (.bytes (files.stored file).content) := by
        unfold filesDisk
        rw [found]
        rfl
      rw [present]
  | none =>
      have missing : filesDisk files path = none := by
        unfold filesDisk
        rw [found]
        rfl
      rw [missing]
      funext other
      unfold filesDisk Files.create
      simp only
      by_cases same : other = path
      · subst same
        rw [Function.update_self, Disk.write_self, Option.map_some,
          Function.update_self]
      · rw [Function.update_of_ne same, Disk.write_of_ne same]
        cases linked : files.names other with
        | none => rfl
        | some file =>
            have older : file ≠ files.fresh :=
              Nat.ne_of_lt (files.known other file linked)
            rw [Option.map_some, Function.update_of_ne older]
            rfl

theorem filesDisk_append {files : Files Bytes} {path : Bytes} {file : Nat}
    (linked : files.names path = some file)
    (single : files.Single) (now : Int) (text : Bytes) :
    filesDisk (files.append now file text) =
      appendTo (filesDisk files) path text := by
  have present : filesDisk files path =
      some (.bytes (files.stored file).content) := by
    unfold filesDisk
    rw [linked]
    rfl
  funext other
  unfold appendTo
  rw [present]
  simp only
  unfold filesDisk Files.append
  simp only
  by_cases same : other = path
  · subst same
    rw [Disk.write_self, linked, Option.map_some, Function.update_self]
    rfl
  · rw [Disk.write_of_ne same]
    cases reader : files.names other with
    | none => rfl
    | some found =>
        have different : found ≠ file := by
          intro equal
          rw [equal] at reader
          exact same (single path other file linked reader)
        rw [Option.map_some, Function.update_of_ne different]
        simp only [Option.map_some]

theorem find?_logger (session : Session) (safe : Bytes) :
    ((session.logger base).log.serviceLogs.find? fun entry =>
        decide (entry.serviceName.text = safe)) =
      (session.serviceLogs.find? fun entry =>
        decide (entry.serviceName.text = safe)).map fun entry =>
          { serviceName := entry.serviceName, file := entry.log.path } :=
  List.find?_map ..

theorem getMainLogFile_logger (sound : session.Sound base) (now : Int)
    {calls : WriteCalls} :
    getMainLogFile calls (session.logger base) =
      ((session.getMainLogFile base now).1.logger base,
        (session.getMainLogFile base now).2.map OpenLog.path) := by
  obtain ⟨file, main⟩ := sound.main
  unfold getMainLogFile Session.getMainLogFile
  have started : (session.logger base).log.initialized = true := sound.started
  have opened : (session.logger base).log.mainLogFile =
      some (mainLogPath base) := by
    unfold Session.logger
    rw [main]
    rfl
  rw [started, sound.started, opened, main]
  rfl

theorem getServiceLogFile_logger (sound : session.Sound base) (now : Int)
    (message : LogMessage) :
    getServiceLogFile (message.calls base) message.service
        (session.logger base) =
      ((session.getServiceLogFile base now message.service).1.logger base,
        (session.getServiceLogFile base now message.service).2.map
          OpenLog.path) := by
  rcases message.service with _ | _ | ⟨byte, rest⟩
  · exact getMainLogFile_logger sound now
  · exact getMainLogFile_logger sound now
  · unfold getServiceLogFile Session.getServiceLogFile
    simp only
    cases cleaned : pathClean 64 (byte :: rest) with
    | none => rfl
    | some safe =>
        simp only
        rw [find?_logger]
        cases found : session.serviceLogs.find? fun entry =>
            decide (entry.serviceName.text = safe) with
        | some entry => rfl
        | none =>
            have slots : (session.logger base).log.serviceLogs.length =
                session.serviceLogs.length := List.length_map _
            simp only [Option.map_none]
            rw [slots]
            split
            · have opened : (message.calls base).opened = true := rfl
              unfold Session.logger
              simp only [opened, Bool.true_eq_false, if_false,
                filesDisk_openAppend, List.map_append, List.map_singleton]
              rfl
            · exact getMainLogFile_logger sound now

/-- While every open log is linked and no file has two names, a session writes
what the logger writes by paths. -/
theorem write_logger (sound : session.Sound base) (linked : session.Linked)
    (single : session.files.Single) (now : Int) (message : LogMessage) :
    (sendMessage base message (session.logger base)).1 =
        (session.write base now message).1.logger base ∧
      (sendMessage base message (session.logger base)).2.map Prod.snd =
        (session.write base now message).2 := by
  have started : (session.logger base).log.initialized = true := sound.started
  have level : (session.logger base).log.logLevel = session.logLevel := rfl
  unfold sendMessage logWrite Session.write
  simp only [started, sound.started, level, Bool.true_eq_false, if_false]
  by_cases above : message.level > session.logLevel
  · rw [if_pos above, if_pos above]
    exact ⟨rfl, rfl⟩
  · rw [if_neg above, if_neg above, getServiceLogFile_logger sound now message]
    have opens := getServiceLogFile_opens sound now message.service
    cases here : session.getServiceLogFile base now message.service with
    | mk found log =>
        rw [here] at opens
        cases log with
        | none => exact ⟨rfl, rfl⟩
        | some log =>
            have names := opens.linked linked log (opens.member log rfl)
            have appended := filesDisk_append names (opens.single single) now
              (message.line base)
            refine ⟨?_, rfl⟩
            simp only [Option.map_some]
            unfold Session.logger
            rw [appended]
            rfl

end Paths

/-! ### Lines that arrive -/

section Arrival

variable {base : Bytes} {session : Session}

/-- Every open log is the one that some service writes to. -/
theorem open_log_reached (sound : session.Sound base) {log : OpenLog}
    (member : log ∈ session.openLogs) :
    ∃ service, session.Owns service ∧
      logGetServicePath base service logMaxPath = (some log.path, .success) ∧
      ∀ now, session.getServiceLogFile base now service =
        (session, some log) := by
  rcases List.mem_append.mp member with main | service
  · obtain ⟨file, opened⟩ := sound.main
    rw [opened] at main
    rw [List.mem_singleton.mp main]
    refine ⟨none, trivial, rfl, ?_⟩
    intro now
    obtain ⟨other, found, _⟩ := getMainLogFile_open sound now
    have same : ({ path := mainLogPath base, file := other } : OpenLog) =
        { path := mainLogPath base, file := file } := by
      unfold Session.getMainLogFile at found
      rw [sound.started, if_neg nofun, opened] at found
      exact (Option.some.inj (Prod.mk.inj found).2).symm
    rw [← same]
    exact found
  · obtain ⟨entry, listed, here⟩ := List.mem_map.mp service
    obtain ⟨input, cleaned⟩ := sound.accepted entry listed
    rcases input with _ | ⟨byte, rest⟩
    · cases cleaned
    · refine ⟨some (byte :: rest), Or.inr ?_, ?_, ?_⟩
      · intro safe again
        rw [cleaned] at again
        cases again
        exact ⟨entry, listed, rfl⟩
      · rw [logGetServicePath_named base cleaned, ← here,
          sound.named entry listed]
      · intro now
        have found : (session.serviceLogs.find? fun other =>
            decide (other.serviceName.text = entry.serviceName.text)) =
              some entry := lookup_of_mem handleText sound.distinct listed
        unfold Session.getServiceLogFile
        simp only [cleaned, found, here]

/-- The lines of all writes arrive exactly if every open log is still linked: a
line that is longer than the file with the name shows which file it went to. -/
theorem linesArrive_iff (sound : session.Sound base) :
    LinesArrive base session ↔ session.Linked := by
  constructor
  · intro arrive log member
    obtain ⟨service, owns, path, found⟩ := open_log_reached sound member
    let readable := session.files.stored
      ((session.files.names log.path).getD 0)
    let message : LogMessage :=
      { date := []
        time := []
        level := 0
        service := service
        traceId := none
        place := nullPlace
        printed := readable.content }
    have passes : ¬message.level > session.logLevel :=
      UInt32.not_lt.mpr UInt32.zero_le
    have written := write_found sound 0 passes (found 0)
    obtain ⟨named, again, file, linked, arrived⟩ :=
      arrive 0 message (message.line base) (by rw [written])
        (by rw [written]; exact owns)
    rw [path] at again
    cases again
    rw [written] at linked arrived
    change session.files.names log.path = some file at linked
    by_contra other
    have different : file ≠ log.file := by
      intro same
      rw [same] at linked
      exact other linked
    have stays : readable = session.files.stored file := by
      unfold readable
      rw [linked]
      rfl
    rw [append_content, if_neg different, ← stays] at arrived
    have short := arrived.length_le
    have long : (message.line base).length ≥ readable.content.length + 1 := by
      have printed : message.printed = readable.content := rfl
      unfold LogMessage.line logBody
      rw [printed]
      simp only [List.length_append, List.length_singleton]
      omega
    omega
  · intro linked now message
    exact ((write_step sound now message).2 linked).2

end Arrival

/-! ### Cleanups -/

section Cleanups

variable {base : Bytes} {session : Session}

theorem cleaned_names_iff (cutoff : Int) (dirs : List Bytes)
    (files : Files Bytes) {path : Bytes} {file : Nat} :
    (dirs.foldl (cleanDirectory cutoff) files).names path = some file ↔
      files.names path = some file ∧
        ∀ dir ∈ dirs, goneFrom cutoff dir path (files.stored file) = false := by
  induction dirs generalizing files with
  | nil => exact (and_iff_left nofun).symm
  | cons dir dirs ih =>
      rw [List.foldl_cons, ih, List.forall_mem_cons, ← and_assoc]
      exact and_congr_left' linked_unlink_iff

/-- A cleanup leaves the handles, and unlinks by age if it keeps a positive
number of days. -/
theorem cleanup_outcome (sound : session.Sound base) (now : Int)
    (daysToKeep : Int32) :
    let after := (session.cleanup base now daysToKeep).1
    after.Sound base ∧ after.openLogs = session.openLogs ∧
      after.files =
        if 0 < daysToKeep then
          (Core.logDirs base).foldl
            (cleanDirectory (Core.retentionCutoff daysToKeep now)) session.files
        else session.files := by
  intro after
  by_cases kept : 0 < daysToKeep
  · have cleaned : after =
        { session with
            files := (Core.logDirs base).foldl
              (cleanDirectory (Core.retentionCutoff daysToKeep now))
              session.files } := by
      unfold after Session.cleanup preClean
      rw [sound.started, if_neg nofun, if_neg (Int32.not_le.mpr kept)]
      rfl
    rw [cleaned, if_pos kept]
    exact ⟨⟨sound.started, sound.main, sound.named, sound.accepted,
      sound.distinct⟩, rfl, rfl⟩
  · have same : after = session := by
      unfold after Session.cleanup preClean
      rw [sound.started, if_neg nofun, if_pos (Int32.not_lt.mp kept)]
    rw [same, if_neg kept]
    exact ⟨sound, rfl, rfl⟩

theorem cleanup_linked_iff (sound : session.Sound base)
    (linked : session.Linked) (now : Int) (daysToKeep : Int32) :
    (session.cleanup base now daysToKeep).1.Linked ↔
      (0 < daysToKeep → ∀ log ∈ session.openLogs, ∀ dir ∈ Core.logDirs base,
        goneFrom (Core.retentionCutoff daysToKeep now) dir log.path
          (session.files.stored log.file) = false) := by
  obtain ⟨_, logs, files⟩ := cleanup_outcome sound now daysToKeep
  unfold Session.Linked
  rw [logs, files]
  by_cases kept : 0 < daysToKeep
  · rw [if_pos kept]
    constructor
    · intro still _ log member
      exact ((cleaned_names_iff _ _ _).mp (still log member)).2
    · intro spared log member
      exact (cleaned_names_iff _ _ _).mpr
        ⟨linked log member, spared kept log member⟩
  · rw [if_neg kept]
    exact iff_of_true linked fun days => absurd days kept

end Cleanups

/-! ### Every run -/

theorem sound_step (base : Bytes) (session : Session) (call : SessionCall)
    (sound : session.Sound base) :
    (sessionStep base session call).1.Sound base := by
  cases call with
  | write now message => exact (write_step sound now message).1
  | cleanup now daysToKeep => exact (cleanup_outcome sound now daysToKeep).1

theorem linesArrive_step_iff (base : Bytes) (session : Session)
    (call : SessionCall) (sound : session.Sound base)
    (arrive : LinesArrive base session) :
    LinesArrive base (sessionStep base session call).1 ↔
      SparesOpen base session call := by
  have linked := (linesArrive_iff sound).mp arrive
  rw [linesArrive_iff (sound_step base session call sound)]
  cases call with
  | write now message =>
      exact iff_of_true ((write_step sound now message).2 linked).1 nofun
  | cleanup now daysToKeep =>
      apply (cleanup_linked_iff sound linked now daysToKeep).trans
      constructor
      · intro spared _ _ same
        cases same
        exact spared
      · intro spared
        exact spared now daysToKeep rfl

theorem sessionStart_sound (env : Option Bytes) (dataDir : Bytes) (now : Int)
    (files : Files Bytes) :
    (sessionStart env dataDir now files).Sound (logBasePath env dataDir) ∧
      (sessionStart env dataDir now files).Linked := by
  refine ⟨⟨rfl, ⟨_, rfl⟩, nofun, nofun, List.nodup_nil⟩, ?_⟩
  intro log member
  rw [List.mem_singleton.mp member]
  exact openAppend_linked now _ files

/-- At every point of a run of writes and cleanups the lines that are written
next arrive in the files that the module names, exactly if no cleanup so far
found an open log file that had expired. -/
theorem log_lines_arrive_iff (env : Option Bytes) (dataDir : Bytes) (now : Int)
    (files : Files Bytes) (calls : List SessionCall) :
    (∀ done, done <+: calls → LinesArrive (logBasePath env dataDir)
        (final (sessionStep (logBasePath env dataDir))
          (sessionStart env dataDir now files) done)) ↔
      Meets (sessionStep (logBasePath env dataDir))
        (SparesOpen (logBasePath env dataDir))
        (sessionStart env dataDir now files) calls :=
  prefixes_iff_meets (sessionStep (logBasePath env dataDir))
    (SparesOpen (logBasePath env dataDir))
    (Session.Sound (logBasePath env dataDir))
    (LinesArrive (logBasePath env dataDir))
    (sound_step (logBasePath env dataDir))
    (linesArrive_step_iff (logBasePath env dataDir))
    (sessionStart env dataDir now files) calls
    (sessionStart_sound env dataDir now files).1
    ((linesArrive_iff (sessionStart_sound env dataDir now files).1).mpr
      (sessionStart_sound env dataDir now files).2)

def noFiles : Files Bytes where
  names := fun _ => none
  stored := fun _ => { content := [], modified := 0 }
  fresh := 0
  known := nofun

/-- The main log is idle for eight days, a cleanup keeps seven, and what is
written after it is in no file with a name. -/
theorem log_lines_cut_off :
    ¬∀ (env : Option Bytes) (dataDir : Bytes) (now : Int)
      (files : Files Bytes) (calls : List SessionCall),
      (∀ call ∈ calls, ∀ now daysToKeep,
        call = .cleanup now daysToKeep → 0 < daysToKeep) →
      ∀ done, done <+: calls → LinesArrive (logBasePath env dataDir)
        (final (sessionStep (logBasePath env dataDir))
          (sessionStart env dataDir now files) done) := by
  intro always
  let calls : List SessionCall := [.cleanup (8 * 86400) 7]
  let reached := final (sessionStep (logBasePath none (ofString "/var/lib")))
    (sessionStart none (ofString "/var/lib") 0 noFiles) calls
  have sound : reached.Sound (logBasePath none (ofString "/var/lib")) :=
    sound_step _ _ _ (sessionStart_sound none (ofString "/var/lib") 0 noFiles).1
  have arrive := always none (ofString "/var/lib") 0 noFiles calls (by
    intro call member now daysToKeep same
    rw [List.mem_singleton.mp member] at same
    cases same
    decide) calls List.prefix_rfl
  have linked := (linesArrive_iff sound).mp arrive
    { path := mainLogPath (logBasePath none (ofString "/var/lib")), file := 0 }
    List.mem_cons_self
  revert linked
  decide

end Heapstore.Log
