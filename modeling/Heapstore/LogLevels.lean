/-
Which messages reach a log file.

The four entry points share one threshold, which changes during a run.  A level
law compares the severity that a caller gives a message with the threshold in
force; the code compares them the other way round, so of the listed severities
only the threshold itself is treated as the law asks.  One entry point has no
case for FATAL and files it as INFO.
-/

import Heapstore.LogWrites

namespace Heapstore.Log

open ByteText OperationRun

/-- The macros `HEAPSTORE_LOG_ERROR` to `HEAPSTORE_LOG_DEBUG`. -/
inductive LogMacro where
  | error
  | warn
  | info
  | debug
  deriving DecidableEq

def LogMacro.level : LogMacro → Level
  | .error => levelError
  | .warn => levelWarn
  | .info => levelInfo
  | .debug => levelDebug

/-- Setting the level, or a write with what the platform does during it.  The
text that a macro prints is that of its own format and arguments. -/
inductive LogOp where
  | setLevel (level : Level)
  | fast (calls : WriteCalls) (undefinedText : Bytes → Bytes)
      (service : Option Bytes) (level : Int32) (message : Bytes)
  | slow (calls : WriteCalls) (undefinedText : Bytes → Bytes)
      (service : Option Bytes) (level : Int32) (message : Bytes)
      (traceId : Option Bytes) (timeoutMs : UInt32)
  | logging (calls : WriteCalls) (place : SourcePlace) (module_ : Bytes)
      (level : Int32) (traceId : Option Bytes) (message : Bytes)
      (timestampNs : UInt64)
  | byMacro (calls : WriteCalls) (place : SourcePlace) (which : LogMacro)
      (service traceId : Option Bytes) (printed : Bytes)

def logMachine : Machine Logger LogOp Written := fun logger operation =>
  match operation with
  | .setLevel level => (logSetLevel level logger, none)
  | .fast calls undefinedText service level message =>
      let result := logWriteFast calls undefinedText service level
        (some message) logger
      (result.1, result.2.2)
  | .slow calls undefinedText service level message traceId timeoutMs =>
      let result := logWriteSlow calls undefinedText service level
        (some message) traceId timeoutMs logger
      (result.1, result.2.2)
  | .logging calls place module_ level traceId message timestampNs =>
      let result := loggingWrite calls place (some module_) level traceId
        (some message) timestampNs logger
      (result.1, result.2.2)
  | .byMacro calls place which service traceId printed =>
      logWrite calls which.level service traceId place printed logger

/-! ### The law -/

/-- The severity that the caller gives the message of a write, in the order of
the enum. -/
def LogOp.severity : LogOp → Option Level
  | .setLevel _ => none
  | .fast _ _ _ level _ => some level.toUInt32
  | .slow _ _ _ level _ _ _ => some level.toUInt32
  | .logging _ _ _ level _ _ _ => some level.toUInt32
  | .byMacro _ _ which _ _ _ => some which.level

/-- A message is appended to a file exactly if it is at least as severe as the
level in force. -/
def ObeysLevel (logger : Logger) (operation : LogOp) : Prop :=
  ∀ severity, operation.severity = some severity →
    ((logMachine logger operation).2.isSome = true ↔
      logger.log.logLevel ≤ severity)

/-- The breaker refuses the call. -/
def LogOp.isBlocked : LogOp → Bool
  | .fast calls _ _ _ _ => calls.blocked
  | .slow calls _ _ _ _ _ _ => calls.blocked
  | _ => false

/-- The switch of `heapstore_logging_write` has no case for the severity. -/
def LogOp.isUnlisted : LogOp → Bool
  | .logging _ _ _ level _ _ _ => decide (levelError < level.toUInt32)
  | _ => false

/-- A message that is let through is at the level in force, and one that the
breaker refuses is below it.  For one without a case the level in force lies
between INFO and its severity. -/
def AtThreshold (logger : Logger) (operation : LogOp) : Prop :=
  ∀ severity, operation.severity = some severity →
    if operation.isBlocked then severity < logger.log.logLevel
    else if operation.isUnlisted then
      levelInfo ≤ logger.log.logLevel ∧ logger.log.logLevel ≤ severity
    else severity = logger.log.logLevel

/-- A service that has a file: none, the empty one, or an accepted name. -/
def ServiceAccepted : Option Bytes → Prop
  | none => True
  | some name => name = [] ∨ (pathClean 64 name).isSome = true

/-- The name is accepted and files can be opened. -/
def LogOp.Possible : LogOp → Prop
  | .setLevel _ => True
  | .fast calls _ service _ _ => ServiceAccepted service ∧ calls.opened = true
  | .slow calls _ service _ _ _ _ =>
      ServiceAccepted service ∧ calls.opened = true
  | .logging calls _ module_ _ _ _ _ =>
      ServiceAccepted (some module_) ∧ calls.opened = true
  | .byMacro calls _ _ service _ _ =>
      ServiceAccepted service ∧ calls.opened = true

structure Logger.Running (logger : Logger) : Prop where
  ready : logger.ready = true
  integrated : logger.integrated = true
  started : logger.log.initialized = true

/-! ### What a write appends -/

section Writes

variable {logger : Logger} {calls : WriteCalls}

theorem getMainLogFile_found (running : logger.Running)
    (opened : calls.opened = true) :
    (getMainLogFile calls logger).2.isSome = true ∧
      (getMainLogFile calls logger).1.Running := by
  obtain ⟨ready, integrated, started⟩ := running
  unfold getMainLogFile
  simp only [started, opened, Bool.true_eq_false, if_false]
  cases logger.log.mainLogFile with
  | some path => exact ⟨rfl, ready, integrated, started⟩
  | none => exact ⟨rfl, ready, integrated, rfl⟩

theorem getServiceLogFile_found (running : logger.Running)
    {service : Option Bytes} (accepted : ServiceAccepted service)
    (opened : calls.opened = true) :
    (getServiceLogFile calls service logger).2.isSome = true ∧
      (getServiceLogFile calls service logger).1.Running := by
  rcases service with _ | _ | ⟨byte, rest⟩
  · exact getMainLogFile_found running opened
  · exact getMainLogFile_found running opened
  · obtain ⟨safe, cleaned⟩ := Option.isSome_iff_exists.mp
      (accepted.resolve_left (List.cons_ne_nil byte rest))
    simp only [getServiceLogFile, cleaned]
    split
    · exact ⟨rfl, running⟩
    split
    · simp only [opened, Bool.true_eq_false, if_false]
      exact ⟨rfl, running.ready, running.integrated, running.started⟩
    · exact getMainLogFile_found running opened

/-- A write puts a line into a file exactly if its level is at most the level
in force. -/
theorem logWrite_appends_iff (running : logger.Running) (level : Level)
    {service : Option Bytes} (traceId : Option Bytes) (place : SourcePlace)
    (printed : Bytes) (accepted : ServiceAccepted service)
    (opened : calls.opened = true) :
    ((logWrite calls level service traceId place printed logger).2.isSome =
        true ↔ level ≤ logger.log.logLevel) ∧
      (logWrite calls level service traceId place printed logger).1.Running := by
  obtain ⟨found, stillRunning⟩ :=
    getServiceLogFile_found running accepted opened
  obtain ⟨path, here⟩ := Option.isSome_iff_exists.mp found
  unfold logWrite
  simp only [running.started, Bool.true_eq_false, if_false, here]
  by_cases above : level > logger.log.logLevel
  · rw [if_pos above]
    exact ⟨iff_of_false nofun (UInt32.not_le.mpr above), running⟩
  · rw [if_neg above]
    exact ⟨iff_of_true rfl (UInt32.not_lt.mp above), stillRunning.ready,
      stillRunning.integrated, stillRunning.started⟩

theorem writeDispatch_appends_iff (running : logger.Running)
    (undefinedText : Bytes → Bytes) {service : Option Bytes} (level : Int32)
    (message : Bytes) (traceId : Option Bytes)
    (accepted : ServiceAccepted service) (opened : calls.opened = true) :
    ((writeDispatch calls undefinedText service level (some message) traceId
        logger).2.2.isSome = true ↔
      calls.blocked = false ∧ level.toUInt32 ≤ logger.log.logLevel) ∧
      (writeDispatch calls undefinedText service level (some message) traceId
        logger).1.Running := by
  unfold writeDispatch
  simp only [running.ready, Bool.true_eq_false, if_false]
  cases calls.blocked with
  | true => exact ⟨iff_of_false nofun (fun both => absurd both.1 nofun), running⟩
  | false =>
      obtain ⟨appends, stillRunning⟩ := logWrite_appends_iff running
        level.toUInt32 traceId nullPlace (printAlone undefinedText message)
        accepted opened
      exact ⟨appends.trans (and_iff_right rfl).symm, stillRunning⟩

/-- The switch of `heapstore_logging_write` keeps the severities up to ERROR. -/
theorem loggingLevel_eq (level : Int32) :
    loggingLevel level =
      if levelError < level.toUInt32 then levelInfo else level.toUInt32 := by
  obtain ⟨severity⟩ := level
  have case (number : UInt32) :
      Int32.ofUInt32 severity = Int32.ofUInt32 number ↔ severity = number :=
    ⟨fun same => congrArg Int32.toUInt32 same, fun same => congrArg _ same⟩
  change (if Int32.ofUInt32 severity = Int32.ofUInt32 0 then levelDebug
    else if Int32.ofUInt32 severity = Int32.ofUInt32 1 then levelInfo
    else if Int32.ofUInt32 severity = Int32.ofUInt32 2 then levelWarn
    else if Int32.ofUInt32 severity = Int32.ofUInt32 3 then levelError
    else levelInfo) = if levelError < severity then levelInfo else severity
  simp only [case]
  by_cases above : levelError < severity
  · have unlisted {number : UInt32} (listed : number ≤ levelError) :
        severity ≠ number := by
      rintro rfl
      exact UInt32.not_lt.mpr listed above
    rw [if_pos above, if_neg (unlisted (by decide)),
      if_neg (unlisted (by decide)), if_neg (unlisted (by decide)),
      if_neg (unlisted (by decide))]
  · rw [if_neg above]
    have bounded : severity.toNat ≤ 3 := UInt32.le_iff_toNat_le.mp
      (UInt32.not_lt.mp above)
    have listed : severity = 0 ∨ severity = 1 ∨ severity = 2 ∨ severity = 3 := by
      simp only [← UInt32.toNat_inj, UInt32.reduceToNat]
      omega
    rcases listed with rfl | rfl | rfl | rfl <;> rfl

/-- Appended when at most the level, wanted when at least: both hold together
exactly at the level. -/
theorem law_iff_equal {level severity : Level} :
    ((severity ≤ level) ↔ (level ≤ severity)) ↔ severity = level := by
  constructor
  · intro same
    rcases UInt32.le_total severity level with below | above
    · exact UInt32.le_antisymm below (same.mp below)
    · exact UInt32.le_antisymm (same.mpr above) above
  · intro same
    subst same
    exact Iff.rfl

/-- What is filed as INFO in place of more. -/
theorem law_iff_between {level severity : Level} (above : levelInfo < severity) :
    ((levelInfo ≤ level) ↔ (level ≤ severity)) ↔
      levelInfo ≤ level ∧ level ≤ severity := by
  constructor
  · intro same
    have filed : levelInfo ≤ level := by
      rcases UInt32.le_total level severity with below | beyond
      · exact same.mpr below
      · exact UInt32.le_trans (UInt32.le_of_lt above) beyond
    exact ⟨filed, same.mp filed⟩
  · exact fun both => iff_of_true both.1 both.2

end Writes

theorem LogOp.severity_of_unlisted (operation : LogOp)
    (unlisted : operation.isUnlisted = true) {severity : Level}
    (given : operation.severity = some severity) : levelInfo < severity := by
  cases operation with
  | logging calls place module_ level traceId message timestampNs =>
      cases given
      exact UInt32.lt_trans (by decide) (of_decide_eq_true unlisted)
  | _ => cases unlisted

/-! ### One step -/

/-- The level under which a message is filed. -/
def LogOp.filed (operation : LogOp) (severity : Level) : Level :=
  if operation.isUnlisted then levelInfo else severity

/-- What a possible operation does: a write appends exactly if it is let
through and filed under at most the level in force. -/
theorem logMachine_step {logger : Logger} (running : logger.Running)
    {operation : LogOp} (possible : operation.Possible) :
    (logMachine logger operation).1.Running ∧
      ∀ severity, operation.severity = some severity →
        ((logMachine logger operation).2.isSome = true ↔
          operation.isBlocked = false ∧
            operation.filed severity ≤ logger.log.logLevel) := by
  cases operation with
  | setLevel level =>
      exact ⟨⟨running.ready, running.integrated, running.started⟩, nofun⟩
  | fast calls undefinedText service level message =>
      obtain ⟨appends, stillRunning⟩ := writeDispatch_appends_iff running
        undefinedText level message none possible.1 possible.2
      refine ⟨stillRunning, ?_⟩
      intro severity given
      cases given
      exact appends
  | slow calls undefinedText service level message traceId timeoutMs =>
      obtain ⟨appends, stillRunning⟩ := writeDispatch_appends_iff running
        undefinedText level message traceId possible.1 possible.2
      refine ⟨stillRunning, ?_⟩
      intro severity given
      cases given
      exact appends
  | logging calls place module_ level traceId message timestampNs =>
      obtain ⟨appends, stillRunning⟩ := logWrite_appends_iff running
        (loggingLevel level) traceId place message possible.1 possible.2
      simp only [logMachine, loggingWrite, running.integrated,
        Bool.true_eq_false, if_false]
      refine ⟨stillRunning, ?_⟩
      intro severity given
      cases given
      have filed : (LogOp.logging calls place module_ level traceId message
          timestampNs).filed level.toUInt32 = loggingLevel level := by
        rw [loggingLevel_eq]
        simp only [LogOp.filed, LogOp.isUnlisted, decide_eq_true_eq]
      rw [filed]
      exact appends.trans (and_iff_right rfl).symm
  | byMacro calls place which service traceId printed =>
      obtain ⟨appends, stillRunning⟩ := logWrite_appends_iff running
        which.level traceId place printed possible.1 possible.2
      refine ⟨stillRunning, ?_⟩
      intro severity given
      cases given
      exact appends.trans (and_iff_right rfl).symm

theorem obeysLevel_iff {logger : Logger} (running : logger.Running)
    {operation : LogOp} (possible : operation.Possible) :
    ObeysLevel logger operation ↔ AtThreshold logger operation := by
  have appends := (logMachine_step running possible).2
  unfold ObeysLevel AtThreshold
  refine forall_congr' fun severity => forall_congr' fun given => ?_
  rw [appends severity given]
  cases operation.isBlocked with
  | true =>
      simp only [Bool.true_eq_false, false_and, if_true, false_iff]
      exact UInt32.not_le
  | false =>
      simp only [true_and, Bool.false_eq_true, if_false, LogOp.filed]
      cases unlisted : operation.isUnlisted with
      | true =>
          simp only [if_true]
          exact law_iff_between (operation.severity_of_unlisted unlisted given)
      | false =>
          simp only [Bool.false_eq_true, if_false]
          exact law_iff_equal

/-- In a run whose names are accepted and whose files open, every message obeys
the level law exactly when every message that the breaker refuses is below the
level in force, every other one of a listed severity is at it, and it lies
between INFO and every severity without a case. -/
theorem log_level_law_iff (start : Logger) (running : start.Running)
    (operations : List LogOp)
    (possible : ∀ operation ∈ operations, operation.Possible) :
    Meets logMachine ObeysLevel start operations ↔
      Meets logMachine AtThreshold start operations :=
  meets_congr logMachine Logger.Running ObeysLevel AtThreshold start operations
    running
    (fun _ operation member stillRunning =>
      (logMachine_step stillRunning (possible operation member)).1)
    (fun _ operation member stillRunning =>
      obeysLevel_iff stillRunning (possible operation member))

/-- The logger after the modules have started. -/
def startedLogger : Logger :=
  let started := logInit none (ofString "/var/lib") true clearedLog fun _ => none
  { ready := true
    integrated := true
    log := started.1
    disk := started.2.1 }

def writeCallsOk : WriteCalls where
  base := logBasePath none (ofString "/var/lib")
  date := ofString "2026-01-01"
  time := ofString "12:00:00"
  opened := true
  blocked := false

/-- A fatal message at the level ERROR. -/
def haltingRun : List LogOp :=
  [.setLevel levelError,
    .logging writeCallsOk nullPlace (ofString "db") 4 none (ofString "halt") 0]

theorem log_level_law_iff_halting :
    Meets logMachine ObeysLevel startedLogger haltingRun ↔
      Meets logMachine AtThreshold startedLogger haltingRun :=
  log_level_law_iff startedLogger ⟨rfl, rfl, rfl⟩ haltingRun (by
    intro operation member
    rcases List.mem_cons.mp member with rfl | later
    · trivial
    · rw [List.mem_singleton.mp later]
      exact ⟨Or.inr (by decide), rfl⟩)

/-- At the level ERROR a warning is written all the same. -/
theorem log_level_law_broken :
    ¬∀ operations : List LogOp,
      (∀ operation ∈ operations, operation.Possible) →
        Meets logMachine ObeysLevel startedLogger operations := by
  intro always
  obtain ⟨_, obeys, _⟩ := always
    [.setLevel levelError,
      .byMacro writeCallsOk nullPlace .warn none none (ofString "low disk")]
    (by
      intro operation member
      rcases List.mem_cons.mp member with rfl | later
      · trivial
      · rw [List.mem_singleton.mp later]
        exact ⟨trivial, rfl⟩)
  have appended := obeys levelWarn rfl
  exact absurd appended (by decide)

end Heapstore.Log
