/-
What a log line says of its message.

The fast and the slow call pass the message as a format without arguments and
print the trace id through a buffer, so the text of a line is the message only
where the message holds no percent sign and the trace id fits.
-/

import Heapstore.LogLevels

namespace Heapstore.Log

open ByteText

/-! ### A message as a format -/

theorem formatAlone_of_plain {message : Bytes}
    (plain : (37 : UInt8) ∉ message) :
    formatAlone false message = some message := by
  induction message with
  | nil => rfl
  | cons byte rest ih =>
      rw [List.mem_cons, not_or] at plain
      rw [formatAlone, if_neg (Ne.symm plain.1), ih plain.2, Option.map_some]

theorem length_formatAlone {opened : Bool} {message printed : Bytes}
    (formatted : formatAlone opened message = some printed) :
    printed.length ≤ message.length := by
  induction message generalizing opened printed with
  | nil =>
      cases opened with
      | false =>
          cases formatted
          exact Nat.le_refl _
      | true => cases formatted
  | cons byte rest ih =>
      have carried : ∀ first : UInt8,
          (formatAlone false rest).map (first :: ·) = some printed →
            printed.length ≤ rest.length + 1 := by
        intro first found
        obtain ⟨tail, inner, rfl⟩ := Option.map_eq_some_iff.mp found
        exact Nat.succ_le_succ (ih inner)
      cases opened with
      | false =>
          rw [formatAlone] at formatted
          split at formatted
          · exact Nat.le_succ_of_le (ih formatted)
          · exact carried byte formatted
      | true =>
          rw [formatAlone] at formatted
          split at formatted
          · exact carried 37 formatted
          · cases formatted

/-- A percent sign costs at least one byte of the text. -/
theorem length_formatAlone_lt {message printed : Bytes}
    (marked : (37 : UInt8) ∈ message)
    (formatted : formatAlone false message = some printed) :
    printed.length < message.length := by
  induction message generalizing printed with
  | nil => cases marked
  | cons byte rest ih =>
      rw [formatAlone] at formatted
      split at formatted
      · exact Nat.lt_succ_of_le (length_formatAlone formatted)
      · rename_i other
        obtain ⟨tail, inner, rfl⟩ := Option.map_eq_some_iff.mp formatted
        have inRest : (37 : UInt8) ∈ rest := by
          rcases List.mem_cons.mp marked with same | later
          · exact absurd same.symm other
          · exact later
        exact Nat.succ_lt_succ (ih inRest inner)

/-! ### Bodies of lines -/

/-- The trace id and the message verbatim, and the end of the line. -/
def verbatimBody (traceId : Option Bytes) (message : Bytes) : Bytes :=
  (match traceId with
    | none => []
    | some id => ofString "[trace:" ++ id ++ ofString "] ") ++
    message ++ [10]

/-- The message holds no percent sign and the trace id fits its buffer. -/
def Verbatim (traceId : Option Bytes) (message : Bytes) : Prop :=
  (37 : UInt8) ∉ message ∧ ∀ id ∈ traceId, id.length ≤ 502

theorem logBody_of_fits {traceId : Option Bytes} (message : Bytes)
    (fits : ∀ id ∈ traceId, id.length ≤ 502) :
    logBody traceId message = verbatimBody traceId message := by
  cases traceId with
  | none => rfl
  | some id =>
      have short := fits id rfl
      have whole : (ofString "[trace:" ++ id ++ ofString "] ").length < 512 := by
        rw [List.length_append, List.length_append]
        change 7 + id.length + 2 < 512
        omega
      unfold logBody verbatimBody tracePart
      simp only [printTo_of_fits whole]

theorem length_verbatim_of_eq {traceId : Option Bytes} {printed message : Bytes}
    (short : printed.length ≤ message.length)
    (same : logBody traceId printed = verbatimBody traceId message) :
    printed.length = message.length ∧ ∀ id ∈ traceId, id.length ≤ 502 := by
  have lengths := congrArg List.length same
  unfold logBody verbatimBody at lengths
  cases traceId with
  | none =>
      simp only [tracePart, List.length_append, List.length_nil,
        List.length_cons] at lengths
      exact ⟨by omega, nofun⟩
  | some id =>
      have cut : (tracePart (some id)).length = min 511 (7 + id.length + 2) := by
        unfold tracePart printTo
        rw [List.length_take, List.length_append, List.length_append]
        rfl
      rw [List.length_append, List.length_append, cut, List.length_append,
        List.length_append, List.length_append, List.length_append] at lengths
      change min 511 (7 + id.length + 2) + printed.length + 1 =
        7 + id.length + 2 + message.length + 1 at lengths
      refine ⟨by omega, ?_⟩
      intro given same
      cases same
      omega

/-- Whatever undefined conversions print, the body is verbatim exactly under
the condition on the message and the trace id. -/
theorem logBody_verbatim_iff (traceId : Option Bytes) (message : Bytes) :
    (∀ undefinedText, logBody traceId (printAlone undefinedText message) =
        verbatimBody traceId message) ↔ Verbatim traceId message := by
  constructor
  · intro always
    have same := always fun _ => []
    have printed : (printAlone (fun _ => []) message).length ≤ message.length ∧
        ((37 : UInt8) ∈ message →
          (printAlone (fun _ => []) message).length < message.length) := by
      unfold printAlone
      cases formatted : formatAlone false message with
      | none =>
          exact ⟨Nat.zero_le _, fun marked => List.length_pos_of_mem marked⟩
      | some text =>
          exact ⟨length_formatAlone formatted,
            fun marked => length_formatAlone_lt marked formatted⟩
    obtain ⟨equal, fits⟩ := length_verbatim_of_eq printed.1 same
    refine ⟨fun marked => ?_, fits⟩
    exact Nat.ne_of_lt (printed.2 marked) equal
  · rintro ⟨plain, fits⟩ undefinedText
    unfold printAlone
    rw [formatAlone_of_plain plain, Option.getD_some, logBody_of_fits message fits]

/-! ### Lines -/

section Lines

variable {calls : WriteCalls} {logger : Logger}

theorem logWrite_line {level : Level} {service traceId : Option Bytes}
    {place : SourcePlace} {printed path line : Bytes}
    (written : (logWrite calls level service traceId place printed logger).2 =
      some (path, line)) :
    line = logHeader calls level place ++ logBody traceId printed := by
  simp only [logWrite] at written
  split at written
  · cases written
  split at written
  · cases written
  split at written
  · cases written
  · cases written
    rfl

/-- Whether a line is written does not depend on what its format prints. -/
theorem logWrite_isSome (level : Level) (service traceId : Option Bytes)
    (place : SourcePlace) (first second : Bytes) :
    (logWrite calls level service traceId place first logger).2.isSome =
      (logWrite calls level service traceId place second logger).2.isSome := by
  simp only [logWrite]
  split
  · rfl
  split
  · rfl
  split <;> rfl

theorem writeDispatch_line {undefinedText : Bytes → Bytes}
    {service traceId : Option Bytes} {level : Int32} {message path line : Bytes}
    (written : (writeDispatch calls undefinedText service level (some message)
      traceId logger).2.2 = some (path, line)) :
    line = logHeader calls level.toUInt32 nullPlace ++
      logBody traceId (printAlone undefinedText message) := by
  simp only [writeDispatch] at written
  split at written
  · cases written
  split at written
  · cases written
  · exact logWrite_line written

theorem writeDispatch_isSome (first second : Bytes → Bytes)
    (service : Option Bytes) (level : Int32) (message : Bytes)
    (traceId : Option Bytes) :
    (writeDispatch calls first service level (some message) traceId
        logger).2.2.isSome =
      (writeDispatch calls second service level (some message) traceId
        logger).2.2.isSome := by
  simp only [writeDispatch]
  split
  · rfl
  split
  · rfl
  · exact logWrite_isSome ..

theorem loggingWrite_line {place : SourcePlace} {module_ : Bytes}
    {level : Int32} {traceId : Option Bytes} {message path line : Bytes}
    {timestampNs : UInt64}
    (written : (loggingWrite calls place (some module_) level traceId
      (some message) timestampNs logger).2.2 = some (path, line)) :
    line = logHeader calls (loggingLevel level) place ++
      logBody traceId message := by
  simp only [loggingWrite] at written
  split at written
  · cases written
  · exact logWrite_line written

end Lines

/-- A line ends in its trace id and message verbatim, and so does every line
that the integration layer writes for the same two. -/
structure KeepsMessage (header : Bytes) (traceId : Option Bytes)
    (message line : Bytes) : Prop where
  verbatim : line = header ++ verbatimBody traceId message
  alike : ∀ calls place module_ level timestampNs logger path other,
    (loggingWrite calls place (some module_) level traceId (some message)
        timestampNs logger).2.2 = some (path, other) →
      other = logHeader calls (loggingLevel level) place ++
        verbatimBody traceId message

theorem writeDispatch_keeps_iff (calls : WriteCalls) (service : Option Bytes)
    (level : Int32) (message : Bytes) (traceId : Option Bytes)
    (logger : Logger)
    (appends : ∃ undefinedText, (writeDispatch calls undefinedText service level
      (some message) traceId logger).2.2.isSome = true) :
    (∀ undefinedText path line,
      (writeDispatch calls undefinedText service level (some message) traceId
          logger).2.2 = some (path, line) →
        KeepsMessage (logHeader calls level.toUInt32 nullPlace) traceId message
          line) ↔
      Verbatim traceId message := by
  obtain ⟨somehow, written⟩ := appends
  constructor
  · intro always
    apply (logBody_verbatim_iff traceId message).mp
    intro undefinedText
    rw [writeDispatch_isSome somehow undefinedText] at written
    obtain ⟨⟨path, line⟩, here⟩ := Option.isSome_iff_exists.mp written
    have kept := (always undefinedText path line here).verbatim
    rw [writeDispatch_line here] at kept
    exact List.append_cancel_left kept
  · intro verbatim undefinedText path line here
    refine ⟨?_, ?_⟩
    · rw [writeDispatch_line here,
        (logBody_verbatim_iff traceId message).mpr verbatim]
    · intro _ _ _ _ _ _ _ other logged
      rw [loggingWrite_line logged, logBody_of_fits message verbatim.2]

/-- A fast or slow write that appends a line keeps its message exactly when the
message holds no percent sign and the trace id fits the buffer. -/
theorem log_writes_keep_message_iff (calls : WriteCalls)
    (service : Option Bytes) (level : Int32) (message : Bytes)
    (logger : Logger) :
    ((∃ undefinedText, (logWriteFast calls undefinedText service level
        (some message) logger).2.2.isSome = true) →
      ((∀ undefinedText path line,
        (logWriteFast calls undefinedText service level (some message)
            logger).2.2 = some (path, line) →
          KeepsMessage (logHeader calls level.toUInt32 nullPlace) none message
            line) ↔
        Verbatim none message)) ∧
    ∀ traceId timeoutMs,
      (∃ undefinedText, (logWriteSlow calls undefinedText service level
          (some message) traceId timeoutMs logger).2.2.isSome = true) →
        ((∀ undefinedText path line,
          (logWriteSlow calls undefinedText service level (some message) traceId
              timeoutMs logger).2.2 = some (path, line) →
            KeepsMessage (logHeader calls level.toUInt32 nullPlace) traceId
              message line) ↔
          Verbatim traceId message) :=
  ⟨fun appends =>
      writeDispatch_keeps_iff calls service level message none logger appends,
    fun traceId _ appends =>
      writeDispatch_keeps_iff calls service level message traceId logger
        appends⟩

theorem log_writes_keep_message_iff_ready :
    ((∀ undefinedText path line,
      (logWriteFast writeCallsOk undefinedText none 1 (some (ofString "ready"))
          startedLogger).2.2 = some (path, line) →
        KeepsMessage (logHeader writeCallsOk (1 : Int32).toUInt32 nullPlace)
          none (ofString "ready") line) ↔
      Verbatim none (ofString "ready")) ∧
    ((∀ undefinedText path line,
      (logWriteSlow writeCallsOk undefinedText none 1 (some (ofString "ready"))
          (some (ofString "t1")) 0 startedLogger).2.2 = some (path, line) →
        KeepsMessage (logHeader writeCallsOk (1 : Int32).toUInt32 nullPlace)
          (some (ofString "t1")) (ofString "ready") line) ↔
      Verbatim (some (ofString "t1")) (ofString "ready")) :=
  ⟨(log_writes_keep_message_iff writeCallsOk none 1 (ofString "ready")
      startedLogger).1 ⟨fun _ => [], by decide⟩,
    (log_writes_keep_message_iff writeCallsOk none 1 (ofString "ready")
      startedLogger).2 (some (ofString "t1")) 0 ⟨fun _ => [], by decide⟩⟩

/-- Of the message "50%% done" the fast call writes "50% done". -/
theorem fast_write_loses_percent :
    ¬∀ calls undefinedText service level message logger path line,
      (logWriteFast calls undefinedText service level (some message)
          logger).2.2 = some (path, line) →
        KeepsMessage (logHeader calls level.toUInt32 nullPlace) none message
          line := by
  intro always
  let written := (logWriteFast writeCallsOk (fun _ => []) none 1
    (some (ofString "50%% done")) startedLogger).2.2
  have appended : written.isSome = true := by decide
  obtain ⟨⟨path, line⟩, here⟩ := Option.isSome_iff_exists.mp appended
  have kept := (always writeCallsOk (fun _ => []) none 1
    (ofString "50%% done") startedLogger path line here).verbatim
  rw [writeDispatch_line here] at kept
  exact absurd (List.append_cancel_left kept) (by decide)

end Heapstore.Log
