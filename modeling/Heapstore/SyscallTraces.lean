/-
Traces through the syscall layer.

Saving fills a span from strings of any length and times in microseconds, and
writes it to the span buffer.  A query compares the trace id of the caller with
what the fixed arrays kept.
-/

import Heapstore.TraceQueries

namespace Heapstore.Syscall

open ByteText CivilTime OperationRun Trace

/-- The arguments of `heapstore_syscall_trace_save`. -/
structure TraceArguments where
  traceId : Option Bytes
  spanId : Option Bytes
  parentId : Option Bytes
  name : Option Bytes
  startTimeUs : Int64
  endTimeUs : Int64
  status : Int32
  eventsJson : Option Bytes

/-- The conversion to nanoseconds, from a signed to an unsigned word. -/
def nanoseconds (timeUs : Int64) : UInt64 := timeUs.toUInt64 * 1000

/-- An empty text of events is left out. -/
def savedEvents (eventsJson : Option Bytes) : Option Bytes :=
  eventsJson.filter fun events => decide (events ≠ [])

def savedSpan (traceId spanId name : Bytes) (arguments : TraceArguments) :
    TraceSpan :=
  { zeroedSpan with
    traceId := CharArray.copy traceId
    spanId := CharArray.copy spanId
    parentSpanId := CharArray.copy (arguments.parentId.getD [])
    name := CharArray.copy name
    startTimeNs := nanoseconds arguments.startTimeUs
    endTimeNs := nanoseconds arguments.endTimeUs
    status := CharArray.copy (signedDecimal arguments.status.toInt)
    attributes := savedEvents arguments.eventsJson
    attributeCount :=
      if savedEvents arguments.eventsJson = none then 0 else 1 }

/-- `heapstore_syscall_trace_save`; `held` and `copied` are the duplications of
the events here and in the buffer. -/
def syscallTraceSave (integrated held copied : Bool)
    (arguments : TraceArguments) (state : TraceState) :
    TraceState × SyscallError :=
  if integrated = false then (state, .eNotInit)
  else
    match arguments.traceId, arguments.spanId, arguments.name with
    | some traceId, some spanId, some name =>
        if savedEvents arguments.eventsJson ≠ none ∧ held = false then
          (state, .eNoMem)
        else
          let written := traceWriteSpan copied
            (some (savedSpan traceId spanId name arguments)) state
          (written.1, .ofHeapstore written.2)
    | _, _, _ => (state, .eInval)

/-! ### The times -/

theorem toNat_nanoseconds (timeUs : Int64) :
    (nanoseconds timeUs).toNat = timeUs.toUInt64.toNat * 1000 % 2 ^ 64 := by
  unfold nanoseconds
  rw [UInt64.toNat_mul]
  rfl

/-- The nanoseconds are a thousand times the microseconds exactly when these
are not negative and the product fits the word. -/
theorem nanoseconds_exact_iff (timeUs : Int64) :
    ((nanoseconds timeUs).toNat : Int) = 1000 * timeUs.toInt ↔
      0 ≤ timeUs.toInt ∧ 1000 * timeUs.toInt < 2 ^ 64 := by
  constructor
  · intro exact_
    have bound := (nanoseconds timeUs).toNat_lt
    omega
  · intro inside
    obtain ⟨positive, fits⟩ := inside
    have converted : (timeUs.toUInt64.toNat : Int) = timeUs.toInt := by
      have nonneg : 0 ≤ timeUs := Int64.le_iff_toInt_le.mpr positive
      rw [Int64.toNat_toUInt64_of_le nonneg, Int64.toInt_eq_toNatClampNeg nonneg]
    rw [toNat_nanoseconds, Nat.mod_eq_of_lt (by omega)]
    omega

/-! ### What a save leaves in the buffer -/

section Saved

variable {state : TraceState} {traceId spanId name : Bytes}
  {arguments : TraceArguments} {held copied : Bool}

theorem saved_buffered (tracedBy : arguments.traceId = some traceId)
    (spannedBy : arguments.spanId = some spanId)
    (named : arguments.name = some name)
    (saved : (syscallTraceSave true held copied arguments state).2 =
      .success) :
    let after := (syscallTraceSave true held copied arguments state).1
    after.initialized = true ∧
      after.buffered =
        state.buffered ++ [savedSpan traceId spanId name arguments] := by
  unfold syscallTraceSave at saved ⊢
  simp only [Bool.true_eq_false, if_false, tracedBy, spannedBy, named]
    at saved ⊢
  split at saved
  · cases saved
  · next allocated =>
      rw [if_neg allocated]
      have written := (SyscallError.ofHeapstore_success_iff _).mp saved
      obtain ⟨_, _, still, outcome⟩ := traceWriteSpan_outcome copied
        (some (savedSpan traceId spanId name arguments)) state
      have ready : state.initialized = true := by
        cases flag : state.initialized with
        | true => rfl
        | false =>
            unfold traceWriteSpan at written
            rw [if_pos flag] at written
            cases written
      refine ⟨still.trans ready, ?_⟩
      rcases outcome with ⟨failed, _⟩ | ⟨span, same, _, added⟩
      · exact absurd written failed
      · cases same
        exact added

end Saved

/-! ### Until the next flush -/

def NoFlush (calls : List BufferCall) : Prop :=
  ∀ call ∈ calls, ∀ now opened, call ≠ .flush now opened

theorem buffered_kept (clock : LocalClock) {span : TraceSpan}
    (calls : List BufferCall) (state : TraceState)
    (ready : state.initialized = true) (member : span ∈ state.buffered)
    (quiet : NoFlush calls) :
    (final (bufferCall clock) state calls).initialized = true ∧
      span ∈ (final (bufferCall clock) state calls).buffered := by
  induction calls generalizing state with
  | nil => exact ⟨ready, member⟩
  | cons call rest ih =>
      have write := quiet call List.mem_cons_self
      obtain ⟨still, outcome⟩ := bufferCall_write clock state call write
      apply ih _ (still.trans ready)
      · rcases outcome with ⟨_, same⟩ | ⟨_, added⟩
        · exact same.symm ▸ member
        · exact added.symm ▸ List.mem_append_left _ member
      · exact fun other later => quiet other (List.mem_cons_of_mem call later)

/-- A span that carries the arguments of a save. -/
structure CarriesSaved (spanId name : Bytes) (arguments : TraceArguments)
    (span : TraceSpan) : Prop where
  spanId : span.spanId.text = spanId
  name : span.name.text = name
  startTime : (span.startTimeNs.toNat : Int) =
    1000 * arguments.startTimeUs.toInt
  endTime : (span.endTimeNs.toNat : Int) = 1000 * arguments.endTimeUs.toInt
  attributes : ∀ events, arguments.eventsJson = some events → events ≠ [] →
    span.attributes = some events

def QueryCalls.Succeed (query : QueryCalls) : Prop :=
  query.allocated = true ∧ ∀ index, query.duplicated index = true

/-- Until the next flush the trace id of the save finds a span that carries the
other arguments. -/
def FoundUntilFlush (clock : LocalClock) (traceId spanId name : Bytes)
    (arguments : TraceArguments) (state : TraceState) : Prop :=
  ∀ calls, NoFlush calls → ∀ query, QueryCalls.Succeed query →
    let answer := traceQueryByTrace query (some traceId) true
      (final (bufferCall clock) state calls)
    answer.error = .success ∧
      ∃ spans, answer.spans = some spans ∧
        ∃ span ∈ spans, CarriesSaved spanId name arguments span

theorem query_answer {state : TraceState} (ready : state.initialized = true)
    {query : QueryCalls} (succeed : QueryCalls.Succeed query)
    (traceId : Bytes) :
    traceQueryByTrace query (some traceId) true state =
      answerOf (state.buffered.filter (spanMatchTrace traceId)) := by
  obtain ⟨allocated, every⟩ := succeed
  unfold traceQueryByTrace
  simp only [ready, Bool.true_eq_false, if_false, allocated]
  exact spansCollect_answer query.duplicated every _ state

theorem mem_of_answer {items spans : List TraceSpan}
    (answered : (answerOf items).spans = some spans) : spans = items := by
  unfold answerOf at answered
  split at answered
  · cases answered
  · exact (Option.some.inj answered).symm

theorem answerOf_mem {items : List TraceSpan} {span : TraceSpan}
    (member : span ∈ items) :
    (answerOf items).error = .success ∧ (answerOf items).spans = some items := by
  have nonempty : items ≠ [] := List.ne_nil_of_mem member
  unfold answerOf
  rw [if_neg nonempty]
  exact ⟨rfl, rfl⟩

/-- The arguments that come back: strings that fit their fields, and times whose
nanoseconds are an unsigned word. -/
structure Representable (traceId spanId name : Bytes)
    (arguments : TraceArguments) : Prop where
  traceId : traceId.length < 64
  spanId : spanId.length < 32
  name : name.length < 128
  startTime : 0 ≤ arguments.startTimeUs.toInt ∧
    1000 * arguments.startTimeUs.toInt < 2 ^ 64
  endTime : 0 ≤ arguments.endTimeUs.toInt ∧
    1000 * arguments.endTimeUs.toInt < 2 ^ 64

theorem carriesSaved_savedSpan {traceId spanId name : Bytes}
    {arguments : TraceArguments} (spanClean : (0 : UInt8) ∉ spanId)
    (nameClean : (0 : UInt8) ∉ name)
    (representable : Representable traceId spanId name arguments) :
    CarriesSaved spanId name arguments
      (savedSpan traceId spanId name arguments) := by
  constructor
  · exact CharArray.text_copy spanClean
      (Nat.lt_succ_iff.mp representable.spanId)
  · exact CharArray.text_copy nameClean (Nat.lt_succ_iff.mp representable.name)
  · exact (nanoseconds_exact_iff _).mpr representable.startTime
  · exact (nanoseconds_exact_iff _).mpr representable.endTime
  · intro events given some_
    change savedEvents arguments.eventsJson = some events
    unfold savedEvents
    rw [given, Option.filter_some, if_pos (decide_eq_true some_)]

section Found

variable {clock : LocalClock} {state : TraceState}
  {traceId spanId name : Bytes} {arguments : TraceArguments}

/-- Whatever span is found, its fields are what an array and a word hold. -/
theorem representable_of_found (ready : state.initialized = true)
    (found : FoundUntilFlush clock traceId spanId name arguments state) :
    Representable traceId spanId name arguments := by
  let query : QueryCalls :=
    { allocated := true, duplicated := fun _ => true, spans := none, count := 0 }
  have succeed : QueryCalls.Succeed query := ⟨rfl, fun _ => rfl⟩
  obtain ⟨_, spans, answered, span, member, carries⟩ :=
    found [] (fun _ => nofun) query succeed
  rw [final_nil, query_answer ready succeed] at answered
  rw [mem_of_answer answered] at member
  have same : span.traceId.text = traceId :=
    of_decide_eq_true (List.mem_filter.mp member).2
  constructor
  · exact same ▸ span.traceId.fits
  · exact carries.spanId ▸ span.spanId.fits
  · exact carries.name ▸ span.name.fits
  · have bound := span.startTimeNs.toNat_lt
    have exact_ := carries.startTime
    omega
  · have bound := span.endTimeNs.toNat_lt
    have exact_ := carries.endTime
    omega

theorem found_of_representable (ready : state.initialized = true)
    (written : savedSpan traceId spanId name arguments ∈ state.buffered)
    (traceClean : (0 : UInt8) ∉ traceId) (spanClean : (0 : UInt8) ∉ spanId)
    (nameClean : (0 : UInt8) ∉ name)
    (representable : Representable traceId spanId name arguments) :
    FoundUntilFlush clock traceId spanId name arguments state := by
  intro calls quiet query succeed answer
  obtain ⟨still, kept⟩ := buffered_kept clock calls _ ready written quiet
  have text : (savedSpan traceId spanId name arguments).traceId.text =
      traceId :=
    CharArray.text_copy traceClean (Nat.lt_succ_iff.mp representable.traceId)
  have chosen : savedSpan traceId spanId name arguments ∈
      (final (bufferCall clock) state calls).buffered.filter
        (spanMatchTrace traceId) :=
    List.mem_filter.mpr ⟨kept, decide_eq_true text⟩
  obtain ⟨succeeded, spans⟩ := answerOf_mem chosen
  have answered : answer = _ := query_answer still succeed traceId
  rw [answered]
  exact ⟨succeeded, _, spans, _, chosen,
    carriesSaved_savedSpan spanClean nameClean representable⟩

end Found

/-- A saved trace is found until the next flush exactly when its arguments are
representable. -/
theorem saved_trace_found_iff (clock : LocalClock) {state : TraceState}
    {traceId spanId name : Bytes} {arguments : TraceArguments}
    {held copied : Bool} (tracedBy : arguments.traceId = some traceId)
    (spannedBy : arguments.spanId = some spanId)
    (named : arguments.name = some name) (traceClean : (0 : UInt8) ∉ traceId)
    (spanClean : (0 : UInt8) ∉ spanId) (nameClean : (0 : UInt8) ∉ name)
    (saved : (syscallTraceSave true held copied arguments state).2 =
      .success) :
    FoundUntilFlush clock traceId spanId name arguments
        (syscallTraceSave true held copied arguments state).1 ↔
      Representable traceId spanId name arguments := by
  obtain ⟨ready, buffered⟩ := saved_buffered tracedBy spannedBy named saved
  have written : savedSpan traceId spanId name arguments ∈
      (syscallTraceSave true held copied arguments state).1.buffered := by
    rw [buffered]
    exact List.mem_append_right _ (List.mem_singleton.mpr rfl)
  exact ⟨representable_of_found ready,
    found_of_representable ready written traceClean spanClean nameClean⟩

def sampleTrace (traceId : Bytes) : TraceArguments where
  traceId := some traceId
  spanId := some (ofString "s")
  parentId := none
  name := some (ofString "n")
  startTimeUs := 1
  endTimeUs := 2
  status := 1
  eventsJson := none

def emptiedBuffer : TraceState := (bufferStart [] fun _ => none).state

theorem saved_trace_found_iff_sample :
    FoundUntilFlush gmtime (ofString "t") (ofString "s") (ofString "n")
        (sampleTrace (ofString "t"))
        (syscallTraceSave true true true (sampleTrace (ofString "t"))
          emptiedBuffer).1 ↔
      Representable (ofString "t") (ofString "s") (ofString "n")
        (sampleTrace (ofString "t")) :=
  saved_trace_found_iff gmtime rfl rfl rfl (by decide) (by decide)
    (by decide) (by decide)

/-- A trace id of 64 bytes is cut on the way in and not found again. -/
theorem saved_trace_lost :
    ¬∀ (clock : LocalClock) (state : TraceState)
        (traceId spanId name : Bytes) (arguments : TraceArguments)
        (held copied : Bool), arguments.traceId = some traceId →
      arguments.spanId = some spanId → arguments.name = some name →
      (0 : UInt8) ∉ traceId → (0 : UInt8) ∉ spanId → (0 : UInt8) ∉ name →
      (syscallTraceSave true held copied arguments state).2 = .success →
      FoundUntilFlush clock traceId spanId name arguments
        (syscallTraceSave true held copied arguments state).1 := by
  intro always
  let traceId : Bytes := List.replicate 64 97
  have found := always gmtime emptiedBuffer traceId (ofString "s")
    (ofString "n") (sampleTrace traceId) true true rfl rfl rfl (by decide)
    (by decide) (by decide) (by decide)
  have fits : traceId.length < 64 :=
    (representable_of_found rfl found).traceId
  revert fits
  decide

end Heapstore.Syscall
