/-
Queries of the span buffer.

A query counts the spans that match, allocates an array of that size and copies
them in a second pass, with a duplicate of the attributes of each.  The outcomes
of the allocations are arguments; the buffer is only read.
-/

import Heapstore.Foundation.OperationRun
import Heapstore.TraceBuffer

namespace Heapstore.Trace

open ByteText CivilTime OperationRun SlotArray

/-- What a query stores through its out parameters, and what it returns. -/
structure QueryResult where
  spans : Option (List TraceSpan)
  count : Nat
  error : HeapstoreError
  deriving DecidableEq

/-- The first pass over the slots below a bound. -/
def matchCount (wanted : TraceSpan → Bool) (slots : Nat → TraceSpan) :
    Nat → Nat
  | 0 => 0
  | bound + 1 =>
      matchCount wanted slots bound +
        if wanted (slots bound) then 1 else 0

/-- The second pass: the entries filled so far, and whether the duplication of
an attribute failed. -/
structure CopyPass where
  filled : Nat
  result : Nat → TraceSpan
  failed : Bool

def copyPass (duplicated : Nat → Bool) (wanted : TraceSpan → Bool)
    (slots : Nat → TraceSpan) : Nat → CopyPass
  | 0 => { filled := 0, result := fun _ => zeroedSpan, failed := false }
  | bound + 1 =>
      let done := copyPass duplicated wanted slots bound
      if done.failed then done
      else if wanted (slots bound) = false then done
      else if (slots bound).attributes ≠ none ∧ duplicated bound = false then
        { done with failed := true }
      else
        { filled := done.filled + 1
          result := Function.update done.result done.filled (slots bound)
          failed := false }

def CopyPass.copied (pass : CopyPass) : List TraceSpan :=
  (List.range pass.filled).map pass.result

def spansCollect (allocated : Bool) (duplicated : Nat → Bool)
    (wanted : TraceSpan → Bool) (state : TraceState) : QueryResult :=
  let count := matchCount wanted state.slots state.spanCount
  if count = 0 then { spans := none, count := 0, error := .errNotFound }
  else if allocated = false then
    { spans := none, count := 0, error := .errOutOfMemory }
  else
    let pass := copyPass duplicated wanted state.slots state.spanCount
    if pass.failed then { spans := none, count := 0, error := .errOutOfMemory }
    else
      { spans := some ((List.range count).map pass.result)
        count := count
        error := .success }

def spanMatchTrace (traceId : Bytes) (span : TraceSpan) : Bool :=
  span.traceId.text = traceId

def spanMatchTime (startNs endNs : UInt64) (span : TraceSpan) : Bool :=
  startNs ≤ span.startTimeNs && span.endTimeNs ≤ endNs

/-- What the caller's variables held before, where a query leaves them alone. -/
structure QueryCalls where
  allocated : Bool
  duplicated : Nat → Bool
  spans : Option (List TraceSpan)
  count : Nat

def QueryCalls.untouched (calls : QueryCalls) (error : HeapstoreError) :
    QueryResult where
  spans := calls.spans
  count := calls.count
  error := error

/-- `heapstore_trace_query_by_trace`, with or without its out parameters. -/
def traceQueryByTrace (calls : QueryCalls) (traceId : Option Bytes)
    (outs : Bool) (state : TraceState) : QueryResult :=
  if state.initialized = false then calls.untouched .errNotInitialized
  else
    match traceId with
    | none => calls.untouched .errInvalidParam
    | some traceId =>
        if outs = false then calls.untouched .errInvalidParam
        else
          spansCollect calls.allocated calls.duplicated
            (spanMatchTrace traceId) state

def traceQueryByTimeRange (calls : QueryCalls) (startTime endTime : UInt64)
    (outs : Bool) (state : TraceState) : QueryResult :=
  if state.initialized = false then calls.untouched .errNotInitialized
  else if outs = false then calls.untouched .errInvalidParam
  else
    spansCollect calls.allocated calls.duplicated
      (spanMatchTime startTime endTime) state

/-! ### The two passes -/

section Passes

variable {duplicated : Nat → Bool} {wanted : TraceSpan → Bool}
  {slots : Nat → TraceSpan}

theorem matchCount_eq (bound : Nat) :
    matchCount wanted slots bound =
      (((List.range bound).map slots).filter wanted).length := by
  induction bound with
  | zero => rfl
  | succ bound ih =>
      rw [List.range_succ, List.map_append, List.filter_append,
        List.length_append, ← ih, matchCount, List.map_singleton]
      cases here : wanted (slots bound) <;> simp [here]

/-- The second pass fills its array from the left with what matches; it stops
early only when it fails. -/
theorem copyPass_copied (bound : Nat)
    (whole : (copyPass duplicated wanted slots bound).failed = false) :
    (copyPass duplicated wanted slots bound).copied =
      ((List.range bound).map slots).filter wanted := by
  induction bound with
  | zero => rfl
  | succ bound ih =>
      rw [List.range_succ, List.map_append, List.map_singleton,
        List.filter_append]
      rw [copyPass] at whole ⊢
      cases failed : (copyPass duplicated wanted slots bound).failed with
      | true =>
          rw [failed, if_pos rfl] at whole
          rw [failed] at whole
          cases whole
      | false =>
          simp only [failed, Bool.false_eq_true, if_false] at whole ⊢
          rw [← ih failed]
          cases here : wanted (slots bound) with
          | false =>
              simp [here]
          | true =>
              simp only [here, Bool.true_eq_false, if_false] at whole ⊢
              split at whole
              · cases whole
              · next kept =>
                  rw [if_neg kept]
                  unfold CopyPass.copied
                  simp only [List.filter_cons, here, if_true, List.filter_nil]
                  exact map_range_update _ _ _

/-- With all duplications succeeding the second pass does not fail. -/
theorem copyPass_whole (every : ∀ index, duplicated index = true) (bound : Nat) :
    (copyPass duplicated wanted slots bound).failed = false := by
  induction bound with
  | zero => rfl
  | succ bound ih =>
      rw [copyPass]
      simp only [ih, Bool.false_eq_true, if_false, every, Bool.true_eq_false,
        and_false]
      split
      · exact ih
      · rfl

end Passes

/-! ### The answer of a query -/

/-- The answer that a list of matching spans asks for. -/
def answerOf (spans : List TraceSpan) : QueryResult :=
  if spans = [] then { spans := none, count := 0, error := .errNotFound }
  else { spans := some spans, count := spans.length, error := .success }

theorem spansCollect_answer (duplicated : Nat → Bool)
    (every : ∀ index, duplicated index = true) (wanted : TraceSpan → Bool)
    (state : TraceState) :
    spansCollect true duplicated wanted state =
      answerOf (state.buffered.filter wanted) := by
  have whole := @copyPass_whole duplicated wanted state.slots every
    state.spanCount
  have copied : (copyPass duplicated wanted state.slots state.spanCount).copied =
      state.buffered.filter wanted := copyPass_copied state.spanCount whole
  have count : matchCount wanted state.slots state.spanCount =
      (state.buffered.filter wanted).length := matchCount_eq state.spanCount
  have filled : (copyPass duplicated wanted state.slots
      state.spanCount).filled = matchCount wanted state.slots
        state.spanCount := by
    rw [count, ← copied]
    unfold CopyPass.copied
    rw [List.length_map, List.length_range]
  unfold CopyPass.copied at copied
  rw [filled] at copied
  unfold spansCollect answerOf
  simp only [whole, Bool.true_eq_false, Bool.false_eq_true, if_false]
  by_cases none_ : state.buffered.filter wanted = []
  · rw [if_pos none_, if_pos]
    rw [count, none_]
    rfl
  · rw [if_neg none_, if_neg]
    · rw [copied, count]
    · rw [count]
      exact fun empty => none_ (List.length_eq_zero_iff.mp empty)

/-! ### Runs -/

/-- The calls of a run, with the outcomes of the duplications and of opening the
span file. -/
inductive BufferCall where
  | writeSpan (duplicated : Bool) (span : Option TraceSpan)
  | writeSpansBatch (duplicated : Nat → Bool) (batch : Option SpanArray)
  | flush (now : Int) (opened : Bool)
  | queryByTrace (calls : QueryCalls) (traceId : Option Bytes) (outs : Bool)
  | queryByTimeRange (calls : QueryCalls) (startTime endTime : UInt64)
      (outs : Bool)

def BufferCall.spans : BufferCall → List TraceSpan
  | .writeSpan _ (some span) => [span]
  | .writeSpansBatch _ (some batch) => batch.spans
  | _ => []

/-- The module state, and the spans accepted since the last flush that
succeeded. -/
structure BufferRun where
  state : TraceState
  held : List TraceSpan

def bufferCall (clock : LocalClock) (state : TraceState) :
    BufferCall → TraceState × HeapstoreError
  | .writeSpan duplicated span => traceWriteSpan duplicated span state
  | .writeSpansBatch duplicated batch =>
      traceWriteSpansBatch duplicated batch state
  | .flush now opened => traceFlush clock now opened state
  | .queryByTrace calls traceId outs =>
      (state, (traceQueryByTrace calls traceId outs state).error)
  | .queryByTimeRange calls startTime endTime outs =>
      (state, (traceQueryByTimeRange calls startTime endTime outs state).error)

def BufferRun.next (run : BufferRun) (call : BufferCall)
    (error : HeapstoreError) : List TraceSpan :=
  match call with
  | .flush _ _ => if error = .success then [] else run.held
  | _ => if error = .success then run.held ++ call.spans else run.held

def bufferStep (clock : LocalClock) :
    Machine BufferRun BufferCall HeapstoreError := fun run call =>
  let result := bufferCall clock run.state call
  ({ state := result.1, held := run.next call result.2 }, result.2)

def bufferStart (root : Bytes) (files : Bytes → Option (List SpanEntry)) :
    BufferRun where
  state :=
    (traceInit root true
      { initialized := false
        tracePath := []
        slots := fun _ => zeroedSpan
        spanCount := 0
        files := files }).1
  held := []

structure BufferRun.Holds (run : BufferRun) : Prop where
  initialized : run.state.initialized = true
  buffered : run.state.buffered = run.held

theorem query_outcome (error : HeapstoreError) (state : TraceState) :
    (error ≠ .success ∧ state.buffered = state.buffered) ∨
      (error = .success ∧ state.buffered = state.buffered ++ []) := by
  by_cases succeeded : error = .success
  · exact Or.inr ⟨succeeded, (List.append_nil _).symm⟩
  · exact Or.inl ⟨succeeded, rfl⟩

/-- A write adds its spans to the buffer, or fails and adds nothing; a query has
none to add. -/
theorem bufferCall_write (clock : LocalClock) (state : TraceState)
    (call : BufferCall) (write : ∀ now opened, call ≠ .flush now opened) :
    (bufferCall clock state call).1.initialized = state.initialized ∧
      (((bufferCall clock state call).2 ≠ .success ∧
          (bufferCall clock state call).1.buffered = state.buffered) ∨
        ((bufferCall clock state call).2 = .success ∧
          (bufferCall clock state call).1.buffered =
            state.buffered ++ call.spans)) := by
  cases call with
  | writeSpan duplicated span =>
      obtain ⟨_, _, still, outcome⟩ :=
        traceWriteSpan_outcome duplicated span state
      refine ⟨still, ?_⟩
      rcases outcome with failed | ⟨written, given, succeeded, added⟩
      · exact Or.inl failed
      · subst given
        exact Or.inr ⟨succeeded, added⟩
  | writeSpansBatch duplicated batch =>
      obtain ⟨_, _, still, outcome⟩ :=
        traceWriteSpansBatch_outcome duplicated batch state
      refine ⟨still, ?_⟩
      rcases outcome with failed | ⟨written, given, succeeded, added⟩
      · exact Or.inl failed
      · subst given
        exact Or.inr ⟨succeeded, added⟩
  | flush now opened => exact absurd rfl (write now opened)
  | queryByTrace calls traceId outs =>
      exact ⟨rfl, query_outcome _ state⟩
  | queryByTimeRange calls startTime endTime outs =>
      exact ⟨rfl, query_outcome _ state⟩

/-- A flush that succeeds empties the buffer, one that fails leaves it. -/
theorem traceFlush_buffered (clock : LocalClock) (now : Int) (opened : Bool)
    (state : TraceState) :
    (traceFlush clock now opened state).1.initialized = state.initialized ∧
      (traceFlush clock now opened state).1.buffered =
        if (traceFlush clock now opened state).2 = .success then []
        else state.buffered := by
  unfold traceFlush
  split
  · exact ⟨rfl, rfl⟩
  split
  · next empty =>
      refine ⟨rfl, ?_⟩
      unfold TraceState.buffered
      rw [empty]
      rfl
  split
  · exact ⟨rfl, rfl⟩
  · exact ⟨rfl, rfl⟩

theorem BufferRun.next_write {run : BufferRun} {call : BufferCall}
    (write : ∀ now opened, call ≠ .flush now opened) (error : HeapstoreError) :
    run.next call error =
      if error = .success then run.held ++ call.spans else run.held := by
  cases call with
  | writeSpan duplicated span => rfl
  | writeSpansBatch duplicated batch => rfl
  | flush now opened => exact absurd rfl (write now opened)
  | queryByTrace calls traceId outs => rfl
  | queryByTimeRange calls startTime endTime outs => rfl

theorem bufferStep_holds (clock : LocalClock) (run : BufferRun)
    (call : BufferCall) (holds : run.Holds) :
    (bufferStep clock run call).1.Holds := by
  obtain ⟨initialized, buffered⟩ := holds
  by_cases flush : ∃ now opened, call = .flush now opened
  · obtain ⟨now, opened, same⟩ := flush
    subst same
    obtain ⟨still, left⟩ := traceFlush_buffered clock now opened run.state
    refine ⟨still.trans initialized, left.trans ?_⟩
    rw [buffered]
    rfl
  · have write : ∀ now opened, call ≠ .flush now opened :=
      fun now opened same => flush ⟨now, opened, same⟩
    obtain ⟨still, outcome⟩ := bufferCall_write clock run.state call write
    refine ⟨still.trans initialized, ?_⟩
    change (bufferCall clock run.state call).1.buffered = run.next call _
    rw [BufferRun.next_write write]
    rcases outcome with ⟨failed, same⟩ | ⟨succeeded, added⟩
    · rw [if_neg failed, same, buffered]
    · rw [if_pos succeeded, added, buffered]

/-- After every run of writes, flushes and queries the buffer holds the spans
accepted since the last flush that succeeded, in order, and a query whose
allocations succeed answers with those of them that it asks for. -/
theorem trace_queries_exact (clock : LocalClock) (root : Bytes)
    (files : Bytes → Option (List SpanEntry)) (calls : List BufferCall) :
    let run := final (bufferStep clock) (bufferStart root files) calls
    run.state.buffered = run.held ∧
      (∀ query : QueryCalls, query.allocated = true →
        (∀ index, query.duplicated index = true) →
        (∀ traceId, traceQueryByTrace query (some traceId) true run.state =
          answerOf (run.held.filter fun span => span.traceId.text = traceId)) ∧
        ∀ startTime endTime,
          traceQueryByTimeRange query startTime endTime true run.state =
            answerOf (run.held.filter fun span =>
              startTime ≤ span.startTimeNs && span.endTimeNs ≤ endTime)) := by
  intro run
  have holds : run.Holds :=
    invariant (bufferStep clock) BufferRun.Holds (bufferStep_holds clock)
      (bufferStart root files) calls ⟨rfl, rfl⟩
  refine ⟨holds.buffered, ?_⟩
  intro query allocated every
  constructor
  · intro traceId
    unfold traceQueryByTrace
    simp only [holds.initialized, allocated, Bool.true_eq_false, if_false]
    rw [spansCollect_answer _ every, holds.buffered]
    rfl
  · intro startTime endTime
    unfold traceQueryByTimeRange
    simp only [holds.initialized, allocated, Bool.true_eq_false, if_false]
    rw [spansCollect_answer _ every, holds.buffered]
    rfl

end Heapstore.Trace
