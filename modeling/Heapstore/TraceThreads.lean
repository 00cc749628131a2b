/-
The span buffer under threads.

A call looks at its parameters and at the flag without the lock; under the lock
it touches the slots, the counter and the span file one at a time.  The
interleavings of these accesses are runs of whole calls one after the other, and
what such a run accepts is in the buffer and in the span files.
-/

import Heapstore.Foundation.LockedCalls
import Heapstore.TraceConservation
import Heapstore.TraceQueries

namespace Heapstore.Trace

open ByteText CivilTime OperationRun LockedCalls

/-! ### The calls at once -/

/-- The places the caller of the statistics passed. -/
structure SpanStatsOuts where
  totalSpans : Bool
  pendingSpans : Bool
  totalSizeBytes : Bool

/-- What is written to them. -/
structure SpanStats where
  totalSpans : Option UInt64
  pendingSpans : Option UInt64
  totalSizeBytes : Option UInt64
  deriving DecidableEq

/-- `sizeof(heapstore_span_t)` is 448. -/
def bufferSize (spanCount : Nat) : UInt64 := UInt64.ofNat (spanCount * 448)

def given (out : Bool) (value : UInt64) : Option UInt64 :=
  if out then some value else none

def traceGetStats (outs : SpanStatsOuts) (state : TraceState) :
    HeapstoreError × SpanStats :=
  if state.initialized = false then
    (.errNotInitialized,
      { totalSpans := none, pendingSpans := none, totalSizeBytes := none })
  else
    (.success,
      { totalSpans := given outs.totalSpans (UInt64.ofNat state.spanCount)
        pendingSpans := given outs.pendingSpans (UInt64.ofNat state.spanCount)
        totalSizeBytes :=
          given outs.totalSizeBytes (bufferSize state.spanCount) })

/-- The calls that the module lets any thread make at any time. -/
inductive TraceRequest where
  | buffer (call : BufferCall)
  | getStats (outs : SpanStatsOuts)
  | isHealthy

inductive TraceReply where
  | code (error : HeapstoreError)
  | spans (result : QueryResult)
  | stats (error : HeapstoreError) (stats : SpanStats)
  | healthy (flag : Bool)
  deriving DecidableEq

def bufferReply (clock : LocalClock) (state : TraceState) :
    BufferCall → TraceReply
  | .queryByTrace calls traceId outs =>
      .spans (traceQueryByTrace calls traceId outs state)
  | .queryByTimeRange calls startTime endTime outs =>
      .spans (traceQueryByTimeRange calls startTime endTime outs state)
  | call => .code (bufferCall clock state call).2

def traceServe (clock : LocalClock) :
    Machine TraceState TraceRequest TraceReply := fun state request =>
  match request with
  | .buffer call =>
      ((bufferCall clock state call).1, bufferReply clock state call)
  | .getStats outs =>
      (state, .stats (traceGetStats outs state).1 (traceGetStats outs state).2)
  | .isHealthy => (state, .healthy state.initialized)

/-! ### One access at a time -/

structure SpanQuery where
  calls : QueryCalls
  wanted : TraceSpan → Bool

/-- A place in the body of a call under the lock. -/
inductive SpanPlace where
  | room (duplicated : Bool) (span : TraceSpan)
  | copy (duplicated : Bool) (span : TraceSpan)
  | attributes (duplicated : Bool) (span : TraceSpan)
  | count (added : Nat)
  | batchRoom (duplicated : Nat → Bool) (spans : List TraceSpan)
  | batchCopy (duplicated : Nat → Bool) (spans : List TraceSpan) (index : Nat)
  | duplicate (duplicated : Nat → Bool) (spans : List TraceSpan) (index : Nat)
  | rollback (failed index : Nat)
  | matching (query : SpanQuery) (index matched : Nat)
  | allocate (query : SpanQuery) (matched : Nat)
  | collecting (query : SpanQuery) (matched index : Nat) (pass : CopyPass)
  | open_ (now : Int) (opened : Bool)
  | print (path : Bytes) (index : Nat)
  | close
  | totalSpans (outs : SpanStatsOuts)
  | pendingSpans (outs : SpanStatsOuts) (total : Option UInt64)
  | totalSize (outs : SpanStatsOuts) (total pending : Option UInt64)

def TraceState.put (state : TraceState) (index : Nat) (span : TraceSpan) :
    TraceState :=
  { state with slots := Function.update state.slots index span }

/-- The pointer in a slot, read as the string it points at. -/
def TraceState.setAttributes (state : TraceState) (index : Nat)
    (attributes : Option Bytes) : TraceState :=
  state.put index { state.slots index with attributes := attributes }

def noSpans (error : HeapstoreError) : QueryResult where
  spans := none
  count := 0
  error := error

def spanAccess (clock : LocalClock) (place : SpanPlace) (state : TraceState) :
    TraceState × (SpanPlace ⊕ TraceReply) :=
  match place with
  | .room duplicated span =>
      if traceMaxSpans ≤ state.spanCount then
        (state, .inr (.code .errOutOfMemory))
      else (state, .inl (.copy duplicated span))
  | .copy duplicated span =>
      (state.put state.spanCount span, .inl (.attributes duplicated span))
  | .attributes duplicated span =>
      match span.attributes with
      | none => (state, .inl (.count 1))
      | some text =>
          if duplicated then
            (state.setAttributes state.spanCount (some text), .inl (.count 1))
          else
            (state.setAttributes state.spanCount none,
              .inr (.code .errOutOfMemory))
  | .count added =>
      ({ state with spanCount := state.spanCount + added },
        .inr (.code .success))
  | .batchRoom duplicated spans =>
      if traceMaxSpans < (state.spanCount + spans.length) % 2 ^ 64 then
        (state, .inr (.code .errOutOfMemory))
      else (state, .inl (.batchCopy duplicated spans 0))
  | .batchCopy duplicated spans index =>
      if index < spans.length then
        (state.put (state.spanCount + index) (spans.getD index zeroedSpan),
          .inl (.batchCopy duplicated spans (index + 1)))
      else (state, .inl (.duplicate duplicated spans 0))
  | .duplicate duplicated spans index =>
      if index < spans.length then
        match (spans.getD index zeroedSpan).attributes with
        | none =>
            (state.setAttributes (state.spanCount + index) none,
              .inl (.duplicate duplicated spans (index + 1)))
        | some text =>
            if duplicated index then
              (state.setAttributes (state.spanCount + index) (some text),
                .inl (.duplicate duplicated spans (index + 1)))
            else
              (state.setAttributes (state.spanCount + index) none,
                .inl (.rollback index 0))
      else (state, .inl (.count spans.length))
  | .rollback failed index =>
      if index < failed then
        (state.setAttributes (state.spanCount + index) none,
          .inl (.rollback failed (index + 1)))
      else (state, .inr (.code .errOutOfMemory))
  | .matching query index matched =>
      if index < state.spanCount then
        (state, .inl (.matching query (index + 1)
          (matched + if query.wanted (state.slots index) then 1 else 0)))
      else (state, .inl (.allocate query matched))
  | .allocate query matched =>
      if matched = 0 then (state, .inr (.spans (noSpans .errNotFound)))
      else if query.calls.allocated = false then
        (state, .inr (.spans (noSpans .errOutOfMemory)))
      else
        (state, .inl (.collecting query matched 0
          { filled := 0, result := fun _ => zeroedSpan, failed := false }))
  | .collecting query matched index pass =>
      if index < state.spanCount then
        if query.wanted (state.slots index) = false then
          (state, .inl (.collecting query matched (index + 1) pass))
        else if (state.slots index).attributes ≠ none ∧
            query.calls.duplicated index = false then
          (state, .inr (.spans (noSpans .errOutOfMemory)))
        else
          (state, .inl (.collecting query matched (index + 1)
            { filled := pass.filled + 1
              result := Function.update pass.result pass.filled
                (state.slots index)
              failed := false }))
      else
        (state, .inr (.spans
          { spans := some ((List.range matched).map pass.result)
            count := matched
            error := .success }))
  | .open_ now opened =>
      if state.spanCount = 0 then (state, .inr (.code .success))
      else if opened = false then (state, .inr (.code .errFileOpenFailed))
      else
        let path := spanFilePath state.tracePath (clock now)
        ({ state with files := Function.update state.files path (some []) },
          .inl (.print path 0))
  | .print path index =>
      if index < state.spanCount then
        ({ state with
            files := Function.update state.files path
              (some ((state.files path).getD [] ++
                [(state.slots index).entry])) },
          .inl (.print path (index + 1)))
      else (state, .inl .close)
  | .close => ({ state with spanCount := 0 }, .inr (.code .success))
  | .totalSpans outs =>
      (state, .inl (.pendingSpans outs
        (given outs.totalSpans (UInt64.ofNat state.spanCount))))
  | .pendingSpans outs total =>
      (state, .inl (.totalSize outs total
        (given outs.pendingSpans (UInt64.ofNat state.spanCount))))
  | .totalSize outs total pending =>
      (state, .inr (.stats .success
        { totalSpans := total
          pendingSpans := pending
          totalSizeBytes :=
            given outs.totalSizeBytes (bufferSize state.spanCount) }))

/-! ### Before the lock -/

def bufferGate : BufferCall → SpanPlace ⊕ TraceReply
  | .writeSpan duplicated span =>
      match span with
      | none => .inr (.code .errInvalidParam)
      | some span =>
          if span.spanId.text = [] ∨ span.traceId.text = [] then
            .inr (.code .errInvalidParam)
          else .inl (.room duplicated span)
  | .writeSpansBatch duplicated batch =>
      match batch with
      | none => .inr (.code .errInvalidParam)
      | some batch =>
          if batch.spans.length = 0 then .inr (.code .errInvalidParam)
          else .inl (.batchRoom duplicated batch.spans)
  | .flush now opened => .inl (.open_ now opened)
  | .queryByTrace calls traceId outs =>
      match traceId with
      | none => .inr (.spans (calls.untouched .errInvalidParam))
      | some traceId =>
          if outs = false then .inr (.spans (calls.untouched .errInvalidParam))
          else .inl (.matching ⟨calls, spanMatchTrace traceId⟩ 0 0)
  | .queryByTimeRange calls startTime endTime outs =>
      if outs = false then .inr (.spans (calls.untouched .errInvalidParam))
      else .inl (.matching ⟨calls, spanMatchTime startTime endTime⟩ 0 0)

/-- The answer of a call to a module that is not set up. -/
def downReply : BufferCall → TraceReply
  | .queryByTrace calls _ _ | .queryByTimeRange calls _ _ _ =>
      .spans (calls.untouched .errNotInitialized)
  | _ => .code .errNotInitialized

def spanGate (state : TraceState) : TraceRequest → SpanPlace ⊕ TraceReply
  | .buffer call =>
      if state.initialized = false then .inr (downReply call)
      else bufferGate call
  | .getStats outs =>
      if state.initialized = false then
        .inr (.stats .errNotInitialized
          { totalSpans := none, pendingSpans := none, totalSizeBytes := none })
      else .inl (.totalSpans outs)
  | .isHealthy => .inr (.healthy state.initialized)

def spanCode (clock : LocalClock) :
    Code TraceState TraceRequest SpanPlace TraceReply where
  gate := spanGate
  access := spanAccess clock

/-! ### A call made alone -/

theorem put_setAttributes (state : TraceState) (index : Nat) (span : TraceSpan)
    (attributes : Option Bytes) :
    (state.put index span).setAttributes index attributes =
      state.put index { span with attributes := attributes } := by
  unfold TraceState.setAttributes TraceState.put
  simp only [Function.update_self, Function.update_idem]

section Writes

variable {clock : LocalClock} {state : TraceState}

theorem writeSpan_runs (ready : ¬state.initialized = false) (duplicated : Bool)
    {span : TraceSpan}
    (named : ¬(span.spanId.text = [] ∨ span.traceId.text = [])) :
    Runs (spanAccess clock) (.room duplicated span) state
      ((traceWriteSpan duplicated (some span) state).1,
        .code (traceWriteSpan duplicated (some span) state).2) := by
  unfold traceWriteSpan
  rw [if_neg ready]
  simp only [if_neg named]
  by_cases full : traceMaxSpans ≤ state.spanCount
  · rw [if_pos full]
    exact .last (if_pos full)
  rw [if_neg full]
  refine .more (if_neg full) (.more rfl ?_)
  cases held : span.attributes with
  | none =>
      rw [if_neg (fun both => both.1 rfl)]
      have goes : spanAccess clock (.attributes duplicated span)
          (state.put state.spanCount span) =
            (state.put state.spanCount span, .inl (.count 1)) := by
        simp only [spanAccess, held]
      exact .more goes (.last rfl)
  | some text =>
      cases duplicated with
      | false =>
          rw [if_pos ⟨Option.some_ne_none _, rfl⟩]
          apply Runs.last
          simp only [spanAccess, held, Bool.false_eq_true, if_false]
          exact congrArg (·, _) (put_setAttributes state state.spanCount span none)
      | true =>
          rw [if_neg (fun both => Bool.noConfusion both.2)]
          have same := put_setAttributes state state.spanCount span (some text)
          rw [← held] at same
          have goes : spanAccess clock (.attributes true span)
              (state.put state.spanCount span) =
                (state.put state.spanCount span, .inl (.count 1)) := by
            simp only [spanAccess, held, if_true]
            rw [← held]
            exact congrArg (·, _) same
          exact .more goes (.last rfl)

/-- The slots while a batch is copied behind the counter. -/
def filledSlots (slots : Nat → TraceSpan) (base : Nat) (spans : List TraceSpan)
    (done : Nat) : Nat → TraceSpan := fun index =>
  if base ≤ index ∧ index < base + done then
    spans.getD (index - base) zeroedSpan
  else slots index

theorem filledSlots_succ (slots : Nat → TraceSpan) (base : Nat)
    (spans : List TraceSpan) (done : Nat) :
    Function.update (filledSlots slots base spans done) (base + done)
        (spans.getD done zeroedSpan) =
      filledSlots slots base spans (done + 1) := by
  funext index
  unfold filledSlots
  by_cases same : index = base + done
  · subst same
    rw [Function.update_self, if_pos (by omega), Nat.add_sub_cancel_left]
  · rw [Function.update_of_ne same]
    exact if_congr (by omega) rfl rfl

/-- The slots after the pointers up to one were set to null. -/
def bareSlots (slots : Nat → TraceSpan) (base failed done : Nat) :
    Nat → TraceSpan := fun index =>
  if index = base + failed ∨ base ≤ index ∧ index < base + done then
    { slots index with attributes := none }
  else slots index

theorem bareSlots_zero (slots : Nat → TraceSpan) (base failed : Nat) :
    Function.update slots (base + failed)
        { slots (base + failed) with attributes := none } =
      bareSlots slots base failed 0 := by
  funext index
  unfold bareSlots
  by_cases same : index = base + failed
  · subst same
    rw [Function.update_self, if_pos (.inl rfl)]
  · rw [Function.update_of_ne same, if_neg (by omega)]

theorem bareSlots_succ (slots : Nat → TraceSpan) (base failed done : Nat) :
    Function.update (bareSlots slots base failed done) (base + done)
        { bareSlots slots base failed done (base + done) with
          attributes := none } =
      bareSlots slots base failed (done + 1) := by
  funext index
  by_cases same : index = base + done
  · subst same
    rw [Function.update_self]
    unfold bareSlots
    rw [if_pos (show base + done = base + failed ∨
      base ≤ base + done ∧ base + done < base + (done + 1) by omega)]
    split <;> rfl
  · rw [Function.update_of_ne same]
    unfold bareSlots
    exact if_congr (by omega) rfl rfl

/-- What a batch that failed leaves behind the counter. -/
theorem bareSlots_copied (slots : Nat → TraceSpan) (base : Nat)
    (spans : List TraceSpan) {failed : Nat} (within : failed < spans.length) :
    bareSlots (copySlots slots base spans) base failed failed =
      copySlots slots base (spans.mapIdx fun index span =>
        if index ≤ failed then { span with attributes := none } else span) := by
  funext index
  unfold bareSlots copySlots
  rw [List.length_mapIdx]
  by_cases inside : base ≤ index ∧ index < base + spans.length
  · have bound : index - base < spans.length := by omega
    rw [if_pos inside, if_pos inside, List.getD_eq_getElem _ _ bound,
      List.getD_eq_getElem _ _ (by rwa [List.length_mapIdx]),
      List.getElem_mapIdx]
    exact if_congr (by omega) rfl rfl
  · rw [if_neg inside, if_neg inside, if_neg (by omega)]

theorem failedCopy_eq_some {duplicated : Nat → Bool} {spans : List TraceSpan}
    {failed : Nat} (found : failedCopy duplicated spans = some failed) :
    failed < spans.length ∧
      ((spans.getD failed zeroedSpan).attributes ≠ none ∧
        duplicated failed = false) ∧
      ∀ index < failed, (spans.getD index zeroedSpan).attributes = none ∨
        duplicated index = true := by
  unfold failedCopy at found
  rw [List.find?_range_eq_some] at found
  obtain ⟨here, within, before⟩ := found
  refine ⟨List.mem_range.mp within, by simpa using here, fun index below => ?_⟩
  simpa using before index below

theorem failedCopy_eq_none {duplicated : Nat → Bool} {spans : List TraceSpan}
    (missing : failedCopy duplicated spans = none) :
    ∀ index < spans.length, (spans.getD index zeroedSpan).attributes = none ∨
      duplicated index = true := by
  unfold failedCopy at missing
  rw [List.find?_range_eq_none] at missing
  intro index below
  simpa using missing index below

section Batches

variable {duplicated : Nat → Bool} {spans : List TraceSpan}
  {out : TraceState × TraceReply}

theorem copies_run
    (rest : Runs (spanAccess clock) (.duplicate duplicated spans 0)
      { state with slots := copySlots state.slots state.spanCount spans } out) :
    Runs (spanAccess clock) (.batchCopy duplicated spans 0) state out := by
  have start : { state with
      slots := filledSlots state.slots state.spanCount spans 0 } = state := by
    have same : filledSlots state.slots state.spanCount spans 0 =
        state.slots := by
      funext index
      exact if_neg (by omega)
    rw [same]
  rw [← start]
  refine Runs.loop (fun index => SpanPlace.batchCopy duplicated spans index)
    (fun index => { state with
      slots := filledSlots state.slots state.spanCount spans index })
    (Nat.zero_le spans.length) (fun index _ below => ?_)
    (.more (if_neg (Nat.lt_irrefl _)) rest)
  simp only [spanAccess, if_pos below, TraceState.put, filledSlots_succ]

/-- The attributes of the copies before one are duplicated, and the slots read
as before. -/
theorem duplicates_run {stop : Nat} (within : stop ≤ spans.length)
    (fine : ∀ index < stop, (spans.getD index zeroedSpan).attributes = none ∨
      duplicated index = true)
    (rest : Runs (spanAccess clock) (.duplicate duplicated spans stop)
      { state with slots := copySlots state.slots state.spanCount spans } out) :
    Runs (spanAccess clock) (.duplicate duplicated spans 0)
      { state with slots := copySlots state.slots state.spanCount spans }
      out := by
  refine Runs.loop (fun index => SpanPlace.duplicate duplicated spans index)
    (fun _ => { state with
      slots := copySlots state.slots state.spanCount spans })
    (Nat.zero_le stop) (fun index _ below => ?_) rest
  have bound : index < spans.length := Nat.lt_of_lt_of_le below within
  have here : copySlots state.slots state.spanCount spans
      (state.spanCount + index) = spans.getD index zeroedSpan := by
    unfold copySlots
    rw [if_pos (by omega), Nat.add_sub_cancel_left]
  have same (attributes : Option Bytes)
      (held : (spans.getD index zeroedSpan).attributes = attributes) :
      ({ state with slots := copySlots state.slots state.spanCount spans } :
        TraceState).setAttributes (state.spanCount + index) attributes =
      { state with slots := copySlots state.slots state.spanCount spans } := by
    unfold TraceState.setAttributes TraceState.put
    simp only [here]
    rw [← held, ← here, Function.update_eq_self]
  cases held : (spans.getD index zeroedSpan).attributes with
  | none => simp only [spanAccess, if_pos bound, held, same none held]
  | some text =>
      have done : duplicated index = true := by
        rcases fine index below with bare | done
        · rw [held] at bare
          cases bare
        · exact done
      simp only [spanAccess, if_pos bound, held, done, if_true,
        same (some text) held]

/-- The duplicates made before a failure are taken back. -/
theorem rollback_runs {failed : Nat} (within : failed < spans.length)
    (failing : (spans.getD failed zeroedSpan).attributes ≠ none ∧
      duplicated failed = false) :
    Runs (spanAccess clock) (.duplicate duplicated spans failed)
      { state with slots := copySlots state.slots state.spanCount spans }
      ({ state with
          slots := copySlots state.slots state.spanCount
            (spans.mapIdx fun index span =>
              if index ≤ failed then { span with attributes := none }
              else span) }, .code .errOutOfMemory) := by
  obtain ⟨text, held⟩ := Option.ne_none_iff_exists'.mp failing.1
  have fails : spanAccess clock (.duplicate duplicated spans failed)
      { state with slots := copySlots state.slots state.spanCount spans } =
        ({ state with
            slots := bareSlots (copySlots state.slots state.spanCount spans)
              state.spanCount failed 0 }, .inl (.rollback failed 0)) := by
    simp only [spanAccess, if_pos within, held, failing.2, Bool.false_eq_true,
      if_false, TraceState.setAttributes, TraceState.put, bareSlots_zero]
  refine .more fails ?_
  refine Runs.loop (fun index => SpanPlace.rollback failed index)
    (fun index => { state with
      slots := bareSlots (copySlots state.slots state.spanCount spans)
        state.spanCount failed index })
    (Nat.zero_le failed) (fun index _ below => ?_) (.last ?_)
  · simp only [spanAccess, if_pos below, TraceState.setAttributes,
      TraceState.put, bareSlots_succ]
  · simp only [spanAccess, Nat.lt_irrefl, if_false,
      bareSlots_copied state.slots state.spanCount spans within]

theorem writeSpansBatch_runs (ready : ¬state.initialized = false)
    {batch : SpanArray} (some_ : ¬batch.spans.length = 0) :
    Runs (spanAccess clock) (.batchRoom duplicated batch.spans) state
      ((traceWriteSpansBatch duplicated (some batch) state).1,
        .code (traceWriteSpansBatch duplicated (some batch) state).2) := by
  unfold traceWriteSpansBatch
  rw [if_neg ready]
  simp only [if_neg some_]
  by_cases full : traceMaxSpans <
      (state.spanCount + batch.spans.length) % 2 ^ 64
  · rw [if_pos full]
    exact .last (if_pos full)
  rw [if_neg full]
  refine .more (if_neg full) (copies_run ?_)
  cases found : failedCopy duplicated batch.spans with
  | none =>
      refine duplicates_run (Nat.le_refl _) (failedCopy_eq_none found) ?_
      exact .more (if_neg (Nat.lt_irrefl _)) (.last rfl)
  | some failed =>
      obtain ⟨within, failing, fine⟩ := failedCopy_eq_some found
      exact duplicates_run within.le fine (rollback_runs within failing)

end Batches

end Writes

/-! ### Queries, flushes and statistics -/

section Reads

variable {clock : LocalClock} {state : TraceState}

theorem copyPass_failed_mono {duplicated : Nat → Bool}
    {wanted : TraceSpan → Bool} {slots : Nat → TraceSpan} {bound : Nat}
    (failed : (copyPass duplicated wanted slots bound).failed = true) :
    ∀ later, bound ≤ later →
      (copyPass duplicated wanted slots later).failed = true := by
  intro later after
  induction later, after using Nat.le_induction with
  | base => exact failed
  | succ later _ ih =>
      rw [copyPass]
      simp only [ih, if_true]

theorem copyPass_succ {duplicated : Nat → Bool} {wanted : TraceSpan → Bool}
    {slots : Nat → TraceSpan} {bound : Nat}
    (whole : (copyPass duplicated wanted slots bound).failed = false) :
    copyPass duplicated wanted slots (bound + 1) =
      let done := copyPass duplicated wanted slots bound
      if wanted (slots bound) = false then done
      else if (slots bound).attributes ≠ none ∧ duplicated bound = false then
        { done with failed := true }
      else
        { filled := done.filled + 1
          result := Function.update done.result done.filled (slots bound)
          failed := false } := by
  rw [copyPass]
  simp only [whole, Bool.false_eq_true, if_false]

/-- The second pass from a place that it reached without a failure. -/
theorem collecting_runs (query : SpanQuery) (matched : Nat) {index left : Nat}
    (together : index + left = state.spanCount)
    (whole : (copyPass query.calls.duplicated query.wanted state.slots
      index).failed = false) :
    Runs (spanAccess clock)
      (.collecting query matched index
        (copyPass query.calls.duplicated query.wanted state.slots index))
      state
      (state, .spans
        (let pass := copyPass query.calls.duplicated query.wanted state.slots
          state.spanCount
        if pass.failed then noSpans .errOutOfMemory
        else
          { spans := some ((List.range matched).map pass.result)
            count := matched
            error := .success })) := by
  induction left generalizing index with
  | zero =>
      rw [Nat.add_zero] at together
      subst together
      simp only [whole, Bool.false_eq_true, if_false]
      exact .last (if_neg (Nat.lt_irrefl _))
  | succ left ih =>
      have below : index < state.spanCount := by omega
      have step := copyPass_succ whole
      simp only at step
      by_cases skipped : query.wanted (state.slots index) = false
      · rw [if_pos skipped] at step
        have later := @ih (index + 1) (by omega) (step ▸ whole)
        rw [step] at later
        refine .more ?_ later
        simp only [spanAccess, if_pos below, if_pos skipped]
      rw [if_neg skipped] at step
      by_cases failing : (state.slots index).attributes ≠ none ∧
          query.calls.duplicated index = false
      · rw [if_pos failing] at step
        have failed := copyPass_failed_mono
          (show (copyPass query.calls.duplicated query.wanted state.slots
            (index + 1)).failed = true by rw [step]) state.spanCount below
        simp only [failed, if_true]
        apply Runs.last
        simp only [spanAccess, if_pos below, if_neg skipped, if_pos failing]
      · rw [if_neg failing] at step
        have later := @ih (index + 1) (by omega) (by rw [step])
        rw [step] at later
        refine .more ?_ later
        simp only [spanAccess, if_pos below, if_neg skipped, if_neg failing]

theorem query_runs (query : SpanQuery) :
    Runs (spanAccess clock) (.matching query 0 0) state
      (state, .spans (spansCollect query.calls.allocated
        query.calls.duplicated query.wanted state)) := by
  refine Runs.loop
    (fun index => SpanPlace.matching query index
      (matchCount query.wanted state.slots index))
    (fun _ => state) (Nat.zero_le state.spanCount) (fun index _ below => ?_)
    (.more (if_neg (Nat.lt_irrefl _)) ?_)
  · simp only [spanAccess, if_pos below]
    rfl
  unfold spansCollect
  by_cases none_ : matchCount query.wanted state.slots state.spanCount = 0
  · simp only [none_, if_true]
    exact .last rfl
  simp only [if_neg none_]
  by_cases refused : query.calls.allocated = false
  · rw [if_pos refused]
    apply Runs.last
    simp only [spanAccess, if_neg none_, if_pos refused]
    rfl
  rw [if_neg refused]
  have goes : spanAccess clock (.allocate query
      (matchCount query.wanted state.slots state.spanCount)) state =
        (state, .inl (.collecting query
          (matchCount query.wanted state.slots state.spanCount) 0
          (copyPass query.calls.duplicated query.wanted state.slots 0))) := by
    simp only [spanAccess, if_neg none_, if_neg refused]
    rfl
  exact .more goes (collecting_runs query _ (Nat.zero_add _) rfl)

theorem flush_runs (ready : ¬state.initialized = false) (now : Int)
    (opened : Bool) :
    Runs (spanAccess clock) (.open_ now opened) state
      ((traceFlush clock now opened state).1,
        .code (traceFlush clock now opened state).2) := by
  unfold traceFlush
  rw [if_neg ready]
  by_cases empty : state.spanCount = 0
  · rw [if_pos empty]
    exact .last (if_pos empty)
  rw [if_neg empty]
  by_cases closed : opened = false
  · rw [if_pos closed]
    apply Runs.last
    simp only [spanAccess, if_neg empty, if_pos closed]
  rw [if_neg closed]
  let path := spanFilePath state.tracePath (clock now)
  let printed := fun index => { state with
    files := Function.update state.files path
      (some (((List.range index).map state.slots).map TraceSpan.entry)) }
  have opens : spanAccess clock (.open_ now opened) state =
      (printed 0, .inl (.print path 0)) := by
    simp only [spanAccess, if_neg empty, if_neg closed]
    rfl
  refine .more opens ?_
  refine Runs.loop (fun index => SpanPlace.print path index) printed
    (Nat.zero_le state.spanCount) (fun index _ below => ?_)
    (.more (if_neg (Nat.lt_irrefl _)) (.last rfl))
  simp only [spanAccess, printed, if_pos below, Function.update_self,
    Function.update_idem, Option.getD_some, List.range_succ, List.map_append,
    List.map_cons, List.map_nil]

theorem stats_runs (ready : ¬state.initialized = false) (outs : SpanStatsOuts) :
    Runs (spanAccess clock) (.totalSpans outs) state
      (state, .stats (traceGetStats outs state).1
        (traceGetStats outs state).2) := by
  unfold traceGetStats
  rw [if_neg ready]
  exact .more rfl (.more rfl (.last rfl))

end Reads

/-! ### The calls -/

section Calls

variable {clock : LocalClock} {state : TraceState}

theorem downReply_answers (stopped : state.initialized = false)
    (call : BufferCall) :
    (bufferCall clock state call).1 = state ∧
      bufferReply clock state call = downReply call := by
  cases call with
  | writeSpan duplicated span =>
      simp only [bufferCall, bufferReply, downReply, traceWriteSpan,
        if_pos stopped, and_self]
  | writeSpansBatch duplicated batch =>
      simp only [bufferCall, bufferReply, downReply, traceWriteSpansBatch,
        if_pos stopped, and_self]
  | flush now opened =>
      simp only [bufferCall, bufferReply, downReply, traceFlush,
        if_pos stopped, and_self]
  | queryByTrace calls traceId outs =>
      simp only [bufferCall, bufferReply, downReply, traceQueryByTrace,
        if_pos stopped, and_self]
  | queryByTimeRange calls startTime endTime outs =>
      simp only [bufferCall, bufferReply, downReply, traceQueryByTimeRange,
        if_pos stopped, and_self]

/-- A call that gives up before the lock leaves the module. -/
theorem bufferGate_refuses (ready : ¬state.initialized = false)
    {call : BufferCall} {reply : TraceReply}
    (refused : bufferGate call = .inr reply) :
    (bufferCall clock state call).1 = state ∧
      bufferReply clock state call = reply := by
  cases call with
  | writeSpan duplicated span =>
      simp only [bufferCall, bufferReply, traceWriteSpan, if_neg ready]
      cases span with
      | none =>
          cases refused
          exact ⟨rfl, rfl⟩
      | some span =>
          by_cases unnamed : span.spanId.text = [] ∨ span.traceId.text = []
          · simp only [bufferGate, if_pos unnamed, Sum.inr.injEq] at refused
            simp only [if_pos unnamed, refused, and_self]
          · simp only [bufferGate, if_neg unnamed, reduceCtorEq] at refused
  | writeSpansBatch duplicated batch =>
      simp only [bufferCall, bufferReply, traceWriteSpansBatch, if_neg ready]
      cases batch with
      | none =>
          cases refused
          exact ⟨rfl, rfl⟩
      | some batch =>
          by_cases empty : batch.spans.length = 0
          · simp only [bufferGate, if_pos empty, Sum.inr.injEq] at refused
            simp only [if_pos empty, refused, and_self]
          · simp only [bufferGate, if_neg empty, reduceCtorEq] at refused
  | flush now opened => cases refused
  | queryByTrace calls traceId outs =>
      simp only [bufferCall, bufferReply, traceQueryByTrace, if_neg ready,
        true_and]
      cases traceId with
      | none =>
          cases refused
          rfl
      | some traceId =>
          by_cases nowhere : outs = false
          · simp only [bufferGate, if_pos nowhere, Sum.inr.injEq] at refused
            simp only [if_pos nowhere, refused]
          · simp only [bufferGate, if_neg nowhere, reduceCtorEq] at refused
  | queryByTimeRange calls startTime endTime outs =>
      simp only [bufferCall, bufferReply, traceQueryByTimeRange, if_neg ready,
        true_and]
      by_cases nowhere : outs = false
      · simp only [bufferGate, if_pos nowhere, Sum.inr.injEq] at refused
        simp only [if_pos nowhere, refused]
      · simp only [bufferGate, if_neg nowhere, reduceCtorEq] at refused

/-- A call that goes for the lock does there what it does at once. -/
theorem bufferGate_runs (ready : ¬state.initialized = false)
    {call : BufferCall} {place : SpanPlace}
    (admitted : bufferGate call = .inl place) :
    Runs (spanAccess clock) place state
      ((bufferCall clock state call).1, bufferReply clock state call) := by
  cases call with
  | writeSpan duplicated span =>
      cases span with
      | none => cases admitted
      | some span =>
          by_cases unnamed : span.spanId.text = [] ∨ span.traceId.text = []
          · simp only [bufferGate, if_pos unnamed, reduceCtorEq] at admitted
          · simp only [bufferGate, if_neg unnamed, Sum.inl.injEq] at admitted
            subst admitted
            exact writeSpan_runs ready duplicated unnamed
  | writeSpansBatch duplicated batch =>
      cases batch with
      | none => cases admitted
      | some batch =>
          by_cases empty : batch.spans.length = 0
          · simp only [bufferGate, if_pos empty, reduceCtorEq] at admitted
          · simp only [bufferGate, if_neg empty, Sum.inl.injEq] at admitted
            subst admitted
            exact writeSpansBatch_runs ready empty
  | flush now opened =>
      cases admitted
      exact flush_runs ready now opened
  | queryByTrace calls traceId outs =>
      cases traceId with
      | none => cases admitted
      | some traceId =>
          by_cases nowhere : outs = false
          · simp only [bufferGate, if_pos nowhere, reduceCtorEq] at admitted
          · simp only [bufferGate, if_neg nowhere, Sum.inl.injEq] at admitted
            subst admitted
            have runs := @query_runs clock state
              ⟨calls, spanMatchTrace traceId⟩
            simpa only [bufferCall, bufferReply, traceQueryByTrace,
              if_neg ready, if_neg nowhere] using runs
  | queryByTimeRange calls startTime endTime outs =>
      by_cases nowhere : outs = false
      · simp only [bufferGate, if_pos nowhere, reduceCtorEq] at admitted
      · simp only [bufferGate, if_neg nowhere, Sum.inl.injEq] at admitted
        subst admitted
        have runs := @query_runs clock state
          ⟨calls, spanMatchTime startTime endTime⟩
        simpa only [bufferCall, bufferReply, traceQueryByTimeRange,
          if_neg ready, if_neg nowhere] using runs

theorem span_refuses (state : TraceState) (request : TraceRequest)
    (reply : TraceReply) (refused : spanGate state request = .inr reply) :
    traceServe clock state request = (state, reply) := by
  cases request with
  | buffer call =>
      by_cases stopped : state.initialized = false
      · simp only [spanGate, if_pos stopped, Sum.inr.injEq] at refused
        obtain ⟨same, answered⟩ := @downReply_answers clock state stopped call
        simp only [traceServe, same, answered, refused]
      · simp only [spanGate, if_neg stopped] at refused
        obtain ⟨same, answered⟩ :=
          @bufferGate_refuses clock state stopped call reply refused
        simp only [traceServe, same, answered]
  | getStats outs =>
      by_cases stopped : state.initialized = false
      · simp only [spanGate, if_pos stopped, Sum.inr.injEq] at refused
        simp only [traceServe, traceGetStats, if_pos stopped, refused]
      · simp only [spanGate, if_neg stopped, reduceCtorEq] at refused
  | isHealthy =>
      cases refused
      rfl

theorem span_runs (state : TraceState) (request : TraceRequest)
    (place : SpanPlace) (admitted : spanGate state request = .inl place) :
    Runs (spanAccess clock) place state (traceServe clock state request) := by
  cases request with
  | buffer call =>
      by_cases stopped : state.initialized = false
      · simp only [spanGate, if_pos stopped, reduceCtorEq] at admitted
      · simp only [spanGate, if_neg stopped] at admitted
        exact bufferGate_runs stopped admitted
  | getStats outs =>
      by_cases stopped : state.initialized = false
      · simp only [spanGate, if_pos stopped, reduceCtorEq] at admitted
      · simp only [spanGate, if_neg stopped, Sum.inl.injEq] at admitted
        subst admitted
        exact stats_runs stopped outs
  | isHealthy => cases admitted

theorem spanAccess_initialized (place : SpanPlace) (state : TraceState) :
    (spanAccess clock place state).1.initialized = state.initialized := by
  cases place <;> simp only [spanAccess] <;>
    repeat' first
      | rfl
      | split

theorem spanCode_implements :
    Implements (spanCode clock) id (traceServe clock) where
  refuses := span_refuses
  runs state request place admitted :=
    ⟨_, span_runs state request place admitted, rfl⟩
  steady state place request := by
    cases request <;>
      simp only [spanCode, spanGate, spanAccess_initialized]

end Calls

/-! ### No span is lost between threads -/

/-- The writes and the flushes that opened their file. -/
def TraceRequest.call : TraceRequest → Option TraceCall
  | .buffer (.writeSpan duplicated span) => some (.writeSpan duplicated span)
  | .buffer (.writeSpansBatch duplicated batch) =>
      some (.writeSpansBatch duplicated batch)
  | .buffer (.flush now true) => some (.flush now)
  | _ => none

/-- The module with the accepted spans and the paths of its flushes. -/
def accountedStep (clock : LocalClock) :
    Machine TraceRun TraceRequest TraceReply := fun run request =>
  (match request.call with
    | none => run
    | some call => (traceStep clock run call).1,
    (traceServe clock run.state request).2)

/-- A flush goes to a path that none went to before. -/
def RequestsFresh (clock : LocalClock) (run : TraceRun)
    (request : TraceRequest) : Prop :=
  ∀ call, request.call = some call → FlushesFresh clock run call

theorem accountedStep_state (clock : LocalClock) (run : TraceRun)
    (request : TraceRequest) :
    (accountedStep clock run request).1.state =
      (traceServe clock run.state request).1 := by
  cases request with
  | buffer call =>
      cases call with
      | writeSpan | writeSpansBatch => rfl
      | flush now opened =>
          cases opened with
          | true => rfl
          | false =>
              simp only [accountedStep, TraceRequest.call, traceServe,
                bufferCall, traceFlush, if_true]
              split
              · rfl
              split <;> rfl
      | queryByTrace | queryByTimeRange => rfl
  | getStats | isHealthy => rfl

theorem accountedStep_kept (clock : LocalClock) (run : TraceRun)
    (request : TraceRequest) (kept : FilesNamed run ∧ Conserved run)
    (fresh : RequestsFresh clock run request) :
    FilesNamed (accountedStep clock run request).1 ∧
      Conserved (accountedStep clock run request).1 := by
  obtain ⟨named, conserved⟩ := kept
  unfold accountedStep
  cases asked : request.call with
  | none => exact ⟨named, conserved⟩
  | some call =>
      exact ⟨filesNamed_step clock run call named,
        (conserved_step_iff clock run call named conserved).mpr
          (fresh call asked)⟩

/-- Every interleaving of the calls of any number of threads, cut at every
access to the buffer and to the span files, is a run of the calls one after the
other.  With the lock free the module is where that run leads, its buffer and
files hold every accepted span once if the flushes of the run have paths of
their own, and the lock always comes free. -/
theorem threads_lose_no_span {Thread : Type*} [DecidableEq Thread]
    (clock : LocalClock) (root : Bytes)
    (files : Bytes → Option (List SpanEntry))
    (moves : List (Move Thread TraceRequest)) :
    let start := traceStart root files
    let world := final (lockedStep (spanCode clock)) (worldStart start.state)
      moves
    let trace := events (spanCode clock) (worldStart start.state) moves
    let run := serial (accountedStep clock) start trace
    Linearizes (accountedStep clock) start trace ∧
      (world.holder = none → world.shared = run.state) ∧
      (Meets (accountedStep clock) (RequestsFresh clock) start (order trace) →
        Conserved run) ∧
      ∀ thread, world.holder = some thread →
        ∃ steps, (final (lockedStep (spanCode clock)) world
          (List.replicate steps (.go thread))).holder = none := by
  intro start world trace run
  obtain ⟨linearizes, free, comes⟩ :=
    calls_linearize (@spanCode_implements clock) start.state moves
  have step : ∀ (state : TraceState) (run : TraceRun) (request : TraceRequest),
      state = run.state →
      (traceServe clock state request).1 =
          (accountedStep clock run request).1.state ∧
        (traceServe clock state request).2 =
          (accountedStep clock run request).2 := by
    rintro _ run request rfl
    exact ⟨(accountedStep_state clock run request).symm, rfl⟩
  have reached := (refinement (traceServe clock) (accountedStep clock)
    (fun state run => state = run.state) step start.state start (order trace)
    rfl).1
  refine ⟨linearizes.refine (fun state run => state = run.state) step rfl,
    fun unlocked => (free unlocked).trans reached, fun fresh => ?_, comes⟩
  have kept : FilesNamed run ∧ Conserved run :=
    guarded_invariant (accountedStep clock) (RequestsFresh clock)
      (fun run => FilesNamed run ∧ Conserved run) (accountedStep_kept clock)
      start (order trace)
      ⟨⟨List.nodup_nil, List.forall_mem_nil _⟩, List.Perm.refl _⟩ fresh
  exact kept.2

end Heapstore.Trace
