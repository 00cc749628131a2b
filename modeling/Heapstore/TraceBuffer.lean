/-
The span buffer of the trace module.

Spans are kept in slots below a counter.  A flush prints the slots into one
file below the traces directory and empties the buffer.  The outcomes of
allocations and file operations, the clock and its zone are arguments.
-/

import Heapstore.Foundation.CivilTime
import Heapstore.Foundation.SlotArray
import Heapstore.Types
import Mathlib.Data.List.GetD
import Mathlib.Logic.Function.Basic

namespace Heapstore.Trace

open ByteText CivilTime SlotArray

abbrev traceMaxPath : Nat := 512

def traceMaxSpans : Nat := 10000

/-- `heapstore_span_t`; the attributes are a string or a null pointer. -/
structure TraceSpan where
  traceId : CharArray 64
  spanId : CharArray 32
  parentSpanId : CharArray 32
  name : CharArray 128
  kind : CharArray 64
  startTimeNs : UInt64
  endTimeNs : UInt64
  serviceName : CharArray 64
  status : CharArray 32
  attributes : Option Bytes
  attributeCount : UInt64
  deriving DecidableEq

def zeroedSpan : TraceSpan where
  traceId := CharArray.copy []
  spanId := CharArray.copy []
  parentSpanId := CharArray.copy []
  name := CharArray.copy []
  kind := CharArray.copy []
  startTimeNs := 0
  endTimeNs := 0
  serviceName := CharArray.copy []
  status := CharArray.copy []
  attributes := none
  attributeCount := 0

structure SpanEntry where
  traceId : CharArray 64
  spanId : CharArray 32
  name : CharArray 128
  startTimeNs : UInt64
  endTimeNs : UInt64
  deriving DecidableEq

def TraceSpan.entry (span : TraceSpan) : SpanEntry where
  traceId := span.traceId
  spanId := span.spanId
  name := span.name
  startTimeNs := span.startTimeNs
  endTimeNs := span.endTimeNs

/-- The module state and the span files, each read as its list of entries. -/
structure TraceState where
  initialized : Bool
  tracePath : Bytes
  slots : Nat → TraceSpan
  spanCount : Nat
  files : Bytes → Option (List SpanEntry)

def traceBasePath (root : Bytes) : Bytes :=
  printTo traceMaxPath (printTo traceMaxPath (root ++ ofString "/traces"))

/-- `heapstore_trace_init`; the buffer is one allocation. -/
def traceInit (root : Bytes) (allocated : Bool) (state : TraceState) :
    TraceState × HeapstoreError :=
  if state.initialized then (state, .success)
  else if allocated = false then
    ({ state with tracePath := traceBasePath root }, .errOutOfMemory)
  else
    ({ state with
        initialized := true
        tracePath := traceBasePath root
        slots := fun _ => zeroedSpan
        spanCount := 0 }, .success)

def traceShutdown (state : TraceState) : TraceState :=
  if state.initialized then
    { state with initialized := false, spanCount := 0 }
  else state

/-- `heapstore_trace_write_span`.  The slot is written before the attributes
are duplicated, and counted after. -/
def traceWriteSpan (duplicated : Bool) (span : Option TraceSpan)
    (state : TraceState) : TraceState × HeapstoreError :=
  if state.initialized = false then (state, .errNotInitialized)
  else
    match span with
    | none => (state, .errInvalidParam)
    | some span =>
        if span.spanId.text = [] ∨ span.traceId.text = [] then
          (state, .errInvalidParam)
        else if traceMaxSpans ≤ state.spanCount then (state, .errOutOfMemory)
        else if span.attributes ≠ none ∧ duplicated = false then
          ({ state with
              slots := Function.update state.slots state.spanCount
                { span with attributes := none } }, .errOutOfMemory)
        else
          ({ state with
              slots := Function.update state.slots state.spanCount span
              spanCount := state.spanCount + 1 }, .success)

/-- An array of spans in memory: `sizeof(heapstore_span_t)` is 448. -/
structure SpanArray where
  spans : List TraceSpan
  fits : spans.length * 448 < 2 ^ 64

def failedCopy (duplicated : Nat → Bool) (spans : List TraceSpan) : Option Nat :=
  (List.range spans.length).find? fun index =>
    decide ((spans.getD index zeroedSpan).attributes ≠ none) &&
      !duplicated index

/-- The slots behind the counter after a batch was copied there. -/
def copySlots (slots : Nat → TraceSpan) (base : Nat)
    (spans : List TraceSpan) : Nat → TraceSpan := fun index =>
  if base ≤ index ∧ index < base + spans.length then
    spans.getD (index - base) zeroedSpan
  else slots index

/-- `heapstore_trace_write_spans_batch`; the capacity check adds two words. -/
def traceWriteSpansBatch (duplicated : Nat → Bool)
    (batch : Option SpanArray) (state : TraceState) :
    TraceState × HeapstoreError :=
  if state.initialized = false then (state, .errNotInitialized)
  else
    match batch with
    | none => (state, .errInvalidParam)
    | some batch =>
        if batch.spans.length = 0 then (state, .errInvalidParam)
        else if traceMaxSpans < (state.spanCount + batch.spans.length) % 2 ^ 64
        then (state, .errOutOfMemory)
        else
          match failedCopy duplicated batch.spans with
          | none =>
              ({ state with
                  slots := copySlots state.slots state.spanCount batch.spans
                  spanCount := state.spanCount + batch.spans.length }, .success)
          | some failed =>
              -- The copies stay behind the counter, the duplicates released.
              ({ state with
                  slots := copySlots state.slots state.spanCount
                    (batch.spans.mapIdx fun index span =>
                      if index ≤ failed then { span with attributes := none }
                      else span) }, .errOutOfMemory)

def TraceState.buffered (state : TraceState) : List TraceSpan :=
  (List.range state.spanCount).map state.slots

/-- A buffer with one span. -/
def holding (span : TraceSpan) : TraceState where
  initialized := true
  tracePath := []
  slots := fun _ => span
  spanCount := 1
  files := fun _ => none

/-- A buffer with two spans. -/
def holdingBoth (first second : TraceSpan) : TraceState :=
  { holding second with
    slots := Function.update (holding second).slots 0 first
    spanCount := 2 }

/-- A request that is over, with an attribute. -/
def requestSpan : TraceSpan where
  traceId := CharArray.copy (ofString "4bf92f3577b34da6")
  spanId := CharArray.copy (ofString "00f067aa")
  parentSpanId := CharArray.copy []
  name := CharArray.copy (ofString "GET /agents")
  kind := CharArray.copy (ofString "server")
  startTimeNs := 1000
  endTimeNs := 5000
  serviceName := CharArray.copy (ofString "gateway")
  status := CharArray.copy (ofString "ok")
  attributes := some (ofString "tags=2")
  attributeCount := 1

/-- A lookup below the request that never ended. -/
def lookupSpan : TraceSpan where
  traceId := CharArray.copy (ofString "4bf92f3577b34da6")
  spanId := CharArray.copy (ofString "0c1d2e3f")
  parentSpanId := CharArray.copy (ofString "00f067aa")
  name := CharArray.copy (ofString "find agents")
  kind := CharArray.copy (ofString "client")
  startTimeNs := 2000
  endTimeNs := 0
  serviceName := CharArray.copy (ofString "registry")
  status := CharArray.copy (ofString "error")
  attributes := none
  attributeCount := 0

def spanFileName (time : Tm) : Bytes :=
  ofString "spans_" ++ dateStamp time ++ ofString "_" ++ timeStamp time ++
    ofString ".json"

def spanFilePath (tracePath : Bytes) (time : Tm) : Bytes :=
  printTo traceMaxPath (tracePath ++ ofString "/spans/" ++ spanFileName time)

/-- `heapstore_trace_flush`: the file is opened with truncation. -/
def traceFlush (clock : LocalClock) (now : Int) (opened : Bool)
    (state : TraceState) : TraceState × HeapstoreError :=
  if state.initialized = false then (state, .errNotInitialized)
  else if state.spanCount = 0 then (state, .success)
  else if opened = false then (state, .errFileOpenFailed)
  else
    ({ state with
        files := Function.update state.files
          (spanFilePath state.tracePath (clock now))
          (some (state.buffered.map TraceSpan.entry))
        spanCount := 0 }, .success)

/-! ### What a write adds to the buffer -/

theorem traceWriteSpan_outcome (duplicated : Bool) (span : Option TraceSpan)
    (state : TraceState) :
    let result := traceWriteSpan duplicated span state
    result.1.files = state.files ∧ result.1.tracePath = state.tracePath ∧
      result.1.initialized = state.initialized ∧
      ((result.2 ≠ .success ∧ result.1.buffered = state.buffered) ∨
        ∃ written, span = some written ∧ result.2 = .success ∧
          result.1.buffered = state.buffered ++ [written]) := by
  intro result
  unfold result traceWriteSpan
  split
  · exact ⟨rfl, rfl, rfl, Or.inl ⟨nofun, rfl⟩⟩
  · cases span with
    | none => exact ⟨rfl, rfl, rfl, Or.inl ⟨nofun, rfl⟩⟩
    | some span =>
        simp only
        split
        · exact ⟨rfl, rfl, rfl, Or.inl ⟨nofun, rfl⟩⟩
        · split
          · exact ⟨rfl, rfl, rfl, Or.inl ⟨nofun, rfl⟩⟩
          · split
            · exact ⟨rfl, rfl, rfl,
                Or.inl ⟨nofun, map_range_update_behind state.slots _ _⟩⟩
            · exact ⟨rfl, rfl, rfl, Or.inr ⟨span, rfl, rfl,
                map_range_update state.slots state.spanCount span⟩⟩

theorem copySlots_below (slots : Nat → TraceSpan) (base : Nat)
    (spans : List TraceSpan) :
    ∀ index < base, copySlots slots base spans index = slots index := by
  intro index below
  unfold copySlots
  rw [if_neg (by omega)]

theorem map_copySlots (slots : Nat → TraceSpan) (base : Nat)
    (spans : List TraceSpan) :
    (List.range base).map (copySlots slots base spans) =
      (List.range base).map slots :=
  map_range_congr (copySlots_below slots base spans)

theorem map_copySlots_all (slots : Nat → TraceSpan) (base : Nat)
    (spans : List TraceSpan) :
    (List.range (base + spans.length)).map (copySlots slots base spans) =
      (List.range base).map slots ++ spans := by
  apply map_range_extend (copySlots_below slots base spans)
  intro index within
  unfold copySlots
  rw [if_pos (by omega), Nat.add_sub_cancel_left,
    List.getD_eq_getElem _ _ within]

theorem traceWriteSpansBatch_outcome (duplicated : Nat → Bool)
    (batch : Option SpanArray) (state : TraceState) :
    let result := traceWriteSpansBatch duplicated batch state
    result.1.files = state.files ∧ result.1.tracePath = state.tracePath ∧
      result.1.initialized = state.initialized ∧
      ((result.2 ≠ .success ∧ result.1.buffered = state.buffered) ∨
        ∃ written, batch = some written ∧ result.2 = .success ∧
          result.1.buffered = state.buffered ++ written.spans) := by
  intro result
  unfold result traceWriteSpansBatch
  split
  · exact ⟨rfl, rfl, rfl, Or.inl ⟨nofun, rfl⟩⟩
  · cases batch with
    | none => exact ⟨rfl, rfl, rfl, Or.inl ⟨nofun, rfl⟩⟩
    | some batch =>
        simp only
        split
        · exact ⟨rfl, rfl, rfl, Or.inl ⟨nofun, rfl⟩⟩
        · split
          · exact ⟨rfl, rfl, rfl, Or.inl ⟨nofun, rfl⟩⟩
          · cases failedCopy duplicated batch.spans with
            | none =>
                exact ⟨rfl, rfl, rfl, Or.inr ⟨batch, rfl, rfl,
                  map_copySlots_all state.slots state.spanCount batch.spans⟩⟩
            | some failed =>
                exact ⟨rfl, rfl, rfl, Or.inl ⟨nofun,
                  map_copySlots state.slots state.spanCount _⟩⟩

end Heapstore.Trace
