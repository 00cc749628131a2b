/-
The bound of the span buffer, for batches of any 64-bit size.

The capacity check of a batch adds two words, and the copy multiplies the count
with the size of a span as words.  A call is followed with the slots that it
writes; once the copy leaves the buffer nothing is known any more.
-/

import Heapstore.TraceQueries
import Heapstore.TraceWritePaths

namespace Heapstore.Trace

open ByteText CivilTime OperationRun SlotArray

/-- `sizeof(heapstore_span_t)` -/
def spanSize : Nat := 448

/-- The slots that a call wrote, from the first to before the last, and its
code, if it returned. -/
structure SlotAnswer where
  error : Option HeapstoreError
  first : Nat
  last : Nat
  deriving DecidableEq

/-- A call that wrote no slot. -/
def SlotAnswer.idle (error : HeapstoreError) : SlotAnswer :=
  { error := some error, first := 0, last := 0 }

inductive BoundCall where
  | writeSpan (duplicated : Bool) (span : Option TraceSpan)
  | writeSpansBatch (duplicated : Nat → Bool) (spans : Option (Nat → TraceSpan))
      (count : UInt64)
  | flush (now : Int) (opened : Bool)

/-- `heapstore_trace_write_span`, with the slot it writes. -/
def boundWriteSpan (duplicated : Bool) (span : Option TraceSpan)
    (state : TraceState) : TraceState × SlotAnswer :=
  if state.initialized = false then (state, .idle .errNotInitialized)
  else
    match span with
    | none => (state, .idle .errInvalidParam)
    | some span =>
        if span.spanId.text = [] ∨ span.traceId.text = [] then
          (state, .idle .errInvalidParam)
        else if traceMaxSpans ≤ state.spanCount then
          (state, .idle .errOutOfMemory)
        else
          let wrote := fun error =>
            { error := some error, first := state.spanCount
              last := state.spanCount + 1 : SlotAnswer }
          if span.attributes ≠ none ∧ duplicated = false then
            ({ state with
                slots := Function.update state.slots state.spanCount
                  { span with attributes := none } }, wrote .errOutOfMemory)
          else
            ({ state with
                slots := Function.update state.slots state.spanCount span
                spanCount := state.spanCount + 1 }, wrote .success)

/-- The slots that the copy of a batch reaches; the last one counts if it is
reached in part. -/
def copiedSlots (count : UInt64) : Nat :=
  (count.toNat * spanSize % 2 ^ 64 + (spanSize - 1)) / spanSize

/-- `heapstore_trace_write_spans_batch` on an array in memory. -/
def boundWriteSpansBatch (duplicated : Nat → Bool)
    (spans : Option (Nat → TraceSpan)) (count : UInt64) (state : TraceState) :
    TraceState × SlotAnswer :=
  if state.initialized = false then (state, .idle .errNotInitialized)
  else
    match spans with
    | none => (state, .idle .errInvalidParam)
    | some spans =>
        if count = 0 then (state, .idle .errInvalidParam)
        else if traceMaxSpans < (state.spanCount + count.toNat) % 2 ^ 64 then
          (state, .idle .errOutOfMemory)
        else
          let last := state.spanCount + copiedSlots count
          -- The copy runs over the end of the allocation.
          if traceMaxSpans < last then
            (state, { error := none, first := state.spanCount, last := last })
          else
            let batch := (List.range count.toNat).map spans
            let wrote := fun error =>
              { error := some error, first := state.spanCount
                last := state.spanCount + count.toNat : SlotAnswer }
            match failedCopy duplicated batch with
            | none =>
                ({ state with
                    slots := copySlots state.slots state.spanCount batch
                    spanCount := (state.spanCount + count.toNat) % 2 ^ 64 },
                  wrote .success)
            | some failed =>
                ({ state with
                    slots := copySlots state.slots state.spanCount
                      (batch.mapIdx fun index span =>
                        if index ≤ failed then { span with attributes := none }
                        else span) }, wrote .errOutOfMemory)

def boundMachine (clock : LocalClock) :
    Machine TraceState BoundCall SlotAnswer := fun state call =>
  match call with
  | .writeSpan duplicated span => boundWriteSpan duplicated span state
  | .writeSpansBatch duplicated spans count =>
      boundWriteSpansBatch duplicated spans count state
  | .flush now opened =>
      let flushed := traceFlush clock now opened state
      (flushed.1, .idle flushed.2)

/-! ### The bound -/

/-- The counter stays within the buffer, so does every slot that is written,
and what is accepted fits as an exact sum. -/
structure StaysInside (clock : LocalClock) (state : TraceState)
    (call : BoundCall) : Prop where
  counted : (boundMachine clock state call).1.spanCount ≤ traceMaxSpans
  written : ∀ slot, (boundMachine clock state call).2.first ≤ slot →
    slot < (boundMachine clock state call).2.last → slot < traceMaxSpans
  accepted : ∀ duplicated spans count,
    call = .writeSpansBatch duplicated spans count →
      (boundMachine clock state call).2.error = some .success →
        state.spanCount + count.toNat ≤ traceMaxSpans

/-- The sum that the capacity check computes does not wrap around. -/
def SumFits (state : TraceState) (call : BoundCall) : Prop :=
  match call with
  | .writeSpansBatch _ (some _) count =>
      state.initialized = true → state.spanCount + count.toNat < 2 ^ 64
  | _ => True

/-- A sum that wraps around comes from a count close to the end of the words,
whose copy is longer than any buffer. -/
theorem copiedSlots_of_wrapped {held : Nat} {count : UInt64}
    (room : held ≤ traceMaxSpans) (wrapped : 2 ^ 64 ≤ held + count.toNat) :
    traceMaxSpans < copiedSlots count := by
  have bound := count.toNat_lt
  have capacity : traceMaxSpans = 10000 := rfl
  obtain ⟨short, gap⟩ : ∃ short, count.toNat + short = 2 ^ 64 :=
    ⟨2 ^ 64 - count.toNat, by omega⟩
  have product : count.toNat * 448 = 2 ^ 64 * 447 + (2 ^ 64 - 448 * short) := by
    omega
  have bytes : count.toNat * 448 % 2 ^ 64 = 2 ^ 64 - 448 * short := by
    rw [product, Nat.mul_add_mod, Nat.mod_eq_of_lt (by omega)]
  unfold copiedSlots spanSize
  rw [bytes]
  omega

theorem copiedSlots_of_fits {count : UInt64}
    (small : count.toNat ≤ traceMaxSpans) : copiedSlots count = count.toNat := by
  have capacity : traceMaxSpans = 10000 := rfl
  unfold copiedSlots spanSize
  omega

section Steps

variable {clock : LocalClock} {state : TraceState}

theorem boundWriteSpan_eq (duplicated : Bool) (span : Option TraceSpan)
    (state : TraceState) :
    (boundWriteSpan duplicated span state).1 =
        (traceWriteSpan duplicated span state).1 ∧
      (boundWriteSpan duplicated span state).2.error =
        some (traceWriteSpan duplicated span state).2 := by
  unfold boundWriteSpan traceWriteSpan
  split
  · exact ⟨rfl, rfl⟩
  · cases span with
    | none => exact ⟨rfl, rfl⟩
    | some span =>
        simp only
        split
        · exact ⟨rfl, rfl⟩
        split
        · exact ⟨rfl, rfl⟩
        split
        · exact ⟨rfl, rfl⟩
        · exact ⟨rfl, rfl⟩

/-- A single write stays below the capacity. -/
theorem boundWriteSpan_inside (room : state.spanCount ≤ traceMaxSpans)
    (duplicated : Bool) (span : Option TraceSpan) :
    (boundWriteSpan duplicated span state).1.spanCount ≤ traceMaxSpans ∧
      (boundWriteSpan duplicated span state).2.last ≤ traceMaxSpans := by
  have nothing : 0 ≤ traceMaxSpans := Nat.zero_le _
  unfold boundWriteSpan
  split
  · exact ⟨room, nothing⟩
  · cases span with
    | none => exact ⟨room, nothing⟩
    | some span =>
        simp only
        split
        · exact ⟨room, nothing⟩
        split
        · exact ⟨room, nothing⟩
        · next below =>
            have next : state.spanCount + 1 ≤ traceMaxSpans :=
              Nat.not_le.mp below
            split
            · exact ⟨room, next⟩
            · exact ⟨next, next⟩

theorem traceFlush_spanCount (now : Int) (opened : Bool) :
    (traceFlush clock now opened state).1.spanCount ≤ state.spanCount := by
  unfold traceFlush
  split
  · exact Nat.le_refl _
  split
  · exact Nat.le_refl _
  split
  · exact Nat.le_refl _
  · exact Nat.zero_le _

/-- A batch whose sum does not wrap around is taken only if it fits. -/
theorem boundWriteSpansBatch_inside (room : state.spanCount ≤ traceMaxSpans)
    (duplicated : Nat → Bool) (spans : Option (Nat → TraceSpan))
    (count : UInt64)
    (fits : SumFits state (.writeSpansBatch duplicated spans count)) :
    (boundWriteSpansBatch duplicated spans count state).1.spanCount ≤
        traceMaxSpans ∧
      (boundWriteSpansBatch duplicated spans count state).2.last ≤
        traceMaxSpans ∧
      ((boundWriteSpansBatch duplicated spans count state).2.error =
          some .success → state.spanCount + count.toNat ≤ traceMaxSpans) := by
  have nothing : 0 ≤ traceMaxSpans := Nat.zero_le _
  have capacity : traceMaxSpans = 10000 := rfl
  unfold boundWriteSpansBatch
  cases ready : state.initialized with
  | false => exact ⟨room, nothing, nofun⟩
  | true =>
      cases spans with
      | none => exact ⟨room, nothing, nofun⟩
      | some spans =>
          simp only [Bool.true_eq_false, if_false]
          split
          · exact ⟨room, nothing, nofun⟩
          split
          · exact ⟨room, nothing, nofun⟩
          · next checked =>
              have same := Nat.mod_eq_of_lt (fits ready)
              rw [same] at checked ⊢
              have sum : state.spanCount + count.toNat ≤ traceMaxSpans :=
                Nat.not_lt.mp checked
              have copied := @copiedSlots_of_fits count (by omega)
              rw [copied, if_neg checked]
              cases failedCopy duplicated
                  ((List.range count.toNat).map spans) with
              | none => exact ⟨sum, sum, fun _ => sum⟩
              | some failed => exact ⟨room, sum, nofun⟩

/-- A sum that wraps around passes the check, and the copy leaves the buffer. -/
theorem boundWriteSpansBatch_wrapped (room : state.spanCount ≤ traceMaxSpans)
    (ready : state.initialized = true) (duplicated : Nat → Bool)
    (spans : Nat → TraceSpan) {count : UInt64}
    (wrapped : 2 ^ 64 ≤ state.spanCount + count.toNat) :
    boundWriteSpansBatch duplicated (some spans) count state =
      (state, { error := none, first := state.spanCount
                last := state.spanCount + copiedSlots count }) := by
  have bound := count.toNat_lt
  have capacity : traceMaxSpans = 10000 := rfl
  have some_ : count ≠ 0 := by
    rintro rfl
    change 2 ^ 64 ≤ state.spanCount + 0 at wrapped
    omega
  have passes : ¬traceMaxSpans < (state.spanCount + count.toNat) % 2 ^ 64 := by
    omega
  have outside : traceMaxSpans < state.spanCount + copiedSlots count :=
    Nat.lt_of_lt_of_le (copiedSlots_of_wrapped room wrapped)
      (Nat.le_add_left _ _)
  simp only [boundWriteSpansBatch, ready, Bool.true_eq_false, if_false, some_,
    if_neg passes, if_pos outside]

theorem boundMachine_counted (room : state.spanCount ≤ traceMaxSpans)
    (call : BoundCall) :
    (boundMachine clock state call).1.spanCount ≤ traceMaxSpans := by
  cases call with
  | writeSpan duplicated span =>
      exact (boundWriteSpan_inside room duplicated span).1
  | flush now opened =>
      exact Nat.le_trans (traceFlush_spanCount now opened) room
  | writeSpansBatch duplicated spans count =>
      by_cases fits : SumFits state (.writeSpansBatch duplicated spans count)
      · exact (boundWriteSpansBatch_inside room duplicated spans count fits).1
      · cases spans with
        | none => exact absurd trivial fits
        | some spans =>
            obtain ⟨ready, wrapped⟩ := Classical.not_imp.mp fits
            change (boundWriteSpansBatch duplicated (some spans) count
              state).1.spanCount ≤ _
            rw [boundWriteSpansBatch_wrapped room ready duplicated spans
              (Nat.not_lt.mp wrapped)]
            exact room

theorem staysInside_of_last {call : BoundCall}
    (room : state.spanCount ≤ traceMaxSpans)
    (last : (boundMachine clock state call).2.last ≤ traceMaxSpans)
    (accepted : ∀ duplicated spans count,
      call = .writeSpansBatch duplicated spans count →
        (boundMachine clock state call).2.error = some .success →
          state.spanCount + count.toNat ≤ traceMaxSpans) :
    StaysInside clock state call :=
  { counted := boundMachine_counted room call
    written := fun _ _ below => Nat.lt_of_lt_of_le below last
    accepted := accepted }

/-- One call stays inside exactly when its sum does not wrap around. -/
theorem staysInside_iff (room : state.spanCount ≤ traceMaxSpans)
    (call : BoundCall) : StaysInside clock state call ↔ SumFits state call := by
  cases call with
  | writeSpan duplicated span =>
      refine iff_of_true (staysInside_of_last room ?_ nofun) trivial
      exact (boundWriteSpan_inside room duplicated span).2
  | flush now opened =>
      exact iff_of_true (staysInside_of_last room (Nat.zero_le _) nofun) trivial
  | writeSpansBatch duplicated spans count =>
      constructor
      · intro inside
        cases spans with
        | none => trivial
        | some spans =>
            intro ready
            by_contra large
            have wrapped : 2 ^ 64 ≤ state.spanCount + count.toNat :=
              Nat.not_lt.mp large
            have written := inside.written
            have answer := boundWriteSpansBatch_wrapped room ready duplicated
              spans wrapped
            change ∀ slot, (boundWriteSpansBatch duplicated (some spans) count
                state).2.first ≤ slot →
              slot < (boundWriteSpansBatch duplicated (some spans) count
                state).2.last → slot < traceMaxSpans at written
            rw [answer] at written
            have reached := copiedSlots_of_wrapped room wrapped
            have last := written traceMaxSpans room
              (Nat.lt_of_lt_of_le reached (Nat.le_add_left _ _))
            exact Nat.lt_irrefl _ last
      · intro fits
        obtain ⟨_, last, sum⟩ :=
          boundWriteSpansBatch_inside room duplicated spans count fits
        refine staysInside_of_last room last ?_
        rintro _ _ _ ⟨rfl, rfl, rfl⟩ succeeded
        exact sum succeeded

/-- On arrays that exist in memory this is the write path of the buffer. -/
theorem boundWriteSpansBatch_eq (room : state.spanCount ≤ traceMaxSpans)
    (duplicated : Nat → Bool) (batch : SpanArray) :
    let bound := boundWriteSpansBatch duplicated
      (some fun index => batch.spans.getD index zeroedSpan)
      (UInt64.ofNat batch.spans.length) state
    bound.1 = (traceWriteSpansBatch duplicated (some batch) state).1 ∧
      bound.2.error =
        some (traceWriteSpansBatch duplicated (some batch) state).2 := by
  have capacity : traceMaxSpans = 10000 := rfl
  have fits := batch.fits
  have count : (UInt64.ofNat batch.spans.length).toNat = batch.spans.length :=
    UInt64.toNat_ofNat_of_lt' (by simp only [UInt64.size]; omega)
  have zero : UInt64.ofNat batch.spans.length = 0 ↔ batch.spans.length = 0 := by
    rw [← UInt64.toNat_inj, count]
    rfl
  have whole : (List.range batch.spans.length).map
      (fun index => batch.spans.getD index zeroedSpan) = batch.spans := by
    apply List.ext_getElem
    · rw [List.length_map, List.length_range]
    · intro index _ within
      rw [List.getElem_map, List.getElem_range,
        List.getD_eq_getElem _ _ within]
  intro bound
  unfold bound boundWriteSpansBatch traceWriteSpansBatch
  split
  · exact ⟨rfl, rfl⟩
  · simp only [zero, count, whole]
    split
    · exact ⟨rfl, rfl⟩
    split
    · exact ⟨rfl, rfl⟩
    · next checked =>
        have same : (state.spanCount + batch.spans.length) % 2 ^ 64 =
            state.spanCount + batch.spans.length :=
          Nat.mod_eq_of_lt (by omega)
        rw [same] at checked ⊢
        have copied := @copiedSlots_of_fits (UInt64.ofNat batch.spans.length)
          (by omega)
        rw [copied, count, if_neg checked]
        cases failedCopy duplicated batch.spans with
        | none => exact ⟨rfl, rfl⟩
        | some failed => exact ⟨rfl, rfl⟩

end Steps

/-! ### Runs -/

/-- The module after its first `heapstore_trace_init`. -/
def boundStart (root : Bytes) (allocated : Bool)
    (files : Bytes → Option (List SpanEntry)) : TraceState :=
  (traceInit root allocated
    { initialized := false
      tracePath := []
      slots := fun _ => zeroedSpan
      spanCount := 0
      files := files }).1

/-- In every run from an initialization, the counter, the written slots and the
accepted batches stay within the buffer exactly when no batch call makes the
sum of the capacity check wrap around. -/
theorem span_buffer_bound_iff (clock : LocalClock) (root : Bytes)
    (allocated : Bool) (files : Bytes → Option (List SpanEntry))
    (calls : List BoundCall) :
    Meets (boundMachine clock) (StaysInside clock)
        (boundStart root allocated files) calls ↔
      Meets (boundMachine clock) SumFits (boundStart root allocated files)
        calls := by
  apply meets_congr (boundMachine clock)
    (fun state => state.spanCount ≤ traceMaxSpans)
  · cases allocated <;> exact Nat.zero_le _
  · intro state call _ room
    exact boundMachine_counted room call
  · intro state call _ room
    exact staysInside_iff room call

/-- With one span in the buffer, a batch of 2 ^ 64 - 1 spans passes the check
and the copy runs far behind the last slot. -/
theorem span_buffer_bound_wraps :
    ¬∀ clock root allocated files calls,
      Meets (boundMachine clock) (StaysInside clock)
        (boundStart root allocated files) calls := by
  intro always
  let start := boundStart [] true fun _ => none
  let first : BoundCall := .writeSpan true (some namedSpan)
  let large : BoundCall := .writeSpansBatch (fun _ => true)
    (some fun _ => namedSpan) 18446744073709551615
  have run := always gmtime [] true (fun _ => none) [first, large]
  have one : (boundMachine gmtime start first).1.spanCount = 1 := by rfl
  have ready : (boundMachine gmtime start first).1.initialized = true := by rfl
  have fits : (boundMachine gmtime start first).1.spanCount +
      (18446744073709551615 : UInt64).toNat < 2 ^ 64 :=
    (staysInside_iff (by rw [one]; decide) large).mp run.2.1 ready
  rw [one] at fits
  exact absurd fits (by decide)

end Heapstore.Trace
