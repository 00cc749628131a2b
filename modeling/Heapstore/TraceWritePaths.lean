/-
The two write paths of the span buffer.

A batch is copied behind the counter in one piece, without looking at the ids
of its spans; the single path refuses a span that lacks one of its two ids.
Both are compared on arrays that fit, with every allocation succeeding.
-/

import Heapstore.Foundation.OperationRun
import Heapstore.TraceBuffer

namespace Heapstore.Trace

open ByteText OperationRun

/-- Writing spans one by one, with every duplication succeeding. -/
def writeStep : Machine TraceState TraceSpan HeapstoreError :=
  fun state span => traceWriteSpan true (some span) state

/-- The ids that `heapstore_trace_write_span` asks for. -/
def TraceSpan.Named (span : TraceSpan) : Prop :=
  span.spanId.text ≠ [] ∧ span.traceId.text ≠ []

instance (span : TraceSpan) : Decidable span.Named :=
  inferInstanceAs (Decidable (_ ∧ _))

/-- The batch succeeds exactly when every single write does, and leaves what
they leave; a batch that fails leaves the buffer. -/
def WritePathsAgree (batch : SpanArray) (state : TraceState) : Prop :=
  let batched := traceWriteSpansBatch (fun _ => true) (some batch) state
  (batched.2 = .success ↔
      ∀ answer ∈ answers writeStep state batch.spans, answer = .success) ∧
    (batched.2 = .success → batched.1 = final writeStep state batch.spans) ∧
    (batched.2 ≠ .success → batched.1.buffered = state.buffered)

/-! ### One write and one batch -/

section Outcomes

variable {state : TraceState}

theorem traceWriteSpan_success_iff (ready : state.initialized = true)
    (room : state.spanCount < traceMaxSpans) (span : TraceSpan) :
    (writeStep state span).2 = .success ↔ span.Named := by
  have below : ¬traceMaxSpans ≤ state.spanCount := Nat.not_le.mpr room
  unfold writeStep traceWriteSpan TraceSpan.Named
  simp only [ready, Bool.true_eq_false, if_false, below, and_false]
  by_cases unnamed : span.spanId.text = [] ∨ span.traceId.text = []
  · rw [if_pos unnamed]
    constructor
    · intro succeeded
      cases succeeded
    · intro named
      rcases unnamed with noSpan | noTrace
      · exact absurd noSpan named.1
      · exact absurd noTrace named.2
  · rw [if_neg unnamed]
    exact ⟨fun _ => not_or.mp unnamed, fun _ => rfl⟩

theorem traceWriteSpan_of_named (ready : state.initialized = true)
    (room : state.spanCount < traceMaxSpans) {span : TraceSpan}
    (named : span.Named) :
    (writeStep state span).1 =
      { state with
        slots := Function.update state.slots state.spanCount span
        spanCount := state.spanCount + 1 } := by
  have below : ¬traceMaxSpans ≤ state.spanCount := Nat.not_le.mpr room
  have kept : ¬(span.spanId.text = [] ∨ span.traceId.text = []) :=
    not_or.mpr named
  unfold writeStep traceWriteSpan
  simp only [ready, Bool.true_eq_false, if_false, below, kept, and_false]

theorem failedCopy_none (spans : List TraceSpan) :
    failedCopy (fun _ => true) spans = none := by
  unfold failedCopy
  apply List.find?_eq_none.mpr
  intro index _
  simp

/-- A batch that fits is taken as it is. -/
theorem traceWriteSpansBatch_of_fits (ready : state.initialized = true)
    {batch : SpanArray} (nonempty : batch.spans ≠ [])
    (room : state.spanCount + batch.spans.length ≤ traceMaxSpans) :
    traceWriteSpansBatch (fun _ => true) (some batch) state =
      ({ state with
          slots := copySlots state.slots state.spanCount batch.spans
          spanCount := state.spanCount + batch.spans.length }, .success) := by
  have some_ : batch.spans.length ≠ 0 := fun none_ =>
    nonempty (List.length_eq_zero_iff.mp none_)
  have inside : (state.spanCount + batch.spans.length) % 2 ^ 64 =
      state.spanCount + batch.spans.length := by
    apply Nat.mod_eq_of_lt
    have capacity : traceMaxSpans = 10000 := rfl
    omega
  unfold traceWriteSpansBatch
  simp only [ready, Bool.true_eq_false, if_false, some_, inside,
    Nat.not_lt.mpr room, failedCopy_none]

end Outcomes

/-! ### Writing one by one -/

theorem copySlots_cons (slots : Nat → TraceSpan) (base : Nat)
    (span : TraceSpan) (rest : List TraceSpan) :
    copySlots slots base (span :: rest) =
      copySlots (Function.update slots base span) (base + 1) rest := by
  funext index
  unfold copySlots
  rcases Nat.lt_trichotomy index base with below | here | above
  · rw [if_neg (by omega), if_neg (by omega),
      Function.update_of_ne (Nat.ne_of_lt below)]
  · subst here
    rw [if_pos (by rw [List.length_cons]; omega), if_neg (by omega),
      Function.update_self, Nat.sub_self]
    rfl
  · have shift : index - base = (index - (base + 1)) + 1 := by omega
    have within : (base ≤ index ∧ index < base + (span :: rest).length) ↔
        (base + 1 ≤ index ∧ index < base + 1 + rest.length) := by
      rw [List.length_cons]
      omega
    simp only [within, shift, List.getD_cons_succ,
      Function.update_of_ne (Nat.ne_of_gt above)]

theorem copySlots_nil (slots : Nat → TraceSpan) (base : Nat) :
    copySlots slots base [] = slots := by
  funext index
  unfold copySlots
  apply if_neg
  change ¬(base ≤ index ∧ index < base + 0)
  omega

theorem final_write_of_named (spans : List TraceSpan) (state : TraceState)
    (ready : state.initialized = true)
    (room : state.spanCount + spans.length ≤ traceMaxSpans)
    (named : ∀ span ∈ spans, span.Named) :
    final writeStep state spans =
      { state with
        slots := copySlots state.slots state.spanCount spans
        spanCount := state.spanCount + spans.length } := by
  induction spans generalizing state with
  | nil =>
      rw [copySlots_nil]
      rfl
  | cons span rest ih =>
      rw [List.length_cons] at room
      have first := traceWriteSpan_of_named ready (by omega)
        (named span List.mem_cons_self)
      rw [final_cons, first, ih]
      · simp only [copySlots_cons, List.length_cons]
        congr 1
        omega
      · exact ready
      · change state.spanCount + 1 + rest.length ≤ traceMaxSpans
        omega
      · exact fun other later => named other (List.mem_cons_of_mem span later)

theorem length_buffered (state : TraceState) :
    state.buffered.length = state.spanCount := by
  unfold TraceState.buffered
  rw [List.length_map, List.length_range]

/-- A write takes at most one slot, also one that is refused. -/
theorem writeStep_room (state : TraceState) (span : TraceSpan) :
    (writeStep state span).1.initialized = state.initialized ∧
      (writeStep state span).1.spanCount ≤ state.spanCount + 1 := by
  obtain ⟨_, _, still, outcome⟩ :=
    traceWriteSpan_outcome true (some span) state
  refine ⟨still, ?_⟩
  rw [← length_buffered (writeStep state span).1, ← length_buffered state]
  rcases outcome with ⟨_, same⟩ | ⟨written, _, _, added⟩
  · exact (congrArg List.length same).le.trans (Nat.le_succ _)
  · have length := congrArg List.length added
    rw [List.length_append] at length
    exact length.le

theorem answers_write_success_iff (spans : List TraceSpan) (state : TraceState)
    (ready : state.initialized = true)
    (room : state.spanCount + spans.length ≤ traceMaxSpans) :
    (∀ answer ∈ answers writeStep state spans, answer = .success) ↔
      ∀ span ∈ spans, span.Named := by
  induction spans generalizing state with
  | nil => exact ⟨fun _ _ => nofun, fun _ _ => nofun⟩
  | cons span rest ih =>
      rw [List.length_cons] at room
      obtain ⟨still, count⟩ := writeStep_room state span
      rw [answers_cons, List.forall_mem_cons, List.forall_mem_cons,
        traceWriteSpan_success_iff ready (by omega),
        ih _ (still.trans ready) (by omega)]

/-! ### The comparison -/

/-- The two paths agree on an array that fits exactly when every span has both
its ids, or nothing can be written. -/
theorem write_paths_agree_iff (batch : SpanArray) (state : TraceState)
    (nonempty : batch.spans ≠ [])
    (room : state.spanCount + batch.spans.length ≤ traceMaxSpans) :
    WritePathsAgree batch state ↔
      (state.initialized = true → ∀ span ∈ batch.spans, span.Named) := by
  unfold WritePathsAgree
  cases ready : state.initialized with
  | false =>
      have refused :
          traceWriteSpansBatch (fun _ => true) (some batch) state =
            (state, .errNotInitialized) := by
        unfold traceWriteSpansBatch
        rw [if_pos ready]
      obtain ⟨first, rest, same⟩ := List.exists_cons_of_ne_nil nonempty
      have single : (writeStep state first).2 = .errNotInitialized := by
        unfold writeStep traceWriteSpan
        rw [if_pos ready]
      rw [refused, same, answers_cons, List.forall_mem_cons, single]
      simp
  | true =>
      rw [traceWriteSpansBatch_of_fits ready nonempty room,
        answers_write_success_iff batch.spans state ready room]
      constructor
      · intro agree _
        exact agree.1.mp rfl
      · intro named
        refine ⟨⟨fun _ => named rfl, fun _ => rfl⟩, fun _ => ?_,
          fun failed => absurd rfl failed⟩
        rw [final_write_of_named batch.spans state ready room (named rfl)]

def emptyBuffer : TraceState where
  initialized := true
  tracePath := []
  slots := fun _ => zeroedSpan
  spanCount := 0
  files := fun _ => none

def namedSpan : TraceSpan :=
  { zeroedSpan with
    traceId := CharArray.copy (ofString "t")
    spanId := CharArray.copy (ofString "s") }

def singleSpan (span : TraceSpan) : SpanArray where
  spans := [span]
  fits := by
    change 1 * 448 < 2 ^ 64
    omega

theorem write_paths_agree_iff_namedSpan :
    WritePathsAgree (singleSpan namedSpan) emptyBuffer ↔
      (emptyBuffer.initialized = true →
        ∀ span ∈ (singleSpan namedSpan).spans, span.Named) :=
  write_paths_agree_iff (singleSpan namedSpan) emptyBuffer (by simp [singleSpan])
    (by decide)

/-- A span without ids is refused alone and accepted in a batch. -/
theorem write_paths_differ :
    ¬∀ (batch : SpanArray) (state : TraceState), batch.spans ≠ [] →
      state.spanCount + batch.spans.length ≤ traceMaxSpans →
      WritePathsAgree batch state := by
  intro always
  have agree := (always (singleSpan zeroedSpan) emptyBuffer
    (by simp [singleSpan]) (by decide)).1
  have batched : (traceWriteSpansBatch (fun _ => true)
      (some (singleSpan zeroedSpan)) emptyBuffer).2 = .success := by decide
  have single : (writeStep emptyBuffer zeroedSpan).2 = .errInvalidParam := by
    decide
  have refused := agree.mp batched (writeStep emptyBuffer zeroedSpan).2
    List.mem_cons_self
  rw [single] at refused
  cases refused

end Heapstore.Trace
