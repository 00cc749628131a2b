/-
The formatted appends of the JSON export, and what they leave of the text.

The size of the allocation and the position are words, and the room that an
append is given is their difference.  Every append is listed with the values
it sees, whether its text fits or is cut.
-/

import Heapstore.TraceExport

namespace Heapstore.Trace

open ByteText PrintedBuffer

/-! ### Appends -/

/-- The difference of two words. -/
def wordSub (left right : Nat) : Nat :=
  (left + (2 ^ 64 - right)) % 2 ^ 64

/-- One `snprintf` of the export: `estimated_size`, `pos` and the text. -/
structure Append where
  size : Nat
  position : Nat
  text : Bytes

/-- The size argument. -/
def Append.argument (append : Append) : Nat :=
  wordSub append.size append.position

/-- What is stored from the position on. -/
def Append.stores (append : Append) : Bytes :=
  stored append.argument append.text

/-- The appends of the loop, and its size and position behind the last one
unless an allocation failed. -/
def exportLoop (reallocated : Nat → Bool) :
    Nat → List Bytes → Nat → Nat → List Append × Option (Nat × Nat)
  | _, [], size, position => ([], some (size, position))
  | index, text :: rest, size, position =>
      let append : Append := { size := size, position := position, text := text }
      let next := (position + text.length) % 2 ^ 64
      if wordSub size exportMargin ≤ next then
        if reallocated index then
          let later := exportLoop reallocated (index + 1) rest
            (size * 2 % 2 ^ 64) next
          (append :: later.1, later.2)
        else ([append], none)
      else
        let later := exportLoop reallocated (index + 1) rest size next
        (append :: later.1, later.2)

/-- The appends of `heapstore_trace_export_to_json`, in their order. -/
def traceExportAppends (memory : ExportMemory) (requested includeEvents : Bool)
    (state : TraceState) : List Append :=
  if state.initialized = false ∨ requested = false ∨ state.spanCount = 0 ∨
      memory.allocated = false then []
  else
    let size := estimatedSize includeEvents state.spanCount % 2 ^ 64
    let opening : Append :=
      { size := size, position := 0, text := ofString "[\n" }
    let loop := exportLoop memory.reallocated 0
      (exportEntries includeEvents state.slots state.spanCount) size
      (ofString "[\n").length
    let closing : List Append :=
      match loop.2 with
      | none => []
      | some (size, position) =>
          [{ size := size, position := position, text := ofString "]" }]
    opening :: (loop.1 ++ closing)

/-- The position is inside, so its distance to the end is the size argument and
what is stored stays within the allocation. -/
structure Append.Safe (append : Append) : Prop where
  inside : append.position < append.size
  argument : append.argument = append.size - append.position
  within : append.position + append.stores.length ≤ append.size

theorem wordSub_eq {left right : Nat} (ordered : right ≤ left)
    (word : left < 2 ^ 64) : wordSub left right = left - right := by
  unfold wordSub
  omega

theorem Append.safe {append : Append} (inside : append.position < append.size)
    (word : append.size < 2 ^ 64) : append.Safe := by
  have argument : append.argument = append.size - append.position :=
    wordSub_eq (Nat.le_of_lt inside) word
  have short : append.stores.length ≤ append.argument := length_stored_le _ _
  exact ⟨inside, argument, by omega⟩

/-! ### The loop invariant -/

/-- Before an append of the loop the margin is free.  A further text finds an
allocation that was made for two, so one doubling frees the margin again. -/
structure Loose (size position rest : Nat) : Prop where
  inside : position < size
  free : 0 < rest → position + exportMargin < size
  wide : 2 ≤ rest → 1088 ≤ size
  least : 576 ≤ size
  most : size ≤ 2 ^ 24
  short : position + 700 * rest ≤ 8000000

theorem Loose.start (includeEvents : Bool) {count : Nat} (filled : 0 < count)
    (bounded : count ≤ traceMaxSpans) :
    Loose (estimatedSize includeEvents count) 2 count := by
  have capacity : traceMaxSpans = 10000 := rfl
  have margin : exportMargin = 512 := rfl
  have events : (if includeEvents then count * 256 else 0) ≤ count * 256 := by
    split <;> omega
  unfold estimatedSize
  constructor <;> omega

section Steps

variable {size position rest length : Nat}

theorem Loose.grown (loose : Loose size position (rest + 1))
    (bound : length ≤ 700) (near : size - exportMargin ≤ position + length) :
    Loose (size * 2) (position + length) rest := by
  have margin : exportMargin = 512 := rfl
  obtain ⟨inside, free, wide, least, most, short⟩ := loose
  have started := free (Nat.succ_pos rest)
  have twice : size ≤ size * 2 := Nat.le_mul_of_pos_right size (by decide)
  constructor
  · omega
  · intro more
    have room := wide (by omega)
    omega
  · intro more
    exact Nat.le_trans (wide (by omega)) twice
  · exact Nat.le_trans least twice
  · omega
  · omega

theorem Loose.kept (loose : Loose size position (rest + 1))
    (bound : length ≤ 700) (far : ¬size - exportMargin ≤ position + length) :
    Loose size (position + length) rest := by
  have margin : exportMargin = 512 := rfl
  obtain ⟨inside, free, wide, least, most, short⟩ := loose
  constructor
  · omega
  · omega
  · intro more
    exact wide (by omega)
  · exact least
  · exact most
  · omega

end Steps

section Loop

variable {reallocated : Nat → Bool}

/-- The words of one step are exact. -/
theorem Loose.words {size position rest : Nat} {text : Bytes}
    (loose : Loose size position (rest + 1)) (bound : text.length ≤ 700) :
    (position + text.length) % 2 ^ 64 = position + text.length ∧
      wordSub size exportMargin = size - exportMargin ∧
      size * 2 % 2 ^ 64 = size * 2 := by
  have margin : exportMargin = 512 := rfl
  obtain ⟨_, _, _, least, most, short⟩ := loose
  refine ⟨Nat.mod_eq_of_lt (by omega), ?_, Nat.mod_eq_of_lt (by omega)⟩
  exact wordSub_eq (by omega) (by omega)

/-- Every append of the loop is safe, and so is one behind it. -/
theorem exportLoop_safe (texts : List Bytes) {index size position : Nat}
    (loose : Loose size position texts.length)
    (bounds : ∀ text ∈ texts, text.length ≤ 700) :
    (∀ append ∈ (exportLoop reallocated index texts size position).1,
        append.Safe) ∧
      ∀ last, (exportLoop reallocated index texts size position).2 = some last →
        last.2 < last.1 ∧ last.1 < 2 ^ 64 := by
  induction texts generalizing index size position with
  | nil =>
      refine ⟨nofun, ?_⟩
      rintro last ⟨rfl⟩
      have most := loose.most
      exact ⟨loose.inside, by omega⟩
  | cons text rest ih =>
      obtain ⟨bound, later⟩ := List.forall_mem_cons.mp bounds
      obtain ⟨next, margin, doubled⟩ := loose.words bound
      have most := loose.most
      have here : Append.Safe { size := size, position := position, text := text } :=
        Append.safe loose.inside (by change size < 2 ^ 64; omega)
      simp only [exportLoop, next, margin, doubled]
      by_cases near : size - exportMargin ≤ position + text.length
      · rw [if_pos near]
        cases reallocated index with
        | false => exact ⟨List.forall_mem_singleton.mpr here, nofun⟩
        | true =>
            obtain ⟨safe, ending⟩ := @ih (index + 1) _ _
              (loose.grown bound near) later
            exact ⟨List.forall_mem_cons.mpr ⟨here, safe⟩, ending⟩
      · rw [if_neg near]
        obtain ⟨safe, ending⟩ := @ih (index + 1) _ _ (loose.kept bound near)
          later
        exact ⟨List.forall_mem_cons.mpr ⟨here, safe⟩, ending⟩

/-- The listed sizes and positions are those of the printed buffer. -/
theorem exportLoop_buffer {junk : Nat → UInt8} (texts : List Bytes)
    {index : Nat} {buffer : Buffer}
    (loose : Loose buffer.cells.length buffer.position texts.length)
    (bounds : ∀ text ∈ texts, text.length ≤ 700) :
    (exportSpans junk reallocated index texts buffer).map
        (fun last => (last.cells.length, last.position)) =
      (exportLoop reallocated index texts buffer.cells.length
        buffer.position).2 := by
  induction texts generalizing index buffer with
  | nil => rfl
  | cons text rest ih =>
      obtain ⟨bound, later⟩ := List.forall_mem_cons.mp bounds
      obtain ⟨next, margin, doubled⟩ := loose.words bound
      have printed : (buffer.print text).position =
          buffer.position + text.length := rfl
      simp only [exportSpans, exportLoop, next, margin, doubled, length_print,
        printed]
      by_cases near : buffer.cells.length - exportMargin ≤
          buffer.position + text.length
      · rw [if_pos near, if_pos near]
        cases reallocated index with
        | false => rfl
        | true =>
            have grown := loose.grown bound near
            have again := @ih (index + 1) ((buffer.print text).double junk)
            rw [length_double, length_print, Nat.mul_comm] at again
            exact again grown later
      · rw [if_neg near, if_neg near]
        have kept := loose.kept bound near
        have again := @ih (index + 1) (buffer.print text)
        rw [length_print] at again
        exact again kept later

end Loop

/-! ### Every append of an export -/

theorem length_exportEntries_le (includeEvents : Bool) (slots : Nat → TraceSpan)
    (count : Nat) :
    ∀ text ∈ exportEntries includeEvents slots count, text.length ≤ 700 := by
  intro text member
  obtain ⟨index, _, rfl⟩ := List.mem_map.mp member
  rw [length_exportEntry]
  exact exportLength_le (slots index) _

theorem estimatedSize_word (includeEvents : Bool) {count : Nat}
    (bounded : count ≤ traceMaxSpans) :
    estimatedSize includeEvents count % 2 ^ 64 =
        estimatedSize includeEvents count ∧
      2 < estimatedSize includeEvents count ∧
      estimatedSize includeEvents count < 2 ^ 64 := by
  have capacity : traceMaxSpans = 10000 := rfl
  have events : (if includeEvents then count * 256 else 0) ≤ count * 256 := by
    split <;> omega
  unfold estimatedSize
  omega

/-- For every buffer the module can hold, each append of an export starts
inside the allocation and stores nothing outside, also behind cut texts. -/
theorem export_appends_inside (memory : ExportMemory)
    (requested includeEvents : Bool) (state : TraceState)
    (bounded : state.spanCount ≤ traceMaxSpans) :
    ∀ append ∈ traceExportAppends memory requested includeEvents state,
      append.Safe := by
  unfold traceExportAppends
  split
  · exact nofun
  · next reached =>
      have filled : 0 < state.spanCount := by
        rw [Nat.pos_iff_ne_zero]
        exact fun empty => reached (Or.inr (Or.inr (Or.inl empty)))
      obtain ⟨word, wide, most⟩ := estimatedSize_word includeEvents bounded
      have loose : Loose (estimatedSize includeEvents state.spanCount) 2
          (exportEntries includeEvents state.slots state.spanCount).length := by
        have length : (exportEntries includeEvents state.slots
            state.spanCount).length = state.spanCount := by
          unfold exportEntries
          rw [List.length_map, List.length_range]
        rw [length]
        exact Loose.start includeEvents filled bounded
      have opening : (ofString "[\n").length = 2 := rfl
      simp only [word, opening]
      obtain ⟨safe, ending⟩ := @exportLoop_safe memory.reallocated _ 0 _ _
        loose (length_exportEntries_le includeEvents _ _)
      have first : Append.Safe
          { size := estimatedSize includeEvents state.spanCount, position := 0
            text := ofString "[\n" } :=
        Append.safe (Nat.zero_lt_of_lt wide) most
      refine List.forall_mem_cons.mpr ⟨first, ?_⟩
      rw [List.forall_mem_append]
      refine ⟨safe, ?_⟩
      cases last : (exportLoop memory.reallocated 0
          (exportEntries includeEvents state.slots state.spanCount)
          (estimatedSize includeEvents state.spanCount) 2).2 with
      | none => exact nofun
      | some reached =>
          obtain ⟨inside, bound⟩ := ending reached last
          exact List.forall_mem_singleton.mpr (Append.safe inside bound)

theorem export_appends_inside_request :
    (holdingBoth requestSpan quotedSpan).spanCount ≤ traceMaxSpans ∧
      ∀ append ∈ traceExportAppends freshMemory true true
        (holdingBoth requestSpan quotedSpan), append.Safe :=
  ⟨by decide, export_appends_inside freshMemory true true
    (holdingBoth requestSpan quotedSpan) (by decide)⟩

/-! ### What the export shows -/

/-- The opening bracket, every record in full and the closing bracket. -/
def wholeExport (includeEvents : Bool) (state : TraceState) : Bytes :=
  ofString "[\n" ++
    (exportEntries includeEvents state.slots state.spanCount).flatten ++
      ofString "]"

section Whole

variable {memory : ExportMemory} {includeEvents : Bool} {state : TraceState}

/-- A returned text is whole exactly when there is a record to print and none
starts with the margin free and ends outside the first allocation. -/
theorem wholeExport_iff {text : Bytes}
    (returned : traceExportToJson memory true includeEvents state =
      (.success, some text)) :
    text = wholeExport includeEvents state ↔
      state.spanCount ≠ 0 ∧
        ¬Overruns (estimatedSize includeEvents state.spanCount) 2
          (exportLengths includeEvents state.slots state.spanCount) := by
  rcases traceExportToJson_cases returned with
    ⟨empty, rfl⟩ | ⟨filled, buffer, finished, rfl⟩
  · refine iff_of_false ?_ fun both => both.1 empty
    unfold wholeExport
    rw [empty]
    exact of_decide_eq_false rfl
  · have some_ : (List.range state.spanCount).map state.slots ≠ [] := by
      simpa using filled
    rw [and_iff_right filled, ← (export_text some_ finished).2,
      ← exportEntries_eq some_]
    rfl

end Whole

/-- With every allocation succeeding the export returns a string, and it is the
whole export exactly when the buffer holds a span and no record that starts
with more than the margin left ends outside the first allocation. -/
theorem export_whole_iff (memory : ExportMemory) (includeEvents : Bool)
    (state : TraceState) (ready : state.initialized = true)
    (allocated : memory.allocated = true)
    (grows : ∀ index, memory.reallocated index = true) :
    ∃ text, traceExportToJson memory true includeEvents state =
        (.success, some text) ∧
      (text = wholeExport includeEvents state ↔
        state.spanCount ≠ 0 ∧
          ¬Overruns (estimatedSize includeEvents state.spanCount) 2
            (exportLengths includeEvents state.slots state.spanCount)) := by
  obtain ⟨text, returned⟩ := @traceExportToJson_returns memory includeEvents
    state ready allocated grows
  exact ⟨text, returned, wholeExport_iff returned⟩

theorem export_whole_iff_request :
    traceExportToJson freshMemory true true
        (holdingBoth requestSpan quotedSpan) =
      (.success, some (wholeExport true
        (holdingBoth requestSpan quotedSpan))) := by
  obtain ⟨text, returned, whole⟩ := export_whole_iff freshMemory true
    (holdingBoth requestSpan quotedSpan) rfl rfl fun _ => rfl
  rw [returned, whole.mpr ⟨by decide, quoted_lengths⟩]

/-- A span whose ids, status and name fill their arrays, the name with quotes. -/
def longSpan : TraceSpan :=
  { zeroedSpan with
    traceId := CharArray.copy (List.replicate 63 97)
    spanId := CharArray.copy (List.replicate 31 97)
    parentSpanId := CharArray.copy (List.replicate 31 97)
    name := CharArray.copy (List.replicate 127 34)
    status := CharArray.copy (List.replicate 31 97) }

/-- Alone in the buffer its record is longer than the allocation. -/
theorem long_span_cut_short :
    ¬∀ (memory : ExportMemory) (includeEvents : Bool) (state : TraceState)
      (text : Bytes),
      state.spanCount ≠ 0 →
      traceExportToJson memory true includeEvents state =
        (.success, some text) →
      text = wholeExport includeEvents state := by
  intro always
  obtain ⟨text, returned⟩ := @traceExportToJson_returns freshMemory false
    (holding longSpan) rfl rfl fun _ => rfl
  have whole := always freshMemory false (holding longSpan) text (by decide)
    returned
  apply ((wholeExport_iff returned).mp whole).2
  have length : exportLength false longSpan false = 579 := by decide +kernel
  refine ⟨[], exportLength false longSpan false, [], rfl, by decide, ?_⟩
  rw [length]
  decide

end Heapstore.Trace
