/-
The JSON export of the trace module.

The spans are printed into one allocation that is doubled when less than a
margin is left behind the position.  Of the strings only the name is escaped.
A text that is longer than the margin can be cut before the allocation grows;
the buffer then shows a prefix of what was printed.
-/

import Heapstore.Foundation.JsonPrinting
import Heapstore.Foundation.PrintedBuffer
import Heapstore.TraceBuffer
import Mathlib.Algebra.Order.BigOperators.Group.List
import Mathlib.Algebra.Order.Ring.Nat

namespace Heapstore.Trace

open ByteText Json PrintedBuffer

/-! ### The export -/

/-- The loop that escapes a name into 256 bytes, by its two counters. -/
def escapedName (read written : Nat) : Bytes → Bytes
  | [] => []
  | byte :: rest =>
      if read < 127 ∧ written < 255 then
        if byte = 34 ∨ byte = 92 then
          92 :: byte :: escapedName (read + 1) (written + 2) rest
        else byte :: escapedName (read + 1) (written + 1) rest
      else []

/-- The format of one span, between its conversions. -/
def exportFormat : List Bytes :=
  [ofString "  \x7b\n    \"traceId\": \"",
    ofString "\",\n    \"spanId\": \"",
    ofString "\",\n    \"parentSpanId\": \"",
    ofString "\",\n    \"name\": \"",
    ofString "\",\n    \"startTimeNs\": ",
    ofString ",\n    \"endTimeNs\": ",
    ofString ",\n    \"status\": \"",
    ofString "\",\n    \"attributeCount\": ",
    ofString "",
    ofString "\n  \x7d",
    ofString "\n"]

/-- The arguments of one span; a further span is announced by a comma. -/
def exportArguments (includeEvents : Bool) (span : TraceSpan)
    (further : Bool) : List Bytes :=
  [span.traceId.text,
    span.spanId.text,
    if span.parentSpanId.text ≠ [] then span.parentSpanId.text else [],
    escapedName 0 0 span.name.text,
    decimal span.startTimeNs.toNat,
    decimal span.endTimeNs.toNat,
    span.status.text,
    decimal span.attributeCount.toNat,
    if includeEvents then ofString ",\n    \"events\": []" else [],
    if further then ofString "," else []]

def exportEntry (includeEvents : Bool) (span : TraceSpan) (further : Bool) :
    Bytes :=
  format exportFormat (exportArguments includeEvents span further)

def exportEntries (includeEvents : Bool) (slots : Nat → TraceSpan)
    (count : Nat) : List Bytes :=
  (List.range count).map fun index =>
    exportEntry includeEvents (slots index) (decide (index < count - 1))

def exportMargin : Nat := 512

def estimatedSize (includeEvents : Bool) (count : Nat) : Nat :=
  count * 512 + 64 + if includeEvents then count * 256 else 0

/-- The loop over the spans, with the outcome of a reallocation at each. -/
def exportSpans (junk : Nat → UInt8) (reallocated : Nat → Bool) :
    Nat → List Bytes → Buffer → Option Buffer
  | _, [], buffer => some buffer
  | index, text :: rest, buffer =>
      if (buffer.print text).cells.length - exportMargin ≤
          (buffer.print text).position then
        if reallocated index then
          exportSpans junk reallocated (index + 1) rest
            ((buffer.print text).double junk)
        else none
      else
        exportSpans junk reallocated (index + 1) rest (buffer.print text)

/-- The memory an export gets: what is in it, and the outcomes. -/
structure ExportMemory where
  junk : Nat → UInt8
  allocated : Bool
  reallocated : Nat → Bool

/-- `heapstore_trace_export_to_json`, with the string that it returns. -/
def traceExportToJson (memory : ExportMemory) (requested : Bool)
    (includeEvents : Bool) (state : TraceState) :
    HeapstoreError × Option Bytes :=
  if state.initialized = false then (.errNotInitialized, none)
  else if requested = false then (.errInvalidParam, none)
  else if state.spanCount = 0 then
    if memory.allocated then (.success, some (ofString "[]"))
    else (.errOutOfMemory, none)
  else if memory.allocated = false then (.errOutOfMemory, none)
  else
    match exportSpans memory.junk memory.reallocated 0
        (exportEntries includeEvents state.slots state.spanCount)
        ((Buffer.allocate memory.junk
          (estimatedSize includeEvents state.spanCount)).print
            (ofString "[\n")) with
    | none => (.errOutOfMemory, none)
    | some buffer => (.success, some (buffer.print (ofString "]")).shown)

/-! ### What the export should say -/

def SpanExported (span : TraceSpan) (value : Value) : Prop :=
  ∃ members, value = .object members ∧
    Carries members (ofString "traceId") (· = .string span.traceId.text) ∧
    Carries members (ofString "spanId") (· = .string span.spanId.text) ∧
    Carries members (ofString "parentSpanId")
      (· = .string span.parentSpanId.text) ∧
    Carries members (ofString "name") (· = .string span.name.text) ∧
    Carries members (ofString "startTimeNs")
      (· = .number span.startTimeNs.toNat 0) ∧
    Carries members (ofString "endTimeNs")
      (· = .number span.endTimeNs.toNat 0) ∧
    Carries members (ofString "status") (· = .string span.status.text) ∧
    Carries members (ofString "attributeCount")
      (· = .number span.attributeCount.toNat 0)

/-- The text is an array of the spans in order. -/
def ExportsSpans (spans : List TraceSpan) (text : Bytes) : Prop :=
  ∃ values, decode text = some (.array values) ∧
    List.Forall₂ SpanExported spans values

/-- The unescaped strings of an export need no escapes, and its name no
other escapes than those it gets. -/
structure TraceSpan.PlainExport (span : TraceSpan) : Prop where
  traceId : Plain span.traceId.text
  spanId : Plain span.spanId.text
  parentSpanId : Plain span.parentSpanId.text
  name : (∀ byte ∈ span.name.text, 32 ≤ byte) ∧ utf8 span.name.text = true
  status : Plain span.status.text

/-- The length of a span's text, from the lengths of its fields. -/
def exportLength (includeEvents : Bool) (span : TraceSpan) (further : Bool) :
    Nat :=
  166 + span.traceId.text.length + span.spanId.text.length +
    span.parentSpanId.text.length +
    (span.name.text.length +
      span.name.text.countP fun byte => byte = 34 || byte = 92) +
    (decimal span.startTimeNs.toNat).length +
    (decimal span.endTimeNs.toNat).length + span.status.text.length +
    (decimal span.attributeCount.toNat).length +
    (if includeEvents then 18 else 0) + if further then 1 else 0

/-- Some text starts with the margin still free behind it and does not end
within the allocation. -/
def Overruns (size position : Nat) (lengths : List Nat) : Prop :=
  ∃ front length back, lengths = front ++ length :: back ∧
    position + front.sum + exportMargin < size ∧
    size ≤ position + front.sum + length

/-- The lengths of the printed spans. -/
def exportLengths (includeEvents : Bool) (slots : Nat → TraceSpan)
    (count : Nat) : List Nat :=
  (List.range count).map fun index =>
    exportLength includeEvents (slots index) (decide (index < count - 1))

/-! ### One span -/

section Entries

variable (includeEvents : Bool) (span : TraceSpan)

/-- A name is short enough for both counters. -/
theorem escapedName_eq {read written : Nat} (name : Bytes)
    (short : read + name.length ≤ 127) (behind : written ≤ 2 * read) :
    escapedName read written name = escapeQuotes name := by
  induction name generalizing read written with
  | nil => rfl
  | cons byte rest ih =>
      rw [List.length_cons] at short
      have room : read < 127 ∧ written < 255 := by omega
      rw [escapedName, if_pos room, escapeQuotes]
      by_cases special : byte = 34 ∨ byte = 92
      · rw [if_pos special, if_pos special, ih (by omega) (by omega)]
      · rw [if_neg special, if_neg special, ih (by omega) (by omega)]

theorem escapedName_name :
    escapedName 0 0 span.name.text = escapeQuotes span.name.text := by
  have fits := span.name.fits
  exact escapedName_eq _ (by omega) (Nat.le_refl 0)

def exportMembers : List Member :=
  [⟨ofString "traceId", plain_ofString (by decide),
      Printed.string span.traceId.text⟩,
    ⟨ofString "spanId", plain_ofString (by decide),
      Printed.string span.spanId.text⟩,
    ⟨ofString "parentSpanId", plain_ofString (by decide),
      Printed.string span.parentSpanId.text⟩,
    ⟨ofString "name", plain_ofString (by decide),
      Printed.escaped span.name.text⟩,
    ⟨ofString "startTimeNs", plain_ofString (by decide),
      Printed.numeral span.startTimeNs.toNat⟩,
    ⟨ofString "endTimeNs", plain_ofString (by decide),
      Printed.numeral span.endTimeNs.toNat⟩,
    ⟨ofString "status", plain_ofString (by decide),
      Printed.string span.status.text⟩,
    ⟨ofString "attributeCount", plain_ofString (by decide),
      Printed.numeral span.attributeCount.toNat⟩] ++
  if includeEvents then
    [⟨ofString "events", plain_ofString (by decide), Printed.emptyArray⟩]
  else []

def printedExportSpan : Printed :=
  Printed.object (ofString "    ") (ofString "  ")
    ⟨by decide, by decide, Or.inr rfl⟩ (exportMembers includeEvents span)
    (by simp [exportMembers])

theorem exportParent :
    (if span.parentSpanId.text ≠ [] then span.parentSpanId.text else []) =
      span.parentSpanId.text := by
  by_cases root : span.parentSpanId.text = []
  · rw [if_neg (not_not.mpr root), root]
  · exact if_pos root

set_option maxRecDepth 2000 in
theorem exportEntry_eq (further : Bool) :
    exportEntry includeEvents span further =
      ofString "  " ++ (printedExportSpan includeEvents span).text ++
        ((if further then [44] else []) ++ [10]) := by
  unfold exportEntry exportFormat exportArguments printedExportSpan
    exportMembers Printed.object blockText
  rw [escapedName_name, exportParent]
  cases includeEvents with
  | false =>
      simp only [Bool.false_eq_true, if_false, List.append_nil, List.map_cons,
        List.map_nil, lines, List.append_assoc, List.cons_append,
        List.nil_append, Member.field, Printed.string, Printed.escaped,
        Printed.quoted, Printed.numeral, format]
      rfl
  | true =>
      simp only [if_true, List.map_cons, List.map_nil, lines,
        List.append_assoc, List.cons_append, List.nil_append, Member.field,
        Printed.string, Printed.escaped, Printed.quoted, Printed.numeral,
        Printed.emptyArray, format]
      rfl

theorem length_escapeQuotes (text : Bytes) :
    (escapeQuotes text).length =
      text.length + text.countP fun byte => byte = 34 || byte = 92 := by
  induction text with
  | nil => rfl
  | cons byte rest ih =>
      rw [escapeQuotes, List.countP_cons]
      by_cases special : byte = 34 ∨ byte = 92
      · rw [if_pos special, if_pos (by simpa using special)]
        simp only [List.length_cons, ih]
        omega
      · rw [if_neg special, if_neg (by simpa using special)]
        simp only [List.length_cons, ih]
        omega

theorem length_exportEntry (further : Bool) :
    (exportEntry includeEvents span further).length =
      exportLength includeEvents span further := by
  have frame : exportFormat.flatten.length = 166 := rfl
  have events : (if includeEvents then ofString ",\n    \"events\": []"
      else []).length = if includeEvents then 18 else 0 := by
    cases includeEvents with
    | false => rfl
    | true => rfl
  have comma : (if further then ofString "," else []).length =
      if further then 1 else 0 := by
    cases further with
    | false => rfl
    | true => rfl
  unfold exportEntry
  rw [length_format, frame]
  unfold exportArguments exportLength
  rw [escapedName_name, exportParent]
  simp only [List.length_flatten, List.map_cons, List.map_nil, List.sum_cons,
    List.sum_nil, length_escapeQuotes, events, comma]
  omega

theorem clean_decimal (value : Nat) : (0 : UInt8) ∉ decimal value := fun zero =>
  absurd (isDigit_of_mem_decimal zero) (by decide)

theorem clean_escapeQuotes {text : Bytes} (clean : (0 : UInt8) ∉ text) :
    (0 : UInt8) ∉ escapeQuotes text := by
  induction text with
  | nil => exact clean
  | cons byte rest ih =>
      obtain ⟨other, later⟩ := not_or.mp (List.mem_cons.not.mp clean)
      rw [escapeQuotes]
      by_cases special : byte = 34 ∨ byte = 92
      · rw [if_pos special, List.mem_cons, List.mem_cons, not_or, not_or]
        exact ⟨by decide, other, ih later⟩
      · rw [if_neg special, List.mem_cons, not_or]
        exact ⟨other, ih later⟩

theorem clean_exportEntry (further : Bool) :
    (0 : UInt8) ∉ exportEntry includeEvents span further := by
  have events : (0 : UInt8) ∉
      (if includeEvents then ofString ",\n    \"events\": []" else []) := by
    cases includeEvents with
    | false => decide
    | true => decide
  have comma : (0 : UInt8) ∉ (if further then ofString "," else []) := by
    cases further with
    | false => decide
    | true => decide
  unfold exportEntry
  rw [mem_format, not_or]
  refine ⟨by decide, ?_⟩
  unfold exportArguments
  rw [escapedName_name, exportParent]
  simp only [List.flatten_cons, List.flatten_nil, List.mem_append, not_or]
  exact ⟨span.traceId.terminated, span.spanId.terminated,
    span.parentSpanId.terminated, clean_escapeQuotes span.name.terminated,
    clean_decimal _, clean_decimal _, span.status.terminated, clean_decimal _,
    events, comma, by decide⟩

end Entries

/-! ### The loop -/

theorem overruns_nil (size position : Nat) : ¬Overruns size position [] := by
  rintro ⟨front, length, back, empty, _⟩
  cases front with
  | nil => cases empty
  | cons _ _ => cases empty

theorem overruns_cons {size position length : Nat} {rest : List Nat} :
    Overruns size position (length :: rest) ↔
      (position + exportMargin < size ∧ size ≤ position + length) ∨
        Overruns size (position + length) rest := by
  constructor
  · rintro ⟨front, last, back, same, starts, ends⟩
    cases front with
    | nil =>
        cases same
        exact Or.inl ⟨starts, ends⟩
    | cons first front =>
        cases same
        rw [List.sum_cons, ← Nat.add_assoc] at starts ends
        exact Or.inr ⟨front, last, back, rfl, starts, ends⟩
  · rintro (⟨starts, ends⟩ | ⟨front, last, back, rfl, starts, ends⟩)
    · exact ⟨[], length, rest, rfl, starts, ends⟩
    · refine ⟨length :: front, last, back, rfl, ?_, ?_⟩
      · rw [List.sum_cons, ← Nat.add_assoc]
        exact starts
      · rw [List.sum_cons, ← Nat.add_assoc]
        exact ends

/-- Behind the margin no text starts early enough to overrun. -/
theorem not_overruns_behind {size position : Nat} (lengths : List Nat)
    (behind : size ≤ position + exportMargin) :
    ¬Overruns size position lengths := by
  rintro ⟨front, length, back, _, starts, _⟩
  omega

section Loop

variable {junk : Nat → UInt8} {reallocated : Nat → Bool}

/-- With room for all texts, only an earlier cut is visible at the end. -/
theorem exportSpans_roomy {index : Nat} (texts : List Bytes)
    {buffer final : Buffer} {shown full : Bytes}
    (shows_ : Shows buffer shown full)
    (clean : ∀ text ∈ texts, (0 : UInt8) ∉ text)
    (roomy : full.length + texts.flatten.length + 1 < buffer.cells.length)
    (returned : exportSpans junk reallocated index texts buffer = some final) :
    ∃ next, Shows final next (full ++ texts.flatten) ∧
      (next = full ++ texts.flatten ↔ shown = full) ∧
      (full ++ texts.flatten).length + 1 < final.cells.length := by
  induction texts generalizing index buffer shown full with
  | nil =>
      cases returned
      rw [List.flatten_nil, List.append_nil]
      exact ⟨shown, shows_, Iff.rfl, by simpa using roomy⟩
  | cons text rest ih =>
      obtain ⟨cleanText, cleanRest⟩ := List.forall_mem_cons.mp clean
      rw [List.flatten_cons, List.length_append] at roomy
      have fits : full.length + text.length < buffer.cells.length := by omega
      obtain ⟨next, printed, whole⟩ := shows_.print cleanText (by omega)
      have kept : next = full ++ text ↔ shown = full :=
        whole.trans (and_iff_left fits)
      rw [exportSpans] at returned
      rw [List.flatten_cons, ← List.append_assoc, ← kept]
      by_cases near : (buffer.print text).cells.length - exportMargin ≤
          (buffer.print text).position
      · rw [if_pos near] at returned
        cases grown : reallocated index with
        | false =>
            rw [grown] at returned
            cases returned
        | true =>
            rw [grown] at returned
            apply ih (printed.double junk) cleanRest _ returned
            rw [length_double, length_print, List.length_append]
            omega
      · rw [if_neg near] at returned
        apply ih printed cleanRest _ returned
        rw [length_print, List.length_append]
        omega

/-- From a whole string with the margin free, the texts are all shown exactly
if none overruns the allocation. -/
theorem exportSpans_shows {index : Nat} (texts : List Bytes)
    {buffer final : Buffer} {full : Bytes} (shows_ : Shows buffer full full)
    (clean : ∀ text ∈ texts, (0 : UInt8) ∉ text)
    (free : full.length + exportMargin < buffer.cells.length)
    (doubled : full.length + texts.flatten.length + 1 <
      2 * buffer.cells.length)
    (returned : exportSpans junk reallocated index texts buffer = some final) :
    ∃ next, Shows final next (full ++ texts.flatten) ∧
      (next = full ++ texts.flatten ↔
        ¬Overruns buffer.cells.length full.length (texts.map List.length)) ∧
      (full ++ texts.flatten).length + 1 < final.cells.length := by
  have margin : exportMargin = 512 := rfl
  induction texts generalizing index buffer full with
  | nil =>
      cases returned
      rw [List.flatten_nil, List.append_nil]
      exact ⟨full, shows_, iff_of_true rfl (overruns_nil _ _), by omega⟩
  | cons text rest ih =>
      obtain ⟨cleanText, cleanRest⟩ := List.forall_mem_cons.mp clean
      rw [List.flatten_cons, List.length_append] at doubled
      obtain ⟨next, printed, whole⟩ := shows_.print cleanText (by omega)
      have position : (buffer.print text).position =
          full.length + text.length := by
        rw [printed.position, List.length_append]
      rw [exportSpans, length_print, position] at returned
      rw [List.flatten_cons, ← List.append_assoc, List.map_cons, overruns_cons]
      by_cases near : buffer.cells.length - exportMargin ≤
          full.length + text.length
      · rw [if_pos near] at returned
        cases grown : reallocated index with
        | false =>
            rw [grown] at returned
            cases returned
        | true =>
            rw [grown, if_pos rfl] at returned
            have roomy : (full ++ text).length + rest.flatten.length + 1 <
                ((buffer.print text).double junk).cells.length := by
              rw [length_double, length_print, List.length_append]
              omega
            obtain ⟨last, shows_, same, inside⟩ := exportSpans_roomy rest
              (printed.double junk) cleanRest roomy returned
            refine ⟨last, shows_, ?_, inside⟩
            rw [same, whole, eq_self, true_and, not_or,
              and_iff_left (not_overruns_behind _ (by omega))]
            omega
      · rw [if_neg near] at returned
        have fits : full.length + text.length < buffer.cells.length := by omega
        obtain rfl := whole.mpr ⟨rfl, fits⟩
        have later := @ih (index + 1) (buffer.print text) (full ++ text)
          printed cleanRest
        rw [length_print, List.length_append] at later
        obtain ⟨last, shows_, same, inside⟩ :=
          later (by omega) (by omega) returned
        refine ⟨last, shows_, ?_, inside⟩
        rw [same, not_or]
        have early : ¬(full.length + exportMargin < buffer.cells.length ∧
            buffer.cells.length ≤ full.length + text.length) := by omega
        exact (and_iff_right early).symm

end Loop

/-! ### The exported text -/

section Texts

variable {includeEvents : Bool} {slots : Nat → TraceSpan} {count : Nat}

def printedExport (includeEvents : Bool) (spans : List TraceSpan)
    (filled : spans ≠ []) : Printed :=
  Printed.array (ofString "  ") [] ⟨by decide, by decide, Or.inl rfl⟩
    (spans.map (printedExportSpan includeEvents)) (by simpa using filled)

theorem exportEntries_eq (filled : (List.range count).map slots ≠ []) :
    ofString "[\n" ++ (exportEntries includeEvents slots count).flatten ++
        ofString "]" =
      (printedExport includeEvents ((List.range count).map slots) filled).text := by
  have entries : (exportEntries includeEvents slots count).flatten =
      lines (ofString "  ") ((List.range count).map fun index =>
        (printedExportSpan includeEvents (slots index)).text) := by
    unfold exportEntries
    rw [lines_range, ← List.flatMap_def]
    simp only [exportEntry_eq, decide_eq_true_eq]
  have whole : (printedExport includeEvents ((List.range count).map slots)
      filled).text = 91 :: blockText (ofString "  ") [] 93
        ((((List.range count).map slots).map
          (printedExportSpan includeEvents)).map Piece.text) := rfl
  rw [entries, whole, List.map_map, List.map_map]
  unfold blockText
  simp only [List.nil_append]
  rfl

theorem lengths_exportEntries :
    (exportEntries includeEvents slots count).map List.length =
      exportLengths includeEvents slots count := by
  unfold exportEntries exportLengths
  rw [List.map_map]
  apply List.map_congr_left
  intro index _
  exact length_exportEntry includeEvents (slots index) _

theorem exportLength_le (span : TraceSpan) (further : Bool) :
    exportLength includeEvents span further ≤ 700 := by
  have special : (span.name.text.countP fun byte => byte = 34 || byte = 92) ≤
      span.name.text.length := List.countP_le_length
  have trace := span.traceId.fits
  have id := span.spanId.fits
  have parent := span.parentSpanId.fits
  have name := span.name.fits
  have status := span.status.fits
  have start := length_decimal_word span.startTimeNs
  have finish := length_decimal_word span.endTimeNs
  have attributes := length_decimal_word span.attributeCount
  have events : (if includeEvents then 18 else 0) ≤ 18 := by split <;> omega
  have comma : (if further then 1 else 0) ≤ 1 := by split <;> omega
  unfold exportLength
  omega

/-- Twice the first allocation is enough for every export. -/
theorem export_doubled :
    (ofString "[\n").length +
        (exportEntries includeEvents slots count).flatten.length + 1 <
      2 * estimatedSize includeEvents count := by
  have bound : (exportLengths includeEvents slots count).sum ≤
      (exportLengths includeEvents slots count).length • 700 := by
    apply List.sum_le_card_nsmul
    intro length member
    obtain ⟨index, _, rfl⟩ := List.mem_map.mp member
    exact exportLength_le (slots index) _
  have lengths : (exportLengths includeEvents slots count).length = count := by
    unfold exportLengths
    rw [List.length_map, List.length_range]
  rw [List.length_flatten, lengths_exportEntries]
  rw [lengths, nsmul_eq_mul, Nat.cast_id] at bound
  have opening : (ofString "[\n").length = 2 := rfl
  unfold estimatedSize
  omega

theorem clean_exportEntries :
    ∀ text ∈ exportEntries includeEvents slots count, (0 : UInt8) ∉ text := by
  intro text member
  obtain ⟨index, _, rfl⟩ := List.mem_map.mp member
  exact clean_exportEntry includeEvents (slots index) _

/-- What a returned string is. -/
theorem traceExportToJson_cases {memory : ExportMemory} {requested : Bool}
    {state : TraceState} {text : Bytes}
    (returned : traceExportToJson memory requested includeEvents state =
      (.success, some text)) :
    (state.spanCount = 0 ∧ text = ofString "[]") ∨
      (state.spanCount ≠ 0 ∧ ∃ buffer,
        exportSpans memory.junk memory.reallocated 0
          (exportEntries includeEvents state.slots state.spanCount)
          ((Buffer.allocate memory.junk
            (estimatedSize includeEvents state.spanCount)).print
              (ofString "[\n")) = some buffer ∧
        text = (buffer.print (ofString "]")).shown) := by
  unfold traceExportToJson at returned
  by_cases off : state.initialized = false
  · rw [if_pos off] at returned
    cases returned
  rw [if_neg off] at returned
  by_cases unrequested : requested = false
  · rw [if_pos unrequested] at returned
    cases returned
  rw [if_neg unrequested] at returned
  by_cases empty : state.spanCount = 0
  · rw [if_pos empty] at returned
    cases allocated : memory.allocated with
    | false =>
        rw [allocated] at returned
        cases returned
    | true =>
        rw [allocated] at returned
        cases returned
        exact Or.inl ⟨empty, rfl⟩
  · rw [if_neg empty] at returned
    by_cases unallocated : memory.allocated = false
    · rw [if_pos unallocated] at returned
      cases returned
    rw [if_neg unallocated] at returned
    split at returned
    · cases returned
    · rename_i buffer finished
      cases returned
      exact Or.inr ⟨empty, buffer, finished, rfl⟩

/-- A returned text is a beginning of the printed array, and all of it exactly
if no span overruns the allocation. -/
theorem export_text {memory : ExportMemory} {buffer : Buffer}
    (filled : (List.range count).map slots ≠ [])
    (finished : exportSpans memory.junk memory.reallocated 0
      (exportEntries includeEvents slots count)
      ((Buffer.allocate memory.junk (estimatedSize includeEvents count)).print
        (ofString "[\n")) = some buffer) :
    (buffer.print (ofString "]")).shown <+:
        (printedExport includeEvents ((List.range count).map slots)
          filled).text ∧
      ((buffer.print (ofString "]")).shown =
          (printedExport includeEvents ((List.range count).map slots)
            filled).text ↔
        ¬Overruns (estimatedSize includeEvents count) 2
          (exportLengths includeEvents slots count)) := by
  have some_ : 0 < count := by
    rw [Nat.pos_iff_ne_zero]
    rintro rfl
    exact filled rfl
  have opening : (ofString "[\n").length = 2 := rfl
  have free : 2 + exportMargin < estimatedSize includeEvents count := by
    unfold exportMargin estimatedSize
    omega
  have opened : Shows ((Buffer.allocate memory.junk
      (estimatedSize includeEvents count)).print (ofString "[\n"))
      (ofString "[\n") (ofString "[\n") :=
    shows_first (by decide) (by omega)
  have size : ((Buffer.allocate memory.junk
      (estimatedSize includeEvents count)).print
        (ofString "[\n")).cells.length = estimatedSize includeEvents count := by
    rw [length_print]
    exact length_freshCells ..
  have shown := exportSpans_shows _ opened clean_exportEntries
    (by rw [size, opening]; exact free) (by rw [size]; exact export_doubled)
    finished
  rw [size, opening, lengths_exportEntries] at shown
  obtain ⟨shown, shows_, whole, inside⟩ := shown
  obtain ⟨last, closed, kept⟩ := @Shows.print _ _ _ (ofString "]") shows_
    (by decide) (by omega)
  rw [exportEntries_eq filled] at closed kept
  rw [closed.shown_eq]
  refine ⟨closed.front, kept.trans ?_⟩
  rw [← whole]
  exact and_iff_left inside

end Texts

/-! ### Reading the export -/

section Reading

variable {includeEvents : Bool} {span : TraceSpan} {value : Value}

theorem exportMembers_distinct :
    ((exportMembers includeEvents span).map Member.key).Nodup := by
  have keys : [ofString "traceId", ofString "spanId", ofString "parentSpanId",
      ofString "name", ofString "startTimeNs", ofString "endTimeNs",
      ofString "status", ofString "attributeCount",
      ofString "events"].Nodup := by decide
  cases includeEvents with
  | false => exact keys.sublist (List.sublist_append_left _ [ofString "events"])
  | true => exact keys

theorem printedExportSpan_exact
    (exact_ : (printedExportSpan includeEvents span).Exact value) :
    SpanExported span value := by
  obtain ⟨pairs, rfl, all⟩ := exact_
  have carries := carries_of_exact all exportMembers_distinct
  simp only [exportMembers, List.forall_mem_append,
    List.forall_mem_cons] at carries
  obtain ⟨⟨trace, id, parent, name, start, finish, status, attributes, _⟩, _⟩ :=
    carries
  exact ⟨pairs, rfl, trace, id, parent, name, start, finish, status, attributes⟩

theorem printedExportSpan_means (exported : SpanExported span value) :
    (printedExportSpan includeEvents span).Means value := by
  obtain ⟨pairs, rfl, trace, id, parent, name, start, finish, status,
    attributes⟩ := exported
  refine ⟨pairs, rfl, ?_⟩
  simp only [exportMembers, List.forall_mem_append, List.forall_mem_cons]
  refine ⟨⟨trace.2, id.2, parent.2, name.2, start.2, finish.2, status.2,
    attributes.2, nofun⟩, ?_⟩
  cases includeEvents with
  | false => nofun
  | true =>
      intro member inside value _
      cases List.mem_singleton.mp inside
      exact trivial

theorem printedExportSpan_faithful_iff :
    (printedExportSpan includeEvents span).Faithful ↔ span.PlainExport := by
  change (∀ member ∈ exportMembers includeEvents span,
    member.printed.Faithful) ↔ _
  simp only [exportMembers, List.forall_mem_append, List.forall_mem_cons,
    Printed.string_faithful_iff]
  constructor
  · rintro ⟨⟨trace, id, parent, name, _, _, status, _⟩, _⟩
    exact ⟨trace, id, parent, name, status⟩
  · intro plain
    refine ⟨⟨plain.traceId, plain.spanId, plain.parentSpanId, plain.name,
      trivial, trivial, plain.status, trivial, nofun⟩, ?_⟩
    cases includeEvents with
    | false => nofun
    | true =>
        intro member inside
        cases List.mem_singleton.mp inside
        exact trivial

theorem printedExport_exact {spans : List TraceSpan} {filled : spans ≠ []}
    (exact_ : (printedExport includeEvents spans filled).Exact value) :
    ∃ values, value = .array values ∧
      List.Forall₂ SpanExported spans values := by
  obtain ⟨values, rfl, each⟩ := exact_
  exact ⟨values, rfl, (List.forall₂_map_left_iff.mp each).imp
    fun _ _ => printedExportSpan_exact⟩

theorem printedExport_means {spans : List TraceSpan} {filled : spans ≠ []}
    (exported : ∃ values, value = .array values ∧
      List.Forall₂ SpanExported spans values) :
    (printedExport includeEvents spans filled).Means value := by
  obtain ⟨values, rfl, each⟩ := exported
  exact ⟨values, rfl, List.forall₂_map_left_iff.mpr
    (each.imp fun _ _ => printedExportSpan_means)⟩

theorem printedExport_faithful_iff (spans : List TraceSpan)
    (filled : spans ≠ []) :
    (printedExport includeEvents spans filled).Faithful ↔
      ∀ span ∈ spans, span.PlainExport := by
  have items : (printedExport includeEvents spans filled).Faithful ↔
      ∀ span ∈ spans, (printedExportSpan includeEvents span).Faithful :=
    List.forall_mem_map
  simp only [items, printedExportSpan_faithful_iff]

/-- Of a beginning of the printed array, only the whole can be read back. -/
theorem exportsSpans_iff {spans : List TraceSpan} {filled : spans ≠ []}
    {text : Bytes}
    (front : text <+: (printedExport includeEvents spans filled).text) :
    ExportsSpans spans text ↔
      (∀ span ∈ spans, span.PlainExport) ∧
        text = (printedExport includeEvents spans filled).text := by
  rw [← @printedExport_faithful_iff includeEvents spans filled]
  constructor
  · rintro ⟨values, decoded, each⟩
    obtain ⟨whole, faithful⟩ := eq_of_decode_prefix front decoded rfl
      (printedExport_means ⟨values, rfl, each⟩)
    exact ⟨faithful, whole⟩
  · rintro ⟨faithful, rfl⟩
    obtain ⟨document, decoded, values, rfl, each⟩ :=
      (decode_printed_iff rfl (Or.inl rfl)
        (fun _ exact_ => printedExport_exact exact_)
        (fun _ exported => printedExport_means exported)).mpr faithful
    rw [List.append_nil] at decoded
    exact ⟨values, decoded, each⟩

end Reading

/-! ### Every export -/

section Exports

variable {memory : ExportMemory} {requested includeEvents : Bool}
  {state : TraceState}

theorem exportSpans_returns {junk : Nat → UInt8} {reallocated : Nat → Bool}
    (grows : ∀ index, reallocated index = true) (index : Nat)
    (texts : List Bytes) (buffer : Buffer) :
    ∃ final, exportSpans junk reallocated index texts buffer = some final := by
  induction texts generalizing index buffer with
  | nil => exact ⟨buffer, rfl⟩
  | cons text rest ih =>
      rw [exportSpans]
      split
      · rw [grows index, if_pos rfl]
        exact ih _ _
      · exact ih _ _

/-- An initialized module returns a string if no allocation fails. -/
theorem traceExportToJson_returns (ready : state.initialized = true)
    (allocated : memory.allocated = true)
    (grows : ∀ index, memory.reallocated index = true) :
    ∃ text, traceExportToJson memory true includeEvents state =
      (.success, some text) := by
  unfold traceExportToJson
  simp only [ready, allocated, Bool.true_eq_false, if_false, if_true]
  by_cases empty : state.spanCount = 0
  · rw [if_pos empty]
    exact ⟨_, rfl⟩
  · rw [if_neg empty]
    obtain ⟨buffer, finished⟩ := @exportSpans_returns memory.junk
      memory.reallocated grows 0
      (exportEntries includeEvents state.slots state.spanCount) _
    rw [finished]
    exact ⟨_, rfl⟩

theorem exportsSpans_filled_iff {text : Bytes} (filled : state.spanCount ≠ 0)
    (returned : traceExportToJson memory requested includeEvents state =
      (.success, some text)) :
    ExportsSpans state.buffered text ↔
      (∀ span ∈ state.buffered, span.PlainExport) ∧
        ¬Overruns (estimatedSize includeEvents state.spanCount) 2
          (exportLengths includeEvents state.slots state.spanCount) := by
  rcases traceExportToJson_cases returned with
    ⟨empty, _⟩ | ⟨_, buffer, finished, rfl⟩
  · exact absurd empty filled
  · obtain ⟨front, whole⟩ := @export_text includeEvents state.slots
      state.spanCount memory buffer (by simpa using filled) finished
    rw [← whole]
    exact exportsSpans_iff front

/-- A returned text reads back as the buffered spans exactly when their ids and
statuses need no escapes, their names no control characters, all in UTF-8, and
no printed span overruns the first allocation. -/
theorem export_decodes_iff {text : Bytes}
    (returned : traceExportToJson memory requested includeEvents state =
      (.success, some text)) :
    ExportsSpans state.buffered text ↔
      (∀ span ∈ state.buffered, span.PlainExport) ∧
        ¬Overruns (estimatedSize includeEvents state.spanCount) 2
          (exportLengths includeEvents state.slots state.spanCount) := by
  by_cases empty : state.spanCount = 0
  · have none_ : state.buffered = [] := by
      unfold TraceState.buffered
      rw [empty]
      rfl
    rcases traceExportToJson_cases returned with ⟨_, rfl⟩ | ⟨filled, _⟩
    · rw [none_, empty]
      exact iff_of_true ⟨[], rfl, List.Forall₂.nil⟩
        ⟨nofun, overruns_nil _ _⟩
    · exact absurd empty filled
  · exact exportsSpans_filled_iff empty returned

end Exports

def freshMemory : ExportMemory where
  junk := fun _ => 0
  allocated := true
  reallocated := fun _ => true

/-- The lookup with a quoted name, which the export escapes. -/
def quotedSpan : TraceSpan :=
  { lookupSpan with name := CharArray.copy (ofString "find \"all\"") }

/-- The records are shorter than the allocation for two. -/
theorem quoted_lengths :
    ¬Overruns (estimatedSize true 2) 2
      (exportLengths true (holdingBoth requestSpan quotedSpan).slots 2) := by
  have lengths : exportLengths true
      (holdingBoth requestSpan quotedSpan).slots 2 = [231, 239] := by
    decide +kernel
  rw [lengths, overruns_cons, overruns_cons]
  rintro (⟨_, larger⟩ | ⟨_, larger⟩ | later)
  · exact absurd larger (by decide)
  · exact absurd larger (by decide)
  · exact overruns_nil _ _ later

theorem export_decodes_iff_request :
    ∃ text, traceExportToJson freshMemory true true
        (holdingBoth requestSpan quotedSpan) = (.success, some text) ∧
      ExportsSpans (holdingBoth requestSpan quotedSpan).buffered text := by
  obtain ⟨text, returned⟩ := @traceExportToJson_returns freshMemory true
    (holdingBoth requestSpan quotedSpan) rfl rfl fun _ => rfl
  refine ⟨text, returned, (export_decodes_iff returned).mpr
    ⟨?_, quoted_lengths⟩⟩
  intro span member
  have either : span ∈ [requestSpan, quotedSpan] := member
  rcases List.mem_pair.mp either with rfl | rfl
  all_goals
    refine ⟨?_, ?_, ?_, ?_, ?_⟩ <;>
      exact ⟨by decide +kernel, by decide +kernel⟩

/-- An identifier goes into the text without escapes. -/
theorem quoted_id_breaks_export :
    ¬∀ (memory : ExportMemory) (includeEvents : Bool) (state : TraceState)
      (text : Bytes),
      traceExportToJson memory true includeEvents state =
        (.success, some text) →
      ExportsSpans state.buffered text := by
  intro always
  let span : TraceSpan :=
    { zeroedSpan with
      traceId := CharArray.copy (ofString "\"")
      spanId := CharArray.copy (ofString "s") }
  obtain ⟨text, returned⟩ := @traceExportToJson_returns freshMemory true
    (holding span) rfl rfl fun _ => rfl
  have read := (exportsSpans_filled_iff (by decide) returned).mp
    (always freshMemory true (holding span) text returned)
  have quote : ¬Verbatim span.traceId.text := by decide
  exact quote (read.1 span (by decide)).traceId.verbatim

end Heapstore.Trace
