/-
The span file that a flush writes.

The file is printed line by line through a fixed buffer.  Numbers are decimal
and strings are put between quotes as they are, so the file reads back as the
buffered spans exactly when no string needs an escape.  Writes to an opened
file succeed.
-/

import Heapstore.Foundation.JsonPrinting
import Heapstore.TraceBuffer

namespace Heapstore.Trace

open ByteText CivilTime Json

/-! ### The printed text -/

/-- A formatted line with one field, printed into `_buf`. -/
def spanFileLine (before field after : Bytes) : Bytes :=
  printTo 512 (before ++ field ++ after)

/-- One round of the loop; a further span is announced by a comma. -/
def spanFileEntry (span : TraceSpan) (further : Bool) : Bytes :=
  ofString "    \x7b\n" ++
    (spanFileLine (ofString "      \"trace_id\": \"") span.traceId.text
        (ofString "\",\n") ++
      (spanFileLine (ofString "      \"span_id\": \"") span.spanId.text
          (ofString "\",\n") ++
        (spanFileLine (ofString "      \"name\": \"") span.name.text
            (ofString "\",\n") ++
          (spanFileLine (ofString "      \"start_time_ns\": ")
              (decimal span.startTimeNs.toNat) (ofString ",\n") ++
            (spanFileLine (ofString "      \"end_time_ns\": ")
                (decimal span.endTimeNs.toNat) (ofString "\n") ++
              spanFileLine (ofString "    \x7d")
                (if further then ofString "," else []) (ofString "\n"))))))

def spanFileText (slots : Nat → TraceSpan) (count : Nat) : Bytes :=
  ofString "\x7b\n  \"spans\": [\n" ++
    ((List.range count).flatMap (fun index =>
        spanFileEntry (slots index) (decide (index < count - 1))) ++
      ofString "  ]\n\x7d\n")

/-- The path and the bytes that `heapstore_trace_flush` writes, if any. -/
def traceFlushFile (clock : LocalClock) (now : Int) (opened : Bool)
    (state : TraceState) : Option (Bytes × Bytes) :=
  if state.initialized = false then none
  else if state.spanCount = 0 then none
  else if opened = false then none
  else
    some (spanFilePath state.tracePath (clock now),
      spanFileText state.slots state.spanCount)

/-- The file is written where the flush leaves the entries. -/
theorem traceFlush_files (clock : LocalClock) (now : Int) (opened : Bool)
    (state : TraceState) :
    (traceFlush clock now opened state).1.files =
      match traceFlushFile clock now opened state with
      | none => state.files
      | some (path, _) =>
          Function.update state.files path
            (some (state.buffered.map TraceSpan.entry)) := by
  unfold traceFlush traceFlushFile
  split
  · rfl
  · split
    · rfl
    · split
      · rfl
      · rfl

/-! ### What the file should say -/

def SpanCarried (span : TraceSpan) (value : Value) : Prop :=
  ∃ members, value = .object members ∧
    Carries members (ofString "trace_id") (· = .string span.traceId.text) ∧
    Carries members (ofString "span_id") (· = .string span.spanId.text) ∧
    Carries members (ofString "name") (· = .string span.name.text) ∧
    Carries members (ofString "start_time_ns")
      (· = .number span.startTimeNs.toNat 0) ∧
    Carries members (ofString "end_time_ns")
      (· = .number span.endTimeNs.toNat 0)

/-- The document has the spans in order under its key. -/
def SpansCarried (spans : List TraceSpan) (document : Value) : Prop :=
  ∃ members, document = .object members ∧
    Carries members (ofString "spans") fun value =>
      ∃ values, value = .array values ∧ List.Forall₂ SpanCarried spans values

/-- The strings of a span file need no escapes. -/
structure TraceSpan.PlainFile (span : TraceSpan) : Prop where
  traceId : Plain span.traceId.text
  spanId : Plain span.spanId.text
  name : Plain span.name.text

/-! ### The text as a document -/

theorem plain_nameKey : Plain (ofString "name") :=
  plain_ofString (by decide)

def fileMembers (span : TraceSpan) : List Member :=
  [⟨ofString "trace_id", plain_ofString (by decide),
      Printed.string span.traceId.text⟩,
    ⟨ofString "span_id", plain_ofString (by decide),
      Printed.string span.spanId.text⟩,
    ⟨ofString "name", plain_nameKey, Printed.string span.name.text⟩,
    ⟨ofString "start_time_ns", plain_ofString (by decide),
      Printed.numeral span.startTimeNs.toNat⟩,
    ⟨ofString "end_time_ns", plain_ofString (by decide),
      Printed.numeral span.endTimeNs.toNat⟩]

theorem fileMembers_distinct (span : TraceSpan) :
    ((fileMembers span).map Member.key).Nodup := by
  have keys : [ofString "trace_id", ofString "span_id", ofString "name",
      ofString "start_time_ns", ofString "end_time_ns"].Nodup := by decide
  exact keys

def printedFileSpan (span : TraceSpan) : Printed :=
  Printed.object (ofString "      ") (ofString "    ")
    ⟨by decide, by decide, Or.inr rfl⟩ (fileMembers span)
    (by simp [fileMembers])

def printedSpans (spans : List TraceSpan) (filled : spans ≠ []) : Printed :=
  Printed.array (ofString "    ") (ofString "  ")
    ⟨by decide, by decide, Or.inl rfl⟩ (spans.map printedFileSpan)
    (by simpa using filled)

def printedSpanFile (spans : List TraceSpan) (filled : spans ≠ []) : Printed :=
  Printed.object (ofString "  ") [] ⟨by decide, by decide, Or.inr rfl⟩
    [⟨ofString "spans", plain_ofString (by decide), printedSpans spans filled⟩]
    (by simp)

section Lines

variable {before field after : Bytes}

/-- No line is cut: the buffer is four times as long as the longest field. -/
theorem spanFileLine_whole (short : field.length ≤ 128)
    (frame : before.length + after.length < 384) :
    spanFileLine before field after = before ++ (field ++ after) := by
  unfold spanFileLine
  rw [printTo_of_fits, List.append_assoc]
  rw [List.length_append, List.length_append]
  omega

theorem length_text_le {size : Nat} (array : CharArray size)
    (small : size ≤ 128) : array.text.length ≤ 128 :=
  (array.fits.trans_le small).le

end Lines

theorem spanFileEntry_eq (span : TraceSpan) (further : Bool) :
    spanFileEntry span further =
      ofString "    " ++ (printedFileSpan span).text ++
        ((if further then [44] else []) ++ [10]) := by
  have comma : (if further then ofString "," else []).length ≤ 128 := by
    cases further with
    | false => decide
    | true => decide
  unfold spanFileEntry
  rw [spanFileLine_whole (length_text_le span.traceId (by decide))
      (by decide),
    spanFileLine_whole (length_text_le span.spanId (by decide))
      (by decide),
    spanFileLine_whole (length_text_le span.name (by decide)) (by decide),
    spanFileLine_whole
      ((length_decimal_word span.startTimeNs).trans (by decide)) (by decide),
    spanFileLine_whole
      ((length_decimal_word span.endTimeNs).trans (by decide)) (by decide),
    spanFileLine_whole comma (by decide)]
  unfold printedFileSpan fileMembers Printed.object blockText
  simp only [List.map_cons, List.map_nil, lines, List.append_assoc,
    List.cons_append, List.nil_append, Member.field, Printed.string,
    Printed.quoted, Printed.numeral]
  rfl

theorem spanFileText_eq (slots : Nat → TraceSpan) (count : Nat)
    (filled : (List.range count).map slots ≠ []) :
    spanFileText slots count =
      (printedSpanFile ((List.range count).map slots) filled).text ++ [10] := by
  unfold spanFileText
  simp only [spanFileEntry_eq, decide_eq_true_eq]
  rw [← lines_range (ofString "    ") (fun index =>
    (printedFileSpan (slots index)).text) count]
  unfold printedSpanFile printedSpans Printed.object Member.field Printed.array
    blockText
  simp only [List.map_cons, List.map_nil, List.map_map, lines,
    List.append_assoc, List.cons_append, List.nil_append]
  rfl

/-! ### Reading the file -/

theorem printedFileSpan_exact {span : TraceSpan} {value : Value}
    (exact_ : (printedFileSpan span).Exact value) : SpanCarried span value := by
  obtain ⟨pairs, rfl, all⟩ := exact_
  have carries := carries_of_exact all (fileMembers_distinct span)
  simp only [fileMembers, List.forall_mem_cons] at carries
  obtain ⟨trace, id, name, start, finish, _⟩ := carries
  exact ⟨pairs, rfl, trace, id, name, start, finish⟩

theorem printedFileSpan_means {span : TraceSpan} {value : Value}
    (carried : SpanCarried span value) : (printedFileSpan span).Means value := by
  obtain ⟨pairs, rfl, trace, id, name, start, finish⟩ := carried
  refine ⟨pairs, rfl, ?_⟩
  simp only [fileMembers, List.forall_mem_cons]
  exact ⟨trace.2, id.2, name.2, start.2, finish.2, nofun⟩

theorem printedFileSpan_faithful_iff (span : TraceSpan) :
    (printedFileSpan span).Faithful ↔ span.PlainFile := by
  change (∀ member ∈ fileMembers span, member.printed.Faithful) ↔ _
  simp only [fileMembers, List.forall_mem_cons, Printed.string_faithful_iff]
  constructor
  · rintro ⟨trace, id, name, _⟩
    exact ⟨trace, id, name⟩
  · intro plain
    exact ⟨plain.traceId, plain.spanId, plain.name, trivial, trivial, nofun⟩

theorem printedSpanFile_exact {spans : List TraceSpan} {filled : spans ≠ []}
    {document : Value} (exact_ : (printedSpanFile spans filled).Exact document) :
    SpansCarried spans document := by
  obtain ⟨pairs, rfl, all⟩ := exact_
  have carries := carries_of_exact all (List.nodup_singleton _)
  obtain ⟨present, only⟩ := carries _ List.mem_cons_self
  refine ⟨pairs, rfl, present, fun value member => ?_⟩
  obtain ⟨values, rfl, each⟩ := only value member
  exact ⟨values, rfl, (List.forall₂_map_left_iff.mp each).imp
    fun _ _ => printedFileSpan_exact⟩

theorem printedSpanFile_means {spans : List TraceSpan} {filled : spans ≠ []}
    {document : Value} (carried : SpansCarried spans document) :
    (printedSpanFile spans filled).Means document := by
  obtain ⟨pairs, rfl, _, only⟩ := carried
  refine ⟨pairs, rfl, ?_⟩
  rw [List.forall_mem_singleton]
  intro value member
  obtain ⟨values, rfl, each⟩ := only value member
  exact ⟨values, rfl, List.forall₂_map_left_iff.mpr
    (each.imp fun _ _ => printedFileSpan_means)⟩

theorem printedSpanFile_faithful_iff (spans : List TraceSpan)
    (filled : spans ≠ []) :
    (printedSpanFile spans filled).Faithful ↔
      ∀ span ∈ spans, span.PlainFile := by
  have outer : (printedSpanFile spans filled).Faithful ↔
      ∀ item ∈ spans.map printedFileSpan, item.Faithful :=
    List.forall_mem_singleton
  rw [outer, List.forall_mem_map]
  simp only [printedFileSpan_faithful_iff]

/-- The printed text reads back exactly when no string needs an escape. -/
theorem spanFileText_carried_iff (slots : Nat → TraceSpan) (count : Nat)
    (filled : (List.range count).map slots ≠ []) :
    (∃ document, decode (spanFileText slots count) = some document ∧
        SpansCarried ((List.range count).map slots) document) ↔
      ∀ span ∈ (List.range count).map slots, span.PlainFile := by
  rw [spanFileText_eq slots count filled,
    ← printedSpanFile_faithful_iff _ filled]
  apply decode_printed_iff (by decide) (Or.inr (Or.inl ⟨[], rfl⟩))
  · intro document exact_
    exact printedSpanFile_exact exact_
  · intro document carried
    exact printedSpanFile_means carried

/-! ### The flush -/

/-- What a flush of a non-empty buffer writes. -/
def FlushedAsDocument (clock : LocalClock) (now : Int) (state : TraceState) :
    Prop :=
  ∃ path text document,
    traceFlushFile clock now true state = some (path, text) ∧
      decode text = some document ∧ SpansCarried state.buffered document

theorem flushedAsDocument_iff (clock : LocalClock) (now : Int)
    {state : TraceState} (ready : state.initialized = true)
    (filled : state.spanCount ≠ 0) :
    FlushedAsDocument clock now state ↔
      ∃ document,
        decode (spanFileText state.slots state.spanCount) = some document ∧
        SpansCarried state.buffered document := by
  have written : traceFlushFile clock now true state =
      some (spanFilePath state.tracePath (clock now),
        spanFileText state.slots state.spanCount) := by
    unfold traceFlushFile
    simp only [ready, filled, Bool.true_eq_false, if_false]
  unfold FlushedAsDocument
  simp only [written]
  constructor
  · rintro ⟨_, _, document, same, decoded, carried⟩
    cases same
    exact ⟨document, decoded, carried⟩
  · rintro ⟨document, decoded, carried⟩
    exact ⟨_, _, document, rfl, decoded, carried⟩

/-- The written file reads back as the buffered spans exactly when their ids
and names have no quote, no backslash and no control character, in UTF-8. -/
theorem flush_writes_document_iff (clock : LocalClock) (now : Int)
    (state : TraceState) (ready : state.initialized = true)
    (filled : state.spanCount ≠ 0) :
    FlushedAsDocument clock now state ↔
      ∀ span ∈ state.buffered, span.PlainFile := by
  rw [flushedAsDocument_iff clock now ready filled]
  exact spanFileText_carried_iff state.slots state.spanCount
    (by simpa using filled)

theorem flush_writes_document_iff_request :
    FlushedAsDocument gmtime 0 (holdingBoth requestSpan lookupSpan) := by
  apply (flush_writes_document_iff gmtime 0
    (holdingBoth requestSpan lookupSpan) rfl (by decide)).mpr
  intro span member
  have either : span ∈ [requestSpan, lookupSpan] := member
  rcases List.mem_pair.mp either with rfl | rfl
  all_goals exact ⟨⟨by decide, by decide⟩, ⟨by decide, by decide⟩,
    ⟨by decide, by decide⟩⟩

/-- A quote in an identifier closes its string too early. -/
theorem quoted_id_breaks_document :
    ¬∀ (clock : LocalClock) (now : Int) (state : TraceState),
      state.initialized = true → state.spanCount ≠ 0 →
      FlushedAsDocument clock now state := by
  intro always
  let span : TraceSpan :=
    { zeroedSpan with
      traceId := CharArray.copy (ofString "\"")
      spanId := CharArray.copy (ofString "s") }
  have written := (flushedAsDocument_iff gmtime 0 rfl (by decide)).mp
    (always gmtime 0 (holding span) rfl (by decide))
  have plain := (spanFileText_carried_iff _ _ (by decide)).mp written span
    (by decide)
  have quote : ¬Verbatim span.traceId.text := by decide
  exact quote plain.traceId.verbatim

end Heapstore.Trace
