/-
Who owns the duplicated attributes of spans.

The module duplicates the attribute string of every span that it keeps or hands
out.  Duplicates are numbered as they are made; beside the state of the module
this keeps the pointer of each slot, the duplicates that were released and the
result arrays that callers hold.  A flush empties the buffer and releases
nothing.
-/

import Heapstore.Foundation.Ownership
import Heapstore.TraceQueries

namespace Heapstore.Trace

open ByteText CivilTime OperationRun Ownership SlotArray

/-- The attribute pointer of a slot. -/
inductive Pointer where
  | null
  | caller
  | copy (duplicate : Nat)
  deriving DecidableEq

def Pointer.duplicate : Pointer → Option Nat
  | .copy duplicate => some duplicate
  | _ => none

structure OwnedTrace where
  state : TraceState
  pointers : Nat → Pointer
  created : Nat
  released : List Nat
  handed : List (List Nat)

/-- The pointer that copying the caller's record brings along. -/
def callerPointer (span : TraceSpan) : Pointer :=
  if span.attributes = none then .null else .caller

/-- The duplicates of the attributes of spans, numbered in order. -/
def numberCopies : List TraceSpan → Nat → List Pointer
  | [], _ => []
  | span :: rest, next =>
      if span.attributes = none then .null :: numberCopies rest next
      else .copy next :: numberCopies rest (next + 1)

def attributed (spans : List TraceSpan) : Nat :=
  (spans.filter fun span => decide (span.attributes ≠ none)).length

/-- Slots from a base on are overwritten. -/
def pasted (pointers : Nat → Pointer) (base : Nat) (items : List Pointer) :
    Nat → Pointer := fun index =>
  if base ≤ index then items.getD (index - base) (pointers index)
  else pointers index

/-- The pointers of the slots below the counter. -/
def OwnedTrace.slotPointers (owned : OwnedTrace) : List Pointer :=
  (List.range owned.state.spanCount).map owned.pointers

/-- The duplicates that these slots reference. -/
def OwnedTrace.held (owned : OwnedTrace) : List Nat :=
  owned.slotPointers.filterMap Pointer.duplicate

/-! ### The calls -/

def ownedWriteSpan (duplicated : Bool) (span : Option TraceSpan)
    (owned : OwnedTrace) : OwnedTrace × HeapstoreError :=
  let state := owned.state
  if state.initialized = false then (owned, .errNotInitialized)
  else
    match span with
    | none => (owned, .errInvalidParam)
    | some span =>
        if span.spanId.text = [] ∨ span.traceId.text = [] then
          (owned, .errInvalidParam)
        else if traceMaxSpans ≤ state.spanCount then (owned, .errOutOfMemory)
        else
          let stored := fun kept pointer =>
            { owned with
                state :=
                  { state with
                      slots := Function.update state.slots state.spanCount kept }
                pointers :=
                  Function.update owned.pointers state.spanCount pointer }
          let counted := fun (next : OwnedTrace) =>
            { next with
                state := { next.state with spanCount := state.spanCount + 1 } }
          if span.attributes = none then
            (counted (stored span .null), .success)
          else if duplicated = false then
            (stored { span with attributes := none } .null, .errOutOfMemory)
          else
            ({ counted (stored span (.copy owned.created)) with
                created := owned.created + 1 }, .success)

def ownedWriteSpansBatch (duplicated : Nat → Bool) (batch : Option SpanArray)
    (owned : OwnedTrace) : OwnedTrace × HeapstoreError :=
  let state := owned.state
  if state.initialized = false then (owned, .errNotInitialized)
  else
    match batch with
    | none => (owned, .errInvalidParam)
    | some batch =>
        if batch.spans.length = 0 then (owned, .errInvalidParam)
        else if traceMaxSpans < (state.spanCount + batch.spans.length) % 2 ^ 64
        then (owned, .errOutOfMemory)
        else
          let copied := pasted owned.pointers state.spanCount
            (batch.spans.map callerPointer)
          match failedCopy duplicated batch.spans with
          | none =>
              ({ owned with
                  state :=
                    { state with
                        slots := copySlots state.slots state.spanCount batch.spans
                        spanCount := state.spanCount + batch.spans.length }
                  pointers := pasted copied state.spanCount
                    (numberCopies batch.spans owned.created)
                  created := owned.created + attributed batch.spans }, .success)
          | some failed =>
              let made := numberCopies (batch.spans.take failed) owned.created
              ({ owned with
                  state :=
                    { state with
                        slots := copySlots state.slots state.spanCount
                          (batch.spans.mapIdx fun index span =>
                            if index ≤ failed then
                              { span with attributes := none }
                            else span) }
                  pointers := pasted copied state.spanCount
                    (List.replicate (failed + 1) .null)
                  created :=
                    owned.created + attributed (batch.spans.take failed)
                  released :=
                    owned.released ++ made.filterMap Pointer.duplicate },
                .errOutOfMemory)

def ownedFlush (clock : LocalClock) (now : Int) (opened : Bool)
    (owned : OwnedTrace) : OwnedTrace × HeapstoreError :=
  let flushed := traceFlush clock now opened owned.state
  ({ owned with state := flushed.1 }, flushed.2)

def ownedShutdown (owned : OwnedTrace) : OwnedTrace :=
  if owned.state.initialized then
    { owned with
        state := traceShutdown owned.state
        pointers := fun _ => .null
        released := owned.released ++ owned.held }
  else owned

/-- `spans_collect`: the copies go to the caller, or are released when one of
them fails. -/
def ownedCollect (allocated : Bool) (duplicated : Nat → Bool)
    (wanted : TraceSpan → Bool) (owned : OwnedTrace) :
    OwnedTrace × QueryResult :=
  let answer := spansCollect allocated duplicated wanted owned.state
  if matchCount wanted owned.state.slots owned.state.spanCount = 0 ∨
      allocated = false then (owned, answer)
  else
    let pass := copyPass duplicated wanted owned.state.slots
      owned.state.spanCount
    let made := (numberCopies pass.copied owned.created).filterMap
      Pointer.duplicate
    let created := owned.created + attributed pass.copied
    if pass.failed then
      ({ owned with
          created := created
          released := owned.released ++ made }, answer)
    else
      ({ owned with
          created := created
          handed := owned.handed ++ [made] }, answer)

def ownedQueryByTrace (calls : QueryCalls) (traceId : Option Bytes)
    (outs : Bool) (owned : OwnedTrace) : OwnedTrace × QueryResult :=
  if owned.state.initialized = false then
    (owned, calls.untouched .errNotInitialized)
  else
    match traceId with
    | none => (owned, calls.untouched .errInvalidParam)
    | some traceId =>
        if outs = false then (owned, calls.untouched .errInvalidParam)
        else
          ownedCollect calls.allocated calls.duplicated (spanMatchTrace traceId)
            owned

def ownedQueryByTimeRange (calls : QueryCalls) (startTime endTime : UInt64)
    (outs : Bool) (owned : OwnedTrace) : OwnedTrace × QueryResult :=
  if owned.state.initialized = false then
    (owned, calls.untouched .errNotInitialized)
  else if outs = false then (owned, calls.untouched .errInvalidParam)
  else
    ownedCollect calls.allocated calls.duplicated
      (spanMatchTime startTime endTime) owned

/-- `heapstore_trace_free_spans` on a result array that a caller still holds. -/
def traceFreeSpans (index : Nat) (owned : OwnedTrace) : OwnedTrace :=
  match owned.handed[index]? with
  | none => owned
  | some result =>
      { owned with
          released := owned.released ++ result
          handed := owned.handed.eraseIdx index }

inductive OwnedCall where
  | buffer (call : BufferCall)
  | freeSpans (index : Nat)
  | shutdown

def ownedBufferCall (clock : LocalClock) (owned : OwnedTrace) :
    BufferCall → OwnedTrace × HeapstoreError
  | .writeSpan duplicated span => ownedWriteSpan duplicated span owned
  | .writeSpansBatch duplicated batch =>
      ownedWriteSpansBatch duplicated batch owned
  | .flush now opened => ownedFlush clock now opened owned
  | .queryByTrace calls traceId outs =>
      let asked := ownedQueryByTrace calls traceId outs owned
      (asked.1, asked.2.error)
  | .queryByTimeRange calls startTime endTime outs =>
      let asked := ownedQueryByTimeRange calls startTime endTime outs owned
      (asked.1, asked.2.error)

/-- The two calls that return nothing answer with a success. -/
def ownedStep (clock : LocalClock) :
    Machine OwnedTrace OwnedCall HeapstoreError := fun owned call =>
  match call with
  | .buffer call => ownedBufferCall clock owned call
  | .freeSpans index => (traceFreeSpans index owned, .success)
  | .shutdown => (ownedShutdown owned, .success)

/-! ### The state alone -/

theorem ownedWriteSpan_state (duplicated : Bool) (span : Option TraceSpan)
    (owned : OwnedTrace) :
    (ownedWriteSpan duplicated span owned).1.state =
        (traceWriteSpan duplicated span owned.state).1 ∧
      (ownedWriteSpan duplicated span owned).2 =
        (traceWriteSpan duplicated span owned.state).2 := by
  unfold ownedWriteSpan traceWriteSpan
  simp only
  split
  · exact ⟨rfl, rfl⟩
  · cases span with
    | none => exact ⟨rfl, rfl⟩
    | some span =>
        simp only
        split
        · exact ⟨rfl, rfl⟩
        split
        · exact ⟨rfl, rfl⟩
        split
        · next bare =>
            rw [if_neg (fun both => both.1 bare)]
            exact ⟨rfl, rfl⟩
        · next given =>
            cases duplicated with
            | false =>
                rw [if_pos rfl, if_pos ⟨given, rfl⟩]
                exact ⟨rfl, rfl⟩
            | true =>
                rw [if_neg (by decide), if_neg (by simp)]
                exact ⟨rfl, rfl⟩

theorem ownedWriteSpansBatch_state (duplicated : Nat → Bool)
    (batch : Option SpanArray) (owned : OwnedTrace) :
    (ownedWriteSpansBatch duplicated batch owned).1.state =
        (traceWriteSpansBatch duplicated batch owned.state).1 ∧
      (ownedWriteSpansBatch duplicated batch owned).2 =
        (traceWriteSpansBatch duplicated batch owned.state).2 := by
  unfold ownedWriteSpansBatch traceWriteSpansBatch
  simp only
  split
  · exact ⟨rfl, rfl⟩
  · cases batch with
    | none => exact ⟨rfl, rfl⟩
    | some batch =>
        simp only
        split
        · exact ⟨rfl, rfl⟩
        split
        · exact ⟨rfl, rfl⟩
        · cases failedCopy duplicated batch.spans with
          | none => exact ⟨rfl, rfl⟩
          | some failed => exact ⟨rfl, rfl⟩

theorem ownedCollect_state (allocated : Bool) (duplicated : Nat → Bool)
    (wanted : TraceSpan → Bool) (owned : OwnedTrace) :
    (ownedCollect allocated duplicated wanted owned).1.state = owned.state ∧
      (ownedCollect allocated duplicated wanted owned).2 =
        spansCollect allocated duplicated wanted owned.state := by
  unfold ownedCollect
  simp only
  split
  · exact ⟨rfl, rfl⟩
  split
  · exact ⟨rfl, rfl⟩
  · exact ⟨rfl, rfl⟩

theorem ownedBufferCall_state (clock : LocalClock) (owned : OwnedTrace)
    (call : BufferCall) :
    (ownedBufferCall clock owned call).1.state =
        (bufferCall clock owned.state call).1 ∧
      (ownedBufferCall clock owned call).2 =
        (bufferCall clock owned.state call).2 := by
  cases call with
  | writeSpan duplicated span => exact ownedWriteSpan_state duplicated span owned
  | writeSpansBatch duplicated batch =>
      exact ownedWriteSpansBatch_state duplicated batch owned
  | flush now opened => exact ⟨rfl, rfl⟩
  | queryByTrace calls traceId outs =>
      unfold ownedBufferCall bufferCall ownedQueryByTrace traceQueryByTrace
      simp only
      split
      · exact ⟨rfl, rfl⟩
      · cases traceId with
        | none => exact ⟨rfl, rfl⟩
        | some traceId =>
            simp only
            split
            · exact ⟨rfl, rfl⟩
            · obtain ⟨same, answer⟩ := ownedCollect_state calls.allocated
                calls.duplicated (spanMatchTrace traceId) owned
              exact ⟨same, congrArg QueryResult.error answer⟩
  | queryByTimeRange calls startTime endTime outs =>
      unfold ownedBufferCall bufferCall ownedQueryByTimeRange
        traceQueryByTimeRange
      simp only
      split
      · exact ⟨rfl, rfl⟩
      split
      · exact ⟨rfl, rfl⟩
      · obtain ⟨same, answer⟩ := ownedCollect_state calls.allocated
          calls.duplicated (spanMatchTime startTime endTime) owned
        exact ⟨same, congrArg QueryResult.error answer⟩

/-! ### Numbered copies -/

/-- The pointer of a slot is null for a span without attributes and a duplicate
for one with attributes, never the string of a caller. -/
def Agrees (span : TraceSpan) (pointer : Pointer) : Prop :=
  if span.attributes = none then pointer = .null
  else ∃ duplicate, pointer = .copy duplicate

theorem numberCopies_agrees (spans : List TraceSpan) (next : Nat) :
    List.Forall₂ Agrees spans (numberCopies spans next) := by
  induction spans generalizing next with
  | nil => exact List.Forall₂.nil
  | cons span rest ih =>
      unfold numberCopies
      split
      · next bare =>
          apply List.Forall₂.cons _ (ih next)
          unfold Agrees
          rw [if_pos bare]
      · next given =>
          apply List.Forall₂.cons _ (ih (next + 1))
          unfold Agrees
          rw [if_neg given]
          exact ⟨next, rfl⟩

theorem numberCopies_duplicates (spans : List TraceSpan) (next : Nat) :
    (numberCopies spans next).filterMap Pointer.duplicate =
      List.range' next (attributed spans) := by
  induction spans generalizing next with
  | nil => rfl
  | cons span rest ih =>
      unfold numberCopies attributed
      by_cases bare : span.attributes = none
      · rw [if_pos bare, List.filter_cons_of_neg (by simp [bare])]
        exact ih next
      · rw [if_neg bare, List.filter_cons_of_pos (by simp [bare]),
          List.length_cons, List.range'_succ]
        exact congrArg (next :: ·) (ih (next + 1))

theorem held_nil_iff {spans : List TraceSpan} {pointers : List Pointer}
    (agree : List.Forall₂ Agrees spans pointers) :
    pointers.filterMap Pointer.duplicate = [] ↔
      ∀ span ∈ spans, span.attributes = none := by
  induction agree with
  | nil => exact iff_of_true rfl nofun
  | @cons span pointer spans pointers here _ ih =>
      unfold Agrees at here
      by_cases bare : span.attributes = none
      · rw [if_pos bare] at here
        rw [here, List.forall_mem_cons, and_iff_right bare]
        exact ih
      · rw [if_neg bare] at here
        obtain ⟨duplicate, same⟩ := here
        rw [same, List.forall_mem_cons]
        exact iff_of_false nofun fun both => bare both.1

theorem pasted_below (pointers : Nat → Pointer) (base : Nat)
    (items : List Pointer) :
    ∀ index < base, pasted pointers base items index = pointers index := by
  intro index below
  unfold pasted
  rw [if_neg (by omega)]

theorem map_pasted (pointers : Nat → Pointer) (base : Nat)
    (items : List Pointer) :
    (List.range base).map (pasted pointers base items) =
      (List.range base).map pointers :=
  map_range_congr (pasted_below pointers base items)

theorem map_pasted_all (pointers : Nat → Pointer) (base : Nat)
    (items : List Pointer) :
    (List.range (base + items.length)).map (pasted pointers base items) =
      (List.range base).map pointers ++ items := by
  apply map_range_extend (pasted_below pointers base items)
  intro index within
  unfold pasted
  rw [if_pos (by omega), Nat.add_sub_cancel_left,
    List.getD_eq_getElem _ _ within]

/-! ### Where the duplicates are -/

def OwnedTrace.places (owned : OwnedTrace) : List Nat :=
  owned.released ++ owned.handed.flatten ++ owned.held

/-- Every duplicate is released, owned by a caller, or referenced by a slot, and
is at one of these places once; no slot below the counter references the string
of a caller. -/
structure Accounted (owned : OwnedTrace) : Prop where
  own : ∀ pointer ∈ owned.slotPointers, pointer ≠ .caller
  balanced : Balanced owned.created owned.places

/-- The pointers of the slots fit the spans in them. -/
def Tracked (owned : OwnedTrace) : Prop :=
  List.Forall₂ Agrees owned.state.buffered owned.slotPointers

/-- A flush that empties the buffer finds no span with attributes in it. -/
def FlushesBare (owned : OwnedTrace) (call : OwnedCall) : Prop :=
  ∀ now, call = .buffer (.flush now true) → owned.state.initialized = true →
    ∀ span ∈ owned.state.buffered, span.attributes = none

/-- The slots stay tracked, and only new duplicates come to the places. -/
structure Keeps (owned next : OwnedTrace) : Prop where
  tracked : Tracked owned → Tracked next
  places : ∃ count, next.created = owned.created + count ∧
    next.places.Perm (owned.places ++ List.range' owned.created count)

theorem Keeps.refl (owned : OwnedTrace) : Keeps owned owned where
  tracked tracked := tracked
  places := ⟨0, rfl, by rw [List.range'_zero, List.append_nil]⟩

theorem Tracked.own {owned : OwnedTrace} (tracked : Tracked owned) :
    ∀ pointer ∈ owned.slotPointers, pointer ≠ .caller := by
  unfold Tracked at tracked
  intro pointer member
  obtain ⟨index, below, found⟩ := List.getElem_of_mem member
  have within : index < owned.state.buffered.length := by
    rw [tracked.length_eq]
    exact below
  have here := tracked.get within below
  change Agrees _ owned.slotPointers[index] at here
  rw [found] at here
  unfold Agrees at here
  split at here
  · rw [here]
    nofun
  · obtain ⟨duplicate, same⟩ := here
    rw [same]
    nofun

theorem numberCopies_length (spans : List TraceSpan) (next : Nat) :
    (numberCopies spans next).length = spans.length :=
  (numberCopies_agrees spans next).length_eq.symm

/-- Spans that come behind the others, and duplicates that are made for them,
for a caller, or to be released at once. -/
theorem keeps_of_adds {owned next : OwnedTrace} {spans : List TraceSpan}
    {more : List Pointer} {freed : List Nat} {given : List (List Nat)}
    {count : Nat}
    (buffered : next.state.buffered = owned.state.buffered ++ spans)
    (pointers : next.slotPointers = owned.slotPointers ++ more)
    (agree : List.Forall₂ Agrees spans more)
    (created : next.created = owned.created + count)
    (released : next.released = owned.released ++ freed)
    (handed : next.handed = owned.handed ++ given)
    (made : freed ++ given.flatten ++ more.filterMap Pointer.duplicate =
      List.range' owned.created count) : Keeps owned next where
  tracked tracked := by
    unfold Tracked
    rw [buffered, pointers]
    exact List.rel_append tracked agree
  places := by
    refine ⟨count, created, ?_⟩
    have held : next.held =
        owned.held ++ more.filterMap Pointer.duplicate := by
      unfold OwnedTrace.held
      rw [pointers, List.filterMap_append]
    unfold OwnedTrace.places
    rw [released, handed, held, ← made, List.flatten_append]
    apply List.perm_iff_count.mpr
    intro duplicate
    simp only [List.count_append]
    omega

/-! ### One lemma for each operation -/

theorem ownedWriteSpan_keeps (duplicated : Bool) (span : Option TraceSpan)
    (owned : OwnedTrace) :
    Keeps owned (ownedWriteSpan duplicated span owned).1 := by
  have slots : ∀ pointer, (List.range (owned.state.spanCount + 1)).map
      (Function.update owned.pointers owned.state.spanCount pointer) =
        owned.slotPointers ++ [pointer] :=
    map_range_update owned.pointers owned.state.spanCount
  have spans : ∀ kept, (List.range (owned.state.spanCount + 1)).map
      (Function.update owned.state.slots owned.state.spanCount kept) =
        owned.state.buffered ++ [kept] :=
    map_range_update owned.state.slots owned.state.spanCount
  unfold ownedWriteSpan
  simp only
  split
  · exact Keeps.refl owned
  · cases span with
    | none => exact Keeps.refl owned
    | some span =>
        simp only
        split
        · exact Keeps.refl owned
        split
        · exact Keeps.refl owned
        split
        · next bare =>
            refine @keeps_of_adds owned _ [span] [.null] [] [] 0 (spans span)
              (slots .null) ?_ rfl (List.append_nil _).symm
              (List.append_nil _).symm rfl
            apply List.Forall₂.cons _ List.Forall₂.nil
            unfold Agrees
            rw [if_pos bare]
        split
        · -- The slot behind the counter is overwritten and not counted.
          refine @keeps_of_adds owned _ [] [] [] [] 0 ?_ ?_ List.Forall₂.nil rfl
            (List.append_nil _).symm (List.append_nil _).symm rfl
          · rw [List.append_nil]
            exact map_range_update_behind _ _ _
          · rw [List.append_nil]
            exact map_range_update_behind _ _ _
        · next given _ =>
            refine @keeps_of_adds owned _ [span] [.copy owned.created] [] [] 1
              (spans span) (slots _) ?_ rfl (List.append_nil _).symm
              (List.append_nil _).symm rfl
            apply List.Forall₂.cons _ List.Forall₂.nil
            unfold Agrees
            rw [if_neg given]
            exact ⟨owned.created, rfl⟩

theorem ownedWriteSpansBatch_keeps (duplicated : Nat → Bool)
    (batch : Option SpanArray) (owned : OwnedTrace) :
    Keeps owned (ownedWriteSpansBatch duplicated batch owned).1 := by
  unfold ownedWriteSpansBatch
  simp only
  split
  · exact Keeps.refl owned
  · cases batch with
    | none => exact Keeps.refl owned
    | some batch =>
        simp only
        split
        · exact Keeps.refl owned
        split
        · exact Keeps.refl owned
        · cases failedCopy duplicated batch.spans with
          | none =>
              refine @keeps_of_adds owned _ batch.spans
                (numberCopies batch.spans owned.created) [] []
                (attributed batch.spans) ?_ ?_ (numberCopies_agrees _ _) rfl
                (List.append_nil _).symm (List.append_nil _).symm
                (numberCopies_duplicates _ _)
              · exact map_copySlots_all _ _ _
              · unfold OwnedTrace.slotPointers
                simp only
                rw [← numberCopies_length batch.spans owned.created,
                  map_pasted_all, map_pasted]
          | some failed =>
              refine @keeps_of_adds owned _ [] [] _ []
                (attributed (batch.spans.take failed)) ?_ ?_ List.Forall₂.nil rfl
                rfl (List.append_nil _).symm ?_
              · rw [List.append_nil]
                exact map_copySlots _ _ _
              · rw [List.append_nil]
                exact (map_pasted _ _ _).trans (map_pasted _ _ _)
              · rw [List.flatten_nil, List.append_nil, List.filterMap_nil,
                  List.append_nil]
                exact numberCopies_duplicates _ _

theorem ownedCollect_keeps (allocated : Bool) (duplicated : Nat → Bool)
    (wanted : TraceSpan → Bool) (owned : OwnedTrace) :
    Keeps owned (ownedCollect allocated duplicated wanted owned).1 := by
  unfold ownedCollect
  simp only
  split
  · exact Keeps.refl owned
  split
  · refine @keeps_of_adds owned _ [] [] _ [] _ (List.append_nil _).symm
      (List.append_nil _).symm List.Forall₂.nil rfl rfl (List.append_nil _).symm
      ?_
    rw [List.flatten_nil, List.append_nil, List.filterMap_nil, List.append_nil]
    exact numberCopies_duplicates _ _
  · refine @keeps_of_adds owned _ [] [] [] [_] _ (List.append_nil _).symm
      (List.append_nil _).symm List.Forall₂.nil rfl (List.append_nil _).symm rfl
      ?_
    rw [List.flatten_singleton, List.nil_append, List.filterMap_nil,
      List.append_nil]
    exact numberCopies_duplicates _ _

theorem traceFreeSpans_keeps (index : Nat) (owned : OwnedTrace) :
    Keeps owned (traceFreeSpans index owned) := by
  unfold traceFreeSpans
  split
  · exact Keeps.refl owned
  · next result found =>
      refine ⟨id, 0, rfl, ?_⟩
      obtain ⟨below, here⟩ := List.getElem?_eq_some_iff.mp found
      have taken : (result :: owned.handed.eraseIdx index).Perm owned.handed := by
        rw [← here]
        exact List.getElem_cons_eraseIdx_perm below
      have parts := taken.flatten
      rw [List.flatten_cons] at parts
      rw [List.range'_zero, List.append_nil]
      apply List.perm_iff_count.mpr
      intro duplicate
      have counts := List.perm_iff_count.mp parts duplicate
      unfold OwnedTrace.places
      simp only [List.count_append] at counts ⊢
      change _ + List.count duplicate owned.held = _
      omega

theorem ownedShutdown_keeps (owned : OwnedTrace) :
    Keeps owned (ownedShutdown owned) := by
  unfold ownedShutdown
  split
  · next ready =>
      have emptied : traceShutdown owned.state =
          { owned.state with initialized := false, spanCount := 0 } :=
        if_pos ready
      rw [emptied]
      refine ⟨fun _ => List.Forall₂.nil, 0, rfl, ?_⟩
      change ((owned.released ++ owned.held) ++ owned.handed.flatten ++ []).Perm
        (owned.places ++ [])
      rw [List.append_nil, List.append_nil]
      apply List.perm_iff_count.mpr
      intro duplicate
      unfold OwnedTrace.places
      simp only [List.count_append]
      omega
  · exact Keeps.refl owned

theorem ownedFlush_empties (clock : LocalClock) (now : Int) (owned : OwnedTrace)
    (ready : owned.state.initialized = true) :
    (traceFlush clock now true owned.state).1.spanCount = 0 := by
  unfold traceFlush
  rw [ready, if_neg nofun]
  split
  · next empty => exact empty
  · rfl

theorem ownedFlush_refused (clock : LocalClock) (now : Int) (opened : Bool)
    (owned : OwnedTrace)
    (refused : owned.state.initialized = false ∨ opened = false) :
    (ownedFlush clock now opened owned).1 = owned := by
  unfold ownedFlush traceFlush
  simp only
  split
  · rfl
  split
  · rfl
  · next ready _ =>
      rw [if_pos (refused.resolve_left ready)]

/-- Every call but a flush that empties the buffer keeps the duplicates. -/
theorem ownedStep_cases (clock : LocalClock) (owned : OwnedTrace)
    (call : OwnedCall) :
    (Keeps owned (ownedStep clock owned call).1 ∧
        ∀ now, call = .buffer (.flush now true) →
          owned.state.initialized = false) ∨
      ∃ now, call = .buffer (.flush now true) ∧
        owned.state.initialized = true := by
  cases call with
  | shutdown => exact Or.inl ⟨ownedShutdown_keeps owned, nofun⟩
  | freeSpans index => exact Or.inl ⟨traceFreeSpans_keeps index owned, nofun⟩
  | buffer call =>
      cases call with
      | writeSpan duplicated span =>
          exact Or.inl ⟨ownedWriteSpan_keeps duplicated span owned, nofun⟩
      | writeSpansBatch duplicated batch =>
          exact Or.inl
            ⟨ownedWriteSpansBatch_keeps duplicated batch owned, nofun⟩
      | flush now opened =>
          by_cases refused :
              owned.state.initialized = false ∨ opened = false
          · apply Or.inl
            constructor
            · change Keeps owned (ownedFlush clock now opened owned).1
              rw [ownedFlush_refused clock now opened owned refused]
              exact Keeps.refl owned
            · intro _ same
              cases same
              exact refused.resolve_right nofun
          · obtain ⟨ready, found⟩ := not_or.mp refused
            rw [(Bool.not_eq_false _).mp found]
            exact Or.inr ⟨now, rfl, (Bool.not_eq_false _).mp ready⟩
      | queryByTrace calls traceId outs =>
          refine Or.inl ⟨?_, nofun⟩
          change Keeps owned (ownedQueryByTrace calls traceId outs owned).1
          unfold ownedQueryByTrace
          split
          · exact Keeps.refl owned
          · cases traceId with
            | none => exact Keeps.refl owned
            | some traceId =>
                simp only
                split
                · exact Keeps.refl owned
                · exact ownedCollect_keeps _ _ _ owned
      | queryByTimeRange calls startTime endTime outs =>
          refine Or.inl ⟨?_, nofun⟩
          change Keeps owned
            (ownedQueryByTimeRange calls startTime endTime outs owned).1
          unfold ownedQueryByTimeRange
          split
          · exact Keeps.refl owned
          split
          · exact Keeps.refl owned
          · exact ownedCollect_keeps _ _ _ owned

/-! ### Every run -/

section Steps

variable {clock : LocalClock} {owned : OwnedTrace}

theorem tracked_emptied (empty : owned.state.spanCount = 0) :
    Tracked owned := by
  unfold Tracked TraceState.buffered OwnedTrace.slotPointers
  rw [empty]
  exact List.Forall₂.nil

theorem held_emptied (empty : owned.state.spanCount = 0) :
    owned.held = [] := by
  unfold OwnedTrace.held OwnedTrace.slotPointers
  rw [empty]
  rfl

theorem tracked_step (call : OwnedCall) (tracked : Tracked owned) :
    Tracked (ownedStep clock owned call).1 := by
  rcases ownedStep_cases clock owned call with
    ⟨keeps, _⟩ | ⟨now, same, ready⟩
  · exact keeps.tracked tracked
  · subst same
    exact tracked_emptied (ownedFlush_empties clock now owned ready)

theorem accounted_step_iff (call : OwnedCall) (tracked : Tracked owned)
    (accounted : Accounted owned) :
    Accounted (ownedStep clock owned call).1 ↔ FlushesBare owned call := by
  have still := @tracked_step clock owned call tracked
  rcases ownedStep_cases clock owned call with
    ⟨keeps, others⟩ | ⟨now, same, ready⟩
  · obtain ⟨count, created, moved⟩ := keeps.places
    apply iff_of_true
    · refine ⟨still.own, ?_⟩
      rw [created]
      exact accounted.balanced.grow moved
    · intro now same ready
      rw [others now same] at ready
      cases ready
  · subst same
    have emptied := ownedFlush_empties clock now owned ready
    have balanced : Accounted (ownedStep clock owned
        (.buffer (.flush now true))).1 ↔
          Balanced owned.created (owned.released ++ owned.handed.flatten) := by
      have places : (ownedStep clock owned
          (.buffer (.flush now true))).1.places =
            owned.released ++ owned.handed.flatten := by
        unfold OwnedTrace.places
        rw [held_emptied emptied, List.append_nil]
        rfl
      constructor
      · intro after
        rw [← places]
        exact after.balanced
      · intro after
        rw [← places] at after
        exact ⟨still.own, after⟩
    rw [balanced]
    apply accounted.balanced.drop_iff.trans
    apply (held_nil_iff tracked).trans
    constructor
    · intro bare _ _ _
      exact bare
    · intro bare
      exact bare now rfl ready

end Steps

/-- A run starts from a freshly initialized module. -/
def ownedStart (root : Bytes) (files : Bytes → Option (List SpanEntry)) :
    OwnedTrace where
  state := (bufferStart root files).state
  pointers := fun _ => .null
  created := 0
  released := []
  handed := []

/-- At every point of a run each duplicate is released once, owned by a caller
or referenced by one slot, exactly if every flush that empties the buffer finds
no span with attributes in it. -/
theorem trace_attributes_accounted_iff (clock : LocalClock) (root : Bytes)
    (files : Bytes → Option (List SpanEntry)) (calls : List OwnedCall) :
    (∀ done, done <+: calls → Accounted
        (final (ownedStep clock) (ownedStart root files) done)) ↔
      Meets (ownedStep clock) FlushesBare (ownedStart root files) calls :=
  prefixes_iff_meets (ownedStep clock) FlushesBare Tracked Accounted
    (fun _ call => tracked_step call) (fun _ call => accounted_step_iff call)
    (ownedStart root files) calls List.Forall₂.nil ⟨nofun, List.Perm.nil⟩

/-- A span with attributes is written and flushed: its duplicate is lost. -/
theorem trace_flush_leaks :
    ¬∀ (clock : LocalClock) (root : Bytes)
      (files : Bytes → Option (List SpanEntry)) (calls : List OwnedCall),
      ∀ done, done <+: calls → Accounted
        (final (ownedStep clock) (ownedStart root files) done) := by
  intro always
  let span : TraceSpan :=
    { zeroedSpan with
      traceId := CharArray.copy (ofString "trace")
      spanId := CharArray.copy (ofString "span")
      attributes := some (ofString "\x7b\x7d") }
  let calls : List OwnedCall :=
    [.buffer (.writeSpan true (some span)), .buffer (.flush 0 true)]
  have accounted := always gmtime (ofString "/data") (fun _ => none) calls calls
    List.prefix_rfl
  have lengths := accounted.balanced.length
  have lost : (final (ownedStep gmtime)
      (ownedStart (ofString "/data") fun _ => none) calls).places.length ≠
        (final (ownedStep gmtime)
          (ownedStart (ofString "/data") fun _ => none) calls).created := by
    decide
  exact lost lengths

end Heapstore.Trace
