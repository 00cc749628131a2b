/-
What a failed call of the trace module leaves behind.

The loops of the batch write and of the queries are followed step by step, each
duplicate and each result array as a block that is made and freed.  A failing
allocation at any element runs the rollback of that place; the blocks made by
the call and the blocks it freed are listed in order.
-/

import Heapstore.TraceOwnership
import Mathlib.Data.List.Nodup

namespace Heapstore.Trace

open ByteText CivilTime OperationRun Ownership SlotArray

/-! ### Blocks -/

/-- A block that is freed: a duplicate, the result array of the call, or a
string that belongs to a caller. -/
inductive Block where
  | duplicate (number : Nat)
  | array
  | callers
  deriving DecidableEq

def Block.number : Block → Option Nat
  | .duplicate number => some number
  | _ => none

/-- What freeing a pointer frees; a null pointer frees nothing. -/
def Pointer.blocks : Pointer → List Block
  | .null => []
  | .caller => [.callers]
  | .copy number => [.duplicate number]

/-- The duplicates that are made from a number on. -/
def duplicatesFrom (first count : Nat) : List Block :=
  (List.range' first count).map Block.duplicate

/-! ### The batch write -/

/-- The slots with their attribute pointers, and the blocks so far. -/
structure WritePass where
  slots : Nat → TraceSpan
  pointers : Nat → Pointer
  created : Nat
  made : List Block
  freed : List Block

def WritePass.null (slot : Nat) (pass : WritePass) : WritePass :=
  { pass with
    slots := Function.update pass.slots slot
      { pass.slots slot with attributes := none }
    pointers := Function.update pass.pointers slot .null }

/-- The slot already holds the same characters. -/
def WritePass.duplicate (slot : Nat) (pass : WritePass) : WritePass :=
  { pass with
    pointers := Function.update pass.pointers slot (.copy pass.created)
    created := pass.created + 1
    made := pass.made ++ [.duplicate pass.created] }

def WritePass.release (slot : Nat) (pass : WritePass) : WritePass :=
  { pass with freed := pass.freed ++ (pass.pointers slot).blocks }.null slot

/-- The rollback: from an index on, so many slots are released. -/
def releaseSlots (base : Nat) : Nat → Nat → WritePass → WritePass
  | _, 0, pass => pass
  | index, left + 1, pass =>
      releaseSlots base (index + 1) left (pass.release (base + index))

/-- The loop over the copied slots; it says whether all duplicates were made. -/
def duplicateSlots (duplicated : Nat → Bool) (base : Nat) :
    Nat → List TraceSpan → WritePass → WritePass × Bool
  | _, [], pass => (pass, true)
  | index, span :: rest, pass =>
      if span.attributes = none then
        duplicateSlots duplicated base (index + 1) rest (pass.null (base + index))
      else if duplicated index then
        duplicateSlots duplicated base (index + 1) rest
          (pass.duplicate (base + index))
      else (releaseSlots base 0 index (pass.null (base + index)), false)

/-! ### The queries -/

/-- The entries of the result with their attribute pointers. -/
structure CollectPass where
  filled : Nat
  result : Nat → TraceSpan
  pointers : Nat → Pointer
  created : Nat
  made : List Block
  freed : List Block
  failed : Bool

def CollectPass.fill (span : TraceSpan) (pointer : Pointer)
    (pass : CollectPass) : CollectPass :=
  { pass with
    filled := pass.filled + 1
    result := Function.update pass.result pass.filled span
    pointers := Function.update pass.pointers pass.filled pointer }

/-- The rollback of a query frees the entries and then the array. -/
def CollectPass.abort (pass : CollectPass) : CollectPass :=
  { pass with
    freed := pass.freed ++
      (List.range pass.filled).flatMap (fun index =>
        (pass.pointers index).blocks) ++ [.array]
    failed := true }

def collectPass (duplicated : Nat → Bool) (wanted : TraceSpan → Bool)
    (slots : Nat → TraceSpan) (created : Nat) : Nat → CollectPass
  | 0 =>
      { filled := 0
        result := fun _ => zeroedSpan
        pointers := fun _ => .null
        created := created
        made := [.array]
        freed := []
        failed := false }
  | bound + 1 =>
      let done := collectPass duplicated wanted slots created bound
      if done.failed then done
      else if wanted (slots bound) = false then done
      else if (slots bound).attributes = none then
        done.fill (slots bound) .null
      else if duplicated bound = false then done.abort
      else
        { done.fill (slots bound) (.copy done.created) with
          created := done.created + 1
          made := done.made ++ [.duplicate done.created] }

/-! ### The calls -/

/-- What a call leaves: the module, its code, the blocks it made and freed, and
for a query the two variables of the caller. -/
structure CallOutcome where
  owned : OwnedTrace
  error : HeapstoreError
  made : List Block
  freed : List Block
  outputs : Option (Option (List TraceSpan) × Nat)

def CallOutcome.bare (owned : OwnedTrace) (error : HeapstoreError) :
    CallOutcome :=
  { owned := owned, error := error, made := [], freed := [], outputs := none }

/-- `heapstore_trace_write_span` makes one block at most, on success. -/
def blocksWriteSpan (duplicated : Bool) (span : Option TraceSpan)
    (owned : OwnedTrace) : CallOutcome :=
  let written := ownedWriteSpan duplicated span owned
  { CallOutcome.bare written.1 written.2 with
    made := duplicatesFrom owned.created (written.1.created - owned.created) }

def blocksWriteSpansBatch (duplicated : Nat → Bool) (batch : Option SpanArray)
    (owned : OwnedTrace) : CallOutcome :=
  let state := owned.state
  if state.initialized = false then .bare owned .errNotInitialized
  else
    match batch with
    | none => .bare owned .errInvalidParam
    | some batch =>
        if batch.spans.length = 0 then .bare owned .errInvalidParam
        else if traceMaxSpans < (state.spanCount + batch.spans.length) % 2 ^ 64
        then .bare owned .errOutOfMemory
        else
          let looped := duplicateSlots duplicated state.spanCount 0 batch.spans
            { slots := copySlots state.slots state.spanCount batch.spans
              pointers := pasted owned.pointers state.spanCount
                (batch.spans.map callerPointer)
              created := owned.created
              made := []
              freed := [] }
          let next : OwnedTrace :=
            { owned with
              state := { state with slots := looped.1.slots }
              pointers := looped.1.pointers
              created := looped.1.created
              released := owned.released ++
                looped.1.freed.filterMap Block.number }
          if looped.2 then
            { owned :=
                { next with
                  state := { next.state with
                    spanCount := state.spanCount + batch.spans.length } }
              error := .success
              made := looped.1.made
              freed := looped.1.freed
              outputs := none }
          else
            { owned := next
              error := .errOutOfMemory
              made := looped.1.made
              freed := looped.1.freed
              outputs := none }

/-- `spans_collect` -/
def blocksCollect (allocated : Bool) (duplicated : Nat → Bool)
    (wanted : TraceSpan → Bool) (owned : OwnedTrace) : CallOutcome :=
  let state := owned.state
  let count := matchCount wanted state.slots state.spanCount
  if count = 0 then
    { CallOutcome.bare owned .errNotFound with outputs := some (none, 0) }
  else if allocated = false then
    { CallOutcome.bare owned .errOutOfMemory with outputs := some (none, 0) }
  else
    let pass := collectPass duplicated wanted state.slots owned.created
      state.spanCount
    let next : OwnedTrace :=
      { owned with
        created := pass.created
        released := owned.released ++ pass.freed.filterMap Block.number }
    if pass.failed then
      { owned := next
        error := .errOutOfMemory
        made := pass.made
        freed := pass.freed
        outputs := some (none, 0) }
    else
      { owned :=
          { next with
            handed := owned.handed ++ [pass.made.filterMap Block.number] }
        error := .success
        made := pass.made
        freed := pass.freed
        outputs := some (some ((List.range count).map pass.result), count) }

def blocksUntouched (calls : QueryCalls) (owned : OwnedTrace)
    (error : HeapstoreError) : CallOutcome :=
  { CallOutcome.bare owned error with
    outputs := some (calls.spans, calls.count) }

def blocksQueryByTrace (calls : QueryCalls) (traceId : Option Bytes)
    (outs : Bool) (owned : OwnedTrace) : CallOutcome :=
  if owned.state.initialized = false then
    blocksUntouched calls owned .errNotInitialized
  else
    match traceId with
    | none => blocksUntouched calls owned .errInvalidParam
    | some traceId =>
        if outs = false then blocksUntouched calls owned .errInvalidParam
        else
          blocksCollect calls.allocated calls.duplicated
            (spanMatchTrace traceId) owned

def blocksQueryByTimeRange (calls : QueryCalls) (startTime endTime : UInt64)
    (outs : Bool) (owned : OwnedTrace) : CallOutcome :=
  if owned.state.initialized = false then
    blocksUntouched calls owned .errNotInitialized
  else if outs = false then blocksUntouched calls owned .errInvalidParam
  else
    blocksCollect calls.allocated calls.duplicated
      (spanMatchTime startTime endTime) owned

/-- The calls that can fail at an allocation. -/
inductive FallibleCall where
  | writeSpan (duplicated : Bool) (span : Option TraceSpan)
  | writeSpansBatch (duplicated : Nat → Bool) (batch : Option SpanArray)
  | queryByTrace (calls : QueryCalls) (traceId : Option Bytes) (outs : Bool)
  | queryByTimeRange (calls : QueryCalls) (startTime endTime : UInt64)
      (outs : Bool)

def blocksCall (owned : OwnedTrace) : FallibleCall → CallOutcome
  | .writeSpan duplicated span => blocksWriteSpan duplicated span owned
  | .writeSpansBatch duplicated batch =>
      blocksWriteSpansBatch duplicated batch owned
  | .queryByTrace calls traceId outs =>
      blocksQueryByTrace calls traceId outs owned
  | .queryByTimeRange calls startTime endTime outs =>
      blocksQueryByTimeRange calls startTime endTime outs owned

/-! ### The rollback -/

section Rollback

variable {base index left : Nat} {pass : WritePass}

/-- The slots that the rollback visits. -/
def Visits (base index left slot : Nat) : Prop :=
  base + index ≤ slot ∧ slot < base + index + left

instance (base index left slot : Nat) : Decidable (Visits base index left slot) :=
  inferInstanceAs (Decidable (_ ∧ _))

theorem visits_succ (base index left slot : Nat) :
    Visits base index (left + 1) slot ↔
      slot = base + index ∨ Visits base (index + 1) left slot := by
  unfold Visits
  omega

theorem not_visits_zero (base index slot : Nat) : ¬Visits base index 0 slot := by
  unfold Visits
  omega

theorem releaseSlots_pointers (slot : Nat) :
    (releaseSlots base index left pass).pointers slot =
      if Visits base index left slot then .null else pass.pointers slot := by
  induction left generalizing index pass with
  | zero => rw [if_neg (not_visits_zero base index slot)]; rfl
  | succ left ih =>
      rw [releaseSlots, ih]
      by_cases later : Visits base (index + 1) left slot
      · rw [if_pos later,
          if_pos ((visits_succ base index left slot).mpr (Or.inr later))]
      · rw [if_neg later]
        change Function.update pass.pointers (base + index) .null slot = _
        by_cases here : slot = base + index
        · rw [if_pos ((visits_succ base index left slot).mpr (Or.inl here)),
            here, Function.update_self]
        · rw [if_neg fun visits =>
            ((visits_succ base index left slot).mp visits).elim here later,
            Function.update_of_ne here]

theorem releaseSlots_slots (slot : Nat) :
    (releaseSlots base index left pass).slots slot =
      if Visits base index left slot then
        { pass.slots slot with attributes := none }
      else pass.slots slot := by
  induction left generalizing index pass with
  | zero => rw [if_neg (not_visits_zero base index slot)]; rfl
  | succ left ih =>
      rw [releaseSlots, ih]
      change (if Visits base (index + 1) left slot then
          { Function.update pass.slots (base + index)
              { pass.slots (base + index) with attributes := none } slot with
            attributes := none }
        else Function.update pass.slots (base + index)
          { pass.slots (base + index) with attributes := none } slot) = _
      by_cases here : slot = base + index
      · subst here
        rw [if_pos ((visits_succ base index left _).mpr (Or.inl rfl)),
          Function.update_self, ite_self]
      · rw [Function.update_of_ne here]
        have same : Visits base index (left + 1) slot ↔
            Visits base (index + 1) left slot :=
          (visits_succ base index left slot).trans (or_iff_right here)
        simp only [same]

/-- What the rollback frees: the pointers of the slots it visits. -/
theorem releaseSlots_freed :
    (releaseSlots base index left pass).freed =
      pass.freed ++ (List.range' index left).flatMap fun visited =>
        (pass.pointers (base + visited)).blocks := by
  induction left generalizing index pass with
  | zero => exact (List.append_nil _).symm
  | succ left ih =>
      rw [releaseSlots, ih, List.range'_succ, List.flatMap_cons,
        ← List.append_assoc]
      congr 1
      apply List.flatMap_congr
      intro visited member
      have above := (List.mem_range'_1.mp member).1
      change (Function.update pass.pointers (base + index) .null
        (base + visited)).blocks = _
      rw [Function.update_of_ne (by omega)]

theorem releaseSlots_made :
    (releaseSlots base index left pass).made = pass.made ∧
      (releaseSlots base index left pass).created = pass.created := by
  induction left generalizing index pass with
  | zero => exact ⟨rfl, rfl⟩
  | succ left ih => exact ih

end Rollback

/-! ### The loop of the batch write -/

theorem pasted_concat (pointers : Nat → Pointer) (base : Nat)
    (items : List Pointer) (last : Pointer) :
    pasted pointers base (items ++ [last]) =
      Function.update (pasted pointers base items) (base + items.length) last := by
  funext slot
  unfold pasted
  by_cases here : slot = base + items.length
  · subst here
    rw [Function.update_self, if_pos (Nat.le_add_right _ _),
      Nat.add_sub_cancel_left, List.getD_append_right _ _ _ _ (Nat.le_refl _),
      Nat.sub_self]
    rfl
  · rw [Function.update_of_ne here]
    by_cases reached : base ≤ slot
    · rw [if_pos reached, if_pos reached]
      rcases Nat.lt_or_gt_of_ne here with before | behind
      · rw [List.getD_append _ _ _ _ (by omega)]
      · rw [List.getD_eq_default _ _ (by rw [List.length_append]; change _ + 1 ≤ _; omega),
          List.getD_eq_default _ _ (by omega)]
    · rw [if_neg reached, if_neg reached]

theorem attributed_cons (span : TraceSpan) (rest : List TraceSpan) :
    attributed (span :: rest) =
      attributed rest + if span.attributes = none then 0 else 1 := by
  unfold attributed
  by_cases bare : span.attributes = none
  · rw [if_pos bare, List.filter_cons_of_neg (by simp [bare])]
    rfl
  · rw [if_neg bare, List.filter_cons_of_pos (by simp [bare])]
    rfl

theorem attributed_concat (spans : List TraceSpan) (span : TraceSpan) :
    attributed (spans ++ [span]) =
      attributed spans + if span.attributes = none then 0 else 1 := by
  induction spans with
  | nil => exact attributed_cons span []
  | cons first rest ih =>
      rw [List.cons_append, attributed_cons, attributed_cons, ih,
        Nat.add_right_comm]

theorem numberCopies_concat (spans : List TraceSpan) (span : TraceSpan)
    (next : Nat) :
    numberCopies (spans ++ [span]) next =
      numberCopies spans next ++
        [if span.attributes = none then .null
          else .copy (next + attributed spans)] := by
  induction spans generalizing next with
  | nil =>
      by_cases bare : span.attributes = none
      · simp only [List.nil_append, numberCopies, if_pos bare]
      · simp only [List.nil_append, numberCopies, if_neg bare]
        rfl
  | cons first rest ih =>
      by_cases bare : first.attributes = none
      · simp only [List.cons_append, numberCopies, if_pos bare, ih,
          attributed_cons, Nat.add_zero]
      · simp only [List.cons_append, numberCopies, if_neg bare, ih,
          attributed_cons, Nat.add_assoc, Nat.add_comm 1]

/-- The loop has come so far: the slots hold the batch, with the duplicates of
these spans. -/
structure Stage (owned : OwnedTrace) (spans done : List TraceSpan)
    (pass : WritePass) : Prop where
  slots : pass.slots =
    copySlots owned.state.slots owned.state.spanCount spans
  pointers : pass.pointers =
    pasted (pasted owned.pointers owned.state.spanCount
      (spans.map callerPointer)) owned.state.spanCount
        (numberCopies done owned.created)
  created : pass.created = owned.created + attributed done
  made : pass.made = duplicatesFrom owned.created (attributed done)
  freed : pass.freed = []

section Loop

variable {owned : OwnedTrace} {duplicated : Nat → Bool}
  {done rest : List TraceSpan} {span : TraceSpan} {pass : WritePass}

theorem copySlots_at {slots : Nat → TraceSpan} {base : Nat} :
    copySlots slots base (done ++ span :: rest) (base + done.length) = span := by
  unfold copySlots
  rw [if_pos (by rw [List.length_append, List.length_cons]; omega),
    Nat.add_sub_cancel_left, List.getD_append_right _ _ _ _ (Nat.le_refl _),
    Nat.sub_self]
  rfl

/-- A span without attributes gets a null pointer, which it has already. -/
theorem Stage.null (stage : Stage owned (done ++ span :: rest) done pass)
    (bare : span.attributes = none) :
    Stage owned (done ++ span :: rest) (done ++ [span])
      (pass.null (owned.state.spanCount + done.length)) := by
  have here : pass.slots (owned.state.spanCount + done.length) = span := by
    rw [stage.slots, copySlots_at]
  have same : { pass.slots (owned.state.spanCount + done.length) with
      attributes := none } = pass.slots (owned.state.spanCount + done.length) := by
    rw [here, ← bare]
  have count := attributed_concat done span
  rw [if_pos bare, Nat.add_zero] at count
  refine ⟨?_, ?_, ?_, ?_, stage.freed⟩
  · change Function.update pass.slots _ _ = _
    rw [same, Function.update_eq_self, stage.slots]
  · change Function.update pass.pointers _ .null = _
    rw [stage.pointers, numberCopies_concat, if_pos bare, pasted_concat,
      numberCopies_length]
  · rw [count]
    exact stage.created
  · rw [count]
    exact stage.made

theorem Stage.duplicate (stage : Stage owned (done ++ span :: rest) done pass)
    (given : span.attributes ≠ none) :
    Stage owned (done ++ span :: rest) (done ++ [span])
      (pass.duplicate (owned.state.spanCount + done.length)) := by
  have count := attributed_concat done span
  rw [if_neg given] at count
  refine ⟨stage.slots, ?_, ?_, ?_, stage.freed⟩
  · change Function.update pass.pointers _ (.copy pass.created) = _
    rw [stage.pointers, stage.created, numberCopies_concat, if_neg given,
      pasted_concat, numberCopies_length]
  · rw [count, ← Nat.add_assoc, ← stage.created]
    rfl
  · change pass.made ++ [.duplicate pass.created] = _
    unfold duplicatesFrom
    rw [stage.made, stage.created, count, List.range'_concat, List.map_append,
      Nat.one_mul]
    rfl

theorem numberCopies_blocks (spans : List TraceSpan) (next : Nat) :
    (numberCopies spans next).flatMap Pointer.blocks =
      duplicatesFrom next (attributed spans) := by
  induction spans generalizing next with
  | nil => rfl
  | cons span rest ih =>
      rw [attributed_cons]
      by_cases bare : span.attributes = none
      · simp only [numberCopies, if_pos bare, List.flatMap_cons, ih]
        rfl
      · simp only [numberCopies, if_neg bare, List.flatMap_cons, ih]
        unfold duplicatesFrom
        rw [List.range'_succ]
        rfl

theorem pasted_at {pointers : Nat → Pointer} {base index : Nat}
    {items : List Pointer} (within : index < items.length) :
    pasted pointers base items (base + index) = items[index] := by
  unfold pasted
  rw [if_pos (Nat.le_add_right _ _), Nat.add_sub_cancel_left,
    List.getD_eq_getElem _ _ within]

theorem pasted_outside {pointers : Nat → Pointer} {base slot : Nat}
    {items : List Pointer} (outside : slot < base ∨ base + items.length ≤ slot) :
    pasted pointers base items slot = pointers slot := by
  unfold pasted
  rcases outside with before | behind
  · rw [if_neg (by omega)]
  · rw [if_pos (by omega), List.getD_eq_default _ _ (by omega)]

/-- The pointers of the first slots of a batch, read in order. -/
theorem map_pasted_items (pointers : Nat → Pointer) (base : Nat)
    (items : List Pointer) :
    (List.range' 0 items.length).flatMap (fun index =>
        (pasted pointers base items (base + index)).blocks) =
      items.flatMap Pointer.blocks := by
  have read : (List.range items.length).map
      (fun index => pasted pointers base items (base + index)) = items := by
    apply List.ext_getElem
    · rw [List.length_map, List.length_range]
    · intro index _ within
      rw [List.getElem_map, List.getElem_range, pasted_at within]
  conv => rhs; rw [← read]
  rw [List.flatMap_map, ← List.range_eq_range']

/-- The duplication at an index failed, and the rollback is complete. -/
structure Rolled (owned : OwnedTrace) (spans : List TraceSpan) (failed : Nat)
    (pass : WritePass) : Prop where
  slots : pass.slots =
    copySlots owned.state.slots owned.state.spanCount
      (spans.mapIdx fun index span =>
        if index ≤ failed then { span with attributes := none } else span)
  pointers : pass.pointers =
    pasted (pasted owned.pointers owned.state.spanCount
      (spans.map callerPointer)) owned.state.spanCount
        (List.replicate (failed + 1) .null)
  created : pass.created = owned.created + attributed (spans.take failed)
  made : pass.made =
    duplicatesFrom owned.created (attributed (spans.take failed))
  freed : pass.freed = pass.made

theorem copySlots_inside {slots : Nat → TraceSpan} {base index : Nat}
    {spans : List TraceSpan} (within : index < spans.length) :
    copySlots slots base spans (base + index) = spans[index] := by
  unfold copySlots
  rw [if_pos (by omega), Nat.add_sub_cancel_left,
    List.getD_eq_getElem _ _ within]

theorem copySlots_outside {slots : Nat → TraceSpan} {base slot : Nat}
    {spans : List TraceSpan}
    (outside : slot < base ∨ base + spans.length ≤ slot) :
    copySlots slots base spans slot = slots slot := by
  unfold copySlots
  exact if_neg (by omega)

theorem inside_or_outside (base slot length : Nat) :
    (∃ index, slot = base + index ∧ index < length) ∨
      slot < base ∨ base + length ≤ slot := by
  by_cases inside : base ≤ slot ∧ slot < base + length
  · exact Or.inl ⟨slot - base, by omega, by omega⟩
  · exact Or.inr (by omega)

/-- Behind the failing element the copies of the caller's spans stay. -/
theorem Stage.rolled_slots
    (stage : Stage owned (done ++ span :: rest) done pass) :
    (releaseSlots owned.state.spanCount 0 done.length
      (pass.null (owned.state.spanCount + done.length))).slots =
        copySlots owned.state.slots owned.state.spanCount
          ((done ++ span :: rest).mapIdx fun index span =>
            if index ≤ done.length then { span with attributes := none }
            else span) := by
  have failing : done.length < (done ++ span :: rest).length := by
    rw [List.length_append, List.length_cons]
    omega
  funext slot
  rw [releaseSlots_slots]
  unfold WritePass.null Visits
  simp only [stage.slots]
  rcases inside_or_outside owned.state.spanCount slot
      (done ++ span :: rest).length with ⟨index, rfl, within⟩ | outside
  · have mapped := @copySlots_inside owned.state.slots owned.state.spanCount
      index ((done ++ span :: rest).mapIdx fun index span =>
        if index ≤ done.length then { span with attributes := none } else span)
      (by rw [List.length_mapIdx]; exact within)
    rw [mapped, List.getElem_mapIdx, copySlots_inside failing]
    rcases Nat.lt_trichotomy index done.length with before | here | behind
    · rw [if_pos (by omega), if_pos (Nat.le_of_lt before),
        Function.update_of_ne (by omega), copySlots_inside within]
    · subst here
      rw [if_neg (by omega), if_pos (Nat.le_refl _), Function.update_self]
    · rw [if_neg (by omega), if_neg (Nat.not_le.mpr behind),
        Function.update_of_ne (by omega), copySlots_inside within]
  · have mapped := @copySlots_outside owned.state.slots owned.state.spanCount
      slot ((done ++ span :: rest).mapIdx fun index span =>
        if index ≤ done.length then { span with attributes := none } else span)
      (by rw [List.length_mapIdx]; exact outside)
    rw [mapped, if_neg (by omega), Function.update_of_ne (by omega),
      copySlots_outside outside]

theorem Stage.rolled_pointers
    (stage : Stage owned (done ++ span :: rest) done pass) :
    (releaseSlots owned.state.spanCount 0 done.length
      (pass.null (owned.state.spanCount + done.length))).pointers =
        pasted (pasted owned.pointers owned.state.spanCount
          ((done ++ span :: rest).map callerPointer)) owned.state.spanCount
            (List.replicate (done.length + 1) .null) := by
  have copies := numberCopies_length done owned.created
  funext slot
  rw [releaseSlots_pointers]
  unfold WritePass.null Visits
  simp only [stage.pointers]
  rcases inside_or_outside owned.state.spanCount slot (done.length + 1) with
    ⟨index, rfl, within⟩ | outside
  · rw [pasted_at (by rw [List.length_replicate]; exact within),
      List.getElem_replicate]
    by_cases here : index = done.length
    · rw [here, if_neg (by omega), Function.update_self]
    · rw [if_pos (by omega)]
  · have nulls := @pasted_outside (pasted owned.pointers owned.state.spanCount
      ((done ++ span :: rest).map callerPointer)) owned.state.spanCount slot
      (List.replicate (done.length + 1) .null)
      (by rw [List.length_replicate]; exact outside)
    rw [nulls, if_neg (by omega), Function.update_of_ne (by omega),
      @pasted_outside _ _ _ (numberCopies done owned.created) (by omega)]

theorem Stage.rolled (stage : Stage owned (done ++ span :: rest) done pass) :
    Rolled owned (done ++ span :: rest) done.length
      (releaseSlots owned.state.spanCount 0 done.length
        (pass.null (owned.state.spanCount + done.length))) := by
  obtain ⟨made, created⟩ := @releaseSlots_made owned.state.spanCount 0
    done.length (pass.null (owned.state.spanCount + done.length))
  have before : (done ++ span :: rest).take done.length = done :=
    List.take_left
  refine ⟨stage.rolled_slots, stage.rolled_pointers, ?_, ?_, ?_⟩
  · rw [created, before]
    exact stage.created
  · rw [made, before]
    exact stage.made
  · rw [releaseSlots_freed, made]
    have copies := numberCopies_length done owned.created
    have read := map_pasted_items (pasted owned.pointers owned.state.spanCount
      ((done ++ span :: rest).map callerPointer)) owned.state.spanCount
      (numberCopies done owned.created)
    rw [copies, numberCopies_blocks] at read
    change pass.freed ++ _ = pass.made
    rw [stage.freed, stage.made, List.nil_append, ← read]
    apply List.flatMap_congr
    intro index member
    have below := (List.mem_range'_1.mp member).2
    change (Function.update pass.pointers _ .null _).blocks = _
    rw [Function.update_of_ne (by omega), stage.pointers]

/-- The loop from a stage on: it completes the batch, or rolls back at the
first span whose duplication fails. -/
theorem duplicateSlots_spec {spans : List TraceSpan} (index : Nat)
    (stage : Stage owned spans done pass) (split : spans = done ++ rest)
    (length : index = done.length)
    (fine : ∀ earlier < done.length,
      (spans.getD earlier zeroedSpan).attributes ≠ none →
        duplicated earlier = true) :
    match failedCopy duplicated spans with
    | none =>
        (duplicateSlots duplicated owned.state.spanCount index rest pass).2 =
            true ∧
          Stage owned spans spans (duplicateSlots duplicated
            owned.state.spanCount index rest pass).1
    | some failed =>
        (duplicateSlots duplicated owned.state.spanCount index rest pass).2 =
            false ∧
          Rolled owned spans failed (duplicateSlots duplicated
            owned.state.spanCount index rest pass).1 := by
  subst length
  induction rest generalizing done pass with
  | nil =>
      rw [List.append_nil] at split
      subst split
      have all : failedCopy duplicated spans = none := by
        unfold failedCopy
        rw [List.find?_eq_none]
        intro earlier member
        have given := fine earlier (List.mem_range.mp member)
        simpa using given
      rw [all]
      exact ⟨rfl, stage⟩
  | cons span rest ih =>
      subst split
      have later : (done ++ [span]).length = done.length + 1 :=
        List.length_append
      have here : (done ++ span :: rest).getD done.length zeroedSpan = span := by
        rw [List.getD_append_right _ _ _ _ (Nat.le_refl _), Nat.sub_self]
        rfl
      have again : done ++ span :: rest = (done ++ [span]) ++ rest := by
        rw [List.append_assoc]
        rfl
      -- Everything up to the span is fine once the span itself is.
      have extends_ : (span.attributes ≠ none → duplicated done.length = true) →
          ∀ earlier < (done ++ [span]).length,
            ((done ++ span :: rest).getD earlier zeroedSpan).attributes ≠
              none → duplicated earlier = true := by
        intro current earlier below
        rcases Nat.lt_succ_iff_lt_or_eq.mp (later ▸ below) with before | same
        · exact fine earlier before
        · subst same
          rw [here]
          exact current
      rw [duplicateSlots]
      by_cases bare : span.attributes = none
      · rw [if_pos bare, ← later]
        exact ih (stage.null bare) again
          (extends_ fun given => absurd bare given)
      · rw [if_neg bare]
        cases granted : duplicated done.length with
        | true =>
            rw [if_pos rfl, ← later]
            exact ih (stage.duplicate bare) again (extends_ fun _ => granted)
        | false =>
            have first : failedCopy duplicated (done ++ span :: rest) =
                some done.length := by
              unfold failedCopy
              rw [List.find?_range_eq_some]
              refine ⟨?_, ?_, ?_⟩
              · rw [here, granted]
                simpa using bare
              · rw [List.mem_range, List.length_append, List.length_cons]
                omega
              · intro earlier below
                have given := fine earlier below
                simpa [or_iff_not_imp_left] using given
            rw [first, if_neg (by decide)]
            exact ⟨rfl, stage.rolled⟩

end Loop

/-! ### The pass of a query -/

section Collecting

variable {created : Nat} {pass : CollectPass} {copy : CopyPass}
  {span : TraceSpan}

/-- The entries so far, with the duplicates made for them; a pass that failed
has freed all of them and then the array. -/
structure Collected (created : Nat) (pass : CollectPass) (copy : CopyPass) :
    Prop where
  filled : pass.filled = copy.filled
  result : pass.result = copy.result
  failed : pass.failed = copy.failed
  pointers : (List.range pass.filled).map pass.pointers =
    numberCopies copy.copied created
  counted : pass.created = created + attributed copy.copied
  made : pass.made =
    .array :: duplicatesFrom created (attributed copy.copied)
  freed : pass.freed =
    if pass.failed then
      duplicatesFrom created (attributed copy.copied) ++ [.array]
    else []

/-- The copy pass with one more entry. -/
def CopyPass.fill (span : TraceSpan) (copy : CopyPass) : CopyPass :=
  { filled := copy.filled + 1
    result := Function.update copy.result copy.filled span
    failed := false }

theorem copied_fill : (copy.fill span).copied = copy.copied ++ [span] :=
  map_range_update copy.result copy.filled span

/-- One more entry, whose attribute pointer is this one. -/
theorem Collected.filledWith (collected : Collected created pass copy)
    (running : copy.failed = false) {pointer : Pointer} :
    (pass.fill span pointer).filled = (copy.fill span).filled ∧
      (pass.fill span pointer).result = (copy.fill span).result ∧
      (pass.fill span pointer).failed = false ∧
      (List.range (pass.fill span pointer).filled).map
          (pass.fill span pointer).pointers =
        numberCopies copy.copied created ++ [pointer] ∧
      (pass.fill span pointer).freed = [] := by
  have stopped : pass.failed = false := collected.failed.trans running
  refine ⟨congrArg (· + 1) collected.filled, ?_, stopped, ?_, ?_⟩
  · change Function.update pass.result pass.filled span = _
    rw [collected.result, collected.filled]
    rfl
  · change (List.range (pass.filled + 1)).map
      (Function.update pass.pointers pass.filled pointer) = _
    rw [map_range_update, collected.pointers]
  · change pass.freed = []
    rw [collected.freed, stopped]
    rfl

theorem Collected.null (collected : Collected created pass copy)
    (running : copy.failed = false) (bare : span.attributes = none) :
    Collected created (pass.fill span .null) (copy.fill span) := by
  obtain ⟨filled, result, failed, pointers, freed⟩ :=
    @Collected.filledWith created pass copy span collected running .null
  have count : attributed (copy.fill span).copied = attributed copy.copied := by
    rw [copied_fill, attributed_concat, if_pos bare]
    rfl
  refine ⟨filled, result, failed, ?_, ?_, ?_, ?_⟩
  · rw [pointers, copied_fill, numberCopies_concat, if_pos bare]
  · rw [count]
    exact collected.counted
  · rw [count]
    exact collected.made
  · rw [freed, failed]
    rfl

theorem Collected.duplicate (collected : Collected created pass copy)
    (running : copy.failed = false) (given : span.attributes ≠ none) :
    Collected created
      { pass.fill span (.copy pass.created) with
        created := pass.created + 1
        made := pass.made ++ [.duplicate pass.created] } (copy.fill span) := by
  obtain ⟨filled, result, failed, pointers, freed⟩ :=
    @Collected.filledWith created pass copy span collected running
      (.copy pass.created)
  have count : attributed (copy.fill span).copied =
      attributed copy.copied + 1 := by
    rw [copied_fill, attributed_concat, if_neg given]
  refine ⟨filled, result, failed, ?_, ?_, ?_, ?_⟩
  · change (List.range (pass.fill span (.copy pass.created)).filled).map
      (pass.fill span (.copy pass.created)).pointers = _
    rw [pointers, copied_fill, numberCopies_concat, if_neg given,
      collected.counted]
  · rw [count, ← Nat.add_assoc, ← collected.counted]
  · change pass.made ++ [.duplicate pass.created] = _
    unfold duplicatesFrom
    rw [collected.made, collected.counted, count, List.range'_concat,
      List.map_append, Nat.one_mul]
    rfl
  · change (pass.fill span (.copy pass.created)).freed = _
    rw [freed, failed]
    rfl

/-- The failing duplication frees the entries and the array. -/
theorem Collected.abort (collected : Collected created pass copy)
    (running : copy.failed = false) :
    Collected created pass.abort { copy with failed := true } := by
  have stopped : pass.failed = false := collected.failed.trans running
  refine ⟨collected.filled, collected.result, rfl, collected.pointers,
    collected.counted, collected.made, ?_⟩
  have none_ : pass.freed = [] := by
    rw [collected.freed, stopped]
    rfl
  have blocks : (List.range pass.filled).flatMap
      (fun index => (pass.pointers index).blocks) =
        duplicatesFrom created (attributed copy.copied) := by
    rw [← numberCopies_blocks, ← collected.pointers, List.flatMap_map]
  change pass.freed ++ _ ++ [.array] = duplicatesFrom created _ ++ [.array]
  rw [none_, blocks]
  rfl

theorem collected_pass (duplicated : Nat → Bool) (wanted : TraceSpan → Bool)
    (slots : Nat → TraceSpan) (created bound : Nat) :
    Collected created (collectPass duplicated wanted slots created bound)
      (copyPass duplicated wanted slots bound) := by
  induction bound with
  | zero => exact ⟨rfl, rfl, rfl, rfl, rfl, rfl, rfl⟩
  | succ bound ih =>
      simp only [collectPass, copyPass, ih.failed]
      by_cases failed : (copyPass duplicated wanted slots bound).failed = true
      · rw [if_pos failed, if_pos failed]
        exact ih
      rw [if_neg failed, if_neg failed]
      have running := Bool.not_eq_true _ ▸ failed
      by_cases other : wanted (slots bound) = false
      · rw [if_pos other, if_pos other]
        exact ih
      rw [if_neg other, if_neg other]
      by_cases bare : (slots bound).attributes = none
      · rw [if_pos bare, if_neg fun both => both.1 bare]
        exact ih.null running bare
      rw [if_neg bare]
      by_cases refused : duplicated bound = false
      · rw [if_pos refused, if_pos ⟨bare, refused⟩]
        exact ih.abort running
      · rw [if_neg refused, if_neg fun both => refused both.2]
        exact ih.duplicate running bare

end Collecting

/-! ### Each call -/

/-- What a failed call has to leave: the counter and the slots below it, and
every block that it made freed once.  A query that found nothing or ran out of
memory says so in both variables as well. -/
structure Restored (before : OwnedTrace) (after : CallOutcome) : Prop where
  counter : after.owned.state.spanCount = before.state.spanCount
  slots : ∀ slot < before.state.spanCount,
    after.owned.state.slots slot = before.state.slots slot ∧
      after.owned.pointers slot = before.pointers slot
  freed : after.freed.Perm after.made
  once : after.made.Nodup
  outputs : ∀ stored, after.outputs = some stored →
    after.error = .errNotFound ∨ after.error = .errOutOfMemory →
      stored = (none, 0)

theorem restored_bare (owned : OwnedTrace) (error : HeapstoreError) :
    Restored owned (.bare owned error) where
  counter := rfl
  slots _ _ := ⟨rfl, rfl⟩
  freed := List.Perm.refl _
  once := List.nodup_nil
  outputs := nofun

theorem duplicatesFrom_nodup (first count : Nat) :
    (duplicatesFrom first count).Nodup :=
  List.Nodup.map (fun _ _ same => Block.duplicate.inj same) List.nodup_range'

theorem numbers_duplicatesFrom (first count : Nat) :
    (duplicatesFrom first count).filterMap Block.number =
      List.range' first count := by
  unfold duplicatesFrom
  rw [List.filterMap_map]
  exact List.filterMap_some

section Calls

variable {owned : OwnedTrace}

theorem ownedWriteSpan_failed {duplicated : Bool} {span : Option TraceSpan}
    (failed : (ownedWriteSpan duplicated span owned).2 ≠ .success) :
    (ownedWriteSpan duplicated span owned).1.created = owned.created ∧
      (ownedWriteSpan duplicated span owned).1.state.spanCount =
        owned.state.spanCount ∧
      ∀ slot < owned.state.spanCount,
        (ownedWriteSpan duplicated span owned).1.state.slots slot =
            owned.state.slots slot ∧
          (ownedWriteSpan duplicated span owned).1.pointers slot =
            owned.pointers slot := by
  unfold ownedWriteSpan at failed ⊢
  simp only at failed ⊢
  split
  · exact ⟨rfl, rfl, fun _ _ => ⟨rfl, rfl⟩⟩
  · next ready =>
      rw [if_neg ready] at failed
      cases span with
      | none => exact ⟨rfl, rfl, fun _ _ => ⟨rfl, rfl⟩⟩
      | some span =>
          simp only at failed ⊢
          split
          · exact ⟨rfl, rfl, fun _ _ => ⟨rfl, rfl⟩⟩
          split
          · exact ⟨rfl, rfl, fun _ _ => ⟨rfl, rfl⟩⟩
          split
          · next named room bare =>
              rw [if_neg named, if_neg room, if_pos bare] at failed
              exact absurd rfl failed
          split
          · -- Only the slot behind the counter was written.
            refine ⟨rfl, rfl, fun slot below => ⟨?_, ?_⟩⟩
            · exact Function.update_of_ne (Nat.ne_of_lt below) ..
            · exact Function.update_of_ne (Nat.ne_of_lt below) ..
          · next named room given granted =>
              rw [if_neg named, if_neg room, if_neg given,
                if_neg granted] at failed
              exact absurd rfl failed

theorem blocksWriteSpan_restored {duplicated : Bool} {span : Option TraceSpan}
    (failed : (blocksWriteSpan duplicated span owned).error ≠ .success) :
    Restored owned (blocksWriteSpan duplicated span owned) := by
  obtain ⟨created, counter, slots⟩ := ownedWriteSpan_failed failed
  have nothing : (blocksWriteSpan duplicated span owned).made = [] := by
    change duplicatesFrom owned.created
      ((ownedWriteSpan duplicated span owned).1.created - owned.created) = []
    rw [created, Nat.sub_self]
    rfl
  refine ⟨counter, slots, ?_, ?_, nofun⟩
  · rw [nothing]
    exact List.Perm.refl _
  · rw [nothing]
    exact List.nodup_nil

/-- The first stage: the batch is copied, and no duplicate made. -/
theorem stage_copied (owned : OwnedTrace) (spans : List TraceSpan) :
    Stage owned spans []
      { slots := copySlots owned.state.slots owned.state.spanCount spans
        pointers := pasted owned.pointers owned.state.spanCount
          (spans.map callerPointer)
        created := owned.created
        made := []
        freed := [] } := by
  refine ⟨rfl, ?_, rfl, rfl, rfl⟩
  funext slot
  exact (pasted_outside (by
    change slot < owned.state.spanCount ∨ owned.state.spanCount + 0 ≤ slot
    omega)).symm

/-- The batch write by its outcome: nothing was copied, the batch was taken, or
it was rolled back. -/
theorem blocksWriteSpansBatch_cases (duplicated : Nat → Bool)
    (batch : Option SpanArray) (owned : OwnedTrace) :
    (∃ error, error ≠ .success ∧
        blocksWriteSpansBatch duplicated batch owned = .bare owned error ∧
        ownedWriteSpansBatch duplicated batch owned = (owned, error)) ∨
      (blocksWriteSpansBatch duplicated batch owned).error = .success ∧
        (ownedWriteSpansBatch duplicated batch owned).2 = .success ∧
        (blocksWriteSpansBatch duplicated batch owned).owned =
          (ownedWriteSpansBatch duplicated batch owned).1 ∨
      ∃ given failed pass, Rolled owned given failed pass ∧
        (blocksWriteSpansBatch duplicated batch owned).error =
          .errOutOfMemory ∧
        (blocksWriteSpansBatch duplicated batch owned).owned =
          (ownedWriteSpansBatch duplicated batch owned).1 ∧
        (ownedWriteSpansBatch duplicated batch owned).2 = .errOutOfMemory ∧
        (blocksWriteSpansBatch duplicated batch owned).made = pass.made ∧
        (blocksWriteSpansBatch duplicated batch owned).freed = pass.freed ∧
        (blocksWriteSpansBatch duplicated batch owned).outputs = none ∧
        (blocksWriteSpansBatch duplicated batch owned).owned.state.spanCount =
          owned.state.spanCount ∧
        (blocksWriteSpansBatch duplicated batch owned).owned.state.slots =
          pass.slots ∧
        (blocksWriteSpansBatch duplicated batch owned).owned.pointers =
          pass.pointers := by
  unfold blocksWriteSpansBatch ownedWriteSpansBatch
  simp only
  split
  · exact Or.inl ⟨_, by decide, rfl, rfl⟩
  · cases batch with
    | none => exact Or.inl ⟨_, by decide, rfl, rfl⟩
    | some batch =>
        simp only
        split
        · exact Or.inl ⟨_, by decide, rfl, rfl⟩
        split
        · exact Or.inl ⟨_, by decide, rfl, rfl⟩
        · have looped := @duplicateSlots_spec owned duplicated [] batch.spans
            _ batch.spans 0 (stage_copied owned batch.spans) rfl rfl
            fun _ none_ => absurd none_ (Nat.not_lt_zero _)
          cases copies : failedCopy duplicated batch.spans with
          | none =>
              rw [copies] at looped
              obtain ⟨whole, stage⟩ := looped
              refine Or.inr (Or.inl ?_)
              rw [if_pos whole]
              refine ⟨rfl, rfl, ?_⟩
              simp only [stage.slots, stage.pointers, stage.created,
                stage.freed]
              rw [List.filterMap_nil, List.append_nil]
          | some failed =>
              rw [copies] at looped
              obtain ⟨cut, rolled⟩ := looped
              refine Or.inr (Or.inr ⟨batch.spans, failed, _, rolled, ?_⟩)
              rw [if_neg (by rw [cut]; decide)]
              refine ⟨rfl, ?_, rfl, rfl, rfl, rfl, rfl, rfl, rfl⟩
              simp only [rolled.slots, rolled.pointers, rolled.created,
                rolled.freed, rolled.made, numbers_duplicatesFrom,
                numberCopies_duplicates]

theorem blocksWriteSpansBatch_owned (duplicated : Nat → Bool)
    (batch : Option SpanArray) (owned : OwnedTrace) :
    (blocksWriteSpansBatch duplicated batch owned).owned =
        (ownedWriteSpansBatch duplicated batch owned).1 ∧
      (blocksWriteSpansBatch duplicated batch owned).error =
        (ownedWriteSpansBatch duplicated batch owned).2 := by
  rcases blocksWriteSpansBatch_cases duplicated batch owned with
    ⟨error, _, blocks, plain⟩ | ⟨error, code, same⟩ |
      ⟨_, _, _, _, error, same, code, _⟩
  · rw [blocks, plain]
    exact ⟨rfl, rfl⟩
  · exact ⟨same, error.trans code.symm⟩
  · exact ⟨same, error.trans code.symm⟩

theorem blocksWriteSpansBatch_restored {duplicated : Nat → Bool}
    {batch : Option SpanArray}
    (failed : (blocksWriteSpansBatch duplicated batch owned).error ≠ .success) :
    Restored owned (blocksWriteSpansBatch duplicated batch owned) := by
  rcases blocksWriteSpansBatch_cases duplicated batch owned with
    ⟨error, _, blocks, _⟩ | ⟨error, _⟩ |
      ⟨given, index, pass, rolled, _, _, _, made, freed, outputs, counter,
        slots, pointers⟩
  · rw [blocks]
    exact restored_bare owned error
  · exact absurd error failed
  · refine ⟨counter, ?_, ?_, ?_, ?_⟩
    · intro slot below
      rw [slots, pointers, rolled.slots, rolled.pointers]
      exact ⟨copySlots_outside (Or.inl below),
        (pasted_outside (Or.inl below)).trans (pasted_outside (Or.inl below))⟩
    · rw [freed, made, rolled.freed]
    · rw [made, rolled.made]
      exact duplicatesFrom_nodup _ _
    · rw [outputs]
      nofun

/-- `spans_collect` by the outcome of its passes. -/
theorem blocksCollect_owned (allocated : Bool) (duplicated : Nat → Bool)
    (wanted : TraceSpan → Bool) (owned : OwnedTrace) :
    (blocksCollect allocated duplicated wanted owned).owned =
        (ownedCollect allocated duplicated wanted owned).1 ∧
      (blocksCollect allocated duplicated wanted owned).error =
        (ownedCollect allocated duplicated wanted owned).2.error ∧
      (blocksCollect allocated duplicated wanted owned).outputs =
        some ((ownedCollect allocated duplicated wanted owned).2.spans,
          (ownedCollect allocated duplicated wanted owned).2.count) := by
  have pass := collected_pass duplicated wanted owned.state.slots owned.created
    owned.state.spanCount
  unfold blocksCollect ownedCollect spansCollect
  simp only
  by_cases empty : matchCount wanted owned.state.slots
      owned.state.spanCount = 0
  · rw [if_pos empty, if_pos (Or.inl empty), if_pos empty]
    exact ⟨rfl, rfl, rfl⟩
  rw [if_neg empty]
  by_cases refused : allocated = false
  · rw [if_pos refused, if_pos (Or.inr refused), if_neg empty, if_pos refused]
    exact ⟨rfl, rfl, rfl⟩
  rw [if_neg refused, if_neg (not_or.mpr ⟨empty, refused⟩), if_neg empty,
    if_neg refused]
  have made := numbers_duplicatesFrom owned.created
    (attributed (copyPass duplicated wanted owned.state.slots
      owned.state.spanCount).copied)
  simp only [pass.failed, pass.counted, pass.freed, pass.made, pass.result,
    numberCopies_duplicates]
  have array : ∀ rest : List Block,
      (Block.array :: rest).filterMap Block.number =
        rest.filterMap Block.number := fun _ => List.filterMap_cons_none rfl
  by_cases failed : (copyPass duplicated wanted owned.state.slots
      owned.state.spanCount).failed = true
  · simp only [if_pos failed, List.filterMap_append, made, array,
      List.filterMap_nil, List.append_nil, and_self]
  · simp only [if_neg failed, made, array, List.filterMap_nil,
      List.append_nil, and_self]

theorem blocksCollect_restored {allocated : Bool} {duplicated : Nat → Bool}
    {wanted : TraceSpan → Bool}
    (failed : (blocksCollect allocated duplicated wanted owned).error ≠
      .success) :
    Restored owned (blocksCollect allocated duplicated wanted owned) := by
  have pass := collected_pass duplicated wanted owned.state.slots owned.created
    owned.state.spanCount
  unfold blocksCollect at failed ⊢
  simp only at failed ⊢
  have nothing : ∀ error, Restored owned
      { CallOutcome.bare owned error with outputs := some (none, 0) } := by
    intro error
    refine ⟨rfl, fun _ _ => ⟨rfl, rfl⟩, List.Perm.refl _, List.nodup_nil, ?_⟩
    rintro stored ⟨rfl⟩ _
    rfl
  split
  · exact nothing .errNotFound
  split
  · exact nothing .errOutOfMemory
  split
  · next stopped =>
      refine ⟨rfl, fun _ _ => ⟨rfl, rfl⟩, ?_, ?_, ?_⟩
      · change (collectPass _ _ _ _ _).freed.Perm (collectPass _ _ _ _ _).made
        rw [pass.freed, pass.made, if_pos stopped]
        exact List.perm_append_singleton _ _
      · change (collectPass _ _ _ _ _).made.Nodup
        rw [pass.made, List.nodup_cons]
        refine ⟨?_, duplicatesFrom_nodup _ _⟩
        intro member
        obtain ⟨_, _, other⟩ := List.mem_map.mp member
        cases other
      · rintro stored ⟨rfl⟩ _
        rfl
  · next empty granted whole =>
      rw [if_neg empty, if_neg granted, if_neg whole] at failed
      exact absurd rfl failed

/-- A call that was refused before the lock leaves everything. -/
theorem restored_untouched (calls : QueryCalls) (owned : OwnedTrace)
    {error : HeapstoreError} (other : error ≠ .errNotFound)
    (another : error ≠ .errOutOfMemory) :
    Restored owned (blocksUntouched calls owned error) := by
  refine ⟨rfl, fun _ _ => ⟨rfl, rfl⟩, List.Perm.refl _, List.nodup_nil, ?_⟩
  rintro stored _ (notFound | noMemory)
  · exact absurd notFound other
  · exact absurd noMemory another

/-- The step by step calls are the calls that own the duplicates. -/
theorem blocksCall_owned (clock : LocalClock) (owned : OwnedTrace) :
    (∀ duplicated span,
      (blocksCall owned (.writeSpan duplicated span)).owned =
        (ownedStep clock owned (.buffer (.writeSpan duplicated span))).1) ∧
    (∀ duplicated batch,
      (blocksCall owned (.writeSpansBatch duplicated batch)).owned =
        (ownedStep clock owned
          (.buffer (.writeSpansBatch duplicated batch))).1) ∧
    (∀ calls traceId outs,
      (blocksCall owned (.queryByTrace calls traceId outs)).owned =
        (ownedStep clock owned
          (.buffer (.queryByTrace calls traceId outs))).1) ∧
    ∀ calls startTime endTime outs,
      (blocksCall owned
          (.queryByTimeRange calls startTime endTime outs)).owned =
        (ownedStep clock owned
          (.buffer (.queryByTimeRange calls startTime endTime outs))).1 := by
  refine ⟨fun _ _ => rfl, fun duplicated batch =>
    (blocksWriteSpansBatch_owned duplicated batch owned).1, ?_, ?_⟩
  · intro calls traceId outs
    change (blocksQueryByTrace calls traceId outs owned).owned =
      (ownedQueryByTrace calls traceId outs owned).1
    unfold blocksQueryByTrace ownedQueryByTrace
    split
    · rfl
    · cases traceId with
      | none => rfl
      | some traceId =>
          simp only
          split
          · rfl
          · exact (blocksCollect_owned ..).1
  · intro calls startTime endTime outs
    change (blocksQueryByTimeRange calls startTime endTime outs owned).owned =
      (ownedQueryByTimeRange calls startTime endTime outs owned).1
    unfold blocksQueryByTimeRange ownedQueryByTimeRange
    split
    · rfl
    split
    · rfl
    · exact (blocksCollect_owned ..).1

theorem blocksQuery_restored (calls : QueryCalls) (wanted : TraceSpan → Bool)
    {outs : Bool} {refused : HeapstoreError}
    (other : refused ≠ .errNotFound) (another : refused ≠ .errOutOfMemory)
    (failed : (if outs = false then blocksUntouched calls owned refused
      else blocksCollect calls.allocated calls.duplicated wanted
        owned).error ≠ .success) :
    Restored owned (if outs = false then blocksUntouched calls owned refused
      else blocksCollect calls.allocated calls.duplicated wanted owned) := by
  by_cases missing : outs = false
  · rw [if_pos missing]
    exact restored_untouched calls owned other another
  · rw [if_neg missing] at failed ⊢
    exact blocksCollect_restored failed

end Calls

/-- Every call that returns an error, whichever allocations failed: the counter
and the buffered spans stay, every block that the call made is freed once, and
a query without a result clears its outputs. -/
theorem failed_call_restores (owned : OwnedTrace) (call : FallibleCall)
    (failed : (blocksCall owned call).error ≠ .success) :
    Restored owned (blocksCall owned call) := by
  cases call with
  | writeSpan duplicated span => exact blocksWriteSpan_restored failed
  | writeSpansBatch duplicated batch =>
      exact blocksWriteSpansBatch_restored failed
  | queryByTrace calls traceId outs =>
      simp only [blocksCall, blocksQueryByTrace] at failed ⊢
      split
      · exact restored_untouched calls owned (by decide) (by decide)
      · next ready =>
          rw [if_neg ready] at failed
          cases traceId with
          | none => exact restored_untouched calls owned (by decide) (by decide)
          | some traceId =>
              exact blocksQuery_restored calls _ (by decide) (by decide) failed
  | queryByTimeRange calls startTime endTime outs =>
      simp only [blocksCall, blocksQueryByTimeRange] at failed ⊢
      split
      · exact restored_untouched calls owned (by decide) (by decide)
      · next ready =>
          rw [if_neg ready] at failed
          exact blocksQuery_restored calls _ (by decide) (by decide) failed

/-- Two spans with attributes. -/
def attributedPair : SpanArray where
  spans :=
    [{ zeroedSpan with attributes := some (ofString "a") },
      { zeroedSpan with attributes := some (ofString "b") }]
  fits := by
    change 2 * 448 < 2 ^ 64
    omega

/-- The second duplication of a batch fails after the first was made. -/
theorem failed_call_restores_second :
    (blocksCall (ownedStart [] fun _ => none)
        (.writeSpansBatch (fun index => decide (index = 0))
          (some attributedPair))).made = [.duplicate 0] ∧
      Restored (ownedStart [] fun _ => none)
        (blocksCall (ownedStart [] fun _ => none)
          (.writeSpansBatch (fun index => decide (index = 0))
            (some attributedPair))) :=
  ⟨by decide, failed_call_restores _ _ (by decide)⟩

end Heapstore.Trace
