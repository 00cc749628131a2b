/-
The batch context of the sessions, shared by any number of threads.

Its items are cells of a heap, linked by their next pointers.  A step of a
thread is one critical section or one stretch of code outside the lock, so a
call of a function is as many steps as the source has such stretches.  The
item that the allocator gives and the code that the registry returns are
arguments; an item that is in use counts as a failed allocation.
-/

import Heapstore.Foundation.LinkedChain
import Heapstore.Foundation.OperationRun
import Heapstore.Types

namespace Heapstore.Batch

open LinkedChain OperationRun

def heapstoreBatchMaxItems : Nat := 1024

/-- `heapstore_batch_context_t` without its lock. -/
structure BatchContext where
  capacity : Nat
  count : Nat
  head : Option Nat
  tail : Option Nat
  deriving DecidableEq

/-- Where a thread stands: between two calls, or inside one. -/
inductive BatchThread where
  | idle
  | created (record : SessionRecord) (item : Nat)
  | checked (record : SessionRecord) (item : Nat)
  | committing (item : Option Nat) (result : HeapstoreError)
  | releasing (item : Nat) (next : Option Nat) (result : HeapstoreError)
  | discarding (item : Option Nat)

structure BatchState where
  heap : Heap SessionRecord
  context : BatchContext
  threads : Nat → BatchThread

/-- The state after `heapstore_batch_begin`, its allocation granted. -/
def batchBegin (batchSize : Nat) : BatchState where
  heap := fun _ => none
  context :=
    { capacity := min (if batchSize > 0 then batchSize
        else heapstoreBatchMaxItems) heapstoreBatchMaxItems
      count := 0
      head := none
      tail := none }
  threads := fun _ => .idle

/-! ### The functions -/

/-- `batch_item_new`, with the copy of the record into the new item. -/
def batchItemNew (item : Option Nat) (record : SessionRecord)
    (state : BatchState) : Option (Nat × Heap SessionRecord) :=
  if state.context.count ≥ state.context.capacity then none
  else
    match item with
    | none => none
    | some address =>
        if (state.heap address).isSome then none
        else some (address, Function.update state.heap address
          (some { payload := record, next := none }))

/-- The critical section of `batch_append_item`; nothing where the tail points
to no item. -/
def batchAppendItem (item : Nat) (heap : Heap SessionRecord)
    (context : BatchContext) : Option (Heap SessionRecord × BatchContext) :=
  match context.tail with
  | some last =>
      (link heap last item).map fun linked =>
        (linked, { context with
          tail := some item
          count := context.count + 1 })
  | none =>
      some (heap, { context with
        head := some item
        tail := some item
        count := context.count + 1 })

/-- The critical section of `heapstore_batch_commit` and `batch_discard`. -/
def batchDetach (context : BatchContext) : BatchContext :=
  { context with head := none, tail := none, count := 0 }

/-! ### Steps -/

inductive BatchCall where
  | addSession (record : Option SessionRecord) (item : Option Nat)
  | commit
  | discard

/-- A thread enters a function or goes on inside one.  The code is what the
registry returns where the step hands a session over. -/
inductive BatchOp where
  | call (thread : Nat) (call : BatchCall)
  | step (thread : Nat) (err : HeapstoreError)

inductive BatchAnswer where
  | running
  | added (thread : Nat) (record : Option SessionRecord) (error : HeapstoreError)
  | handed (thread : Nat) (record : SessionRecord) (error : HeapstoreError)
  | committed (thread : Nat) (result : HeapstoreError)
  | dropped (thread : Nat) (record : SessionRecord)
  | discarded (thread : Nat)
  | undefined
  deriving DecidableEq

def BatchState.move (state : BatchState) (thread : Nat) (place : BatchThread) :
    BatchState :=
  { state with threads := Function.update state.threads thread place }

def BatchState.free (state : BatchState) (item : Nat) : BatchState :=
  { state with heap := Function.update state.heap item none }

def enterCall (state : BatchState) (thread : Nat) :
    BatchCall → BatchState × BatchAnswer
  | .addSession none _ => (state, .added thread none .errInvalidParam)
  | .addSession (some record) item =>
      match batchItemNew item record state with
      | none => (state, .added thread (some record) .errOutOfMemory)
      | some (address, heap) =>
          ({ state with heap := heap }.move thread (.created record address),
            .running)
  | .commit =>
      ({ state with context := batchDetach state.context }.move thread
        (.committing state.context.head .success), .running)
  | .discard =>
      ({ state with context := batchDetach state.context }.move thread
        (.discarding state.context.head), .running)

/-- One step of a thread inside a function.  An item that is read or freed and
is not allocated makes the behaviour undefined. -/
def threadStep (state : BatchState) (thread : Nat) (err : HeapstoreError) :
    BatchState × BatchAnswer :=
  match state.threads thread with
  | .idle => (state, .running)
  | .created record item =>
      if state.context.count ≥ state.context.capacity then
        if (state.heap item).isNone then (state, .undefined)
        else ((state.free item).move thread .idle,
          .added thread (some record) .errOutOfMemory)
      else (state.move thread (.checked record item), .running)
  | .checked record item =>
      match batchAppendItem item state.heap state.context with
      | none => (state, .undefined)
      | some (heap, context) =>
          ({ state with heap := heap, context := context }.move thread .idle,
            .added thread (some record) .success)
  | .committing none result =>
      (state.move thread .idle, .committed thread result)
  | .committing (some item) result =>
      match state.heap item with
      | none => (state, .undefined)
      | some cell =>
          (state.move thread (.releasing item cell.next
            (if err ≠ .success ∧ result = .success then err else result)),
            .handed thread cell.payload err)
  | .releasing item next result =>
      if (state.heap item).isNone then (state, .undefined)
      else ((state.free item).move thread (.committing next result), .running)
  | .discarding none => (state.move thread .idle, .discarded thread)
  | .discarding (some item) =>
      match state.heap item with
      | none => (state, .undefined)
      | some cell =>
          ((state.free item).move thread (.discarding cell.next),
            .dropped thread cell.payload)

/-- A thread inside a function enters no other. -/
def batchMachine : Machine BatchState BatchOp BatchAnswer :=
  fun state operation =>
    match operation with
    | .call thread call =>
        match state.threads thread with
        | .idle => enterCall state thread call
        | _ => (state, .running)
    | .step thread err => threadStep state thread err

end Heapstore.Batch
