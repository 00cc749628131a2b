/-
The pools and allocations of the memory record module.

Both tables are arrays with a counter, scanned by id from the front: recording
overwrites the entry with the id or appends one, a usage update or a free
rewrites some fields of an entry in place.  The functions of the two tables
share their bodies through a descriptor.  The clock is an argument.
-/

import Heapstore.Foundation.KeyedList
import Heapstore.Foundation.OperationRun
import Heapstore.MemoryTables

namespace Heapstore.Memory

open ByteText OperationRun

def memoryMaxPools : Nat := 64

def memoryMaxAllocations : Nat := 10000

/-- A table of the module: its capacity, its entries and their ids.  The laws
say that a write to the entries of one table is a write to nothing else. -/
structure RecordTable (Record : Type) where
  limit : Nat
  recId : Record → Bytes
  rows : MemoryState → List Record
  assign : MemoryState → List Record → MemoryState
  rows_assign : ∀ state rows_, rows (assign state rows_) = rows_
  initialized_assign : ∀ state rows_,
    (assign state rows_).initialized = state.initialized

def poolTable : RecordTable MemoryPool where
  limit := memoryMaxPools
  recId pool := pool.poolId.text
  rows := MemoryState.pools
  assign state rows := { state with pools := rows }
  rows_assign _ _ := rfl
  initialized_assign _ _ := rfl

def allocationTable : RecordTable MemoryAllocation where
  limit := memoryMaxAllocations
  recId allocation := allocation.allocationId.text
  rows := MemoryState.allocations
  assign state rows := { state with allocations := rows }
  rows_assign _ _ := rfl
  initialized_assign _ _ := rfl

variable {Record : Type}

/-- The body of the two record functions.  The capacity is checked before the
entries are scanned. -/
def recordRow (t : RecordTable Record) (record : Option Record)
    (state : MemoryState) : MemoryState × HeapstoreError :=
  if state.initialized = false then (state, .errNotInitialized)
  else
    match record with
    | none => (state, .errInvalidParam)
    | some record =>
        if t.recId record = [] then (state, .errInvalidParam)
        else if t.limit ≤ (t.rows state).length then (state, .errOutOfMemory)
        else
          match KeyedList.changeFirst t.recId (t.recId record)
              (fun _ => record) (t.rows state) with
          | some rows => (t.assign state rows, .success)
          | none => (t.assign state (t.rows state ++ [record]), .success)

/-- The body of the two getters; `out` is whether the caller passed a place for
the copy. -/
def getRow (t : RecordTable Record) (id : Option Bytes) (out : Bool)
    (state : MemoryState) : HeapstoreError × Option Record :=
  if state.initialized = false then (.errNotInitialized, none)
  else
    match id with
    | none => (.errInvalidParam, none)
    | some id =>
        if out = false then (.errInvalidParam, none)
        else
          match KeyedList.lookup t.recId (t.rows state) id with
          | some record => (.success, some record)
          | none => (.errNotFound, none)

/-- The body of the functions that rewrite fields of one entry. -/
def changeRow (t : RecordTable Record) (change : Record → Record)
    (id : Option Bytes) (state : MemoryState) :
    MemoryState × HeapstoreError :=
  if state.initialized = false then (state, .errNotInitialized)
  else
    match id with
    | none => (state, .errInvalidParam)
    | some id =>
        match KeyedList.changeFirst t.recId id change (t.rows state) with
        | some rows => (t.assign state rows, .success)
        | none => (state, .errNotFound)

def memoryRecordPool := recordRow poolTable
def memoryGetPool := getRow poolTable

def withUsage (usedSize : UInt64) (freeBlockCount : UInt32)
    (pool : MemoryPool) : MemoryPool :=
  { pool with usedSize := usedSize, freeBlockCount := freeBlockCount }

def memoryUpdatePoolUsage (id : Option Bytes) (usedSize : UInt64)
    (freeBlockCount : UInt32) : MemoryState → MemoryState × HeapstoreError :=
  changeRow poolTable (withUsage usedSize freeBlockCount) id

/-- `heapstore_mem_record`. -/
def memRecord := recordRow allocationTable
def memoryGetAllocation := getRow allocationTable

def freedAt (now : UInt64) (allocation : MemoryAllocation) :
    MemoryAllocation :=
  { allocation with
    freedAt := now
    status := CharArray.copy (ofString "freed") }

def memoryFreeAllocation (now : UInt64) (id : Option Bytes) :
    MemoryState → MemoryState × HeapstoreError :=
  changeRow allocationTable (freedAt now) id

/-! ### What one call does to a table -/

def RecordTable.entry (t : RecordTable Record) (state : MemoryState)
    (id : Bytes) : Option Record :=
  KeyedList.lookup t.recId (t.rows state) id

/-- The invariant of a table: distinct, non-empty ids within the capacity. -/
structure RecordTable.Sound (t : RecordTable Record) (state : MemoryState) :
    Prop where
  distinct : KeyedList.Distinct t.recId (t.rows state)
  named : ∀ row ∈ t.rows state, t.recId row ≠ []
  bounded : (t.rows state).length ≤ t.limit

/-- A call either fails and changes nothing, or writes one entry. -/
def RowOutcome (t : RecordTable Record) (before : MemoryState)
    (result : MemoryState × HeapstoreError) (id : Option Bytes)
    (write : Option Record → Option Record) : Prop :=
  (result.2 ≠ .success ∧ result.1 = before) ∨
    (result.2 = .success ∧ ∃ written rows, id = some written ∧
      result.1 = t.assign before rows ∧
      (t.Sound before → t.Sound result.1) ∧
      t.entry result.1 =
        Function.update (t.entry before) written
          (write (t.entry before written)))

theorem RowOutcome.refused {t : RecordTable Record} {before : MemoryState}
    {error : HeapstoreError} {id : Option Bytes}
    {write : Option Record → Option Record} (failed : error ≠ .success) :
    RowOutcome t before (before, error) id write :=
  Or.inl ⟨failed, rfl⟩

theorem RowOutcome.congr {t : RecordTable Record} {before : MemoryState}
    {result : MemoryState × HeapstoreError} {id : Option Bytes}
    {first second : Option Record → Option Record}
    (outcome : RowOutcome t before result id first)
    (same : ∀ written, id = some written →
      first (t.entry before written) = second (t.entry before written)) :
    RowOutcome t before result id second := by
  rcases outcome with failed | ⟨succeeded, written, rows, named, wrote, sound,
    entries⟩
  · exact Or.inl failed
  · rw [same written named] at entries
    exact Or.inr ⟨succeeded, written, rows, named, wrote, sound, entries⟩

section Rows

variable {t : RecordTable Record} {state : MemoryState}

/-- Entries with the same ids, as a rewrite leaves them. -/
theorem RecordTable.Sound.sameIds {rows : List Record} (sound : t.Sound state)
    (same : rows.map t.recId = (t.rows state).map t.recId) :
    t.Sound (t.assign state rows) := by
  constructor
  · unfold KeyedList.Distinct
    rw [t.rows_assign, same]
    exact sound.distinct
  · rw [t.rows_assign]
    intro row member
    have carried : t.recId row ∈ (t.rows state).map t.recId :=
      same ▸ List.mem_map_of_mem member
    obtain ⟨old, present, equal⟩ := List.mem_map.mp carried
    rw [← equal]
    exact sound.named old present
  · have lengths := congrArg List.length same
    rw [List.length_map, List.length_map] at lengths
    rw [t.rows_assign, lengths]
    exact sound.bounded

theorem RecordTable.Sound.appended {record : Record} (sound : t.Sound state)
    (named : t.recId record ≠ []) (room : (t.rows state).length < t.limit)
    (absent : t.entry state (t.recId record) = none) :
    t.Sound (t.assign state (t.rows state ++ [record])) := by
  have fresh := (KeyedList.lookup_eq_none_iff t.recId _ _).mp absent
  constructor
  · unfold KeyedList.Distinct
    rw [t.rows_assign, List.map_append, List.map_singleton]
    exact List.nodup_append.mpr ⟨sound.distinct, List.nodup_singleton _,
      fun id carried other last equal => by
        rw [List.mem_singleton.mp last] at equal
        exact fresh (equal ▸ carried)⟩
  · rw [t.rows_assign]
    intro row member
    rcases List.mem_append.mp member with old | new
    · exact sound.named row old
    · rw [List.mem_singleton.mp new]
      exact named
  · rw [t.rows_assign, List.length_append]
    exact room

/-- Rewriting an entry in place, without a change of its id. -/
theorem changed_outcome {change : Record → Record} {id : Bytes}
    {rows : List Record}
    (keeps : ∀ row, t.recId row = id → t.recId (change row) = id)
    (changed : KeyedList.changeFirst t.recId id change (t.rows state) =
      some rows) :
    RowOutcome t state (t.assign state rows, .success) (some id)
      (Option.map change) := by
  refine Or.inr ⟨rfl, id, rows, rfl, rfl, fun sound => ?_, ?_⟩
  · exact sound.sameIds (KeyedList.map_key_changeFirst t.recId keeps changed)
  · unfold RecordTable.entry
    rw [t.rows_assign]
    exact KeyedList.lookup_changeFirst t.recId keeps changed

theorem changeRow_outcome (change : Record → Record) (id : Option Bytes)
    (keeps : ∀ row, t.recId (change row) = t.recId row) :
    RowOutcome t state (changeRow t change id state) id
      (Option.map change) := by
  unfold changeRow
  split
  · exact .refused (by decide)
  · cases id with
    | none => exact .refused (by decide)
    | some id =>
        simp only
        cases changed : KeyedList.changeFirst t.recId id change
            (t.rows state) with
        | none => exact .refused (by decide)
        | some rows =>
            exact changed_outcome (fun row same => (keeps row).trans same)
              changed

theorem recordRow_outcome (record : Option Record) :
    RowOutcome t state (recordRow t record state) (record.map t.recId)
      (fun _ => record) := by
  unfold recordRow
  split
  · exact .refused (by decide)
  · cases record with
    | none => exact .refused (by decide)
    | some record =>
        simp only
        split
        · exact .refused (by decide)
        · next named =>
            split
            · exact .refused (by decide)
            · next full =>
                cases changed : KeyedList.changeFirst t.recId
                    (t.recId record) (fun _ => record) (t.rows state) with
                | none =>
                    -- No entry carries the id: the record comes last.
                    have absent :=
                      (KeyedList.changeFirst_eq_none_iff t.recId _ _ _).mp
                        changed
                    refine Or.inr ⟨rfl, t.recId record, _, rfl, rfl,
                      fun sound => sound.appended named
                        (Nat.not_le.mp full) absent, ?_⟩
                    unfold RecordTable.entry
                    rw [t.rows_assign]
                    exact KeyedList.lookup_append_singleton t.recId _ record
                      absent
                | some rows =>
                    have present : t.entry state (t.recId record) ≠ none := by
                      intro absent
                      rw [(KeyedList.changeFirst_eq_none_iff t.recId _ _ _).mpr
                        absent] at changed
                      cases changed
                    obtain ⟨old, held⟩ := Option.ne_none_iff_exists'.mp present
                    apply (changed_outcome (fun _ _ => rfl) changed).congr
                    intro written same
                    cases same
                    rw [held]
                    rfl

theorem getRow_answer (ready : state.initialized = true) (id : Bytes) :
    getRow t (some id) true state =
      match t.entry state id with
      | some record => (.success, some record)
      | none => (.errNotFound, none) := by
  unfold getRow
  rw [if_neg (by rw [ready]; decide)]
  rfl

end Rows

end Heapstore.Memory
