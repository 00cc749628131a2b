/-
The memory record module under threads.

Here the functions are written as the source runs them: the parameters and the
flag are looked at without the lock, then under the lock the counter is read,
the ids are compared from the front, and the entry is copied or assigned to, one
access at a time.  Run alone they are the functions on the whole tables; from
this their interleavings are runs of these functions one after the other.
-/

import Heapstore.Foundation.LockedCalls
import Heapstore.Foundation.SlotArray
import Heapstore.MemoryRecords
import Mathlib.Data.Nat.Find

namespace Heapstore.Memory

open ByteText OperationRun LockedCalls

/-- An array of entries and its counter. -/
structure SlotTable (Record : Type) where
  slots : Nat → Record
  count : Nat

variable {Record : Type}

def SlotTable.rows (table : SlotTable Record) : List Record :=
  (List.range table.count).map table.slots

def SlotTable.put (table : SlotTable Record) (index : Nat) (record : Record) :
    SlotTable Record :=
  { table with slots := Function.update table.slots index record }

/-- What a call is for once it has the lock: a record function, a getter, or
a function that assigns to fields of an entry. -/
inductive RowJob (Record : Type) where
  | record (record : Record)
  | copy (wanted : Bytes)
  | change (wanted : Bytes) (writes : List (Record → Record))

def RowJob.wanted (t : RecordTable Record) : RowJob Record → Bytes
  | .record new => t.recId new
  | .copy wanted | .change wanted _ => wanted

/-- A place in the body under the lock. -/
inductive RowPlace (Record : Type) where
  | room
  | loop (index : Nat)
  | compare (index : Nat)
  | write (index : Nat) (writes : List (Record → Record))
  | copy (index : Nat)
  | append (record : Record)
  | count

def RowJob.enter : RowJob Record → RowPlace Record
  | .record _ => .room
  | .copy _ | .change _ _ => .loop 0

abbrev RowReply (Record : Type) := HeapstoreError × Option Record

def rowAccess (t : RecordTable Record) (job : RowJob Record)
    (place : RowPlace Record) (table : SlotTable Record) :
    SlotTable Record × (RowPlace Record ⊕ RowReply Record) :=
  match place with
  | .room =>
      if t.limit ≤ table.count then (table, .inr (.errOutOfMemory, none))
      else (table, .inl (.loop 0))
  | .loop index =>
      if index < table.count then (table, .inl (.compare index))
      else
        match job with
        | .record record => (table, .inl (.append record))
        | .copy _ | .change _ _ => (table, .inr (.errNotFound, none))
  | .compare index =>
      if t.recId (table.slots index) = job.wanted t then
        match job with
        | .record record => (table, .inl (.write index [fun _ => record]))
        | .copy _ => (table, .inl (.copy index))
        | .change _ writes => (table, .inl (.write index writes))
      else (table, .inl (.loop (index + 1)))
  | .write _ [] => (table, .inr (.success, none))
  | .write index (write :: rest) =>
      (table.put index (write (table.slots index)), .inl (.write index rest))
  | .copy index => (table, .inr (.success, some (table.slots index)))
  | .append record => (table.put table.count record, .inl .count)
  | .count =>
      ({ table with count := table.count + 1 }, .inr (.success, none))

/-- The whole body at once, on the list of the entries. -/
def rowServe (t : RecordTable Record) :
    Machine (List Record) (RowJob Record) (RowReply Record) :=
  fun rows job =>
    match job with
    | .record record =>
        if t.limit ≤ rows.length then (rows, .errOutOfMemory, none)
        else
          match KeyedList.changeFirst t.recId (t.recId record)
              (fun _ => record) rows with
          | some changed => (changed, .success, none)
          | none => (rows ++ [record], .success, none)
    | .copy wanted =>
        match KeyedList.lookup t.recId rows wanted with
        | some record => (rows, .success, some record)
        | none => (rows, .errNotFound, none)
    | .change wanted writes =>
        match KeyedList.changeFirst t.recId wanted
            (fun record => writes.foldl (fun seen write => write seen) record)
            rows with
        | some changed => (changed, .success, none)
        | none => (rows, .errNotFound, none)

section Rows

variable {t : RecordTable Record} {job : RowJob Record}
  {table : SlotTable Record} {out : SlotTable Record × RowReply Record}

theorem SlotTable.length_rows (table : SlotTable Record) :
    table.rows.length = table.count := by
  rw [SlotTable.rows, List.length_map, List.length_range]

/-- The loop passes the entries with other ids. -/
theorem scan_to {index stop : Nat} (before : index ≤ stop)
    (bounded : stop ≤ table.count)
    (unlike : ∀ i < stop, t.recId (table.slots i) ≠ job.wanted t)
    (runs : Runs (rowAccess t job) (.loop stop) table out) :
    Runs (rowAccess t job) (.loop index) table out := by
  obtain ⟨passed, rfl⟩ := Nat.exists_eq_add_of_le before
  induction passed with
  | zero => exact runs
  | succ passed ih =>
      apply ih (Nat.le_add_right ..) (by omega)
        (fun i below => unlike i (by omega))
      have here : index + passed < table.count := by omega
      have other := unlike (index + passed) (by omega)
      have passes : Runs (rowAccess t job) (.compare (index + passed)) table
          out := .more (if_neg other) runs
      exact .more (if_pos here) passes

/-- The assignments to an entry, one after the other. -/
theorem write_all (index : Nat) (writes : List (Record → Record)) :
    Runs (rowAccess t job) (.write index writes) table
      (table.put index (writes.foldl (fun seen write => write seen)
        (table.slots index)), .success, none) := by
  induction writes generalizing table with
  | nil =>
      have same : table.put index (table.slots index) = table := by
        unfold SlotTable.put
        rw [Function.update_eq_self]
      rw [List.foldl_nil, same]
      exact .last rfl
  | cons write rest ih =>
      have written := @ih (table.put index (write (table.slots index)))
      simp only [SlotTable.put, Function.update_self,
        Function.update_idem] at written
      exact .more rfl written

/-- The entry the loop stops at, the first with the id. -/
def SlotTable.FoundAt (t : RecordTable Record) (table : SlotTable Record)
    (wanted : Bytes) (index : Nat) : Prop :=
  index < table.count ∧ t.recId (table.slots index) = wanted ∧
    ∀ i < index, t.recId (table.slots i) ≠ wanted

theorem SlotTable.found_or_absent (t : RecordTable Record)
    (table : SlotTable Record) (wanted : Bytes) :
    (∃ index, table.FoundAt t wanted index) ∨
      ∀ i < table.count, t.recId (table.slots i) ≠ wanted := by
  by_cases found : ∃ index,
      index < table.count ∧ t.recId (table.slots index) = wanted
  · obtain ⟨below, same⟩ := Nat.find_spec found
    refine Or.inl ⟨Nat.find found, below, same, ?_⟩
    intro i earlier equal
    exact Nat.find_min found earlier ⟨earlier.trans below, equal⟩
  · exact Or.inr fun i below same => found ⟨i, below, same⟩

theorem not_mem_ids {wanted : Bytes} {count : Nat} {slots : Nat → Record}
    (unlike : ∀ i < count, t.recId (slots i) ≠ wanted) :
    wanted ∉ ((List.range count).map slots).map t.recId := by
  simp only [List.map_map, List.mem_map, List.mem_range, Function.comp_apply,
    not_exists, not_and]
  exact unlike

theorem SlotTable.FoundAt.lookup {wanted : Bytes} {index : Nat}
    (found : table.FoundAt t wanted index) :
    KeyedList.lookup t.recId table.rows wanted = some (table.slots index) := by
  obtain ⟨below, same, unlike⟩ := found
  rw [SlotTable.rows, SlotArray.map_range_split _ below]
  exact KeyedList.lookup_of_split _ (not_mem_ids unlike) same

theorem SlotTable.FoundAt.changed {wanted : Bytes} {index : Nat}
    (found : table.FoundAt t wanted index) (change : Record → Record) :
    KeyedList.changeFirst t.recId wanted change table.rows =
      some (table.put index (change (table.slots index))).rows := by
  obtain ⟨below, same, unlike⟩ := found
  rw [SlotTable.rows, SlotTable.rows, SlotTable.put,
    SlotArray.map_range_update_at _ below, SlotArray.map_range_split _ below]
  exact KeyedList.changeFirst_of_split _ change (not_mem_ids unlike) same

theorem SlotTable.rows_append (table : SlotTable Record) (record : Record) :
    SlotTable.rows { table.put table.count record with
      count := table.count + 1 } = table.rows ++ [record] :=
  SlotArray.map_range_update table.slots table.count record

/-- The loop of a job, from its start to the entry found or to the counter. -/
theorem loop_found {index : Nat} (found : table.FoundAt t (job.wanted t) index)
    (runs : Runs (rowAccess t job) (.compare index) table out) :
    Runs (rowAccess t job) (.loop 0) table out :=
  scan_to (Nat.zero_le index) found.1.le found.2.2
    (.more (if_pos found.1) runs)

theorem loop_absent
    (unlike : ∀ i < table.count, t.recId (table.slots i) ≠ job.wanted t)
    (runs : Runs (rowAccess t job) (.loop table.count) table out) :
    Runs (rowAccess t job) (.loop 0) table out :=
  scan_to (Nat.zero_le _) le_rfl unlike runs

theorem record_runs (record : Record) :
    ∃ after, Runs (rowAccess t (.record record)) .room table
        (after, (rowServe t table.rows (.record record)).2) ∧
      after.rows = (rowServe t table.rows (.record record)).1 := by
  by_cases full : t.limit ≤ table.count
  · refine ⟨table, ?_⟩
    simp only [rowServe, table.length_rows, full, if_true]
    exact ⟨.last (if_pos full), trivial⟩
  · have room {out : SlotTable Record × RowReply Record}
        (runs : Runs (rowAccess t (.record record)) (.loop 0) table out) :
        Runs (rowAccess t (.record record)) .room table out :=
      .more (if_neg full) runs
    simp only [rowServe, table.length_rows, full, if_false]
    rcases table.found_or_absent t (t.recId record) with
      ⟨index, found⟩ | unlike
    · rw [found.changed]
      refine ⟨_, room (loop_found found ?_), rfl⟩
      exact .more (if_pos found.2.1) (write_all index [fun _ => record])
    · have absent := (KeyedList.changeFirst_eq_none_iff t.recId
        (t.recId record) (fun _ => record) table.rows).mpr
        ((KeyedList.lookup_eq_none_iff _ _ _).mpr (not_mem_ids unlike))
      rw [absent]
      refine ⟨_, room (loop_absent unlike ?_), table.rows_append record⟩
      have last : Runs (rowAccess t (.record record)) (.append record) table
          ({ table.put table.count record with count := table.count + 1 },
            .success, none) := .more rfl (.last rfl)
      exact .more (if_neg (lt_irrefl _)) last

theorem copy_runs (wanted : Bytes) :
    ∃ after, Runs (rowAccess t (.copy wanted)) (.loop 0) table
        (after, (rowServe t table.rows (.copy wanted)).2) ∧
      after.rows = (rowServe t table.rows (.copy wanted)).1 := by
  rcases table.found_or_absent t wanted with ⟨index, found⟩ | unlike
  · simp only [rowServe, found.lookup]
    refine ⟨table, loop_found found ?_, rfl⟩
    exact .more (if_pos found.2.1) (.last rfl)
  · have absent := (KeyedList.lookup_eq_none_iff _ _ _).mpr
      (not_mem_ids unlike)
    simp only [rowServe, SlotTable.rows, absent]
    refine ⟨table, loop_absent unlike ?_, rfl⟩
    exact .last (if_neg (lt_irrefl _))

theorem change_runs (wanted : Bytes) (writes : List (Record → Record)) :
    ∃ after, Runs (rowAccess t (.change wanted writes)) (.loop 0) table
        (after, (rowServe t table.rows (.change wanted writes)).2) ∧
      after.rows = (rowServe t table.rows (.change wanted writes)).1 := by
  rcases table.found_or_absent t wanted with ⟨index, found⟩ | unlike
  · simp only [rowServe, found.changed]
    refine ⟨_, loop_found found ?_, rfl⟩
    exact .more (if_pos found.2.1) (write_all index writes)
  · have absent := (KeyedList.changeFirst_eq_none_iff t.recId wanted
      (fun record => writes.foldl (fun seen write => write seen) record)
      table.rows).mpr
      ((KeyedList.lookup_eq_none_iff _ _ _).mpr (not_mem_ids unlike))
    simp only [rowServe, absent]
    refine ⟨table, loop_absent unlike ?_, rfl⟩
    exact .last (if_neg (lt_irrefl _))

theorem row_runs (table : SlotTable Record) (job : RowJob Record) :
    ∃ after, Runs (rowAccess t job) job.enter table
        (after, (rowServe t table.rows job).2) ∧
      after.rows = (rowServe t table.rows job).1 := by
  cases job with
  | record record => exact record_runs record
  | copy wanted => exact copy_runs wanted
  | change wanted writes => exact change_runs wanted writes

end Rows

/-! ### Before the lock -/

/-- The checks of the two record functions. -/
def recordGate (t : RecordTable Record) (ready : Bool)
    (record : Option Record) : RowJob Record ⊕ HeapstoreError :=
  if ready = false then .inr .errNotInitialized
  else
    match record with
    | none => .inr .errInvalidParam
    | some record =>
        if t.recId record = [] then .inr .errInvalidParam
        else .inl (.record record)

def copyGate (ready : Bool) (id : Option Bytes) (out : Bool) :
    RowJob Record ⊕ HeapstoreError :=
  if ready = false then .inr .errNotInitialized
  else
    match id with
    | none => .inr .errInvalidParam
    | some id => if out = false then .inr .errInvalidParam else .inl (.copy id)

def changeGate (ready : Bool) (id : Option Bytes)
    (writes : List (Record → Record)) : RowJob Record ⊕ HeapstoreError :=
  if ready = false then .inr .errNotInitialized
  else
    match id with
    | none => .inr .errInvalidParam
    | some id => .inl (.change id writes)

/-- The body of a job on its table of the whole state. -/
def served (t : RecordTable Record) (state : MemoryState)
    (job : RowJob Record) : MemoryState × RowReply Record :=
  (t.assign state (rowServe t (t.rows state) job).1,
    (rowServe t (t.rows state) job).2)

section Gates

variable {t : RecordTable Record} {state : MemoryState} {job : RowJob Record}
  {error : HeapstoreError}

theorem recordGate_refuses {record : Option Record}
    (refused : recordGate t state.initialized record = .inr error) :
    recordRow t record state = (state, error) := by
  unfold recordGate at refused
  unfold recordRow
  split at refused
  · next stopped =>
      cases refused
      rw [if_pos stopped]
  · next running =>
      rw [if_neg running]
      cases record with
      | none =>
          cases refused
          rfl
      | some record =>
          simp only at refused ⊢
          split at refused
          · next unnamed =>
              cases refused
              rw [if_pos unnamed]
          · cases refused

theorem recordGate_admits {record : Option Record}
    (whole : ∀ state, t.assign state (t.rows state) = state)
    (admitted : recordGate t state.initialized record = .inl job) :
    served t state job =
      ((recordRow t record state).1, (recordRow t record state).2, none) := by
  unfold recordGate at admitted
  unfold recordRow
  split at admitted
  · cases admitted
  · next running =>
      rw [if_neg running]
      cases record with
      | none => cases admitted
      | some record =>
          simp only at admitted ⊢
          split at admitted
          · cases admitted
          · next named =>
              cases admitted
              rw [if_neg named]
              simp only [served, rowServe]
              split
              · rw [whole]
              · cases KeyedList.changeFirst t.recId (t.recId record)
                  (fun _ => record) (t.rows state) <;> rfl

theorem copyGate_refuses {id : Option Bytes} {out : Bool}
    (refused : (copyGate state.initialized id out :
      RowJob Record ⊕ HeapstoreError) = .inr error) :
    getRow t id out state = (error, none) := by
  unfold copyGate at refused
  unfold getRow
  split at refused
  · next stopped =>
      cases refused
      rw [if_pos stopped]
  · next running =>
      rw [if_neg running]
      cases id with
      | none =>
          cases refused
          rfl
      | some id =>
          simp only at refused ⊢
          split at refused
          · next missing =>
              cases refused
              rw [if_pos missing]
          · cases refused

theorem copyGate_admits {id : Option Bytes} {out : Bool}
    (whole : ∀ state, t.assign state (t.rows state) = state)
    (admitted : copyGate state.initialized id out = .inl job) :
    served t state job = (state, getRow t id out state) := by
  unfold copyGate at admitted
  unfold getRow
  split at admitted
  · cases admitted
  · next running =>
      rw [if_neg running]
      cases id with
      | none => cases admitted
      | some id =>
          simp only at admitted ⊢
          split at admitted
          · cases admitted
          · next given =>
              cases admitted
              rw [if_neg given]
              simp only [served, rowServe]
              cases KeyedList.lookup t.recId (t.rows state) id with
              | none => simp only [whole]
              | some record => simp only [whole]

theorem changeGate_refuses {id : Option Bytes} {change : Record → Record}
    {writes : List (Record → Record)}
    (refused : changeGate state.initialized id writes = .inr error) :
    changeRow t change id state = (state, error) := by
  unfold changeGate at refused
  unfold changeRow
  split at refused
  · next stopped =>
      cases refused
      rw [if_pos stopped]
  · next running =>
      rw [if_neg running]
      cases id with
      | none =>
          cases refused
          rfl
      | some id => cases refused

theorem changeGate_admits {id : Option Bytes} (change : Record → Record)
    {writes : List (Record → Record)}
    (whole : ∀ state, t.assign state (t.rows state) = state)
    (same : ∀ record,
      writes.foldl (fun seen write => write seen) record = change record)
    (admitted : changeGate state.initialized id writes = .inl job) :
    served t state job =
      ((changeRow t change id state).1, (changeRow t change id state).2,
        none) := by
  unfold changeGate at admitted
  unfold changeRow
  split at admitted
  · cases admitted
  · next running =>
      rw [if_neg running]
      cases id with
      | none => cases admitted
      | some id =>
          cases admitted
          simp only [served, rowServe, funext same]
          cases KeyedList.changeFirst t.recId id change (t.rows state) with
          | none => simp only [whole]
          | some changed => rfl

end Gates

/-! ### The module -/

structure MemorySlots where
  initialized : Bool
  memoryPath : Bytes
  pools : SlotTable MemoryPool
  allocations : SlotTable MemoryAllocation

def MemorySlots.view (memory : MemorySlots) : MemoryState where
  initialized := memory.initialized
  memoryPath := memory.memoryPath
  pools := memory.pools.rows
  allocations := memory.allocations.rows

/-- The places the caller of the statistics passed. -/
structure StatsOuts where
  poolCount : Bool
  totalAllocations : Bool
  totalSize : Bool

/-- What is written to them. -/
structure MemoryStats where
  poolCount : Option UInt32
  totalAllocations : Option UInt32
  totalSize : Option UInt64
  deriving DecidableEq

def addedSize (total : UInt64) (pool : MemoryPool) : UInt64 :=
  total + pool.totalSize

def memoryGetStats (outs : StatsOuts) (state : MemoryState) :
    HeapstoreError × MemoryStats :=
  if state.initialized = false then
    (.errNotInitialized,
      { poolCount := none, totalAllocations := none, totalSize := none })
  else
    (.success,
      { poolCount :=
          if outs.poolCount then some (UInt32.ofNat state.pools.length)
          else none
        totalAllocations :=
          if outs.totalAllocations then
            some (UInt32.ofNat state.allocations.length)
          else none
        totalSize :=
          if outs.totalSize then some (state.pools.foldl addedSize 0)
          else none })

def memoryIsHealthy (state : MemoryState) : Bool := state.initialized

/-- The calls that the module lets any thread make at any time. -/
inductive MemoryRequest where
  | recordPool (pool : Option MemoryPool)
  | getPool (id : Option Bytes) (out : Bool)
  | updatePoolUsage (id : Option Bytes) (usedSize : UInt64)
      (freeBlockCount : UInt32)
  | record (allocation : Option MemoryAllocation)
  | getAllocation (id : Option Bytes) (out : Bool)
  | freeAllocation (now : UInt64) (id : Option Bytes)
  | getStats (outs : StatsOuts)
  | isHealthy

inductive MemoryReply where
  | pool (reply : RowReply MemoryPool)
  | allocation (reply : RowReply MemoryAllocation)
  | stats (error : HeapstoreError) (stats : MemoryStats)
  | healthy (flag : Bool)
  deriving DecidableEq

/-- Each call at once. -/
def memoryServe : Machine MemoryState MemoryRequest MemoryReply :=
  fun state request =>
    match request with
    | .recordPool pool =>
        ((memoryRecordPool pool state).1,
          .pool ((memoryRecordPool pool state).2, none))
    | .getPool id out => (state, .pool (memoryGetPool id out state))
    | .updatePoolUsage id usedSize freeBlockCount =>
        ((memoryUpdatePoolUsage id usedSize freeBlockCount state).1,
          .pool ((memoryUpdatePoolUsage id usedSize freeBlockCount state).2,
            none))
    | .record allocation =>
        ((memRecord allocation state).1,
          .allocation ((memRecord allocation state).2, none))
    | .getAllocation id out =>
        (state, .allocation (memoryGetAllocation id out state))
    | .freeAllocation now id =>
        ((memoryFreeAllocation now id state).1,
          .allocation ((memoryFreeAllocation now id state).2, none))
    | .getStats outs =>
        (state, .stats (memoryGetStats outs state).1
          (memoryGetStats outs state).2)
    | .isHealthy => (state, .healthy (memoryIsHealthy state))

/-! ### One access at a time -/

inductive StatsPlace where
  | pools
  | allocations (pools : Option UInt32)
  | size (pools allocations : Option UInt32)
  | loop (pools allocations : Option UInt32) (index : Nat) (total : UInt64)
  | add (pools allocations : Option UInt32) (index : Nat) (total : UInt64)

inductive MemoryPlace where
  | pool (job : RowJob MemoryPool) (place : RowPlace MemoryPool)
  | allocation (job : RowJob MemoryAllocation)
      (place : RowPlace MemoryAllocation)
  | stats (outs : StatsOuts) (place : StatsPlace)

/-- The assignments of `heapstore_memory_update_pool_usage`. -/
def usageWrites (usedSize : UInt64) (freeBlockCount : UInt32) :
    List (MemoryPool → MemoryPool) :=
  [fun pool => { pool with usedSize := usedSize },
    fun pool => { pool with freeBlockCount := freeBlockCount }]

/-- The assignments of `heapstore_memory_free_allocation`. -/
def freeWrites (now : UInt64) : List (MemoryAllocation → MemoryAllocation) :=
  [fun allocation => { allocation with freedAt := now },
    fun allocation =>
      { allocation with status := CharArray.copy (ofString "freed") }]

def poolGate (gate : RowJob MemoryPool ⊕ HeapstoreError) :
    MemoryPlace ⊕ MemoryReply :=
  gate.map (fun job => .pool job job.enter) fun error => .pool (error, none)

def allocationGate (gate : RowJob MemoryAllocation ⊕ HeapstoreError) :
    MemoryPlace ⊕ MemoryReply :=
  gate.map (fun job => .allocation job job.enter)
    fun error => .allocation (error, none)

def memoryGate (memory : MemorySlots) :
    MemoryRequest → MemoryPlace ⊕ MemoryReply
  | .recordPool pool => poolGate (recordGate poolTable memory.initialized pool)
  | .getPool id out => poolGate (copyGate memory.initialized id out)
  | .updatePoolUsage id usedSize freeBlockCount =>
      poolGate (changeGate memory.initialized id
        (usageWrites usedSize freeBlockCount))
  | .record allocation =>
      allocationGate (recordGate allocationTable memory.initialized allocation)
  | .getAllocation id out =>
      allocationGate (copyGate memory.initialized id out)
  | .freeAllocation now id =>
      allocationGate (changeGate memory.initialized id (freeWrites now))
  | .getStats outs =>
      if memory.initialized = false then
        .inr (.stats .errNotInitialized
          { poolCount := none, totalAllocations := none, totalSize := none })
      else .inl (.stats outs .pools)
  | .isHealthy => .inr (.healthy memory.initialized)

def statsAccess (outs : StatsOuts) (memory : MemorySlots) :
    StatsPlace → StatsPlace ⊕ MemoryReply
  | .pools =>
      .inl (.allocations
        (if outs.poolCount then some (UInt32.ofNat memory.pools.count)
        else none))
  | .allocations pools =>
      .inl (.size pools
        (if outs.totalAllocations then
          some (UInt32.ofNat memory.allocations.count)
        else none))
  | .size pools allocations =>
      if outs.totalSize then .inl (.loop pools allocations 0 0)
      else
        .inr (.stats .success
          { poolCount := pools
            totalAllocations := allocations
            totalSize := none })
  | .loop pools allocations index total =>
      if index < memory.pools.count then
        .inl (.add pools allocations index total)
      else
        .inr (.stats .success
          { poolCount := pools
            totalAllocations := allocations
            totalSize := some total })
  | .add pools allocations index total =>
      .inl (.loop pools allocations (index + 1)
        (addedSize total (memory.pools.slots index)))

def memoryAccess (place : MemoryPlace) (memory : MemorySlots) :
    MemorySlots × (MemoryPlace ⊕ MemoryReply) :=
  match place with
  | .pool job place =>
      ({ memory with pools := (rowAccess poolTable job place memory.pools).1 },
        (rowAccess poolTable job place memory.pools).2.map (.pool job) .pool)
  | .allocation job place =>
      ({ memory with allocations :=
          (rowAccess allocationTable job place memory.allocations).1 },
        (rowAccess allocationTable job place memory.allocations).2.map
          (.allocation job) .allocation)
  | .stats outs place =>
      (memory, (statsAccess outs memory place).map (.stats outs) id)

def memoryCode : Code MemorySlots MemoryRequest MemoryPlace MemoryReply where
  gate := memoryGate
  access := memoryAccess

section Requests

variable {memory : MemorySlots}

theorem pool_runs (memory : MemorySlots) (job : RowJob MemoryPool) :
    ∃ after, Runs memoryAccess (.pool job job.enter) memory
        (after, .pool (served poolTable memory.view job).2) ∧
      after.view = (served poolTable memory.view job).1 := by
  obtain ⟨table, runs, shows⟩ := @row_runs _ poolTable memory.pools job
  refine ⟨{ memory with pools := table }, ?_, ?_⟩
  · apply Runs.lift
      (fun table => ({ memory with pools := table } : MemorySlots))
      (MemoryPlace.pool job) MemoryReply.pool _ runs
    exact fun _ _ => rfl
  · change MemoryState.mk _ _ table.rows _ = _
    rw [shows]
    rfl

theorem allocation_runs (memory : MemorySlots)
    (job : RowJob MemoryAllocation) :
    ∃ after, Runs memoryAccess (.allocation job job.enter) memory
        (after, .allocation (served allocationTable memory.view job).2) ∧
      after.view = (served allocationTable memory.view job).1 := by
  obtain ⟨table, runs, shows⟩ :=
    @row_runs _ allocationTable memory.allocations job
  refine ⟨{ memory with allocations := table }, ?_, ?_⟩
  · apply Runs.lift
      (fun table => ({ memory with allocations := table } : MemorySlots))
      (MemoryPlace.allocation job) MemoryReply.allocation _ runs
    exact fun _ _ => rfl
  · change MemoryState.mk _ _ _ table.rows = _
    rw [shows]
    rfl

theorem stats_goes {outs : StatsOuts} {place next : StatsPlace}
    {out : MemorySlots × MemoryReply}
    (went : statsAccess outs memory place = .inl next)
    (rest : Runs memoryAccess (.stats outs next) memory out) :
    Runs memoryAccess (.stats outs place) memory out := by
  refine .more ?_ rest
  simp only [memoryAccess, went, Sum.map_inl]

theorem stats_ends {outs : StatsOuts} {place : StatsPlace}
    {reply : MemoryReply}
    (ended : statsAccess outs memory place = .inr reply) :
    Runs memoryAccess (.stats outs place) memory (memory, reply) := by
  refine .last ?_
  simp only [memoryAccess, ended, Sum.map_inr, id_eq]

/-- The sum over the pools below an index. -/
def sizeBelow (memory : MemorySlots) (index : Nat) : UInt64 :=
  ((List.range index).map memory.pools.slots).foldl addedSize 0

theorem sizeBelow_succ (memory : MemorySlots) (index : Nat) :
    sizeBelow memory (index + 1) =
      addedSize (sizeBelow memory index) (memory.pools.slots index) := by
  rw [sizeBelow, List.range_succ, List.map_append, List.foldl_append]
  rfl

theorem size_runs {outs : StatsOuts} (pools allocations : Option UInt32)
    {index left : Nat} (together : index + left = memory.pools.count) :
    Runs memoryAccess
      (.stats outs (.loop pools allocations index (sizeBelow memory index)))
      memory
      (memory, .stats .success
        { poolCount := pools
          totalAllocations := allocations
          totalSize := some (sizeBelow memory memory.pools.count) }) := by
  induction left generalizing index with
  | zero =>
      rw [Nat.add_zero] at together
      subst together
      exact stats_ends (if_neg (lt_irrefl _))
  | succ left ih =>
      have below : index < memory.pools.count := by omega
      have later := @ih (index + 1) (by omega)
      rw [sizeBelow_succ] at later
      have added : Runs memoryAccess (.stats outs (.add pools allocations index
          (sizeBelow memory index))) memory _ := stats_goes rfl later
      exact stats_goes (if_pos below) added

theorem stats_runs (outs : StatsOuts) (ready : memory.initialized = true) :
    Runs memoryAccess (.stats outs .pools) memory
      (memory, .stats (memoryGetStats outs memory.view).1
        (memoryGetStats outs memory.view).2) := by
  have up : memory.view.initialized = true := ready
  simp only [memoryGetStats, up, Bool.true_eq_false, if_false]
  refine stats_goes rfl (stats_goes rfl ?_)
  simp only [MemorySlots.view, SlotTable.length_rows]
  by_cases size : outs.totalSize = true
  · rw [if_pos size]
    refine stats_goes (if_pos size) ?_
    exact @size_runs memory outs _ _ 0 memory.pools.count (Nat.zero_add _)
  · rw [if_neg size]
    exact stats_ends (if_neg size)

theorem gate_refuses {Job : Type} {gate : Job ⊕ HeapstoreError}
    {enter : Job → MemoryPlace} {gives : HeapstoreError → MemoryReply}
    {reply : MemoryReply} (refused : gate.map enter gives = .inr reply) :
    ∃ error, gate = .inr error ∧ reply = gives error := by
  cases gate with
  | inl job => cases refused
  | inr error => exact ⟨error, rfl, (Sum.inr.inj refused).symm⟩

theorem gate_admits {Job : Type} {gate : Job ⊕ HeapstoreError}
    {enter : Job → MemoryPlace} {gives : HeapstoreError → MemoryReply}
    {place : MemoryPlace} (admitted : gate.map enter gives = .inl place) :
    ∃ job, gate = .inl job ∧ place = enter job := by
  cases gate with
  | inl job => exact ⟨job, rfl, (Sum.inl.inj admitted).symm⟩
  | inr error => cases admitted

/-- A call that gives up before the lock is one that fails. -/
theorem memory_refuses (memory : MemorySlots) (request : MemoryRequest)
    (reply : MemoryReply) (refused : memoryGate memory request = .inr reply) :
    memoryServe memory.view request = (memory.view, reply) := by
  have flag : memory.view.initialized = memory.initialized := rfl
  cases request with
  | recordPool pool =>
      obtain ⟨error, gate, rfl⟩ := gate_refuses refused
      rw [← flag] at gate
      simp only [memoryServe, memoryRecordPool, recordGate_refuses gate]
  | getPool id out =>
      obtain ⟨error, gate, rfl⟩ := gate_refuses refused
      rw [← flag] at gate
      simp only [memoryServe, memoryGetPool, copyGate_refuses gate]
  | updatePoolUsage id usedSize freeBlockCount =>
      obtain ⟨error, gate, rfl⟩ := gate_refuses refused
      rw [← flag] at gate
      simp only [memoryServe, memoryUpdatePoolUsage, changeGate_refuses gate]
  | record allocation =>
      obtain ⟨error, gate, rfl⟩ := gate_refuses refused
      rw [← flag] at gate
      simp only [memoryServe, memRecord, recordGate_refuses gate]
  | getAllocation id out =>
      obtain ⟨error, gate, rfl⟩ := gate_refuses refused
      rw [← flag] at gate
      simp only [memoryServe, memoryGetAllocation, copyGate_refuses gate]
  | freeAllocation now id =>
      obtain ⟨error, gate, rfl⟩ := gate_refuses refused
      rw [← flag] at gate
      simp only [memoryServe, memoryFreeAllocation, changeGate_refuses gate]
  | getStats outs =>
      simp only [memoryGate] at refused
      split at refused
      · next stopped =>
          cases refused
          simp only [memoryServe, memoryGetStats, flag, stopped, if_true]
      · cases refused
  | isHealthy =>
      cases refused
      rfl

/-- A call that goes for the lock does there what it does at once. -/
theorem memory_runs (memory : MemorySlots) (request : MemoryRequest)
    (place : MemoryPlace) (admitted : memoryGate memory request = .inl place) :
    ∃ after, Runs memoryAccess place memory
        (after, (memoryServe memory.view request).2) ∧
      after.view = (memoryServe memory.view request).1 := by
  have flag : memory.view.initialized = memory.initialized := rfl
  cases request with
  | recordPool pool =>
      obtain ⟨job, gate, rfl⟩ := gate_admits admitted
      rw [← flag] at gate
      have runs := pool_runs memory job
      rw [recordGate_admits (fun _ => rfl) gate] at runs
      exact runs
  | getPool id out =>
      obtain ⟨job, gate, rfl⟩ := gate_admits admitted
      rw [← flag] at gate
      have runs := pool_runs memory job
      rw [copyGate_admits (fun _ => rfl) gate] at runs
      exact runs
  | updatePoolUsage id usedSize freeBlockCount =>
      obtain ⟨job, gate, rfl⟩ := gate_admits admitted
      rw [← flag] at gate
      have runs := pool_runs memory job
      rw [changeGate_admits (withUsage usedSize freeBlockCount)
        (fun _ => rfl) (fun _ => rfl) gate] at runs
      exact runs
  | record allocation =>
      obtain ⟨job, gate, rfl⟩ := gate_admits admitted
      rw [← flag] at gate
      have runs := allocation_runs memory job
      rw [recordGate_admits (fun _ => rfl) gate] at runs
      exact runs
  | getAllocation id out =>
      obtain ⟨job, gate, rfl⟩ := gate_admits admitted
      rw [← flag] at gate
      have runs := allocation_runs memory job
      rw [copyGate_admits (fun _ => rfl) gate] at runs
      exact runs
  | freeAllocation now id =>
      obtain ⟨job, gate, rfl⟩ := gate_admits admitted
      rw [← flag] at gate
      have runs := allocation_runs memory job
      rw [changeGate_admits (freedAt now) (fun _ => rfl) (fun _ => rfl) gate]
        at runs
      exact runs
  | getStats outs =>
      simp only [memoryGate] at admitted
      split at admitted
      · cases admitted
      · next running =>
          cases admitted
          exact ⟨memory, stats_runs outs (by simpa using running), rfl⟩
  | isHealthy => cases admitted

theorem memoryAccess_initialized (place : MemoryPlace) (memory : MemorySlots) :
    (memoryAccess place memory).1.initialized = memory.initialized := by
  cases place with
  | pool | allocation | stats => rfl

theorem memoryGate_congr {memory other : MemorySlots}
    (same : other.initialized = memory.initialized) (request : MemoryRequest) :
    memoryGate other request = memoryGate memory request := by
  cases request <;> simp only [memoryGate, same]

theorem memoryCode_implements :
    Implements memoryCode MemorySlots.view memoryServe where
  refuses := memory_refuses
  runs := memory_runs
  steady memory place request :=
    memoryGate_congr (memoryAccess_initialized place memory) request

/-- Every interleaving of the calls of any number of threads, cut at every
access to the tables, is a run of the calls one after the other: each call acts
between its start and its return and answers what it answers there, the tables
are those of that run whenever the lock is free, and the lock always comes
free. -/
theorem memory_calls_linearize {Thread : Type*} [DecidableEq Thread]
    (memory : MemorySlots) (moves : List (Move Thread MemoryRequest)) :
    Linearizes memoryServe memory.view
        (events memoryCode (worldStart memory) moves) ∧
      ((final (lockedStep memoryCode) (worldStart memory) moves).holder =
          none →
        (final (lockedStep memoryCode) (worldStart memory) moves).shared.view =
          serial memoryServe memory.view
            (events memoryCode (worldStart memory) moves)) ∧
      ∀ thread,
        (final (lockedStep memoryCode) (worldStart memory) moves).holder =
            some thread →
          ∃ steps, (final (lockedStep memoryCode)
            (final (lockedStep memoryCode) (worldStart memory) moves)
            (List.replicate steps (.go thread))).holder = none :=
  calls_linearize memoryCode_implements memory moves

end Requests

end Heapstore.Memory
