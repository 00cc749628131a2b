/-
Runs of the memory record module.

A run is observed through the list of its calls and their results.  From this
list alone follows what each table holds under each id: the latest successful
record, with the successful rewrites after it.
-/

import Heapstore.MemoryRecords

namespace Heapstore.Memory

open ByteText OperationRun

inductive MemoryCall where
  | recordPool (pool : Option MemoryPool)
  | getPool (id : Option Bytes) (out : Bool)
  | updatePoolUsage (id : Option Bytes) (usedSize : UInt64)
      (freeBlockCount : UInt32)
  | record (allocation : Option MemoryAllocation)
  | getAllocation (id : Option Bytes) (out : Bool)
  | freeAllocation (now : UInt64) (id : Option Bytes)

def memoryCall (state : MemoryState) :
    MemoryCall → MemoryState × HeapstoreError
  | .recordPool pool => memoryRecordPool pool state
  | .getPool id out => (state, (memoryGetPool id out state).1)
  | .updatePoolUsage id usedSize freeBlockCount =>
      memoryUpdatePoolUsage id usedSize freeBlockCount state
  | .record allocation => memRecord allocation state
  | .getAllocation id out => (state, (memoryGetAllocation id out state).1)
  | .freeAllocation now id => memoryFreeAllocation now id state

/-! ### What the calls of a run leave under an id -/

/-- The entry a call writes when it succeeds: its id, and what becomes of the
record held there. -/
structure RowWrite (Record : Type) where
  id : Option Bytes
  write : Option Record → Option Record

/-- An update replaces two fields of the pool. -/
def MemoryCall.poolWrite : MemoryCall → RowWrite MemoryPool
  | .recordPool pool =>
      { id := pool.map fun pool => pool.poolId.text, write := fun _ => pool }
  | .updatePoolUsage id usedSize freeBlockCount =>
      { id := id
        write := Option.map fun held =>
          { poolId := held.poolId
            name := held.name
            totalSize := held.totalSize
            usedSize := usedSize
            blockSize := held.blockSize
            blockCount := held.blockCount
            freeBlockCount := freeBlockCount
            createdAt := held.createdAt
            status := held.status } }
  | _ => { id := none, write := fun held => held }

/-- A free replaces the time of the free and the status. -/
def MemoryCall.allocationWrite : MemoryCall → RowWrite MemoryAllocation
  | .record allocation =>
      { id := allocation.map fun allocation => allocation.allocationId.text
        write := fun _ => allocation }
  | .freeAllocation now id =>
      { id := id
        write := Option.map fun held =>
          { allocationId := held.allocationId
            poolId := held.poolId
            size := held.size
            address := held.address
            allocatedAt := held.allocatedAt
            freedAt := now
            status := CharArray.copy (ofString "freed") } }
  | _ => { id := none, write := fun held => held }

/-- A call with its result. -/
abbrev Answered := MemoryCall × HeapstoreError

section History

variable {Record : Type} (writes : MemoryCall → RowWrite Record)

def heldAfter (id : Bytes) (held : Option Record) (answered : Answered) :
    Option Record :=
  if answered.2 = .success ∧ (writes answered.1).id = some id then
    (writes answered.1).write held
  else held

/-- The latest record under an id, with the rewrites since then. -/
def latest (id : Bytes) (history : List Answered) : Option Record :=
  history.foldl (heldAfter writes id) none

theorem latest_append (id : Bytes) (history : List Answered)
    (answered : Answered) :
    latest writes id (history ++ [answered]) =
      heldAfter writes id (latest writes id history) answered := by
  unfold latest
  rw [List.foldl_append]
  rfl

end History

/-! ### Runs -/

structure MemoryRun where
  state : MemoryState
  history : List Answered

def memoryStep : Machine MemoryRun MemoryCall HeapstoreError :=
  fun run call =>
    let result := memoryCall run.state call
    ({ state := result.1, history := run.history ++ [(call, result.2)] },
      result.2)

def memoryStart (state : MemoryState) : MemoryRun :=
  { state := state, history := [] }

/-- A table under one call: a write of the entry the call names, or nothing. -/
def CallOutcome {Record : Type} (t : RecordTable Record)
    (writes : MemoryCall → RowWrite Record) (state : MemoryState)
    (call : MemoryCall) : Prop :=
  let result := memoryCall state call
  (t.Sound state → t.Sound result.1) ∧
    ∀ id, t.entry result.1 id =
      heldAfter writes id (t.entry state id) (call, result.2)

section Outcomes

variable {Record : Type} {t : RecordTable Record}
  {writes : MemoryCall → RowWrite Record} {state : MemoryState}
  {call : MemoryCall}

theorem callOutcome_of_row
    (outcome : RowOutcome t state (memoryCall state call) (writes call).id
      (writes call).write) : CallOutcome t writes state call := by
  unfold CallOutcome heldAfter
  simp only
  rcases outcome with ⟨failed, same⟩ | ⟨succeeded, written, rows, named, _,
    sound, entries⟩
  · rw [same]
    refine ⟨fun sound => sound, fun id => ?_⟩
    rw [if_neg (fun both => failed both.1)]
  · refine ⟨sound, fun id => ?_⟩
    rw [entries, named, succeeded]
    by_cases here : id = written
    · subst id
      rw [Function.update_self, if_pos ⟨rfl, rfl⟩]
    · rw [Function.update_of_ne here, if_neg]
      exact fun both => here (Option.some.inj both.2).symm

/-- A call that does not name the table leaves its entries. -/
theorem callOutcome_of_other (nowhere : (writes call).id = none)
    (same : t.rows (memoryCall state call).1 = t.rows state) :
    CallOutcome t writes state call := by
  have entries : t.entry (memoryCall state call).1 = t.entry state := by
    unfold RecordTable.entry
    rw [same]
  refine ⟨fun sound => ?_, fun id => ?_⟩
  · obtain ⟨distinct, named, bounded⟩ := sound
    exact ⟨same.symm ▸ distinct, same.symm ▸ named, same.symm ▸ bounded⟩
  · unfold heldAfter
    rw [entries, nowhere, if_neg]
    exact fun both => nomatch both.2

end Outcomes

theorem withUsage_id (usedSize : UInt64) (freeBlockCount : UInt32)
    (pool : MemoryPool) :
    poolTable.recId (withUsage usedSize freeBlockCount pool) =
      poolTable.recId pool := rfl

theorem freedAt_id (now : UInt64) (allocation : MemoryAllocation) :
    allocationTable.recId (freedAt now allocation) =
      allocationTable.recId allocation := rfl

/-- A write to one table keeps the rows of the other and the module running. -/
theorem RowOutcome.frame {Record Other : Type} {t : RecordTable Record}
    {other : RecordTable Other} {before : MemoryState}
    {result : MemoryState × HeapstoreError} {id : Option Bytes}
    {write : Option Record → Option Record}
    (apart : ∀ state rows, other.rows (t.assign state rows) = other.rows state)
    (outcome : RowOutcome t before result id write) :
    other.rows result.1 = other.rows before ∧
      result.1.initialized = before.initialized ∧
      (result.2 ≠ .success → result.1 = before) := by
  rcases outcome with ⟨_, same⟩ | ⟨succeeded, _, rows, _, wrote, _, _⟩
  · rw [same]
    exact ⟨rfl, rfl, fun _ => rfl⟩
  · rw [wrote]
    exact ⟨apart before rows, t.initialized_assign before rows,
      fun failed => absurd succeeded failed⟩

structure CallEffect (state : MemoryState) (call : MemoryCall) : Prop where
  pools : CallOutcome poolTable MemoryCall.poolWrite state call
  allocations :
    CallOutcome allocationTable MemoryCall.allocationWrite state call
  initialized : (memoryCall state call).1.initialized = state.initialized
  unchanged : (memoryCall state call).2 ≠ .success →
    (memoryCall state call).1 = state

section Effects

variable {state : MemoryState} {call : MemoryCall}

theorem CallEffect.ofPools
    (outcome : RowOutcome poolTable state (memoryCall state call)
      call.poolWrite.id call.poolWrite.write)
    (elsewhere : call.allocationWrite.id = none) : CallEffect state call := by
  obtain ⟨others, still, unchanged⟩ :=
    @RowOutcome.frame _ _ poolTable allocationTable _ _ _ _
      (fun _ _ => rfl) outcome
  exact ⟨callOutcome_of_row outcome, callOutcome_of_other elsewhere others,
    still, unchanged⟩

theorem CallEffect.ofAllocations
    (outcome : RowOutcome allocationTable state (memoryCall state call)
      call.allocationWrite.id call.allocationWrite.write)
    (elsewhere : call.poolWrite.id = none) : CallEffect state call := by
  obtain ⟨others, still, unchanged⟩ :=
    @RowOutcome.frame _ _ allocationTable poolTable _ _ _ _
      (fun _ _ => rfl) outcome
  exact ⟨callOutcome_of_other elsewhere others, callOutcome_of_row outcome,
    still, unchanged⟩

theorem CallEffect.ofRead (same : (memoryCall state call).1 = state)
    (noPool : call.poolWrite.id = none)
    (noAllocation : call.allocationWrite.id = none) :
    CallEffect state call :=
  ⟨callOutcome_of_other noPool (by rw [same]),
    callOutcome_of_other noAllocation (by rw [same]), by rw [same],
    fun _ => same⟩

end Effects

/-- Each call acts on one table, and on none when it fails. -/
theorem memoryCall_effect (state : MemoryState) (call : MemoryCall) :
    CallEffect state call := by
  cases call with
  | recordPool pool => exact .ofPools (recordRow_outcome pool) rfl
  | getPool id out => exact .ofRead rfl rfl rfl
  | updatePoolUsage id usedSize freeBlockCount =>
      exact .ofPools (changeRow_outcome _ id (withUsage_id _ _)) rfl
  | record allocation => exact .ofAllocations (recordRow_outcome allocation) rfl
  | getAllocation id out => exact .ofRead rfl rfl rfl
  | freeAllocation now id =>
      exact .ofAllocations (changeRow_outcome _ id (freedAt_id now)) rfl

/-! ### Every run -/

/-- What holds of the tables after every run. -/
structure MemoryRun.Holds (run : MemoryRun) : Prop where
  initialized : run.state.initialized = true
  pools : poolTable.Sound run.state
  allocations : allocationTable.Sound run.state
  poolEntries : ∀ id, poolTable.entry run.state id =
    latest MemoryCall.poolWrite id run.history
  allocationEntries : ∀ id, allocationTable.entry run.state id =
    latest MemoryCall.allocationWrite id run.history

theorem memoryStep_holds (run : MemoryRun) (call : MemoryCall)
    (holds : run.Holds) : (memoryStep run call).1.Holds := by
  obtain ⟨initialized, pools, allocations, poolEntries, allocationEntries⟩ :=
    holds
  have effect := memoryCall_effect run.state call
  constructor
  · exact effect.initialized.trans initialized
  · exact effect.pools.1 pools
  · exact effect.allocations.1 allocations
  · intro id
    change _ = latest _ id (run.history ++ [_])
    rw [latest_append, ← poolEntries]
    exact effect.pools.2 id
  · intro id
    change _ = latest _ id (run.history ++ [_])
    rw [latest_append, ← allocationEntries]
    exact effect.allocations.2 id

section Reached

variable {root dataDir : Bytes} {ensured : Bytes → Bool} {before : MemoryState}

theorem memoryRun_holds (stopped : before.initialized = false)
    (succeeded : (memoryInit root dataDir ensured before).2 = .success)
    (calls : List MemoryCall) :
    (final memoryStep
      (memoryStart (memoryInit root dataDir ensured before).1) calls).Holds := by
  apply invariant memoryStep MemoryRun.Holds memoryStep_holds
  rw [memoryInit_success stopped succeeded]
  constructor
  · rfl
  · exact ⟨List.nodup_nil, fun _ => nofun, Nat.zero_le _⟩
  · exact ⟨List.nodup_nil, fun _ => nofun, Nat.zero_le _⟩
  · exact fun _ => rfl
  · exact fun _ => rfl

end Reached

/-- The answer of a getter to what is held under the id. -/
def foundAnswer {Record : Type} (held : Option Record) :
    HeapstoreError × Option Record :=
  match held with
  | some record => (.success, some record)
  | none => (.errNotFound, none)

/-- The tables as keyed records: distinct ids within the limits, every getter
answers with what the successful calls left under the id, a call touches the
entry it names only, and a failing call touches nothing. -/
structure KeyedRecords (run : MemoryRun) : Prop where
  poolIds : (run.state.pools.map fun pool => pool.poolId.text).Nodup
  allocationIds :
    (run.state.allocations.map fun row => row.allocationId.text).Nodup
  poolsNamed : ∀ pool ∈ run.state.pools, pool.poolId.text ≠ []
  allocationsNamed : ∀ row ∈ run.state.allocations, row.allocationId.text ≠ []
  poolsBounded : run.state.pools.length ≤ 64
  allocationsBounded : run.state.allocations.length ≤ 10000
  poolAnswers : ∀ id, memoryGetPool (some id) true run.state =
    foundAnswer (latest MemoryCall.poolWrite id run.history)
  allocationAnswers : ∀ id, memoryGetAllocation (some id) true run.state =
    foundAnswer (latest MemoryCall.allocationWrite id run.history)
  otherPools : ∀ call id, call.poolWrite.id ≠ some id →
    memoryGetPool (some id) true (memoryCall run.state call).1 =
      memoryGetPool (some id) true run.state
  otherAllocations : ∀ call id, call.allocationWrite.id ≠ some id →
    memoryGetAllocation (some id) true (memoryCall run.state call).1 =
      memoryGetAllocation (some id) true run.state
  failing : ∀ call, (memoryCall run.state call).2 ≠ .success →
    (memoryCall run.state call).1 = run.state

theorem heldAfter_of_other {Record : Type}
    {writes : MemoryCall → RowWrite Record} {id : Bytes}
    {held : Option Record} {call : MemoryCall} {error : HeapstoreError}
    (elsewhere : (writes call).id ≠ some id) :
    heldAfter writes id held (call, error) = held := by
  unfold heldAfter
  exact if_neg fun both => elsewhere both.2

theorem MemoryRun.Holds.keyed {run : MemoryRun} (holds : run.Holds) :
    KeyedRecords run := by
  obtain ⟨ready, pools, allocations, poolEntries, allocationEntries⟩ := holds
  have still (call : MemoryCall) :=
    (memoryCall_effect run.state call).initialized.trans ready
  refine
    { poolIds := pools.distinct
      allocationIds := allocations.distinct
      poolsNamed := pools.named
      allocationsNamed := allocations.named
      poolsBounded := pools.bounded
      allocationsBounded := allocations.bounded
      poolAnswers := fun id => ?_
      allocationAnswers := fun id => ?_
      otherPools := fun call id elsewhere => ?_
      otherAllocations := fun call id elsewhere => ?_
      failing := fun call => (memoryCall_effect run.state call).unchanged }
  · exact (getRow_answer ready id).trans (congrArg foundAnswer (poolEntries id))
  · exact (getRow_answer ready id).trans
      (congrArg foundAnswer (allocationEntries id))
  · have same := (memoryCall_effect run.state call).pools.2 id
    rw [heldAfter_of_other elsewhere] at same
    exact (getRow_answer (still call) id).trans
      ((congrArg foundAnswer same).trans (getRow_answer ready id).symm)
  · have same := (memoryCall_effect run.state call).allocations.2 id
    rw [heldAfter_of_other elsewhere] at same
    exact (getRow_answer (still call) id).trans
      ((congrArg foundAnswer same).trans (getRow_answer ready id).symm)

theorem memory_runs_keyed {root dataDir : Bytes} {ensured : Bytes → Bool}
    {before : MemoryState} (stopped : before.initialized = false)
    (succeeded : (memoryInit root dataDir ensured before).2 = .success)
    (calls : List MemoryCall) :
    KeyedRecords (final memoryStep
      (memoryStart (memoryInit root dataDir ensured before).1) calls) :=
  (memoryRun_holds stopped succeeded calls).keyed

def sampleDir : Bytes := ofString "/data"

def samplePool : MemoryPool where
  poolId := CharArray.copy (ofString "arena")
  name := CharArray.copy (ofString "first arena")
  totalSize := 4096
  usedSize := 0
  blockSize := 64
  blockCount := 64
  freeBlockCount := 64
  createdAt := 1000
  status := CharArray.copy (ofString "active")

def sampleAllocation : MemoryAllocation where
  allocationId := CharArray.copy (ofString "a1")
  poolId := CharArray.copy (ofString "arena")
  size := 128
  address := 8192
  allocatedAt := 1001
  freedAt := 0
  status := CharArray.copy (ofString "live")

/-- A pool and an allocation that are recorded, used, freed and read; the calls
for an id that nothing was recorded under fail. -/
def usedCalls : List MemoryCall :=
  [.recordPool (some samplePool), .record (some sampleAllocation),
    .updatePoolUsage (some (ofString "arena")) 128 62,
    .updatePoolUsage (some (ofString "other")) 1 1,
    .getPool (some (ofString "arena")) true,
    .freeAllocation 1002 (some (ofString "a1")),
    .getAllocation (some (ofString "a1")) true]

theorem memory_runs_keyed_used :
    let run := final memoryStep
      (memoryStart (memoryInit sampleDir sampleDir (fun _ => true)
        clearedMemory).1) usedCalls
    KeyedRecords run ∧
      memoryGetPool (some (ofString "arena")) true run.state =
        (.success,
          some { samplePool with usedSize := 128, freeBlockCount := 62 }) ∧
      memoryGetAllocation (some (ofString "a1")) true run.state =
        (.success,
          some { sampleAllocation with
            freedAt := 1002
            status := CharArray.copy (ofString "freed") }) := by
  intro run
  have keyed : KeyedRecords run :=
    memory_runs_keyed (by decide) (by decide) usedCalls
  refine ⟨keyed, ?_, ?_⟩
  · rw [keyed.poolAnswers]
    decide
  · rw [keyed.allocationAnswers]
    decide

/-! ### A full table -/

def RecordTable.Recorded {Record : Type} (t : RecordTable Record)
    (state : MemoryState) (id : Bytes) : Prop :=
  ∃ row ∈ t.rows state, t.recId row = id

/-- Recording succeeds when the id is recorded already or there is room. -/
def RecordsToLimit {Record : Type} (t : RecordTable Record)
    (state : MemoryState) (record : Record) : Prop :=
  (recordRow t (some record) state).2 = .success ↔
    t.Recorded state (t.recId record) ∨ (t.rows state).length < t.limit

theorem recordRow_success_iff {Record : Type} {t : RecordTable Record}
    {state : MemoryState} (ready : state.initialized = true) {record : Record}
    (named : t.recId record ≠ []) :
    (recordRow t (some record) state).2 = .success ↔
      (t.rows state).length < t.limit := by
  unfold recordRow
  simp only [ready, Bool.true_eq_false, if_false, named]
  by_cases full : t.limit ≤ (t.rows state).length
  · rw [if_pos full]
    constructor
    · intro succeeded
      cases succeeded
    · intro room
      exact absurd full (Nat.not_le.mpr room)
  · rw [if_neg full]
    refine ⟨fun _ => Nat.not_le.mp full, fun _ => ?_⟩
    cases KeyedList.changeFirst t.recId (t.recId record) (fun _ => record)
      (t.rows state) with
    | none => rfl
    | some rows => rfl

/-- The capacity is checked first, so a full table also refuses a recorded id. -/
theorem recordsToLimit_iff {Record : Type} {t : RecordTable Record}
    {state : MemoryState} (ready : state.initialized = true) {record : Record}
    (named : t.recId record ≠ []) :
    RecordsToLimit t state record ↔
      (t.rows state).length < t.limit ∨
        ¬t.Recorded state (t.recId record) := by
  unfold RecordsToLimit
  rw [recordRow_success_iff ready named]
  by_cases recorded : t.Recorded state (t.recId record)
  · rw [or_iff_left (not_not_intro recorded)]
    exact ⟨fun exactly => exactly.mpr (Or.inl recorded),
      fun room => ⟨Or.inr, fun _ => room⟩⟩
  · rw [or_iff_right recorded]
    exact ⟨fun _ => Or.inr recorded, fun _ => Iff.rfl⟩

/-- In every state a run reaches, a record function keeps to its limit for an
id exactly when the table has room or the id is not recorded. -/
theorem memory_limits_iff {root dataDir : Bytes} {ensured : Bytes → Bool}
    {before : MemoryState} (stopped : before.initialized = false)
    (succeeded : (memoryInit root dataDir ensured before).2 = .success)
    (calls : List MemoryCall) :
    let state := (final memoryStep
      (memoryStart (memoryInit root dataDir ensured before).1) calls).state
    (∀ pool : MemoryPool, pool.poolId.text ≠ [] →
        (RecordsToLimit poolTable state pool ↔
          state.pools.length < 64 ∨
            ¬poolTable.Recorded state pool.poolId.text)) ∧
      ∀ allocation : MemoryAllocation, allocation.allocationId.text ≠ [] →
        (RecordsToLimit allocationTable state allocation ↔
          state.allocations.length < 10000 ∨
            ¬allocationTable.Recorded state
              allocation.allocationId.text) := by
  intro state
  have ready := (memoryRun_holds stopped succeeded calls).initialized
  exact ⟨fun pool named => recordsToLimit_iff ready named,
    fun allocation named => recordsToLimit_iff ready named⟩

def numberedPool (number : Nat) : MemoryPool where
  poolId := CharArray.copy (decimal number)
  name := CharArray.copy []
  totalSize := 0
  usedSize := 0
  blockSize := 0
  blockCount := 0
  freeBlockCount := 0
  createdAt := 0
  status := CharArray.copy []

def fillingCalls : List MemoryCall :=
  (List.range 64).map fun number => .recordPool (some (numberedPool number))

theorem memory_limits_iff_filled :
    let state := (final memoryStep
      (memoryStart (memoryInit sampleDir sampleDir (fun _ => true)
        clearedMemory).1) fillingCalls).state
    (∀ pool : MemoryPool, pool.poolId.text ≠ [] →
        (RecordsToLimit poolTable state pool ↔
          state.pools.length < 64 ∨
            ¬poolTable.Recorded state pool.poolId.text)) ∧
      ∀ allocation : MemoryAllocation, allocation.allocationId.text ≠ [] →
        (RecordsToLimit allocationTable state allocation ↔
          state.allocations.length < 10000 ∨
            ¬allocationTable.Recorded state
              allocation.allocationId.text) :=
  memory_limits_iff (by decide) (by decide) fillingCalls

/-- After 64 pools the first of them cannot be recorded again. -/
theorem full_pool_table_refuses_recorded :
    ¬∀ calls : List MemoryCall,
      let state := (final memoryStep
        (memoryStart (memoryInit sampleDir sampleDir (fun _ => true)
          clearedMemory).1) calls).state
      (∀ pool : MemoryPool, pool.poolId.text ≠ [] →
          RecordsToLimit poolTable state pool) ∧
        ∀ allocation : MemoryAllocation, allocation.allocationId.text ≠ [] →
          RecordsToLimit allocationTable state allocation := by
  intro always
  have exactly := (always fillingCalls).1 (numberedPool 0) (by decide)
  have recorded : poolTable.Recorded (final memoryStep
      (memoryStart (memoryInit sampleDir sampleDir (fun _ => true)
        clearedMemory).1) fillingCalls).state
      (poolTable.recId (numberedPool 0)) :=
    ⟨numberedPool 0, by decide +kernel, rfl⟩
  have refused : (recordRow poolTable (some (numberedPool 0)) (final memoryStep
      (memoryStart (memoryInit sampleDir sampleDir (fun _ => true)
        clearedMemory).1) fillingCalls).state).2 = .errOutOfMemory := by
    decide +kernel
  have succeeded := exactly.mpr (Or.inl recorded)
  rw [refused] at succeeded
  cases succeeded

end Heapstore.Memory
