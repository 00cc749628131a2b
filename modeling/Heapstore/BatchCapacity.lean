/-
The capacity of a batch context under concurrent adds.

Both capacity checks of an add come before the lock is taken.  The pending
chain stays within the capacity exactly while no thread appends to a chain that
has grown full since its checks.
-/

import Heapstore.BatchConservation

namespace Heapstore.Batch

open LinkedChain OperationRun

/-- The chain of the context is no longer than its capacity. -/
def WithinCapacity (state : BatchState) : Prop :=
  ∃ chain, Chain state.heap state.context.head chain ∧
    chain.length ≤ state.context.capacity

/-- A thread that is past its checks appends only to a chain that is not full. -/
def AppendsBelow (state : BatchState) : BatchOp → Prop
  | .call _ _ => True
  | .step thread _ => ∀ record item,
      state.threads thread = .checked record item →
        state.context.count < state.context.capacity

/-- Some owners share out the memory. -/
def Owned (state : BatchState) : Prop :=
  ∃ pending held detached, Owns state pending held detached

theorem owned_step (state : BatchState) (operation : BatchOp)
    (owned : Owned state) : Owned (batchMachine state operation).1 := by
  obtain ⟨pending, held, detached, owns⟩ := owned
  obtain ⟨nextPending, nextHeld, nextDetached, nextOwns, _⟩ :=
    batchMachine_advances owns operation
  exact ⟨nextPending, nextHeld, nextDetached, nextOwns⟩

theorem withinCapacity_iff {state : BatchState} (owned : Owned state) :
    WithinCapacity state ↔ state.context.count ≤ state.context.capacity := by
  obtain ⟨pending, held, detached, owns⟩ := owned
  constructor
  · rintro ⟨chain, found, short⟩
    rwa [owns.count, owns.chain.unique found]
  · intro short
    rw [owns.count] at short
    exact ⟨pending, owns.chain, short⟩

/-- What entering a function does to the context: nothing, or a reset. -/
inductive CountStep (before : BatchContext) : BatchContext → Prop where
  | kept : CountStep before before
  | reset : CountStep before (batchDetach before)

theorem enterCall_count (state : BatchState) (thread : Nat) (call : BatchCall) :
    CountStep state.context (enterCall state thread call).1.context := by
  cases call with
  | addSession record item =>
      cases record with
      | none => exact .kept
      | some record =>
          simp only [enterCall]
          split <;> exact .kept
  | commit => exact .reset
  | discard => exact .reset

theorem threadStep_count {state : BatchState} {thread : Nat}
    (err : HeapstoreError)
    (before : ∀ record item, state.threads thread ≠ .checked record item) :
    (threadStep state thread err).1.context = state.context := by
  unfold threadStep
  split
  · rfl
  · split
    · split <;> rfl
    · rfl
  · rename_i place
    exact absurd place (before _ _)
  · rfl
  · split <;> rfl
  · split <;> rfl
  · rfl
  · split <;> rfl

theorem batchAppendItem_count {item : Nat} {heap linked : Heap SessionRecord}
    {before after : BatchContext}
    (appended : batchAppendItem item heap before = some (linked, after)) :
    after.count = before.count + 1 ∧ after.capacity = before.capacity := by
  unfold batchAppendItem at appended
  cases tail : before.tail with
  | none =>
      simp only [tail, Option.some.injEq, Prod.mk.injEq] at appended
      obtain ⟨_, rfl⟩ := appended
      exact ⟨rfl, rfl⟩
  | some last =>
      simp only [tail, Option.map_eq_some_iff, Prod.mk.injEq] at appended
      obtain ⟨_, _, _, rfl⟩ := appended
      exact ⟨rfl, rfl⟩

theorem threadStep_appends {state : BatchState} (owned : Owned state)
    {thread item : Nat} {record : SessionRecord} (err : HeapstoreError)
    (place : state.threads thread = .checked record item) :
    (threadStep state thread err).1.context.count = state.context.count + 1 ∧
      (threadStep state thread err).1.context.capacity =
        state.context.capacity := by
  obtain ⟨pending, held, detached, owns⟩ := owned
  obtain ⟨single, _, here⟩ := (owns.holds place).of_checked
  have apart : item ∉ addresses pending := by
    intro member
    exact owns.pendingApart thread item member (mem_of_first single)
  obtain ⟨heap, context, appended, _⟩ := batchAppendItem_eq owns apart here
  simp only [threadStep, place, appended]
  exact batchAppendItem_count appended

/-- One step keeps the chain within the capacity exactly if it meets the guard. -/
theorem within_step_iff (state : BatchState) (operation : BatchOp)
    (owned : Owned state) (within : WithinCapacity state) :
    WithinCapacity (batchMachine state operation).1 ↔
      AppendsBelow state operation := by
  rw [withinCapacity_iff (owned_step state operation owned)]
  have short := (withinCapacity_iff owned).mp within
  cases operation with
  | call thread call =>
      refine iff_of_true ?_ trivial
      simp only [batchMachine]
      split
      · have step := enterCall_count state thread call
        generalize (enterCall state thread call).1.context = context at step ⊢
        cases step with
        | kept => exact short
        | reset => exact Nat.zero_le _
      · exact short
  | step thread err =>
      simp only [batchMachine, AppendsBelow]
      by_cases checked : ∃ record item,
          state.threads thread = .checked record item
      · obtain ⟨record, item, place⟩ := checked
        obtain ⟨count, capacity⟩ := threadStep_appends owned err place
        rw [count, capacity]
        exact ⟨fun fits _ _ _ => fits, fun below => below record item place⟩
      · have elsewhere : ∀ record item,
            state.threads thread ≠ .checked record item :=
          fun record item place => checked ⟨record, item, place⟩
        rw [threadStep_count err elsewhere]
        exact iff_of_true short
          fun record item place => absurd place (elsewhere record item)

/-- In a run, the chain never outgrows the capacity exactly when every thread
appends while the chain is not full. -/
theorem batch_capacity_iff (batchSize : Nat) (operations : List BatchOp) :
    (∀ done, done <+: operations →
      WithinCapacity (final batchMachine (batchBegin batchSize) done)) ↔
      Meets batchMachine AppendsBelow (batchBegin batchSize) operations :=
  prefixes_iff_meets batchMachine AppendsBelow Owned WithinCapacity
    owned_step within_step_iff (batchBegin batchSize) operations
    ⟨[], fun _ => [], fun _ => [], owns_batchBegin batchSize⟩
    ⟨[], .nil, Nat.zero_le _⟩

/-! ### Threads that nobody overtakes -/

/-- The batch, and the threads that another one has overtaken: it appended
after they had passed their second check. -/
structure WatchedBatch where
  state : BatchState
  overtaken : Nat → Bool

def overtakenBy (watched : WatchedBatch) (thread : Nat) : Nat → Bool :=
  match watched.state.threads thread with
  | .created _ _ => Function.update watched.overtaken thread false
  | .checked _ _ => fun other => other ≠ thread || watched.overtaken other
  | _ => watched.overtaken

def watchBatch : Machine WatchedBatch BatchOp BatchAnswer :=
  fun watched operation =>
    ({ state := (batchMachine watched.state operation).1
       overtaken :=
         match operation with
         | .call _ _ => watched.overtaken
         | .step thread _ => overtakenBy watched thread },
      (batchMachine watched.state operation).2)

def NotOvertaken (watched : WatchedBatch) : BatchOp → Prop
  | .call _ _ => True
  | .step thread _ => ∀ record item,
      watched.state.threads thread = .checked record item →
        watched.overtaken thread = false

/-- What the second check found still holds for a thread that nobody has
overtaken. -/
structure Fresh (watched : WatchedBatch) : Prop where
  room : 0 < watched.state.context.capacity
  below : ∀ thread record item,
    watched.state.threads thread = .checked record item →
      watched.overtaken thread = false →
        watched.state.context.count < watched.state.context.capacity

/-- A thread is past its second check if it was, or if the check succeeds. -/
inductive CheckStep (state : BatchState) (thread : Nat) : BatchThread → Prop where
  | kept : CheckStep state thread (state.threads thread)
  | passed (record : SessionRecord) (item : Nat)
      (place : state.threads thread = .created record item)
      (below : state.context.count < state.context.capacity) :
      CheckStep state thread (.checked record item)
  | elsewhere (place : BatchThread)
      (unchecked : ∀ record item, place ≠ .checked record item) :
      CheckStep state thread place

theorem threadStep_check (state : BatchState) (thread : Nat)
    (err : HeapstoreError) :
    CheckStep state thread
        ((threadStep state thread err).1.threads thread) ∧
      ∀ other, other ≠ thread →
        (threadStep state thread err).1.threads other =
          state.threads other := by
  have moved : ∀ (next : BatchState) place,
      (∀ record item, place ≠ .checked record item) →
      next.threads = state.threads →
      CheckStep state thread ((next.move thread place).threads thread) ∧
        ∀ other, other ≠ thread →
          (next.move thread place).threads other = state.threads other := by
    intro next place unchecked same
    constructor
    · rw [show (next.move thread place).threads thread = place from
        Function.update_self ..]
      exact .elsewhere place unchecked
    · intro other apart
      exact (Function.update_of_ne apart ..).trans (congrFun same other)
  unfold threadStep
  split
  · exact ⟨.kept, fun _ _ => rfl⟩
  · next record item place =>
      split
      · split
        · exact ⟨.kept, fun _ _ => rfl⟩
        · exact moved _ _ nofun rfl
      · next full =>
          refine ⟨?_, fun other apart => Function.update_of_ne apart ..⟩
          rw [show (state.move thread (.checked record item)).threads thread =
            .checked record item from Function.update_self ..]
          exact .passed record item place (Nat.lt_of_not_le full)
  · split
    · exact ⟨.kept, fun _ _ => rfl⟩
    · exact moved _ _ nofun rfl
  · exact moved _ _ nofun rfl
  · split
    · exact ⟨.kept, fun _ _ => rfl⟩
    · exact moved _ _ nofun rfl
  · split
    · exact ⟨.kept, fun _ _ => rfl⟩
    · exact moved _ _ nofun rfl
  · exact moved _ _ nofun rfl
  · split
    · exact ⟨.kept, fun _ _ => rfl⟩
    · exact moved _ _ nofun rfl

theorem enterCall_unchecked (state : BatchState) (thread other : Nat)
    (call : BatchCall) {record : SessionRecord} {item : Nat}
    (place : (enterCall state thread call).1.threads other =
      .checked record item) :
    state.threads other = .checked record item := by
  have moved : ∀ (next : BatchState) target,
      (∀ record item, target ≠ .checked record item) →
      next.threads = state.threads →
      (next.move thread target).threads other = .checked record item →
      state.threads other = .checked record item := by
    intro next target unchecked same reached
    by_cases mine : other = thread
    · subst mine
      exact absurd ((Function.update_self ..).symm.trans reached)
        (unchecked _ _)
    · rw [← same]
      exact (Function.update_of_ne mine ..).symm.trans reached
  cases call with
  | addSession given address =>
      cases given with
      | none => exact place
      | some given =>
          simp only [enterCall] at place
          split at place
          · exact place
          · exact moved _ _ (by rintro _ _ ⟨⟩) rfl place
  | commit => exact moved _ _ (by rintro _ _ ⟨⟩) rfl place
  | discard => exact moved _ _ (by rintro _ _ ⟨⟩) rfl place

/-- An append that goes wrong leaves the thread and the context as they are. -/
theorem threadStep_stuck {state : BatchState} {thread item : Nat}
    {record : SessionRecord} {err : HeapstoreError}
    (place : state.threads thread = .checked record item)
    (stuck : (threadStep state thread err).1.threads thread =
      .checked record item) :
    (threadStep state thread err).1.context = state.context := by
  simp only [threadStep, place] at stuck ⊢
  split
  · rfl
  · next appended =>
      simp only [appended] at stuck
      cases (Function.update_self ..).symm.trans stuck

/-- The capacity is set once. -/
theorem batchMachine_capacity (state : BatchState) (operation : BatchOp) :
    (batchMachine state operation).1.context.capacity =
      state.context.capacity := by
  cases operation with
  | call thread call =>
      simp only [batchMachine]
      split
      · have step := enterCall_count state thread call
        generalize (enterCall state thread call).1.context = context at step ⊢
        cases step <;> rfl
      · rfl
  | step thread err =>
      simp only [batchMachine]
      by_cases checked : ∃ record item,
          state.threads thread = .checked record item
      · obtain ⟨record, item, place⟩ := checked
        simp only [threadStep, place]
        split
        · rfl
        · next appended => exact (batchAppendItem_count appended).2
      · rw [threadStep_count err fun record item place =>
          checked ⟨record, item, place⟩]

/-- A step of another thread that leaves this one trusted is no append. -/
theorem trusted_beside {watched : WatchedBatch} {thread other : Nat}
    (apart : other ≠ thread)
    (trusted : overtakenBy watched thread other = false) :
    (∀ record item, watched.state.threads thread ≠ .checked record item) ∧
      watched.overtaken other = false := by
  unfold overtakenBy at trusted
  generalize watched.state.threads thread = place at trusted ⊢
  cases place with
  | created record item =>
      exact ⟨nofun, (Function.update_of_ne apart ..).symm.trans trusted⟩
  | checked record item => simp [apart] at trusted
  | idle => exact ⟨nofun, trusted⟩
  | committing item result => exact ⟨nofun, trusted⟩
  | releasing item next result => exact ⟨nofun, trusted⟩
  | discarding item => exact ⟨nofun, trusted⟩

theorem fresh_call {watched : WatchedBatch} (thread : Nat) (call : BatchCall)
    (fresh : Fresh watched) :
    Fresh (watchBatch watched (.call thread call)).1 := by
  have capacity := batchMachine_capacity watched.state (.call thread call)
  refine ⟨capacity.symm ▸ fresh.room, ?_⟩
  intro other record item place trusted
  rw [show (watchBatch watched (.call thread call)).1.state.context.capacity =
    _ from capacity]
  simp only [watchBatch, batchMachine] at place trusted ⊢
  split at place
  · have before := enterCall_unchecked watched.state thread other call place
    have step := enterCall_count watched.state thread call
    generalize (enterCall watched.state thread call).1.context = context
      at step ⊢
    cases step with
    | kept => exact fresh.below other record item before trusted
    | reset => exact fresh.room
  · exact fresh.below other record item place trusted

theorem fresh_threadStep {watched : WatchedBatch} (thread : Nat)
    (err : HeapstoreError) (fresh : Fresh watched) :
    Fresh (watchBatch watched (.step thread err)).1 := by
  have capacity := batchMachine_capacity watched.state (.step thread err)
  refine ⟨capacity.symm ▸ fresh.room, ?_⟩
  intro other record item place trusted
  rw [show (watchBatch watched (.step thread err)).1.state.context.capacity =
    _ from capacity]
  change (threadStep watched.state thread err).1.threads other = _ at place
  change overtakenBy watched thread other = false at trusted
  change (threadStep watched.state thread err).1.context.count < _
  obtain ⟨mine, others⟩ := threadStep_check watched.state thread err
  by_cases same : other = thread
  · subst same
    generalize reached : (threadStep watched.state other err).1.threads other =
      now at mine
    rw [reached] at place
    cases mine with
    | kept =>
        rw [threadStep_stuck place (reached.trans place)]
        unfold overtakenBy at trusted
        simp only [place, ne_eq, not_true, decide_false, Bool.false_or]
          at trusted
        exact fresh.below other record item place trusted
    | passed given address created below =>
        rw [threadStep_count err fun _ _ checked => by
          rw [created] at checked
          cases checked]
        exact below
    | elsewhere _ unchecked => exact absurd place (unchecked record item)
  · have before := (others other same).symm.trans place
    have unmoved := trusted_beside same trusted
    rw [threadStep_count err unmoved.1]
    exact fresh.below other record item before unmoved.2

theorem fresh_step (watched : WatchedBatch) (operation : BatchOp)
    (fresh : Fresh watched) : Fresh (watchBatch watched operation).1 := by
  cases operation with
  | call thread call => exact fresh_call thread call fresh
  | step thread err => exact fresh_threadStep thread err fresh

theorem appendsBelow_of_notOvertaken {watched : WatchedBatch}
    {operation : BatchOp} (fresh : Fresh watched)
    (alone : NotOvertaken watched operation) :
    AppendsBelow watched.state operation := by
  cases operation with
  | call thread call => trivial
  | step thread err =>
      intro record item place
      exact fresh.below thread record item place (alone record item place)

theorem appendsBelow_run {watched : WatchedBatch} {operations : List BatchOp}
    (fresh : Fresh watched)
    (alone : Meets watchBatch NotOvertaken watched operations) :
    Meets batchMachine AppendsBelow watched.state operations := by
  induction operations generalizing watched with
  | nil => trivial
  | cons operation rest ih =>
      obtain ⟨here, later⟩ := alone
      exact ⟨appendsBelow_of_notOvertaken fresh here,
        ih (fresh_step watched operation fresh) later⟩

/-- Where no other thread appends between the second check of an add and its
append, the two checks keep every chain within the capacity. -/
theorem batch_checks_suffice (batchSize : Nat) (operations done : List BatchOp)
    (alone : Meets watchBatch NotOvertaken
      { state := batchBegin batchSize, overtaken := fun _ => false } operations)
    (isPrefix : done <+: operations) :
    WithinCapacity (final batchMachine (batchBegin batchSize) done) := by
  have fresh : Fresh
      { state := batchBegin batchSize, overtaken := fun _ => false } := by
    refine ⟨?_, nofun⟩
    change 0 < min (if batchSize > 0 then batchSize
      else heapstoreBatchMaxItems) heapstoreBatchMaxItems
    unfold heapstoreBatchMaxItems
    split <;> omega
  exact (prefixes_iff_meets batchMachine AppendsBelow Owned WithinCapacity
    owned_step within_step_iff (batchBegin batchSize) operations
    ⟨[], fun _ => [], fun _ => [], owns_batchBegin batchSize⟩
    ⟨[], .nil, Nat.zero_le _⟩).mpr (appendsBelow_run fresh alone) done isPrefix

/-- Two threads pass both checks of a context for one session, then append. -/
theorem batch_capacity_exceeded :
    ¬∀ operations, WithinCapacity
      (final batchMachine (batchBegin 1) operations) := by
  intro always
  let operations : List BatchOp :=
    [.call 0 (.addSession (some (sessionNamed "a")) (some 0)),
      .call 1 (.addSession (some (sessionNamed "b")) (some 1)),
      .step 0 .success, .step 1 .success, .step 0 .success, .step 1 .success]
  have owned : Owned (final batchMachine (batchBegin 1) operations) :=
    invariant batchMachine Owned owned_step (batchBegin 1) operations
      ⟨[], fun _ => [], fun _ => [], owns_batchBegin 1⟩
  have fits := (withinCapacity_iff owned).mp (always operations)
  exact absurd fits (by decide)

end Heapstore.Batch
