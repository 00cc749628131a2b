/-
Who owns the items of a batch context.

Every allocated item belongs to the chain of the context or to one thread, and
no two owners share one.  A step of a thread therefore changes memory that no
other thread looks at, and acts on the queue of sessions as one of the few
effects named below.
-/

import Heapstore.BatchContext

namespace Heapstore.Batch

open LinkedChain OperationRun

abbrev Item := Nat × SessionRecord

/-! ### The queue that the memory stands for -/

/-- The pending sessions, and those that a thread has detached and not yet
passed on. -/
structure SessionQueue where
  pending : List SessionRecord
  detached : Nat → List SessionRecord

def acceptedRecord : BatchAnswer → Option SessionRecord
  | .added _ record .success => record
  | _ => none

def handedRecord (thread : Nat) : BatchAnswer → Option SessionRecord
  | .handed by_ record _ => if by_ = thread then some record else none
  | _ => none

def droppedRecord (thread : Nat) : BatchAnswer → Option SessionRecord
  | .dropped by_ record => if by_ = thread then some record else none
  | _ => none

/-- Answers that accept, hand over and drop nothing. -/
structure Silent (answer : BatchAnswer) : Prop where
  accepted : acceptedRecord answer = none
  handed : ∀ thread, handedRecord thread answer = none
  dropped : ∀ thread, droppedRecord thread answer = none
  defined : answer ≠ .undefined

inductive QueueEffect (queue : SessionQueue) :
    BatchAnswer → SessionQueue → Prop where
  | silent (answer : BatchAnswer) (silent : Silent answer) :
      QueueEffect queue answer queue
  | appended (thread : Nat) (record : SessionRecord) :
      QueueEffect queue (.added thread (some record) .success)
        { queue with pending := queue.pending ++ [record] }
  | detached (thread : Nat) (free : queue.detached thread = []) :
      QueueEffect queue .running
        { pending := []
          detached := Function.update queue.detached thread queue.pending }
  | handed (thread : Nat) (record : SessionRecord)
      (rest : List SessionRecord) (err : HeapstoreError)
      (first : queue.detached thread = record :: rest) :
      QueueEffect queue (.handed thread record err)
        { queue with detached := Function.update queue.detached thread rest }
  | dropped (thread : Nat) (record : SessionRecord)
      (rest : List SessionRecord)
      (first : queue.detached thread = record :: rest) :
      QueueEffect queue (.dropped thread record)
        { queue with detached := Function.update queue.detached thread rest }

/-! ### Ownership -/

/-- The items of a thread, and the sessions among them still to be passed on. -/
inductive Holds (heap : Heap SessionRecord) :
    BatchThread → List Item → List SessionRecord → Prop where
  | idle : Holds heap .idle [] []
  | created (record : SessionRecord) (item : Nat)
      (here : heap item = some { payload := record, next := none }) :
      Holds heap (.created record item) [(item, record)] []
  | checked (record : SessionRecord) (item : Nat)
      (here : heap item = some { payload := record, next := none }) :
      Holds heap (.checked record item) [(item, record)] []
  | committing (item : Option Nat) (result : HeapstoreError)
      (items : List Item) (chain : Chain heap item items) :
      Holds heap (.committing item result) items (payloads items)
  | releasing (item : Nat) (record : SessionRecord) (next : Option Nat)
      (result : HeapstoreError) (rest : List Item)
      (here : heap item = some { payload := record, next := next })
      (chain : Chain heap next rest) :
      Holds heap (.releasing item next result) ((item, record) :: rest)
        (payloads rest)
  | discarding (item : Option Nat) (items : List Item)
      (chain : Chain heap item items) :
      Holds heap (.discarding item) items (payloads items)

theorem Holds.frame {heap other : Heap SessionRecord} {place : BatchThread}
    {items : List Item} {waiting : List SessionRecord}
    (holds : Holds heap place items waiting)
    (same : ∀ address ∈ addresses items, other address = heap address) :
    Holds other place items waiting := by
  cases holds with
  | idle => exact .idle
  | created record item here =>
      exact .created record item ((same item List.mem_cons_self).trans here)
  | checked record item here =>
      exact .checked record item ((same item List.mem_cons_self).trans here)
  | committing item result items chain =>
      exact .committing item result items (chain.frame same)
  | releasing item record next result rest here chain =>
      refine .releasing item record next result rest
        ((same item List.mem_cons_self).trans here) (chain.frame ?_)
      intro address member
      exact same address (List.mem_cons_of_mem _ member)
  | discarding item items chain =>
      exact .discarding item items (chain.frame same)

theorem Holds.allocated {heap : Heap SessionRecord} {place : BatchThread}
    {items : List Item} {waiting : List SessionRecord}
    (holds : Holds heap place items waiting) :
    ∀ address ∈ addresses items, heap address ≠ none := by
  have single : ∀ {item : Nat} {record : SessionRecord},
      heap item = some { payload := record, next := none } →
        ∀ address ∈ addresses [(item, record)], heap address ≠ none := by
    intro item record here address member
    rw [List.mem_singleton.mp member, here]
    exact Option.some_ne_none _
  cases holds with
  | idle => exact nofun
  | created record item here => exact single here
  | checked record item here => exact single here
  | committing item result items chain => exact chain.allocated
  | releasing item record next result rest here chain =>
      exact (Chain.cons item record next rest here chain).allocated
  | discarding item items chain => exact chain.allocated

/-- The chain of the context and the items of the threads, apart from each
other. -/
structure Owns (state : BatchState) (pending : List Item)
    (held : Nat → List Item) (detached : Nat → List SessionRecord) : Prop where
  chain : Chain state.heap state.context.head pending
  tail : state.context.tail = lastAddress pending
  count : state.context.count = pending.length
  threads : ∀ thread, Holds state.heap (state.threads thread) (held thread)
    (detached thread)
  pendingApart : ∀ thread, ∀ address ∈ addresses pending,
    address ∉ addresses (held thread)
  threadsApart : ∀ thread other, thread ≠ other →
    ∀ address ∈ addresses (held thread), address ∉ addresses (held other)

section Changes

variable {state : BatchState} {pending : List Item} {held : Nat → List Item}
  {detached : Nat → List SessionRecord}

/-- A step of one thread that leaves the items of the others alone. -/
theorem Owns.changed (owns : Owns state pending held detached) (thread : Nat)
    {heap : Heap SessionRecord} {context : BatchContext} {place : BatchThread}
    {nextPending items : List Item} {waiting : List SessionRecord}
    (frame : ∀ other, other ≠ thread →
      ∀ address ∈ addresses (held other), heap address = state.heap address)
    (chain : Chain heap context.head nextPending)
    (tail : context.tail = lastAddress nextPending)
    (count : context.count = nextPending.length)
    (holds : Holds heap place items waiting)
    (both : ∀ address ∈ addresses nextPending, address ∉ addresses items)
    (others : ∀ other, other ≠ thread → ∀ address,
      address ∈ addresses nextPending ∨ address ∈ addresses items →
        address ∉ addresses (held other)) :
    Owns ({ state with heap := heap, context := context }.move thread place)
      nextPending (Function.update held thread items)
      (Function.update detached thread waiting) := by
  refine ⟨chain, tail, count, ?_, ?_, ?_⟩
  · intro other
    by_cases same : other = thread
    · subst same
      simpa only [BatchState.move, Function.update_self] using holds
    · simp only [BatchState.move, Function.update_of_ne same]
      exact (owns.threads other).frame (frame other same)
  · intro other address member
    by_cases same : other = thread
    · rw [same, Function.update_self]
      exact both address member
    · rw [Function.update_of_ne same]
      exact others other same address (Or.inl member)
  · intro first second different address member
    by_cases here : first = thread
    · rw [here, Function.update_self] at member
      have apart : second ≠ thread := fun same => different (here.trans same.symm)
      rw [Function.update_of_ne apart]
      exact others second apart address (Or.inr member)
    · rw [Function.update_of_ne here] at member
      by_cases there : second = thread
      · rw [there, Function.update_self]
        intro shared
        exact others first here address (Or.inr shared) member
      · rw [Function.update_of_ne there]
        exact owns.threadsApart first second different address member

/-- A step that changes nothing but the items and the place of one thread. -/
theorem Owns.threadChanged (owns : Owns state pending held detached)
    (thread : Nat) {heap : Heap SessionRecord} {place : BatchThread}
    {items : List Item} {waiting : List SessionRecord}
    (frame : ∀ address, address ∉ addresses (held thread) →
      state.heap address ≠ none → heap address = state.heap address)
    (holds : Holds heap place items waiting)
    (inside : ∀ address ∈ addresses items,
      address ∈ addresses (held thread) ∨ state.heap address = none) :
    Owns ({ state with heap := heap }.move thread place) pending
      (Function.update held thread items)
      (Function.update detached thread waiting) := by
  have away : ∀ other, other ≠ thread → ∀ address ∈ addresses (held other),
      heap address = state.heap address := by
    intro other different address member
    exact frame address (owns.threadsApart other thread different address member)
      ((owns.threads other).allocated address member)
  have chain : Chain heap state.context.head pending := by
    apply owns.chain.frame
    intro address member
    exact frame address (owns.pendingApart thread address member)
      (owns.chain.allocated address member)
  refine owns.changed thread away chain owns.tail owns.count holds ?_ ?_
  · intro address member shared
    rcases inside address shared with mine | free
    · exact owns.pendingApart thread address member mine
    · exact owns.chain.allocated address member free
  · intro other different address either member
    rcases either with waits | shared
    · exact owns.pendingApart other address waits member
    · rcases inside address shared with mine | free
      · exact owns.threadsApart other thread different address member mine
      · exact (owns.threads other).allocated address member free

end Changes

/-! ### What a thread holds where it stands -/

section Places

variable {heap : Heap SessionRecord} {items : List Item}
  {waiting : List SessionRecord} {record : SessionRecord} {item : Nat}

theorem Holds.of_idle (holds : Holds heap .idle items waiting) :
    items = [] ∧ waiting = [] := by
  cases holds
  exact ⟨rfl, rfl⟩

theorem Holds.of_created (holds : Holds heap (.created record item) items
    waiting) : items = [(item, record)] ∧ waiting = [] ∧
      heap item = some { payload := record, next := none } := by
  cases holds with
  | created _ _ here => exact ⟨rfl, rfl, here⟩

theorem Holds.of_checked (holds : Holds heap (.checked record item) items
    waiting) : items = [(item, record)] ∧ waiting = [] ∧
      heap item = some { payload := record, next := none } := by
  cases holds with
  | checked _ _ here => exact ⟨rfl, rfl, here⟩

theorem Holds.of_committing {start : Option Nat} {result : HeapstoreError}
    (holds : Holds heap (.committing start result) items waiting) :
    waiting = payloads items ∧ Chain heap start items := by
  cases holds with
  | committing _ _ _ chain => exact ⟨rfl, chain⟩

theorem Holds.of_releasing {next : Option Nat} {result : HeapstoreError}
    (holds : Holds heap (.releasing item next result) items waiting) :
    ∃ record rest, items = (item, record) :: rest ∧ waiting = payloads rest ∧
      heap item = some { payload := record, next := next } ∧
        Chain heap next rest := by
  cases holds with
  | releasing _ record _ _ rest here chain =>
      exact ⟨record, rest, rfl, rfl, here, chain⟩

theorem Holds.of_discarding {start : Option Nat}
    (holds : Holds heap (.discarding start) items waiting) :
    waiting = payloads items ∧ Chain heap start items := by
  cases holds with
  | discarding _ _ chain => exact ⟨rfl, chain⟩

end Places

/-! ### The effect of each step -/

section Steps

variable {state : BatchState} {pending : List Item} {held : Nat → List Item}
  {detached : Nat → List SessionRecord}

/-- The memory after a step is owned again, and the queue shows the effect that
the answer names. -/
def Advances (pending : List Item) (detached : Nat → List SessionRecord)
    (result : BatchState × BatchAnswer) : Prop :=
  ∃ nextPending nextHeld nextDetached,
    Owns result.1 nextPending nextHeld nextDetached ∧
      QueueEffect { pending := payloads pending, detached := detached } result.2
        { pending := payloads nextPending, detached := nextDetached }

/-- What a thread holds is what its place says. -/
theorem Owns.holds (owns : Owns state pending held detached) {thread : Nat}
    {place : BatchThread} (here : state.threads thread = place) :
    Holds state.heap place (held thread) (detached thread) := by
  rw [← here]
  exact owns.threads thread

theorem mem_of_first {item : Nat} {record : SessionRecord}
    {items rest : List Item} (first : items = (item, record) :: rest) :
    item ∈ addresses items := by
  rw [first]
  exact List.mem_cons_self

theorem silent_running : Silent .running :=
  ⟨rfl, fun _ => rfl, fun _ => rfl, nofun⟩

theorem silent_added (thread : Nat) (record : Option SessionRecord)
    {error : HeapstoreError} (failed : error ≠ .success) :
    Silent (.added thread record error) := by
  refine ⟨?_, fun _ => rfl, fun _ => rfl, nofun⟩
  cases error <;> first | rfl | exact absurd rfl failed

theorem Owns.rests (owns : Owns state pending held detached)
    {answer : BatchAnswer} (silent : Silent answer) :
    Advances pending detached (state, answer) :=
  ⟨pending, held, detached, owns, .silent answer silent⟩

/-- A thread moves on with other items and the same sessions to pass on. -/
theorem Owns.silently (owns : Owns state pending held detached) (thread : Nat)
    {heap : Heap SessionRecord} {place : BatchThread} (items : List Item)
    {answer : BatchAnswer} (silent : Silent answer)
    (frame : ∀ address, address ∉ addresses (held thread) →
      state.heap address ≠ none → heap address = state.heap address)
    (holds : Holds heap place items (detached thread))
    (inside : ∀ address ∈ addresses items,
      address ∈ addresses (held thread) ∨ state.heap address = none) :
    Advances pending detached
      ({ state with heap := heap }.move thread place, answer) := by
  have changed := owns.threadChanged thread frame holds inside
  rw [Function.update_eq_self] at changed
  exact ⟨pending, _, detached, changed, .silent answer silent⟩

theorem free_frame {item : Nat} {items : List Item}
    (mine : item ∈ addresses items) (address : Nat)
    (other : address ∉ addresses items) (_ : state.heap address ≠ none) :
    Function.update state.heap item none address = state.heap address := by
  apply Function.update_of_ne
  intro same
  subst same
  exact other mine

/-- Freeing the first item of a chain leaves the others. -/
theorem freed_rest {item : Nat} {record : SessionRecord} {rest : List Item}
    (whole : Chain state.heap (some item) ((item, record) :: rest)) :
    ∀ address ∈ addresses rest,
      Function.update state.heap item none address = state.heap address := by
  intro address member
  apply Function.update_of_ne
  intro same
  subst same
  exact (List.nodup_cons.mp whole.nodup).1 member

theorem batchItemNew_some {item : Option Nat} {record : SessionRecord}
    {address : Nat} {heap : Heap SessionRecord}
    (created : batchItemNew item record state = some (address, heap)) :
    state.heap address = none ∧ heap = Function.update state.heap address
      (some { payload := record, next := none }) := by
  unfold batchItemNew at created
  split at created
  · cases created
  split at created
  · cases created
  split at created
  · cases created
  · rename_i unused
    rw [Option.some.injEq, Prod.mk.injEq] at created
    obtain ⟨rfl, rfl⟩ := created
    exact ⟨Option.not_isSome_iff_eq_none.mp unused, rfl⟩

/-- A thread takes the whole chain of the context. -/
theorem Owns.detach (owns : Owns state pending held detached) {thread : Nat}
    {place : BatchThread} (free : detached thread = [])
    (holds : Holds state.heap place pending (payloads pending)) :
    Advances pending detached
      ({ state with context := batchDetach state.context }.move thread place,
        .running) := by
  refine ⟨[], _, _, owns.changed thread (fun _ _ _ _ => rfl) .nil rfl rfl holds
    nofun ?_, .detached thread free⟩
  intro other different address either member
  rcases either with none_ | taken
  · cases none_
  · exact owns.pendingApart other address taken member

theorem enterCall_advances (owns : Owns state pending held detached)
    {thread : Nat} (idle : state.threads thread = .idle) (call : BatchCall) :
    Advances pending detached (enterCall state thread call) := by
  obtain ⟨_, free⟩ := (owns.holds idle).of_idle
  cases call with
  | addSession record item =>
      cases record with
      | none => exact owns.rests (silent_added thread none (by decide))
      | some record =>
          simp only [enterCall]
          cases created : batchItemNew item record state with
          | none =>
              exact owns.rests (silent_added thread (some record) (by decide))
          | some result =>
              obtain ⟨address, heap⟩ := result
              obtain ⟨unused, rfl⟩ := batchItemNew_some created
              refine owns.silently thread [(address, record)] silent_running
                ?_ ?_ ?_
              · intro other _ allocated
                apply Function.update_of_ne
                intro same
                subst same
                exact allocated unused
              · rw [free]
                exact .created record address (Function.update_self ..)
              · intro other member
                rw [List.mem_singleton.mp member]
                exact Or.inr unused
  | commit => exact owns.detach free (.committing _ _ _ owns.chain)
  | discard => exact owns.detach free (.discarding _ _ owns.chain)

theorem batchAppendItem_eq (owns : Owns state pending held detached)
    {item : Nat} {record : SessionRecord} (apart : item ∉ addresses pending)
    (here : state.heap item = some { payload := record, next := none }) :
    ∃ heap context,
      batchAppendItem item state.heap state.context = some (heap, context) ∧
        (∀ address, address ∉ addresses pending →
          heap address = state.heap address) ∧
        Chain heap context.head (pending ++ [(item, record)]) ∧
        context.tail = some item ∧
        context.count = pending.length + 1 := by
  unfold batchAppendItem
  cases tail : state.context.tail with
  | none =>
      have empty := lastAddress_eq_none_iff.mp (owns.tail.symm.trans tail)
      subst empty
      exact ⟨_, _, rfl, fun _ _ => rfl, .cons item record none [] here .nil,
        rfl, congrArg (· + 1) owns.count⟩
  | some last =>
      have ends := owns.tail.symm.trans tail
      obtain ⟨heap, linked, chained⟩ :=
        owns.chain.link_last ends apart here
      refine ⟨heap, { state.context with
          tail := some item
          count := state.context.count + 1 }, ?_, ?_, chained, rfl,
        congrArg (· + 1) owns.count⟩
      · simp only [linked, Option.map_some]
      · intro address outside
        refine link_other ?_ linked
        intro same
        subst same
        exact outside (mem_of_lastAddress ends)

theorem checked_advances (owns : Owns state pending held detached)
    {thread item : Nat} {record : SessionRecord} (err : HeapstoreError)
    (place : state.threads thread = .checked record item) :
    Advances pending detached (threadStep state thread err) := by
  obtain ⟨single, free, here⟩ := (owns.holds place).of_checked
  have owned := mem_of_first single
  have apart : item ∉ addresses pending := fun member =>
    owns.pendingApart thread item member owned
  obtain ⟨heap, context, appended, frame, chain, tail, count⟩ :=
    batchAppendItem_eq owns apart here
  simp only [threadStep, place, appended]
  have holds : Holds heap .idle [] (detached thread) := by
    rw [free]
    exact .idle
  have ends : context.tail = lastAddress (pending ++ [(item, record)]) :=
    tail.trans (lastAddress_append pending item record).symm
  have length : context.count = (pending ++ [(item, record)]).length := by
    rw [List.length_append]
    exact count
  have changed := owns.changed thread
    (fun other different address member => frame address fun waits =>
      owns.pendingApart other address waits member)
    chain ends length holds nofun (by
      intro other different address either
      rcases either with waits | none_
      · unfold addresses at waits
        rw [List.map_append, List.mem_append] at waits
        rcases waits with before | added
        · exact owns.pendingApart other address before
        · rw [List.mem_singleton.mp added]
          exact owns.threadsApart thread other different.symm item owned
      · cases none_)
  rw [Function.update_eq_self] at changed
  refine ⟨_, _, _, changed, ?_⟩
  have shown : payloads (pending ++ [(item, record)]) =
      payloads pending ++ [record] := List.map_append ..
  rw [shown]
  exact .appended thread record

theorem created_advances (owns : Owns state pending held detached)
    {thread item : Nat} {record : SessionRecord} (err : HeapstoreError)
    (place : state.threads thread = .created record item) :
    Advances pending detached (threadStep state thread err) := by
  obtain ⟨single, free, here⟩ := (owns.holds place).of_created
  have owned := mem_of_first single
  simp only [threadStep, place]
  split
  · rw [if_neg (by simp [here])]
    refine owns.silently thread [] (silent_added thread (some record)
      (by decide)) (free_frame owned) ?_ nofun
    rw [free]
    exact .idle
  · refine owns.silently thread (held thread) silent_running
      (fun _ _ _ => rfl) ?_ (fun _ member => Or.inl member)
    rw [single, free]
    exact .checked record item here

theorem committing_advances (owns : Owns state pending held detached)
    {thread : Nat} {start : Option Nat} {result : HeapstoreError}
    (err : HeapstoreError)
    (place : state.threads thread = .committing start result) :
    Advances pending detached (threadStep state thread err) := by
  obtain ⟨waits, chain⟩ := (owns.holds place).of_committing
  cases start with
  | none =>
      simp only [threadStep, place]
      have ended : Silent (.committed thread result) :=
        ⟨rfl, fun _ => rfl, fun _ => rfl, nofun⟩
      refine owns.silently thread [] ended (fun _ _ _ => rfl) ?_ nofun
      rw [waits, chain.empty]
      exact .idle
  | some item =>
      obtain ⟨record, next, rest, items, here, later⟩ := chain.first
      simp only [threadStep, place, here]
      have holds : Holds state.heap (.releasing item next
          (if err ≠ .success ∧ result = .success then err else result))
          (held thread) (payloads rest) := by
        rw [items]
        exact .releasing item record next _ rest here later
      refine ⟨pending, _, _, owns.threadChanged thread (fun _ _ _ => rfl) holds
        (fun _ member => Or.inl member), ?_⟩
      exact .handed thread record (payloads rest) err
        (waits.trans (congrArg payloads items))

theorem releasing_advances (owns : Owns state pending held detached)
    {thread item : Nat} {next : Option Nat} {result : HeapstoreError}
    (err : HeapstoreError)
    (place : state.threads thread = .releasing item next result) :
    Advances pending detached (threadStep state thread err) := by
  obtain ⟨record, rest, items, waits, here, later⟩ := (owns.holds place).of_releasing
  have whole := Chain.cons item record next rest here later
  have owned := mem_of_first items
  simp only [threadStep, place]
  rw [if_neg (by simp [here])]
  refine owns.silently thread rest silent_running (free_frame owned) ?_ ?_
  · rw [waits]
    exact .committing next result rest (later.frame (freed_rest whole))
  · intro address member
    rw [items]
    exact Or.inl (List.mem_cons_of_mem _ member)

theorem discarding_advances (owns : Owns state pending held detached)
    {thread : Nat} {start : Option Nat} (err : HeapstoreError)
    (place : state.threads thread = .discarding start) :
    Advances pending detached (threadStep state thread err) := by
  obtain ⟨waits, chain⟩ := (owns.holds place).of_discarding
  cases start with
  | none =>
      simp only [threadStep, place]
      have ended : Silent (.discarded thread) :=
        ⟨rfl, fun _ => rfl, fun _ => rfl, nofun⟩
      refine owns.silently thread [] ended (fun _ _ _ => rfl) ?_ nofun
      rw [waits, chain.empty]
      exact .idle
  | some item =>
      obtain ⟨record, next, rest, items, here, later⟩ := chain.first
      have owned := mem_of_first items
      have whole := Chain.cons item record next rest here later
      simp only [threadStep, place, here]
      refine ⟨pending, _, _, owns.threadChanged thread (free_frame owned)
        (.discarding next rest (later.frame (freed_rest whole))) ?_, ?_⟩
      · intro address member
        rw [items]
        exact Or.inl (List.mem_cons_of_mem _ member)
      · exact .dropped thread record (payloads rest)
          (waits.trans (congrArg payloads items))

/-- Every step of every thread keeps the memory owned. -/
theorem batchMachine_advances (owns : Owns state pending held detached)
    (operation : BatchOp) :
    Advances pending detached (batchMachine state operation) := by
  cases operation with
  | call thread call =>
      simp only [batchMachine]
      split
      · rename_i idle
        exact enterCall_advances owns idle call
      · exact owns.rests silent_running
  | step thread err =>
      simp only [batchMachine]
      cases place : state.threads thread with
      | idle =>
          simp only [threadStep, place]
          exact owns.rests silent_running
      | created record item => exact created_advances owns err place
      | checked record item => exact checked_advances owns err place
      | committing start result => exact committing_advances owns err place
      | releasing item next result => exact releasing_advances owns err place
      | discarding start => exact discarding_advances owns err place

theorem owns_batchBegin (batchSize : Nat) :
    Owns (batchBegin batchSize) [] (fun _ => []) (fun _ => []) :=
  ⟨.nil, rfl, rfl, fun _ => .idle, nofun, nofun⟩

end Steps

end Heapstore.Batch
