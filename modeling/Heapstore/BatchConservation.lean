/-
Conservation of the sessions of a batch context.

Every accepted session stands in a ledger in the order of acceptance, at the
one place where it is: in the pending chain, in the chain that a thread has
detached, handed to the registry by a thread, or dropped by a thread.
-/

import Heapstore.BatchMemory
import Heapstore.Foundation.PlacedLedger

namespace Heapstore.Batch

open LinkedChain OperationRun PlacedLedger

inductive Place where
  | pending
  | detached (thread : Nat)
  | handed (thread : Nat)
  | dropped (thread : Nat)
  deriving DecidableEq

/-- What may stand before what: nothing that is pending before what is not, and
nothing that a thread has detached before what it has passed on. -/
def Precedes : Place → Place → Prop
  | .pending, later => later = .pending
  | .detached thread, later =>
      later ≠ .handed thread ∧ later ≠ .dropped thread
  | .handed _, _ => True
  | .dropped _, _ => True

theorem precedes_pending (place : Place) : Precedes place .pending := by
  cases place with
  | pending => rfl
  | detached thread => exact ⟨nofun, nofun⟩
  | handed thread => trivial
  | dropped thread => trivial

/-- The ledger shows the queue and what the answers tell. -/
structure Books (trace : List BatchAnswer) (queue : SessionQueue)
    (ledger : Ledger SessionRecord Place) : Prop where
  accepted : items ledger = trace.filterMap acceptedRecord
  pending : at_ .pending ledger = queue.pending
  detached : ∀ thread, at_ (.detached thread) ledger = queue.detached thread
  handed : ∀ thread,
    at_ (.handed thread) ledger = trace.filterMap (handedRecord thread)
  dropped : ∀ thread,
    at_ (.dropped thread) ledger = trace.filterMap (droppedRecord thread)
  ordered : Ordered Precedes ledger

section Effects

variable {trace : List BatchAnswer} {queue : SessionQueue}
  {ledger : Ledger SessionRecord Place}

theorem filterMap_snoc_none {Answer Record : Type} {select : Answer → Option Record}
    {trace : List Answer} {answer : Answer} (nothing : select answer = none) :
    (trace ++ [answer]).filterMap select = trace.filterMap select := by
  rw [List.filterMap_append, List.filterMap_cons_none nothing,
    List.filterMap_nil, List.append_nil]

theorem filterMap_snoc_some {Answer Record : Type} {select : Answer → Option Record}
    {trace : List Answer} {answer : Answer} {record : Record}
    (selected : select answer = some record) :
    (trace ++ [answer]).filterMap select =
      trace.filterMap select ++ [record] := by
  rw [List.filterMap_append, List.filterMap_cons_some selected,
    List.filterMap_nil]

theorem Books.silent (books : Books trace queue ledger) {answer : BatchAnswer}
    (silent : Silent answer) : Books (trace ++ [answer]) queue ledger where
  accepted := by rw [filterMap_snoc_none silent.accepted, books.accepted]
  pending := books.pending
  detached := books.detached
  handed thread := by
    rw [filterMap_snoc_none (silent.handed thread), books.handed]
  dropped thread := by
    rw [filterMap_snoc_none (silent.dropped thread), books.dropped]
  ordered := books.ordered

theorem Books.appended (books : Books trace queue ledger) (thread : Nat)
    (record : SessionRecord) :
    Books (trace ++ [.added thread (some record) .success])
      { queue with pending := queue.pending ++ [record] }
      (ledger ++ [(record, .pending)]) where
  accepted := by
    have selected : acceptedRecord (.added thread (some record) .success) =
        some record := rfl
    rw [filterMap_snoc_some selected, ← books.accepted]
    exact List.map_append ..
  pending := by
    rw [at_append, books.pending, at_singleton, if_pos rfl]
  detached other := by
    rw [at_append, books.detached, at_singleton, if_neg nofun, List.append_nil]
  handed other := by
    rw [at_append, books.handed, at_singleton, if_neg nofun, List.append_nil,
      filterMap_snoc_none rfl]
  dropped other := by
    rw [at_append, books.dropped, at_singleton, if_neg nofun, List.append_nil,
      filterMap_snoc_none rfl]
  ordered := books.ordered.arrive record precedes_pending

theorem Books.detach (books : Books trace queue ledger) {thread : Nat}
    (free : queue.detached thread = []) :
    Books (trace ++ [.running])
      { pending := []
        detached := Function.update queue.detached thread queue.pending }
      (relocate (moveAll .pending (.detached thread)) ledger) := by
  have moved : Place.pending ≠ .detached thread := nofun
  have others : ∀ place : Place, place ≠ .pending → place ≠ .detached thread →
      at_ place (relocate (moveAll .pending (.detached thread)) ledger) =
        at_ place ledger :=
    fun place notSource notTarget => at_moveAll_other notSource notTarget ledger
  refine ⟨?_, at_moveAll_source moved ledger, ?_, ?_, ?_, ?_⟩
  · rw [items_relocate, books.accepted, filterMap_snoc_none rfl]
  · intro other
    by_cases same : other = thread
    · subst same
      change _ = Function.update queue.detached other queue.pending other
      rw [at_moveAll_target ((books.detached other).trans free), books.pending,
        Function.update_self]
    · change _ = Function.update queue.detached thread queue.pending other
      rw [others (.detached other) nofun
          (fun equal => same (Place.detached.inj equal)),
        books.detached, Function.update_of_ne same]
  · intro other
    rw [others (.handed other) nofun nofun, books.handed, filterMap_snoc_none rfl]
  · intro other
    rw [others (.dropped other) nofun nofun, books.dropped, filterMap_snoc_none rfl]
  · apply books.ordered.relocate
    intro left right before
    have behind : ∀ holder, Precedes (.detached holder) (.detached thread) :=
      fun _ => ⟨nofun, nofun⟩
    cases left with
    | pending =>
        cases before
        exact behind thread
    | detached holder =>
        cases right with
        | pending => exact behind holder
        | detached => exact before
        | handed => exact before
        | dropped => exact before
    | handed => trivial
    | dropped => trivial

/-- A thread passes its first detached session on to one of its places. -/
theorem Books.passedOn (books : Books trace queue ledger) {thread : Nat}
    {record : SessionRecord} {rest : List SessionRecord}
    (first : queue.detached thread = record :: rest) {target : Place}
    (passes : target = .handed thread ∨ target = .dropped thread)
    {answer : BatchAnswer} (accepts : acceptedRecord answer = none)
    (hands : ∀ other, handedRecord other answer =
      if target = .handed other then some record else none)
    (drops : ∀ other, droppedRecord other answer =
      if target = .dropped other then some record else none) :
    Books (trace ++ [answer])
      { queue with detached := Function.update queue.detached thread rest }
      (moveFirst (.detached thread) target ledger) := by
  have shown := (books.detached thread).trans first
  have apart : Place.detached thread ≠ target := by
    rcases passes with rfl | rfl <;> nofun
  have notBefore : ¬Precedes (.detached thread) target := by
    rcases passes with rfl | rfl
    · exact fun before => before.1 rfl
    · exact fun before => before.2 rfl
  have arrives := at_moveFirst_target apart books.ordered notBefore shown
  have others : ∀ place, place ≠ .detached thread → place ≠ target →
      at_ place (moveFirst (.detached thread) target ledger) =
        at_ place ledger :=
    fun place notSource notTarget => at_moveFirst_other notSource notTarget ledger
  refine ⟨?_, ?_, ?_, ?_, ?_, ?_⟩
  · rw [items_moveFirst, books.accepted, filterMap_snoc_none accepts]
  · rw [others .pending nofun, books.pending]
    rcases passes with rfl | rfl <;> nofun
  · intro other
    change _ = Function.update queue.detached thread rest other
    by_cases same : other = thread
    · subst same
      rw [at_moveFirst_source apart, shown, Function.update_self]
      rfl
    · rw [others (.detached other)
          (fun equal => same (Place.detached.inj equal)),
        books.detached, Function.update_of_ne same]
      rcases passes with rfl | rfl <;> nofun
  · intro other
    by_cases here : target = .handed other
    · rw [filterMap_snoc_some ((hands other).trans (if_pos here)), ← here,
        arrives, here, books.handed]
    · rw [filterMap_snoc_none ((hands other).trans (if_neg here)),
        others (.handed other) nofun (Ne.symm here), books.handed]
  · intro other
    by_cases here : target = .dropped other
    · rw [filterMap_snoc_some ((drops other).trans (if_pos here)), ← here,
        arrives, here, books.dropped]
    · rw [filterMap_snoc_none ((drops other).trans (if_neg here)),
        others (.dropped other) nofun (Ne.symm here), books.dropped]
  · refine books.ordered.moveFirst ?_ ?_
    · intro place different before
      cases place with
      | pending => cases before
      | detached holder =>
          have unequal : holder ≠ thread := fun same => different (same ▸ rfl)
          rcases passes with rfl | rfl
          · exact ⟨fun same => unequal (Place.handed.inj same).symm, nofun⟩
          · exact ⟨nofun, fun same => unequal (Place.dropped.inj same).symm⟩
      | handed => trivial
      | dropped => trivial
    · intro place
      rcases passes with rfl | rfl <;> trivial

theorem Books.effect {answer : BatchAnswer} {next : SessionQueue}
    (books : Books trace queue ledger) (effect : QueueEffect queue answer next) :
    ∃ nextLedger, Books (trace ++ [answer]) next nextLedger := by
  cases effect with
  | silent _ silent => exact ⟨ledger, books.silent silent⟩
  | appended thread record => exact ⟨_, books.appended thread record⟩
  | detached thread free => exact ⟨_, books.detach free⟩
  | handed thread record rest err first =>
      refine ⟨_, books.passedOn first (Or.inl rfl) rfl ?_ ?_⟩
      · intro other
        by_cases same : thread = other <;> simp [handedRecord, same]
      · intro other
        simp [droppedRecord]
  | dropped thread record rest first =>
      refine ⟨_, books.passedOn first (Or.inr rfl) rfl ?_ ?_⟩
      · intro other
        simp [handedRecord]
      · intro other
        by_cases same : thread = other <;> simp [droppedRecord, same]

end Effects

/-! ### Runs -/

/-- The chain that a thread has detached and not yet passed on. -/
def DetachedChain (heap : Heap SessionRecord) (records : List SessionRecord) :
    BatchThread → Prop
  | .committing item _ | .releasing _ item _ | .discarding item =>
      ∃ chain, Chain heap item chain ∧ payloads chain = records
  | _ => records = []

theorem Holds.detachedChain {heap : Heap SessionRecord} {place : BatchThread}
    {items : List Item} {waiting : List SessionRecord}
    (holds : Holds heap place items waiting) :
    DetachedChain heap waiting place := by
  cases holds with
  | idle => rfl
  | created => rfl
  | checked => rfl
  | committing item result items chain => exact ⟨items, chain, rfl⟩
  | releasing item record next result rest here chain =>
      exact ⟨rest, chain, rfl⟩
  | discarding item items chain => exact ⟨items, chain, rfl⟩

/-- The context after a run, with the accepted sessions at their places. -/
structure Conserves (state : BatchState) (trace : List BatchAnswer)
    (chain : List Item) (ledger : Ledger SessionRecord Place) : Prop where
  chained : Chain state.heap state.context.head chain
  count : state.context.count = chain.length
  tail : state.context.tail = lastAddress chain
  tailless : state.context.tail = none ↔ state.context.head = none
  accepted : items ledger = trace.filterMap acceptedRecord
  pending : at_ .pending ledger = payloads chain
  detached : ∀ thread, DetachedChain state.heap
    (at_ (.detached thread) ledger) (state.threads thread)
  handed : ∀ thread,
    at_ (.handed thread) ledger = trace.filterMap (handedRecord thread)
  dropped : ∀ thread,
    at_ (.dropped thread) ledger = trace.filterMap (droppedRecord thread)
  defined : .undefined ∉ trace

/-- Memory that is owned, with books on it. -/
def Kept (state : BatchState) (trace : List BatchAnswer) : Prop :=
  .undefined ∉ trace ∧ ∃ pending held detached ledger,
    Owns state pending held detached ∧
      Books trace { pending := payloads pending, detached := detached } ledger

theorem QueueEffect.defined {queue next : SessionQueue} {answer : BatchAnswer}
    (effect : QueueEffect queue answer next) : answer ≠ .undefined := by
  cases effect with
  | silent _ silent => exact silent.defined
  | appended => nofun
  | detached => nofun
  | handed => nofun
  | dropped => nofun

theorem kept_step (state : BatchState) (trace : List BatchAnswer)
    (operation : BatchOp) (kept : Kept state trace) :
    Kept (batchMachine state operation).1
      (trace ++ [(batchMachine state operation).2]) := by
  obtain ⟨defined, pending, held, detached, ledger, owns, books⟩ := kept
  obtain ⟨nextPending, nextHeld, nextDetached, nextOwns, effect⟩ :=
    batchMachine_advances owns operation
  obtain ⟨nextLedger, nextBooks⟩ := books.effect effect
  refine ⟨?_, nextPending, nextHeld, nextDetached, nextLedger, nextOwns,
    nextBooks⟩
  intro member
  rcases List.mem_append.mp member with before | now
  · exact defined before
  · exact effect.defined (List.mem_singleton.mp now).symm

theorem kept_run (batchSize : Nat) (operations : List BatchOp) :
    Kept (final batchMachine (batchBegin batchSize) operations)
      (answers batchMachine (batchBegin batchSize) operations) := by
  have start : Kept (batchBegin batchSize) [] :=
    ⟨nofun, [], fun _ => [], fun _ => [], [], owns_batchBegin batchSize,
      rfl, rfl, fun _ => rfl, fun _ => rfl, fun _ => rfl, List.Pairwise.nil⟩
  exact traced_invariant batchMachine Kept kept_step (batchBegin batchSize) []
    operations start

/-- Whatever the order of the steps of however many threads, the context counts
its chain and every accepted session is in one place, where the sessions of a
thread stand in the order in which they were appended. -/
theorem batch_runs_conserve (batchSize : Nat) (operations : List BatchOp) :
    ∃ chain ledger,
      Conserves (final batchMachine (batchBegin batchSize) operations)
        (answers batchMachine (batchBegin batchSize) operations) chain
        ledger := by
  obtain ⟨defined, pending, held, detached, ledger, owns, books⟩ :=
    kept_run batchSize operations
  refine ⟨pending, ledger, owns.chain, owns.count, owns.tail, ?_,
    books.accepted, books.pending, ?_, books.handed, books.dropped, defined⟩
  · rw [owns.tail, lastAddress_eq_none_iff, owns.chain.start_eq_none_iff]
  · intro thread
    rw [books.detached]
    exact (owns.threads thread).detachedChain

end Heapstore.Batch
