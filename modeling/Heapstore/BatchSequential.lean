/-
A batch context used by one thread at a time, against single adds.

Whole calls run one after another, each to its end.  Where a commit hands a
session over the registry is asked at once, so every add sees what those
before it have stored.
-/

import Heapstore.BatchCommit
import Heapstore.RegistrySqlite

namespace Heapstore.Batch

open LinkedChain OperationRun

/-! ### Single adds -/

section Adds

variable {Registry Calls : Type*}

/-- `heapstore_registry_add_session` as a machine over the registry; what its
own calls return comes with the session. -/
abbrev AddMachine (Registry Calls : Type*) :=
  Machine Registry (Calls × SessionRecord) HeapstoreError

/-- The sessions in order, each with what the calls of its add return. -/
def asked (calls : Nat → Calls) (sessions : List SessionRecord) :
    List (Calls × SessionRecord) :=
  sessions.mapIdx fun index session => (calls index, session)

def firstError (codes : List HeapstoreError) : HeapstoreError :=
  (codes.find? fun code => code ≠ .success).getD .success

theorem asked_cons (calls : Nat → Calls) (session : SessionRecord)
    (rest : List SessionRecord) :
    asked calls (session :: rest) =
      (calls 0, session) :: asked (fun index => calls (index + 1)) rest :=
  List.mapIdx_cons

/-- The first error of the rest counts only after successes. -/
theorem firstError_cons (code : HeapstoreError)
    (codes : List HeapstoreError) :
    firstError (code :: codes) =
      if code ≠ .success then code else firstError codes := by
  unfold firstError
  by_cases succeeded : code = .success
  · rw [if_neg (not_not.mpr succeeded),
      List.find?_cons_of_neg (by simpa using succeeded)]
  · rw [if_pos succeeded, List.find?_cons_of_pos (by simpa using succeeded)]
    rfl

/-- The result that the loop carries is the first error, from its start on. -/
theorem firstError_carried (result code : HeapstoreError)
    (codes : List HeapstoreError) :
    (if (if code ≠ .success ∧ result = .success then code else result) ≠
        .success then
      if code ≠ .success ∧ result = .success then code else result
    else firstError codes) =
      if result ≠ .success then result else firstError (code :: codes) := by
  rw [firstError_cons]
  by_cases fresh : result = .success
  · by_cases stored : code = .success
    · simp [fresh, stored]
    · simp [fresh, stored]
  · simp [fresh]

/-! ### Whole calls -/

/-- A context and the registry that its commits write to. -/
structure Client (Registry : Type*) where
  batch : BatchState
  registry : Registry

/-- The code that the next step of a thread gets, and the registry behind it. -/
def askRegistry (add : AddMachine Registry Calls) (thread : Nat)
    (calls : Nat → Calls) (client : Client Registry) :
    Registry × HeapstoreError :=
  match nextSession client.batch thread with
  | some session => add client.registry (calls 0, session)
  | none => (client.registry, .success)

def laterCalls (thread : Nat) (calls : Nat → Calls) (state : BatchState) :
    Nat → Calls :=
  match nextSession state thread with
  | some _ => fun index => calls (index + 1)
  | none => calls

/-- The thread alone takes its steps until it has returned. -/
def finishCall (add : AddMachine Registry Calls) (thread : Nat) :
    Nat → (Nat → Calls) → Client Registry → Client Registry × BatchAnswer
  | 0, _, client => (client, .running)
  | steps + 1, calls, client =>
      let reply := askRegistry add thread calls client
      let stepped := threadStep client.batch thread reply.2
      let next : Client Registry := { batch := stepped.1, registry := reply.1 }
      match stepped.1.threads thread with
      | .idle => (next, stepped.2)
      | _ =>
          finishCall add thread steps (laterCalls thread calls client.batch) next

/-- The steps of a commit of the whole chain, or of an add. -/
def stepsOf (state : BatchState) : Nat := 2 * state.context.count + 2

/-- One whole call of the only thread. -/
def clientMachine (add : AddMachine Registry Calls) (thread : Nat) :
    Machine (Client Registry) (BatchCall × (Nat → Calls)) BatchAnswer :=
  fun client operation =>
    let entered := enterCall client.batch thread operation.1
    match entered.1.threads thread with
    | .idle => ({ client with batch := entered.1 }, entered.2)
    | _ =>
        finishCall add thread (stepsOf client.batch) operation.2
          { client with batch := entered.1 }

/-! ### The loops -/

variable {add : AddMachine Registry Calls} {thread : Nat}
  {calls : Nat → Calls} {client : Client Registry}

section Steps

variable {stepped : BatchState × BatchAnswer} {steps : Nat}

theorem finishCall_goesOn
    (taken : threadStep client.batch thread
      (askRegistry add thread calls client).2 = stepped)
    (inside : stepped.1.threads thread ≠ .idle) :
    finishCall add thread (steps + 1) calls client =
      finishCall add thread steps (laterCalls thread calls client.batch)
        { batch := stepped.1
          registry := (askRegistry add thread calls client).1 } := by
  simp only [finishCall, taken]

theorem finishCall_returns
    (taken : threadStep client.batch thread
      (askRegistry add thread calls client).2 = stepped)
    (returned : stepped.1.threads thread = .idle) :
    finishCall add thread (steps + 1) calls client =
      ({ batch := stepped.1
         registry := (askRegistry add thread calls client).1 }, stepped.2) := by
  simp only [finishCall, taken, returned]

/-- Where no session is handed over the registry is left alone. -/
theorem askRegistry_none (nothing : nextSession client.batch thread = none) :
    askRegistry add thread calls client = (client.registry, .success) := by
  simp only [askRegistry, nothing]

theorem laterCalls_none (nothing : nextSession client.batch thread = none) :
    laterCalls thread calls client.batch = calls := by
  simp only [laterCalls, nothing]

end Steps

/-- A call that has returned: what it left, and no other thread has moved. -/
structure Returned (thread : Nat) (before : BatchState)
    (after : Client Registry × BatchAnswer) (registry : Registry)
    (answer : BatchAnswer) : Prop where
  registry : after.1.registry = registry
  answer : after.2 = answer
  context : after.1.batch.context = before.context
  idle : after.1.batch.threads thread = .idle
  others : ∀ other, other ≠ thread →
    after.1.batch.threads other = before.threads other

/-- What is returned from a later place in the same call. -/
theorem Returned.earlier {before later : BatchState}
    {after : Client Registry × BatchAnswer} {registry : Registry}
    {answer : BatchAnswer} (returned : Returned thread later after registry answer)
    (context : later.context = before.context)
    (others : ∀ other, other ≠ thread →
      later.threads other = before.threads other) :
    Returned thread before after registry answer :=
  { registry := returned.registry
    answer := returned.answer
    context := returned.context.trans context
    idle := returned.idle
    others := fun other different =>
      (returned.others other different).trans (others other different) }

/-- A step that ends the call where no session is handed over. -/
theorem finishCall_ended {steps : Nat} {answer : BatchAnswer}
    (nothing : nextSession client.batch thread = none)
    (taken : threadStep client.batch thread .success =
      (client.batch.move thread .idle, answer)) :
    Returned thread client.batch (finishCall add thread (steps + 1) calls client)
      client.registry answer := by
  have stands : (client.batch.move thread .idle).threads thread = .idle :=
    Function.update_self ..
  have whole := @finishCall_returns Registry Calls add thread calls client
    (client.batch.move thread .idle, answer) steps
    (by rw [askRegistry_none nothing]; exact taken) stands
  rw [whole, askRegistry_none nothing]
  exact ⟨rfl, rfl, rfl, stands, fun _ different =>
    Function.update_of_ne different _ _⟩

/-- One round of the commit loop: the session is handed to the registry and its
item released. -/
theorem finishCall_hands {steps address : Nat} {next : Option Nat}
    {session : SessionRecord} {result : HeapstoreError} {rest : List Item}
    (place : client.batch.threads thread = .committing (some address) result)
    (here : client.batch.heap address =
      some { payload := session, next := next })
    (whole : Chain client.batch.heap (some address)
      ((address, session) :: rest))
    (later : Chain client.batch.heap next rest) :
    let added := add client.registry (calls 0, session)
    ∃ freed : BatchState,
      finishCall add thread (steps + 1 + 1) calls client =
          finishCall add thread steps (fun index => calls (index + 1))
            { batch := freed, registry := added.1 } ∧
        Chain freed.heap next rest ∧
        freed.threads thread = .committing next
          (if added.2 ≠ .success ∧ result = .success then added.2
            else result) ∧
        freed.context = client.batch.context ∧
        ∀ other, other ≠ thread →
          freed.threads other = client.batch.threads other := by
  intro added
  let after :=
    if added.2 ≠ .success ∧ result = .success then added.2 else result
  let moved := client.batch.move thread (.releasing address next after)
  let freed := (moved.free address).move thread (.committing next after)
  -- The first step hands the session over.
  have ahead : nextSession client.batch thread = some session := by
    simp only [nextSession, place, here, Option.map_some]
  have reply : askRegistry add thread calls client = added := by
    simp only [askRegistry, ahead]
    rfl
  have remaining : laterCalls thread calls client.batch =
      fun index => calls (index + 1) := by
    simp only [laterCalls, ahead]
  have handed : threadStep client.batch thread
      (askRegistry add thread calls client).2 =
        (moved, .handed thread session added.2) := by
    rw [reply]
    simp only [threadStep, place, here]
    rfl
  have stands : moved.threads thread = .releasing address next after :=
    Function.update_self ..
  -- The second step releases the item.
  have nothing : nextSession moved thread = none := by
    simp only [nextSession, stands]
  have kept : moved.heap address =
      some { payload := session, next := next } := here
  have released : threadStep moved thread .success = (freed, .running) := by
    simp only [threadStep, stands, kept, Option.isNone_some,
      Bool.false_eq_true, if_false]
    rfl
  have goesOn : freed.threads thread = .committing next after :=
    Function.update_self ..
  have second := @finishCall_goesOn Registry Calls add thread
    (fun index => calls (index + 1)) { batch := moved, registry := added.1 }
    (freed, .running) steps
    (by rw [askRegistry_none nothing]; exact released)
    (by rw [goesOn]; rintro ⟨⟩)
  refine ⟨freed, ?_, later.frame (freed_rest whole), goesOn, rfl, ?_⟩
  · rw [finishCall_goesOn handed (by rw [stands]; rintro ⟨⟩), reply, remaining,
      second, askRegistry_none nothing, laterCalls_none nothing]
  · intro other different
    exact (Function.update_of_ne different _ _).trans
      (Function.update_of_ne different _ _)

/-- The commit loop makes the single adds in order. -/
theorem finishCall_committing {steps : Nat} {start : Option Nat}
    {result : HeapstoreError} {chain : List Item}
    (found : Chain client.batch.heap start chain)
    (place : client.batch.threads thread = .committing start result)
    (enough : 2 * chain.length < steps) :
    Returned thread client.batch (finishCall add thread steps calls client)
      (final add client.registry (asked calls (payloads chain)))
      (.committed thread (if result ≠ .success then result
        else firstError
          (answers add client.registry (asked calls (payloads chain))))) := by
  induction chain generalizing client start result steps calls with
  | nil =>
      obtain ⟨steps, rfl⟩ := Nat.exists_eq_succ_of_ne_zero
        (Nat.ne_zero_of_lt enough)
      have ended : start = none := found.start_eq_none_iff.mpr rfl
      subst ended
      have nothing : nextSession client.batch thread = none := by
        simp only [nextSession, place]
      have answer : (if result ≠ .success then result
          else firstError (answers add client.registry [])) = result := by
        by_cases failed : result = .success
        · rw [if_neg (not_not.mpr failed), failed]
          rfl
        · rw [if_pos failed]
      change Returned _ _ _ client.registry (.committed thread
        (if result ≠ .success then result
          else firstError (answers add client.registry [])))
      rw [answer]
      exact finishCall_ended nothing (by simp only [threadStep, place])
  | cons item rest ih =>
      obtain ⟨steps, rfl⟩ : ∃ more, steps = more + 1 + 1 := by
        rw [List.length_cons] at enough
        exact ⟨steps - 2, by omega⟩
      cases found with
      | cons address session next _ here later =>
          obtain ⟨freed, goesOn, rest_, stands, context, others⟩ :=
            @finishCall_hands Registry Calls add thread calls client steps
              address next session result rest place here
              (.cons address session next rest here later) later
          have ending := @ih (fun index => calls (index + 1))
            { batch := freed
              registry := (add client.registry (calls 0, session)).1 }
            steps next _ rest_ stands
            (by rw [List.length_cons] at enough; omega)
          rw [firstError_carried] at ending
          have order : asked calls (payloads ((address, session) :: rest)) =
              (calls 0, session) ::
                asked (fun index => calls (index + 1)) (payloads rest) :=
            asked_cons ..
          rw [goesOn, order, final_cons, answers_cons]
          exact ending.earlier context others

/-- The discard loop asks the registry nothing. -/
theorem finishCall_discarding {steps : Nat} {start : Option Nat}
    {chain : List Item} (found : Chain client.batch.heap start chain)
    (place : client.batch.threads thread = .discarding start)
    (enough : chain.length < steps) :
    Returned thread client.batch (finishCall add thread steps calls client)
      client.registry (.discarded thread) := by
  have nothing : nextSession client.batch thread = none := by
    simp only [nextSession, place]
  induction chain generalizing client start steps with
  | nil =>
      obtain ⟨steps, rfl⟩ := Nat.exists_eq_succ_of_ne_zero
        (Nat.ne_zero_of_lt enough)
      have ended : start = none := found.start_eq_none_iff.mpr rfl
      subst ended
      exact finishCall_ended nothing (by simp only [threadStep, place])
  | cons item rest ih =>
      obtain ⟨steps, rfl⟩ := Nat.exists_eq_succ_of_ne_zero
        (Nat.ne_zero_of_lt enough)
      cases found with
      | cons address session next _ here later =>
          have whole := Chain.cons address session next rest here later
          let freed :=
            (client.batch.free address).move thread (.discarding next)
          have taken : threadStep client.batch thread .success =
              (freed, .dropped thread session) := by
            simp only [threadStep, place, here]
            rfl
          have goesOn : freed.threads thread = .discarding next :=
            Function.update_self ..
          have first := @finishCall_goesOn Registry Calls add thread calls
            client (freed, .dropped thread session) steps
            (by rw [askRegistry_none nothing]; exact taken)
            (by rw [goesOn]; rintro ⟨⟩)
          rw [Nat.succ_eq_add_one, first, askRegistry_none nothing,
            laterCalls_none nothing]
          have ending := @ih { batch := freed, registry := client.registry }
            steps next (later.frame (freed_rest whole)) goesOn
            (by rw [List.length_cons] at enough; omega)
            (by simp only [nextSession, goesOn])
          exact ending.earlier rfl fun other different =>
            Function.update_of_ne different _ _

/-! ### A context between calls -/

/-- No thread is inside a call, and the context holds this chain. -/
structure Quiet (state : BatchState) (items : List Item) : Prop where
  idle : ∀ thread, state.threads thread = .idle
  chain : Chain state.heap state.context.head items
  tail : state.context.tail = lastAddress items
  count : state.context.count = items.length

theorem quiet_batchBegin (batchSize : Nat) : Quiet (batchBegin batchSize) [] :=
  ⟨fun _ => rfl, .nil, rfl, rfl⟩

theorem Quiet.owns {state : BatchState} {chain : List Item}
    (quiet : Quiet state chain) :
    Owns state chain (fun _ => []) (fun _ => []) := by
  refine ⟨quiet.chain, quiet.tail, quiet.count, ?_, nofun, nofun⟩
  intro thread
  rw [quiet.idle thread]
  exact .idle

/-- A call that entered with an empty context leaves an empty context. -/
theorem Returned.quiet {before : BatchState}
    {after : Client Registry × BatchAnswer} {registry : Registry}
    {answer : BatchAnswer} (returned : Returned thread before after registry answer)
    (others : ∀ other, other ≠ thread → before.threads other = .idle)
    {capacity : Nat} (empty : before.context =
      { capacity := capacity, count := 0, head := none, tail := none }) :
    Quiet after.1.batch [] := by
  have context := returned.context.trans empty
  refine ⟨fun other => ?_, ?_, ?_, ?_⟩
  · by_cases same : other = thread
    · rw [same]
      exact returned.idle
    · exact (returned.others other same).trans (others other same)
  · rw [context]
    exact .nil
  · rw [context]
    rfl
  · rw [context]
    rfl

/-- What the calls have accepted since the context was last emptied. -/
def pendingStep (pending : List SessionRecord) :
    BatchAnswer → List SessionRecord
  | .added _ (some record) .success => pending ++ [record]
  | .committed _ _ => []
  | .discarded _ => []
  | _ => pending

def pendingOf (trace : List BatchAnswer) : List SessionRecord :=
  trace.foldl pendingStep []

theorem enterCall_waits {entered : BatchState × BatchAnswer}
    {call : BatchCall} (taken : enterCall client.batch thread call = entered)
    (inside : entered.1.threads thread ≠ .idle) :
    clientMachine add thread client (call, calls) =
      finishCall add thread (stepsOf client.batch) calls
        { client with batch := entered.1 } := by
  simp only [clientMachine, taken]

theorem enterCall_returns {entered : BatchState × BatchAnswer}
    {call : BatchCall} (taken : enterCall client.batch thread call = entered)
    (returned : entered.1.threads thread = .idle) :
    clientMachine add thread client (call, calls) =
      ({ client with batch := entered.1 }, entered.2) := by
  simp only [clientMachine, taken, returned]

section Calls

variable {chain : List Item}

/-- The commit makes the single adds and leaves an empty context. -/
theorem clientMachine_commit (quiet : Quiet client.batch chain) :
    (clientMachine add thread client (.commit, calls)).1.registry =
        final add client.registry (asked calls (payloads chain)) ∧
      (clientMachine add thread client (.commit, calls)).2 =
        .committed thread (firstError
          (answers add client.registry (asked calls (payloads chain)))) ∧
      (clientMachine add thread client (.commit, calls)).1.batch.context =
        batchDetach client.batch.context ∧
      Quiet (clientMachine add thread client (.commit, calls)).1.batch [] := by
  let entered := { client.batch with
    context := batchDetach client.batch.context }.move thread
      (.committing client.batch.context.head .success)
  have stands : entered.threads thread =
      .committing client.batch.context.head .success :=
    Function.update_self ..
  have taken : enterCall client.batch thread .commit =
      (entered, .running) := rfl
  have whole := @enterCall_waits Registry Calls add thread calls client
    _ _ taken (by rw [stands]; rintro ⟨⟩)
  have looped := @finishCall_committing Registry Calls add thread calls
    { client with batch := entered } (stepsOf client.batch) _ _ chain
    quiet.chain stands (by unfold stepsOf; rw [quiet.count]; omega)
  rw [whole]
  refine ⟨looped.registry, looped.answer, looped.context,
    looped.quiet ?_ rfl⟩
  intro other different
  exact (Function.update_of_ne different _ _).trans (quiet.idle other)

theorem clientMachine_discard (quiet : Quiet client.batch chain) :
    (clientMachine add thread client (.discard, calls)).2 = .discarded thread ∧
      (clientMachine add thread client (.discard, calls)).1.batch.context =
        batchDetach client.batch.context ∧
      Quiet (clientMachine add thread client (.discard, calls)).1.batch [] := by
  let entered := { client.batch with
    context := batchDetach client.batch.context }.move thread
      (.discarding client.batch.context.head)
  have stands : entered.threads thread =
      .discarding client.batch.context.head := Function.update_self ..
  have taken : enterCall client.batch thread .discard =
      (entered, .running) := rfl
  have whole := @enterCall_waits Registry Calls add thread calls client
    _ _ taken (by rw [stands]; rintro ⟨⟩)
  have looped := @finishCall_discarding Registry Calls add thread calls
    { client with batch := entered } (stepsOf client.batch) _ chain
    quiet.chain stands (by unfold stepsOf; rw [quiet.count]; omega)
  rw [whole]
  refine ⟨looped.answer, looped.context, looped.quiet ?_ rfl⟩
  intro other different
  exact (Function.update_of_ne different _ _).trans (quiet.idle other)

theorem batchItemNew_below {state : BatchState} {record : SessionRecord}
    {item : Option Nat} {created : Nat × Heap SessionRecord}
    (given : batchItemNew item record state = some created) :
    state.context.count < state.context.capacity := by
  by_contra full
  unfold batchItemNew at given
  rw [if_pos (Nat.not_lt.mp full)] at given
  cases given

theorem batchAppendItem_capacity {item : Nat} {heap linked : Heap SessionRecord}
    {context after : BatchContext}
    (appended : batchAppendItem item heap context = some (linked, after)) :
    after.capacity = context.capacity := by
  unfold batchAppendItem at appended
  split at appended
  · obtain ⟨_, _, both⟩ := Option.map_eq_some_iff.mp appended
    rw [← (Prod.mk.inj both).2]
  · rw [← (Prod.mk.inj (Option.some.inj appended)).2]

/-- A new cell outside the chain leaves the context as it is. -/
theorem Quiet.allocated {state : BatchState} (quiet : Quiet state chain)
    {address : Nat} (unused : state.heap address = none)
    (cell : Option (Cell SessionRecord)) :
    Quiet { state with heap := Function.update state.heap address cell }
      chain := by
  refine ⟨quiet.idle, quiet.chain.frame ?_, quiet.tail, quiet.count⟩
  intro other member
  apply Function.update_of_ne
  rintro rfl
  exact quiet.chain.allocated _ member unused

/-- From a new item on, an add checks the capacity again and appends. -/
theorem finishCall_adds {steps address : Nat} {record : SessionRecord}
    {linked : Heap SessionRecord} {context : BatchContext}
    (place : client.batch.threads thread = .created record address)
    (room : client.batch.context.count < client.batch.context.capacity)
    (appended : batchAppendItem address client.batch.heap client.batch.context =
      some (linked, context)) :
    finishCall add thread (steps + 1 + 1) calls client =
      ({ batch := { (client.batch.move thread (.checked record address)) with
            heap := linked
            context := context }.move thread .idle
         registry := client.registry },
        .added thread (some record) .success) := by
  let checked := client.batch.move thread (.checked record address)
  let last := { checked with heap := linked, context := context }.move thread
    .idle
  have passed : checked.threads thread = .checked record address :=
    Function.update_self ..
  have finished : last.threads thread = .idle := Function.update_self ..
  have noneFirst : nextSession client.batch thread = none := by
    simp only [nextSession, place]
  have noneSecond : nextSession checked thread = none := by
    simp only [nextSession, passed]
  have first : threadStep client.batch thread .success =
      (checked, .running) := by
    simp only [threadStep, place, if_neg (Nat.not_le.mpr room)]
    rfl
  have second : threadStep checked thread .success =
      (last, .added thread (some record) .success) := by
    have same : batchAppendItem address checked.heap checked.context =
        some (linked, context) := appended
    simp only [threadStep, passed, same]
    rfl
  have one := @finishCall_goesOn Registry Calls add thread calls client
    (checked, .running) (steps + 1)
    (by rw [askRegistry_none noneFirst]; exact first)
    (by rw [passed]; rintro ⟨⟩)
  have two := @finishCall_returns Registry Calls add thread calls
    { batch := checked, registry := client.registry }
    (last, .added thread (some record) .success) steps
    (by rw [askRegistry_none noneSecond]; exact second) finished
  rw [one, askRegistry_none noneFirst, laterCalls_none noneFirst, two,
    askRegistry_none noneSecond]

/-- With a new item the session is appended. -/
theorem clientMachine_accepts (quiet : Quiet client.batch chain)
    {record : SessionRecord} {item : Option Nat} {address : Nat}
    {heap : Heap SessionRecord}
    (created : batchItemNew item record client.batch = some (address, heap)) :
    (clientMachine add thread client (.addSession (some record) item, calls)).2 =
        .added thread (some record) .success ∧
      (clientMachine add thread client
        (.addSession (some record) item, calls)).1.batch.context.capacity =
          client.batch.context.capacity ∧
      Quiet (clientMachine add thread client
        (.addSession (some record) item, calls)).1.batch
          (chain ++ [(address, record)]) := by
  have below := batchItemNew_below created
  obtain ⟨unused, rfl⟩ := batchItemNew_some created
  let grown : BatchState :=
    { client.batch with
      heap := Function.update client.batch.heap address
        (some { payload := record, next := none }) }
  have whole : Quiet grown chain := quiet.allocated unused _
  have apart : address ∉ addresses chain := fun member =>
    quiet.chain.allocated address member unused
  have here : grown.heap address = some { payload := record, next := none } :=
    Function.update_self ..
  obtain ⟨linked, context, appended, _, chained, tail, count⟩ :=
    batchAppendItem_eq whole.owns apart here
  let entered := grown.move thread (.created record address)
  have stands : entered.threads thread = .created record address :=
    Function.update_self ..
  have taken : enterCall client.batch thread (.addSession (some record) item) =
      (entered, .running) := by
    simp only [enterCall, created]
    rfl
  have added := @finishCall_adds Registry Calls add thread calls
    { client with batch := entered } (2 * client.batch.context.count) address
    record linked context stands below appended
  rw [enterCall_waits taken (by rw [stands]; rintro ⟨⟩)]
  unfold stepsOf
  rw [added]
  refine ⟨rfl, batchAppendItem_capacity appended, fun other => ?_, chained, ?_,
    ?_⟩
  · by_cases same : other = thread
    · rw [same]
      exact Function.update_self ..
    · exact (Function.update_of_ne same _ _).trans
        ((Function.update_of_ne same _ _).trans
          ((Function.update_of_ne same _ _).trans (quiet.idle other)))
  · exact tail.trans (lastAddress_append chain address record).symm
  · rw [List.length_append]
    exact count

/-- One whole call: the context holds what its answer says, at the capacity it
was given. -/
theorem clientMachine_keeps (quiet : Quiet client.batch chain)
    (operation : BatchCall × (Nat → Calls)) :
    ∃ next, Quiet (clientMachine add thread client operation).1.batch next ∧
      payloads next = pendingStep (payloads chain)
        (clientMachine add thread client operation).2 ∧
      (clientMachine add thread client operation).1.batch.context.capacity =
        client.batch.context.capacity := by
  obtain ⟨call, calls⟩ := operation
  have stands := quiet.idle thread
  cases call with
  | commit =>
      obtain ⟨_, answer, context, empty⟩ :=
        @clientMachine_commit Registry Calls add thread calls client chain quiet
      exact ⟨[], empty, by rw [answer]; rfl, by rw [context]; rfl⟩
  | discard =>
      obtain ⟨answer, context, empty⟩ :=
        @clientMachine_discard Registry Calls add thread calls client chain quiet
      exact ⟨[], empty, by rw [answer]; rfl, by rw [context]; rfl⟩
  | addSession record item =>
      cases record with
      | none =>
          have taken : enterCall client.batch thread (.addSession none item) =
              (client.batch, .added thread none .errInvalidParam) := rfl
          rw [enterCall_returns taken stands]
          exact ⟨chain, quiet, rfl, rfl⟩
      | some record =>
          cases created : batchItemNew item record client.batch with
          | none =>
              have taken : enterCall client.batch thread
                  (.addSession (some record) item) =
                    (client.batch, .added thread (some record) .errOutOfMemory) := by
                simp only [enterCall, created]
              rw [enterCall_returns taken stands]
              exact ⟨chain, quiet, rfl, rfl⟩
          | some result =>
              obtain ⟨address, heap⟩ := result
              obtain ⟨answer, capacity, after⟩ :=
                @clientMachine_accepts Registry Calls add thread calls client
                  chain quiet record item address heap created
              refine ⟨_, after, ?_, capacity⟩
              rw [answer]
              exact List.map_append ..

end Calls

/-! ### Any history of calls -/

/-- The pending chain holds the sessions that the answers say were accepted. -/
theorem quiet_history (batchSize : Nat) (registry : Registry)
    (history : List (BatchCall × (Nat → Calls))) :
    ∃ chain,
      Quiet (final (clientMachine add thread)
        { batch := batchBegin batchSize, registry := registry } history).batch
        chain ∧
      payloads chain = pendingOf (answers (clientMachine add thread)
        { batch := batchBegin batchSize, registry := registry } history) ∧
      (final (clientMachine add thread)
        { batch := batchBegin batchSize, registry := registry }
          history).batch.context.capacity =
        (batchBegin batchSize).context.capacity := by
  apply traced_invariant (clientMachine add thread)
    (fun client trace => ∃ chain, Quiet client.batch chain ∧
      payloads chain = pendingOf trace ∧
      client.batch.context.capacity = (batchBegin batchSize).context.capacity)
    _ _ [] history
  · exact ⟨[], quiet_batchBegin batchSize, rfl, rfl⟩
  · rintro client trace operation ⟨chain, quiet, pending, capacity⟩
    obtain ⟨next, after, stepped, same⟩ :=
      @clientMachine_keeps Registry Calls add thread client chain quiet operation
    refine ⟨next, after, ?_, same.trans capacity⟩
    rw [stepped, pending]
    exact (List.foldl_concat ..).symm

/-- An empty context takes a session in. -/
theorem clientMachine_ready (quiet : Quiet client.batch [])
    (positive : 0 < client.batch.context.capacity) {address : Nat}
    (unused : client.batch.heap address = none) (record : SessionRecord) :
    (clientMachine add thread client
      (.addSession (some record) (some address), calls)).2 =
        .added thread (some record) .success := by
  have room : ¬client.batch.context.count ≥ client.batch.context.capacity := by
    rw [quiet.count]
    exact Nat.not_le.mpr positive
  have created : batchItemNew (some address) record client.batch =
      some (address, Function.update client.batch.heap address
        (some { payload := record, next := none })) := by
    unfold batchItemNew
    simp only [if_neg room, unused, Option.isSome_none, Bool.false_eq_true,
      if_false]
  exact (clientMachine_accepts quiet created).1

theorem capacity_batchBegin_pos (batchSize : Nat) :
    0 < (batchBegin batchSize).context.capacity := by
  change 0 < min (if batchSize > 0 then batchSize else 1024) 1024
  split
  · next given => omega
  · omega

/-- A commit after any history: the single adds of what is pending, and a
context that takes sessions in again. -/
theorem commit_after_history (batchSize : Nat) (registry stored : Registry)
    (history : List (BatchCall × (Nat → Calls))) (calls : Nat → Calls) :
    let start : Client Registry :=
      { batch := batchBegin batchSize, registry := registry }
    let before := final (clientMachine add thread) start history
    let sessions := pendingOf (answers (clientMachine add thread) start history)
    let after := clientMachine add thread { before with registry := stored }
      (.commit, calls)
    after.1.registry = final add stored (asked calls sessions) ∧
      after.2 = .committed thread
        (firstError (answers add stored (asked calls sessions))) ∧
      after.1.batch.context =
        { capacity := (batchBegin batchSize).context.capacity
          count := 0, head := none, tail := none } ∧
      ∀ record address more, after.1.batch.heap address = none →
        (clientMachine add thread after.1
          (.addSession (some record) (some address), more)).2 =
            .added thread (some record) .success := by
  intro start before sessions after
  obtain ⟨chain, quiet, pending, capacity⟩ :=
    @quiet_history Registry Calls add thread batchSize registry history
  have committed := @clientMachine_commit Registry Calls add thread calls
    { before with registry := stored } chain quiet
  rw [pending] at committed
  obtain ⟨stores, answer, context, empty⟩ := committed
  have detached : after.1.batch.context =
      { capacity := (batchBegin batchSize).context.capacity
        count := 0, head := none, tail := none } := by
    refine context.trans ?_
    unfold batchDetach
    rw [← capacity]
  refine ⟨stores, answer, detached, ?_⟩
  intro record address more unused
  apply clientMachine_ready empty _ unused
  rw [detached]
  exact capacity_batchBegin_pos batchSize

end Adds

/-! ### The registries -/

/-- The registry that the build has chosen. -/
inductive SessionRegistry where
  | memory (db : RegistryMemory.RegistryDb)
  | sqlite (registry : RegistrySqlite.SqlRegistry)

/-- What the calls inside one add return. -/
structure SessionCalls where
  alloc : RegistryMemory.AddAlloc
  exec : RegistrySqlite.ExecCalls

/-- `heapstore_registry_add_session` -/
def heapstoreRegistryAddSession : AddMachine SessionRegistry SessionCalls :=
  fun registry given =>
    match registry with
    | .memory db =>
        let added := RegistryMemory.registryAddSession given.1.alloc
          (some given.2) db
        (.memory added.1, added.2)
    | .sqlite registry =>
        let added := RegistrySqlite.registryAddSession given.1.exec
          (some given.2) registry
        (.sqlite added.1, added.2)

/-- For both backends: a commit after any calls on a context leaves the registry
that the single adds of the accepted sessions leave, returns the first error
among theirs, and empties the context for further adds. -/
theorem batchCommit_sequential_adds (batchSize thread : Nat)
    (registry stored : SessionRegistry)
    (history : List (BatchCall × (Nat → SessionCalls)))
    (calls : Nat → SessionCalls) :
    let machine := clientMachine heapstoreRegistryAddSession thread
    let start : Client SessionRegistry :=
      { batch := batchBegin batchSize, registry := registry }
    let before := final machine start history
    let sessions := pendingOf (answers machine start history)
    let after := machine { before with registry := stored } (.commit, calls)
    after.1.registry =
        final heapstoreRegistryAddSession stored (asked calls sessions) ∧
      after.2 = .committed thread (firstError
        (answers heapstoreRegistryAddSession stored (asked calls sessions))) ∧
      after.1.batch.context =
        { capacity := (batchBegin batchSize).context.capacity
          count := 0, head := none, tail := none } ∧
      ∀ record address more, after.1.batch.heap address = none →
        (machine after.1 (.addSession (some record) (some address), more)).2 =
          .added thread (some record) .success :=
  commit_after_history batchSize registry stored history calls

end Heapstore.Batch
