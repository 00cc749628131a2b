/-
The lock and the prepared statements of the SQLite registry.

Here only the control flow of the entry points is kept: every outcome of the
engine and of the allocator is an argument, and a call answers with its code
and with what it did to the lock and to statements.  A statement leaves a call
unfinalised only inside the iterator of a successful query.
-/

import Heapstore.RegistrySqliteQueries
import Mathlib.Data.List.Perm.Basic

namespace Heapstore.RegistrySqlite

open ByteText SqlTable SqlConnection OperationRun

inductive ResourceEvent where
  | locked
  | unlocked
  | prepared (statement : Nat)
  | finalized (statement : Nat)
  deriving DecidableEq

/-- The outcomes of one call.  `bind` is what the binder returns. -/
structure EngineOutcomes where
  prepare : Bool
  bind : HeapstoreError
  step : Nat → StepResult
  start : Bool
  commit : Bool
  rollback : Bool
  alloc : Bool

/-- What a call returns and does; a query hands its statement to an iterator. -/
structure TracedCall where
  error : HeapstoreError
  iterator : Option Nat
  events : List ResourceEvent
  deriving DecidableEq

/-! ### The shared helpers -/

/-- `session_begin`, for the statement that a successful preparation yields;
nothing when the lock is not held afterwards. -/
def sessionBeginTraced (ready : Bool) (outcomes : EngineOutcomes)
    (statement : Nat) : Except HeapstoreError Unit × List ResourceEvent :=
  if ready = false then (.error .errNotInitialized, [])
  else if outcomes.prepare = false then
    (.error .errDbQueryFailed, [.locked, .unlocked])
  else (.ok (), [.locked, .prepared statement])

/-- The shape of a helper: it returns the error of a failed `session_begin`. -/
def inSession (ready : Bool) (outcomes : EngineOutcomes) (statement : Nat)
    (body : TracedCall) : TracedCall :=
  match sessionBeginTraced ready outcomes statement with
  | (.error error, events) =>
      { error := error, iterator := none, events := events }
  | (.ok _, events) => { body with events := events ++ body.events }

/-- The end of a helper that finalises its statement. -/
def closing (statement : Nat) (error : HeapstoreError) : TracedCall where
  error := error
  iterator := none
  events := [.finalized statement, .unlocked]

def sqlExecTraced (ready : Bool) (outcomes : EngineOutcomes)
    (statement : Nat) : TracedCall :=
  inSession ready outcomes statement
    (if outcomes.bind ≠ .success then closing statement outcomes.bind
    else closing statement
      (if outcomes.step 0 = .failed then .errDbQueryFailed else .success))

def queryOneTraced (ready : Bool) (outcomes : EngineOutcomes)
    (statement : Nat) : TracedCall :=
  inSession ready outcomes statement
    (closing statement
      (if outcomes.bind ≠ .success then .errDbQueryFailed
      else
        match outcomes.step 0 with
        | .row _ => .success
        | .done => .errNotFound
        | .failed => .errDbQueryFailed))

/-- `registry_query_open`: finalising the statement that went to the iterator
is a call with NULL. -/
def queryOpenTraced (ready : Bool) (outcomes : EngineOutcomes)
    (statement : Nat) : TracedCall :=
  inSession ready outcomes statement
    (if outcomes.bind ≠ .success then closing statement .errDbQueryFailed
    else if outcomes.alloc then
      { error := .success
        iterator := some statement
        events := [.unlocked] }
    else closing statement .errOutOfMemory)

/-- The result of the loop of `batch_exec_locked`: a step that is not done ends
it with a rollback, whose outcome is ignored. -/
def batchLoopTraced : (Nat → StepResult) → Nat → HeapstoreError
  | _, 0 => .success
  | steps, count + 1 =>
      if steps 0 = .done then
        batchLoopTraced (fun index => steps (index + 1)) count
      else .errDbQueryFailed

def batchExecTraced (ready : Bool) (outcomes : EngineOutcomes) (count : Nat)
    (statement : Nat) : TracedCall :=
  inSession ready outcomes statement
    (if outcomes.start = false then closing statement .errDbQueryFailed
    else
      closing statement
        (if batchLoopTraced outcomes.step count = .success then
          if outcomes.commit then .success else .errDbQueryFailed
        else batchLoopTraced outcomes.step count))

/-! ### The entry points -/

/-- A call that its arguments end before the session. -/
def refused (error : HeapstoreError) : TracedCall :=
  { error := error, iterator := none, events := [] }

/-- The shape of the add and update functions. -/
def addTraced {Record : Type} (recId : Record → Bytes) (record : Option Record)
    (ready : Bool) (outcomes : EngineOutcomes) (statement : Nat) : TracedCall :=
  match record with
  | none => refused .errInvalidParam
  | some record =>
      if recId record = [] then refused .errInvalidParam
      else sqlExecTraced ready outcomes statement

def getTraced (id : Option Bytes) (out ready : Bool)
    (outcomes : EngineOutcomes) (statement : Nat) : TracedCall :=
  if id = none ∨ out = false then refused .errInvalidParam
  else queryOneTraced ready outcomes statement

def deleteTraced (id : Option Bytes) (ready : Bool)
    (outcomes : EngineOutcomes) (statement : Nat) : TracedCall :=
  if id = none then refused .errInvalidParam
  else sqlExecTraced ready outcomes statement

/-- The shape of the query functions; `iter` is whether the output is given. -/
def queryTraced (iter ready : Bool) (outcomes : EngineOutcomes)
    (statement : Nat) : TracedCall :=
  if iter = false then refused .errInvalidParam
  else if ready = false then refused .errNotInitialized
  else queryOpenTraced ready outcomes statement

def batchTraced {Record : Type} (records : Option (List Record)) (ready : Bool)
    (outcomes : EngineOutcomes) (statement : Nat) : TracedCall :=
  match records with
  | none => refused .errInvalidParam
  | some records =>
      if records = [] then refused .errInvalidParam
      else batchExecTraced ready outcomes records.length statement

/-- `heapstore_registry_vacuum` ignores the outcome of its statement. -/
def vacuumTraced (ready : Bool) : TracedCall :=
  if ready = false then refused .errNotInitialized
  else { error := .success, iterator := none, events := [.locked, .unlocked] }

inductive RegistryEntry where
  | addAgent (record : Option AgentRecord)
  | getAgent (id : Option Bytes) (out : Bool)
  | updateAgent (record : Option AgentRecord)
  | deleteAgent (id : Option Bytes)
  | queryAgents (iter : Bool)
  | batchInsertAgents (records : Option (List AgentRecord))
  | addSkill (record : Option SkillRecord)
  | getSkill (id : Option Bytes) (out : Bool)
  | deleteSkill (id : Option Bytes)
  | querySkills (iter : Bool)
  | batchInsertSkills (records : Option (List SkillRecord))
  | addSession (record : Option SessionRecord)
  | getSession (id : Option Bytes) (out : Bool)
  | updateSession (record : Option SessionRecord)
  | deleteSession (id : Option Bytes)
  | querySessions (iter : Bool)
  | batchInsertSessions (records : Option (List SessionRecord))
  | vacuum

/-- The entry point with the outcomes of its engine calls. -/
def RegistryEntry.traced (ready : Bool) (outcomes : EngineOutcomes)
    (statement : Nat) : RegistryEntry → TracedCall
  | .addAgent record => addTraced agentId record ready outcomes statement
  | .getAgent id out => getTraced id out ready outcomes statement
  | .updateAgent record => addTraced agentId record ready outcomes statement
  | .deleteAgent id => deleteTraced id ready outcomes statement
  | .queryAgents iter => queryTraced iter ready outcomes statement
  | .batchInsertAgents records => batchTraced records ready outcomes statement
  | .addSkill record => addTraced skillId record ready outcomes statement
  | .getSkill id out => getTraced id out ready outcomes statement
  | .deleteSkill id => deleteTraced id ready outcomes statement
  | .querySkills iter => queryTraced iter ready outcomes statement
  | .batchInsertSkills records => batchTraced records ready outcomes statement
  | .addSession record => addTraced sessionId record ready outcomes statement
  | .getSession id out => getTraced id out ready outcomes statement
  | .updateSession record => addTraced sessionId record ready outcomes statement
  | .deleteSession id => deleteTraced id ready outcomes statement
  | .querySessions iter => queryTraced iter ready outcomes statement
  | .batchInsertSessions records =>
      batchTraced records ready outcomes statement
  | .vacuum => vacuumTraced ready

/-! ### Runs of calls -/

/-- The statements issued so far and those held by open iterators. -/
structure ResourceState where
  issued : Nat
  iterators : List Nat

def resourceStart : ResourceState := { issued := 0, iterators := [] }

/-- Stepping an iterator neither locks nor finalises.  An iterator is named by
its position among the open ones; any other position stands for NULL. -/
inductive ResourceOp where
  | call (entry : RegistryEntry) (ready : Bool) (outcomes : EngineOutcomes)
  | iterNext (position : Nat) (step : StepResult)
  | iterDestroy (position : Nat)

def resourceMachine :
    Machine ResourceState ResourceOp (List ResourceEvent) :=
  fun state operation =>
    match operation with
    | .call entry ready outcomes =>
        let called := entry.traced ready outcomes state.issued
        ({ issued := state.issued + 1
           iterators := state.iterators ++ called.iterator.toList },
          called.events)
    | .iterNext _ _ => (state, [])
    | .iterDestroy position =>
        match state.iterators[position]? with
        | none => (state, [])
        | some statement =>
            ({ state with iterators := state.iterators.eraseIdx position },
              [.finalized statement])

/-! ### What one call does -/

/-- The four ways through an entry point: it ends before the session, at a
failed preparation, with its statement finalised, or with its statement in an
iterator. -/
inductive CallEffect (statement : Nat) : TracedCall → Prop where
  | refused (error : HeapstoreError) : CallEffect statement (refused error)
  | locked (error : HeapstoreError) :
      CallEffect statement
        { error := error, iterator := none, events := [.locked, .unlocked] }
  | finalized (error : HeapstoreError) :
      CallEffect statement
        { error := error
          iterator := none
          events :=
            [.locked, .prepared statement, .finalized statement, .unlocked] }
  | opened :
      CallEffect statement
        { error := .success
          iterator := some statement
          events := [.locked, .prepared statement, .unlocked] }

def CallEffect.Closed (statement : Nat) (called : TracedCall) : Prop :=
  CallEffect statement called ∧ called.iterator = none

section Calls

variable {ready : Bool} {outcomes : EngineOutcomes} {statement : Nat}

/-- A helper that ends with its statement finalised. -/
theorem inSession_closed {error : HeapstoreError} :
    CallEffect.Closed statement
      (inSession ready outcomes statement (closing statement error)) := by
  unfold inSession sessionBeginTraced
  by_cases started : ready = false
  · rw [if_pos started]
    exact ⟨.refused _, rfl⟩
  · by_cases prepared : outcomes.prepare = false
    · rw [if_neg started, if_pos prepared]
      exact ⟨.locked _, rfl⟩
    · rw [if_neg started, if_neg prepared]
      exact ⟨.finalized error, rfl⟩

theorem inSession_opened :
    CallEffect statement
      (inSession ready outcomes statement
        { error := .success
          iterator := some statement
          events := [.unlocked] }) := by
  unfold inSession sessionBeginTraced
  by_cases started : ready = false
  · rw [if_pos started]
    exact .refused _
  · by_cases prepared : outcomes.prepare = false
    · rw [if_neg started, if_pos prepared]
      exact .locked _
    · rw [if_neg started, if_neg prepared]
      exact .opened

theorem sqlExecTraced_closed :
    CallEffect.Closed statement (sqlExecTraced ready outcomes statement) := by
  unfold sqlExecTraced
  split <;> exact inSession_closed

theorem queryOneTraced_closed :
    CallEffect.Closed statement (queryOneTraced ready outcomes statement) :=
  inSession_closed

theorem queryOpenTraced_effect :
    CallEffect statement (queryOpenTraced ready outcomes statement) := by
  unfold queryOpenTraced
  split
  · exact inSession_closed.1
  · split
    · exact inSession_opened
    · exact inSession_closed.1

theorem batchExecTraced_closed {count : Nat} :
    CallEffect.Closed statement
      (batchExecTraced ready outcomes count statement) := by
  unfold batchExecTraced
  split <;> exact inSession_closed

theorem addTraced_closed {Record : Type} {recId : Record → Bytes}
    {record : Option Record} :
    CallEffect.Closed statement
      (addTraced recId record ready outcomes statement) := by
  unfold addTraced
  cases record with
  | none => exact ⟨.refused _, rfl⟩
  | some record =>
      simp only
      split
      · exact ⟨.refused _, rfl⟩
      · exact sqlExecTraced_closed

theorem getTraced_closed {id : Option Bytes} {out : Bool} :
    CallEffect.Closed statement (getTraced id out ready outcomes statement) := by
  unfold getTraced
  split
  · exact ⟨.refused _, rfl⟩
  · exact queryOneTraced_closed

theorem deleteTraced_closed {id : Option Bytes} :
    CallEffect.Closed statement (deleteTraced id ready outcomes statement) := by
  unfold deleteTraced
  split
  · exact ⟨.refused _, rfl⟩
  · exact sqlExecTraced_closed

theorem queryTraced_effect {iter : Bool} :
    CallEffect statement (queryTraced iter ready outcomes statement) := by
  unfold queryTraced
  split
  · exact .refused _
  · split
    · exact .refused _
    · exact queryOpenTraced_effect

theorem batchTraced_closed {Record : Type} {records : Option (List Record)} :
    CallEffect.Closed statement
      (batchTraced records ready outcomes statement) := by
  unfold batchTraced
  cases records with
  | none => exact ⟨.refused _, rfl⟩
  | some records =>
      simp only
      split
      · exact ⟨.refused _, rfl⟩
      · exact batchExecTraced_closed

theorem vacuumTraced_closed :
    CallEffect.Closed statement (vacuumTraced ready) := by
  unfold vacuumTraced
  split
  · exact ⟨.refused _, rfl⟩
  · exact ⟨.locked _, rfl⟩

def RegistryEntry.IsQuery : RegistryEntry → Prop
  | .queryAgents _ => True
  | .querySkills _ => True
  | .querySessions _ => True
  | _ => False

/-- Every entry point goes one of the four ways, and only a query hands its
statement out. -/
theorem RegistryEntry.traced_effect (entry : RegistryEntry) :
    CallEffect statement (entry.traced ready outcomes statement) ∧
      (entry.IsQuery ∨ (entry.traced ready outcomes statement).iterator = none) := by
  cases entry with
  | queryAgents iter => exact ⟨queryTraced_effect, Or.inl trivial⟩
  | querySkills iter => exact ⟨queryTraced_effect, Or.inl trivial⟩
  | querySessions iter => exact ⟨queryTraced_effect, Or.inl trivial⟩
  | addAgent record => exact addTraced_closed.imp_right Or.inr
  | addSkill record => exact addTraced_closed.imp_right Or.inr
  | addSession record => exact addTraced_closed.imp_right Or.inr
  | updateAgent record => exact addTraced_closed.imp_right Or.inr
  | updateSession record => exact addTraced_closed.imp_right Or.inr
  | getAgent id out => exact getTraced_closed.imp_right Or.inr
  | getSkill id out => exact getTraced_closed.imp_right Or.inr
  | getSession id out => exact getTraced_closed.imp_right Or.inr
  | deleteAgent id => exact deleteTraced_closed.imp_right Or.inr
  | deleteSkill id => exact deleteTraced_closed.imp_right Or.inr
  | deleteSession id => exact deleteTraced_closed.imp_right Or.inr
  | batchInsertAgents records => exact batchTraced_closed.imp_right Or.inr
  | batchInsertSkills records => exact batchTraced_closed.imp_right Or.inr
  | batchInsertSessions records => exact batchTraced_closed.imp_right Or.inr
  | vacuum => exact vacuumTraced_closed.imp_right Or.inr

end Calls

/-! ### Every run of calls -/

/-- The lock is released as often as it was taken, and every statement that was
prepared is finalised or held by one open iterator. -/
structure Released (state : ResourceState) (trace : List ResourceEvent) :
    Prop where
  lock : trace.count .locked = trace.count .unlocked
  held : ∀ statement, trace.count (.finalized statement) +
    state.iterators.count statement = trace.count (.prepared statement)
  once : ∀ statement, trace.count (.prepared statement) ≤ 1
  fresh : ∀ statement, state.issued ≤ statement →
    trace.count (.prepared statement) = 0

/-- The books of one call. -/
theorem CallEffect.counts {statement : Nat} {called : TracedCall}
    (effect : CallEffect statement called) :
    called.events.count .locked = called.events.count .unlocked ∧
      ∀ other,
        called.events.count (.finalized other) +
            called.iterator.toList.count other =
          called.events.count (.prepared other) ∧
        called.events.count (.prepared other) ≤
          if statement = other then 1 else 0 := by
  cases effect with
  | refused error => exact ⟨rfl, fun other => ⟨rfl, Nat.zero_le _⟩⟩
  | locked error => exact ⟨rfl, fun other => ⟨rfl, Nat.zero_le _⟩⟩
  | finalized error =>
      refine ⟨by simp, fun other => ?_⟩
      by_cases same : statement = other <;> simp [same]
  | opened =>
      refine ⟨by simp, fun other => ?_⟩
      by_cases same : statement = other <;> simp [same]

/-- A call that hands an iterator out succeeded. -/
theorem CallEffect.handed {statement : Nat} {called : TracedCall}
    (effect : CallEffect statement called) (handed : called.iterator ≠ none) :
    called.error = .success := by
  cases effect with
  | opened => rfl
  | refused error => exact absurd rfl handed
  | locked error => exact absurd rfl handed
  | finalized error => exact absurd rfl handed

/-- A call that issues one statement keeps the books. -/
theorem released_call {state : ResourceState} {trace : List ResourceEvent}
    {called : TracedCall} (released : Released state trace)
    (effect : CallEffect state.issued called) :
    Released
      { issued := state.issued + 1
        iterators := state.iterators ++ called.iterator.toList }
      (trace ++ called.events) := by
  obtain ⟨lock, books⟩ := effect.counts
  have before := released.fresh state.issued (Nat.le_refl _)
  refine ⟨?_, ?_, ?_, ?_⟩
  · rw [List.count_append, List.count_append, released.lock, lock]
  · intro statement
    have held := released.held statement
    have here := (books statement).1
    simp only [List.count_append]
    omega
  · intro statement
    have once := released.once statement
    have here := (books statement).2
    rw [List.count_append]
    split at here
    · next same =>
        rw [same] at before
        omega
    · omega
  · intro statement later
    have here := (books statement).2
    change state.issued + 1 ≤ statement at later
    rw [if_neg (by omega)] at here
    rw [List.count_append, released.fresh statement (by omega)]
    omega

/-- Destroying an open iterator finalises its statement. -/
theorem released_destroy {state : ResourceState} {trace : List ResourceEvent}
    {position statement : Nat} (released : Released state trace)
    (open_ : state.iterators[position]? = some statement) :
    Released
      { state with iterators := state.iterators.eraseIdx position }
      (trace ++ [.finalized statement]) := by
  obtain ⟨inside, here⟩ := List.getElem?_eq_some_iff.mp open_
  have split : ∀ other, state.iterators.count other =
      (state.iterators.eraseIdx position).count other +
        if statement = other then 1 else 0 := by
    intro other
    have taken := List.set_perm_cons_eraseIdx inside statement
    rw [← here, List.set_getElem_self, here] at taken
    rw [taken.count_eq, List.count_cons]
    simp only [beq_iff_eq]
  refine ⟨?_, ?_, ?_, ?_⟩
  · rw [List.count_append, List.count_append]
    exact released.lock
  · intro other
    have held := released.held other
    have parted := split other
    change (trace ++ [ResourceEvent.finalized statement]).count _ +
      (state.iterators.eraseIdx position).count other = _
    simp only [List.count_append, List.count_singleton, beq_iff_eq,
      ResourceEvent.finalized.injEq, reduceCtorEq, if_false, Nat.add_zero]
    omega
  · intro other
    rw [List.count_append]
    exact released.once other
  · intro other later
    rw [List.count_append]
    exact released.fresh other later

theorem released_step (state : ResourceState)
    (trace : List (List ResourceEvent)) (operation : ResourceOp)
    (released : Released state trace.flatten) :
    Released (resourceMachine state operation).1
      (trace ++ [(resourceMachine state operation).2]).flatten := by
  rw [List.flatten_append, List.flatten_singleton]
  cases operation with
  | call entry ready outcomes =>
      exact released_call released entry.traced_effect.1
  | iterNext position step =>
      rw [show (resourceMachine state (.iterNext position step)).2 = [] from rfl,
        List.append_nil]
      exact released
  | iterDestroy position =>
      unfold resourceMachine
      cases open_ : state.iterators[position]? with
      | none =>
          simp only [open_, List.append_nil]
          exact released
      | some statement =>
          simp only [open_]
          exact released_destroy released open_

theorem released_run (run : List ResourceOp) :
    Released (final resourceMachine resourceStart run)
      (answers resourceMachine resourceStart run).flatten :=
  traced_invariant resourceMachine
    (fun state trace => Released state trace.flatten) released_step
    resourceStart [] run
    ⟨rfl, fun _ => rfl, fun _ => Nat.zero_le 1, fun _ _ => rfl⟩

/-- A statement that was prepared is finalised unless it is held. -/
theorem finalized_of_books {events : List ResourceEvent} {held : List Nat}
    {statement : Nat}
    (books : events.count (.finalized statement) + held.count statement =
      events.count (.prepared statement))
    (once : events.count (.prepared statement) ≤ 1)
    (prepared : .prepared statement ∈ events) :
    events.count (.finalized statement) =
      if statement ∈ held then 0 else 1 := by
  have present := List.count_pos_iff.mpr prepared
  split
  · next open_ =>
      have counted := List.count_pos_iff.mpr open_
      omega
  · next closed =>
      have absent := List.count_eq_zero_of_not_mem closed
      omega

/-- Whatever the engine and the allocator answer, every call releases the lock
as often as it takes it, and over any run of calls every prepared statement is
finalised exactly once, except while an iterator of a query holds it. -/
theorem registry_calls_release :
    (∀ (entry : RegistryEntry) (ready : Bool) (outcomes : EngineOutcomes)
        (statement : Nat),
        let called := entry.traced ready outcomes statement
        called.events.count .locked = called.events.count .unlocked ∧
          (∀ other, .prepared other ∈ called.events →
            called.events.count (.finalized other) =
              if called.iterator = some other then 0 else 1) ∧
          (called.iterator ≠ none →
            entry.IsQuery ∧ called.error = .success)) ∧
      ∀ run : List ResourceOp,
        let trace := (answers resourceMachine resourceStart run).flatten
        trace.count .locked = trace.count .unlocked ∧
          ∀ statement, .prepared statement ∈ trace →
            trace.count (.finalized statement) =
              if statement ∈
                  (final resourceMachine resourceStart run).iterators
                then 0 else 1 := by
  constructor
  · intro entry ready outcomes statement called
    obtain ⟨effect, query⟩ := @RegistryEntry.traced_effect ready outcomes
      statement entry
    obtain ⟨lock, books⟩ := effect.counts
    refine ⟨lock, ?_, ?_⟩
    · intro other prepared
      have once : (entry.traced ready outcomes statement).events.count
          (.prepared other) ≤ 1 :=
        (books other).2.trans (by split <;> omega)
      have done := finalized_of_books (books other).1 once prepared
      simp only [Option.mem_toList] at done
      exact done
    · intro handed
      exact ⟨query.resolve_right handed, effect.handed handed⟩
  · intro run trace
    have released := released_run run
    exact ⟨released.lock, fun statement prepared => finalized_of_books
      (released.held statement) (released.once statement) prepared⟩

/-! ### The calls on tables among the traced ones -/

section Tables

variable {registry : SqlRegistry} {statement : Statement}

def SqlRegistry.ready (registry : SqlRegistry) : Bool :=
  registry.initialized && registry.db.isSome

/-- The outcomes under which the helpers stop at the session exactly when the
tables do. -/
theorem sessionBegin_traced (prepare : Bool) :
    ∃ prepared : Bool, ∀ (outcomes : EngineOutcomes) (number : Nat),
      outcomes.prepare = prepared →
        (sessionBeginTraced registry.ready outcomes number).1 =
          (sessionBegin prepare statement registry).map fun _ => () := by
  cases opened : registry.db with
  | none =>
      refine ⟨true, fun outcomes number _ => ?_⟩
      have closed : registry.ready = false := by
        unfold SqlRegistry.ready
        rw [opened]
        exact Bool.and_false _
      unfold sessionBeginTraced sessionBegin
      rw [if_pos closed, opened]
      rfl
  | some connection =>
      have ready : registry.ready = registry.initialized := by
        unfold SqlRegistry.ready
        rw [opened]
        exact Bool.and_true _
      refine ⟨decide (prepare = true ∧ statement.Resolves connection.visible),
        fun outcomes number prepared => ?_⟩
      unfold sessionBeginTraced sessionBegin
      rw [ready, opened, prepared]
      by_cases started : registry.initialized = false
      · simp only [if_pos started]
        rfl
      · by_cases resolves :
            prepare = true ∧ statement.Resolves connection.visible
        · simp only [if_neg started, if_pos resolves, decide_eq_true resolves,
            Bool.true_eq_false, if_false]
          rfl
        · simp only [if_neg started, if_neg resolves, decide_eq_false resolves,
            if_true]
          rfl

/-- The code of a helper: that of its session, else that of its body. -/
def sessionCode (body : HeapstoreError) :
    Except HeapstoreError Unit → HeapstoreError
  | .error error => error
  | .ok _ => body

theorem inSession_error {ready : Bool} {outcomes : EngineOutcomes}
    {number : Nat} (body : TracedCall) {begun : Except HeapstoreError Unit}
    (session : (sessionBeginTraced ready outcomes number).1 = begun) :
    (inSession ready outcomes number body).error =
      sessionCode body.error begun := by
  subst session
  unfold inSession
  rcases sessionBeginTraced ready outcomes number with ⟨_ | _, events⟩ <;> rfl

/-- Where the session of the tables fails, some outcome stops the helper. -/
theorem inSession_stopped {prepare : Bool} {error : HeapstoreError}
    (session : sessionBegin prepare statement registry = .error error)
    (body : EngineOutcomes → Nat → TracedCall) :
    ∃ outcomes, ∀ number,
      (inSession registry.ready outcomes number (body outcomes number)).error =
        error := by
  obtain ⟨prepared, begins⟩ := @sessionBegin_traced registry statement prepare
  refine ⟨⟨prepared, .success, fun _ => .done, true, true, true, true⟩,
    fun number => ?_⟩
  rw [inSession_error _ (begins _ number rfl), session]
  rfl

/-- Where it begins, some preparation lets the helper run its body. -/
theorem inSession_begun {prepare : Bool} {connection : Connection}
    (session : sessionBegin prepare statement registry = .ok connection) :
    ∃ prepared : Bool, ∀ (outcomes : EngineOutcomes) (number : Nat)
      (body : TracedCall), outcomes.prepare = prepared →
        (inSession registry.ready outcomes number body).error = body.error := by
  obtain ⟨prepared, begins⟩ := @sessionBegin_traced registry statement prepare
  refine ⟨prepared, fun outcomes number body same => ?_⟩
  rw [inSession_error _ (begins outcomes number same), session]
  rfl

theorem sqlExecLocked_traced (calls : ExecCalls) (values : Row) :
    ∃ outcomes, ∀ number,
      (sqlExecTraced registry.ready outcomes number).error =
        (sqlExecLocked calls statement values registry).2 := by
  unfold sqlExecLocked sqlExecTraced
  cases session : sessionBegin calls.prepare statement registry with
  | error error => exact inSession_stopped session _
  | ok connection =>
      obtain ⟨prepared, begun⟩ := inSession_begun session
      refine ⟨⟨prepared, .success,
        fun _ => (connection.step calls.step statement values).2, true, true,
        true, true⟩, fun number => ?_⟩
      rw [begun _ number _ rfl]
      rfl

theorem registryQueryOne_traced {Record : Type} (calls : ExecCalls)
    (values : Row) (extract : Row → Record) :
    ∃ outcomes, ∀ number,
      (queryOneTraced registry.ready outcomes number).error =
        (registryQueryOne calls statement values extract registry).1 := by
  unfold registryQueryOne queryOneTraced
  cases session : sessionBegin calls.prepare statement registry with
  | error error => exact inSession_stopped session _
  | ok connection =>
      obtain ⟨prepared, begun⟩ := inSession_begun session
      refine ⟨⟨prepared, .success,
        fun _ => (connection.step calls.step statement values).2, true, true,
        true, true⟩, fun number => ?_⟩
      rw [begun _ number _ rfl]
      simp only
      cases stepped : (connection.step calls.step statement values).2 <;> rfl

theorem registryQueryOpen_traced (calls : QueryCalls) (type : RecType)
    (values : Row) :
    ∃ outcomes, ∀ number,
      (queryOpenTraced registry.ready outcomes number).error =
        (registryQueryOpen calls type statement values registry).1 := by
  unfold registryQueryOpen queryOpenTraced
  cases session : sessionBegin calls.prepare statement registry with
  | error error => exact inSession_stopped session _
  | ok connection =>
      obtain ⟨prepared, begun⟩ := inSession_begun session
      refine ⟨⟨prepared, .success, fun _ => .done, true, true, true,
        calls.alloc⟩, fun number => ?_⟩
      rw [begun _ number _ rfl]
      cases calls.alloc <;> rfl

/-- The steps that the loop of a batch takes on a connection. -/
theorem batchLoop_traced {Record : Type} (statement : Statement)
    (bind : Record → Row)
    (rollback : Bool) (steps : Nat → Bool) (records : List Record)
    (connection : Connection) :
    ∃ outcomes, batchLoopTraced outcomes records.length =
      (batchLoop statement bind rollback steps records connection).2 := by
  induction records generalizing steps connection with
  | nil => exact ⟨fun _ => .done, rfl⟩
  | cons record rest ih =>
      obtain ⟨later, looped⟩ := ih (fun index => steps (index + 1))
        (connection.step (steps 0) statement (bind record)).1
      refine ⟨fun index => match index with
        | 0 => (connection.step (steps 0) statement (bind record)).2
        | index + 1 => later index, ?_⟩
      rw [List.length_cons, batchLoopTraced, batchLoop]
      by_cases done :
          (connection.step (steps 0) statement (bind record)).2 = .done
      · rw [if_pos done, if_pos done]
        exact looped
      · rw [if_neg done, if_neg done]

theorem batchExecLocked_traced {Record : Type} (calls : BatchCalls)
    (bind : Record → Row) (records : List Record) :
    ∃ outcomes, ∀ number,
      (batchExecTraced registry.ready outcomes records.length number).error =
        (batchExecLocked calls statement bind records registry).2 := by
  unfold batchExecLocked batchExecTraced
  cases session : sessionBegin calls.prepare statement registry with
  | error error => exact inSession_stopped session _
  | ok connection =>
      obtain ⟨prepared, opens⟩ := inSession_begun session
      obtain ⟨steps, looped⟩ := batchLoop_traced statement bind
        calls.rollback calls.step records (connection.begin_ calls.start).1
      refine ⟨⟨prepared, .success, steps, (connection.begin_ calls.start).2,
        ((batchLoop statement bind calls.rollback calls.step records
          (connection.begin_ calls.start).1).1.commit calls.commit).2, true,
        true⟩, fun number => ?_⟩
      rw [opens _ number _ rfl]
      simp only [looped]
      by_cases begun : (connection.begin_ calls.start).2 = false
      · simp only [if_pos begun]
        rfl
      · simp only [if_neg begun]
        by_cases done : (batchLoop statement bind calls.rollback calls.step
            records (connection.begin_ calls.start).1).2 = .success
        · simp only [if_pos done]
          rfl
        · simp only [if_neg done]
          rfl

end Tables

end Heapstore.RegistrySqlite
