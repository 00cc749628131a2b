/-
Concurrent adds on one domain of the in-memory registry.

An add looks its id up and links its node in two steps, with no lock around
them.  Every order of the steps of every client is a run of the machine below.
Nodes are linked and never removed here, so the nodes with an id count the adds
of that id that succeeded.
-/

import Heapstore.Foundation.OperationRun
import Heapstore.RegistryMemoryBatch

namespace Heapstore.RegistryMemory

open ByteText OperationRun

variable {Record : Type}

/-! ### The two steps of an add -/

def regAddLookup (d : RegDomain Record) (record : Option Record)
    (db : RegistryDb) : Except HeapstoreError Record :=
  match record with
  | none => .error .errInvalidParam
  | some record =>
      if d.recId record = [] then .error .errInvalidParam
      else if db.initialized = false then .error .errNotInitialized
      else if (findNodeById d (d.head db) (d.recId record)).isSome then
        .error .errAlreadyInitialized
      else .ok record

def regAddLink (d : RegDomain Record) (alloc : AddAlloc) (record : Record)
    (db : RegistryDb) : RegistryDb × HeapstoreError :=
  if alloc.node = false then (db, .errOutOfMemory)
  else if alloc.data = false then (db, .errOutOfMemory)
  else (d.assign db (record :: d.head db) (d.count db + 1), .success)

/-- One client alone: both steps make up the add. -/
theorem regAdd_eq_steps (d : RegDomain Record) (alloc : AddAlloc)
    (record : Option Record) (db : RegistryDb) :
    regAdd d alloc record db =
      match regAddLookup d record db with
      | .error error => (db, error)
      | .ok record => regAddLink d alloc record db := by
  cases record with
  | none => rfl
  | some record =>
      simp only [regAdd, regAddLookup]
      split
      · rfl
      split
      · rfl
      split
      · rfl
      · rfl

/-! ### Interleavings -/

/-- The registry and, for each client, the record between the two steps. -/
structure AddState (Record : Type) where
  db : RegistryDb
  waiting : Nat → Option Record

inductive AddStep (Record : Type) where
  | lookup (client : Nat) (record : Option Record)
  | link (client : Nat) (alloc : AddAlloc)

/-- What a step returns to its caller: nothing, or the code of its add. -/
inductive AddAnswer (Record : Type) where
  | running
  | returned (record : Option Record) (error : HeapstoreError)
  deriving DecidableEq

/-- A client looks up only between two adds and links only inside one. -/
def addMachine (d : RegDomain Record) :
    Machine (AddState Record) (AddStep Record) (AddAnswer Record) :=
  fun state step =>
    match step with
    | .lookup client record =>
        match state.waiting client with
        | some _ => (state, .running)
        | none =>
            match regAddLookup d record state.db with
            | .error error => (state, .returned record error)
            | .ok found =>
                ({ state with
                    waiting :=
                      Function.update state.waiting client (some found) },
                  .running)
    | .link client alloc =>
        match state.waiting client with
        | none => (state, .running)
        | some record =>
            let linked := regAddLink d alloc record state.db
            ({ db := linked.1
               waiting := Function.update state.waiting client none },
              .returned (some record) linked.2)

section Runs

variable (d : RegDomain Record)

def storedIdsOf (db : RegistryDb) : List Bytes := (d.head db).map d.recId

def isSuccessOf (id : Bytes) : AddAnswer Record → Bool
  | .returned (some record) .success => d.recId record = id
  | _ => false

/-- Of the adds of a new id that were not out of memory, one succeeded. -/
def OneSucceeds (start : RegistryDb) (trace : List (AddAnswer Record)) : Prop :=
  ∀ id, id ≠ [] → id ∉ storedIdsOf d start →
    (∃ record error, .returned (some record) error ∈ trace ∧
      d.recId record = id ∧ error ≠ .errOutOfMemory) →
    trace.countP (isSuccessOf d id) = 1

/-- A node is linked only while its id is still absent. -/
def LinksAbsent (state : AddState Record) : AddStep Record → Prop
  | .lookup _ _ => True
  | .link client alloc => ∀ record, state.waiting client = some record →
      alloc = .ok → d.recId record ∉ storedIdsOf d state.db

/-! ### What one step can do -/

inductive AddEffect (before : RegistryDb) :
    RegistryDb → AddAnswer Record → Prop where
  | quiet : AddEffect before before .running
  | refused (record : Option Record) (error : HeapstoreError)
      (failed : error ≠ .success)
      (known : ∀ given, record = some given → d.recId given ≠ [] →
        error ≠ .errOutOfMemory → d.recId given ∈ storedIdsOf d before) :
      AddEffect before before (.returned record error)
  | linked (record : Record) :
      AddEffect before (pushed d before record)
        (.returned (some record) .success)

variable {d}

theorem regAddLookup_error {record : Option Record} {db : RegistryDb}
    {error : HeapstoreError} (ready : db.initialized = true)
    (refused : regAddLookup d record db = .error error) :
    AddEffect d db db (.returned record error) := by
  cases record with
  | none =>
      cases refused
      exact .refused none _ (by decide) nofun
  | some record =>
      unfold regAddLookup at refused
      by_cases unnamed : d.recId record = []
      · simp only [if_pos unnamed] at refused
        cases refused
        refine .refused (some record) _ (by decide) ?_
        intro given same named
        cases same
        exact absurd unnamed named
      · simp only [if_neg unnamed, ready, Bool.true_eq_false, if_false]
          at refused
        split at refused
        · rename_i stored
          cases refused
          refine .refused (some record) _ (by decide) ?_
          intro given same _ _
          cases same
          by_contra absent
          have missing := (KeyedList.lookup_eq_none_iff d.recId _ _).mpr absent
          unfold findNodeById at stored
          rw [missing] at stored
          cases stored
        · cases refused

theorem regAddLink_effect (alloc : AddAlloc) (record : Record)
    (db : RegistryDb) :
    AddEffect d db (regAddLink d alloc record db).1
        (.returned (some record) (regAddLink d alloc record db).2) ∧
      (regAddLink d alloc record db).1 =
        if alloc = .ok then pushed d db record else db := by
  rcases alloc with ⟨_ | _, _ | _⟩
  case true.true => exact ⟨.linked record, rfl⟩
  all_goals
    refine ⟨.refused (some record) .errOutOfMemory (by decide) ?_, rfl⟩
    intro given _ _ memory
    exact absurd rfl memory

theorem addMachine_effect {state : AddState Record} (step : AddStep Record)
    (ready : state.db.initialized = true) :
    AddEffect d state.db (addMachine d state step).1.db
      (addMachine d state step).2 := by
  cases step with
  | lookup client record =>
      simp only [addMachine]
      split
      · exact .quiet
      · split
        · rename_i refused
          exact regAddLookup_error ready refused
        · exact .quiet
  | link client alloc =>
      simp only [addMachine]
      split
      · exact .quiet
      · exact (regAddLink_effect alloc _ state.db).1

/-! ### What the answers tell of the list -/

/-- The successful adds of an id are its nodes; an id that was refused for any
other reason than memory is stored. -/
structure Accounted (d : RegDomain Record) (start : RegistryDb)
    (state : AddState Record) (trace : List (AddAnswer Record)) : Prop where
  ready : state.db.initialized = true
  counts : ∀ id,
    trace.countP (isSuccessOf d id) + (storedIdsOf d start).count id =
      (storedIdsOf d state.db).count id
  known : ∀ record error, .returned (some record) error ∈ trace →
    d.recId record ≠ [] → error ≠ .errOutOfMemory →
      d.recId record ∈ storedIdsOf d state.db

theorem storedIdsOf_pushed (db : RegistryDb) (record : Record) :
    storedIdsOf d (pushed d db record) =
      d.recId record :: storedIdsOf d db := by
  unfold storedIdsOf pushed
  rw [d.head_assign, List.map_cons]

theorem countP_quiet {trace : List (AddAnswer Record)}
    {answer : AddAnswer Record} {id : Bytes}
    (quiet : isSuccessOf d id answer = false) :
    (trace ++ [answer]).countP (isSuccessOf d id) =
      trace.countP (isSuccessOf d id) := by
  rw [List.countP_append, List.countP_singleton, quiet]
  rfl

theorem accounted_step {start : RegistryDb} {state : AddState Record}
    {trace : List (AddAnswer Record)} (step : AddStep Record)
    (accounted : Accounted d start state trace) :
    Accounted d start (addMachine d state step).1
      (trace ++ [(addMachine d state step).2]) := by
  obtain ⟨ready, counts, known⟩ := accounted
  have effect := @addMachine_effect _ d _ step ready
  generalize (addMachine d state step).1 = next at effect ⊢
  generalize (addMachine d state step).2 = answer at effect ⊢
  obtain ⟨db, waiting⟩ := next
  change AddEffect d state.db db answer at effect
  cases effect with
  | quiet =>
      refine ⟨ready, fun id => ?_, fun record error member => ?_⟩
      · rw [countP_quiet rfl]
        exact counts id
      · rcases List.mem_append.mp member with before | now
        · exact known record error before
        · cases List.mem_singleton.mp now
  | refused record error failed stored =>
      refine ⟨ready, fun id => ?_, fun given answered member => ?_⟩
      · rw [countP_quiet]
        · exact counts id
        · cases record <;> cases error <;> first | rfl | exact absurd rfl failed
      · rcases List.mem_append.mp member with before | now
        · exact known given answered before
        · cases List.mem_singleton.mp now
          exact stored given rfl
  | linked record =>
      refine ⟨pushed_initialized ready, fun id => ?_,
        fun given answered member => ?_⟩
      · have before := counts id
        rw [List.countP_append, List.countP_singleton, storedIdsOf_pushed,
          List.count_cons]
        by_cases same : d.recId record = id
        · simp only [isSuccessOf, same, decide_true, beq_self_eq_true, if_true]
          omega
        · simp only [isSuccessOf, same, decide_false, beq_iff_eq, if_false,
            Bool.false_eq_true]
          omega
      · rw [storedIdsOf_pushed]
        intro named memory
        rcases List.mem_append.mp member with before | now
        · exact List.mem_cons_of_mem _ (known given answered before named memory)
        · cases List.mem_singleton.mp now
          exact List.mem_cons_self

theorem oneSucceeds_of_accounted {start : RegistryDb} {state : AddState Record}
    {trace : List (AddAnswer Record)}
    (accounted : Accounted d start state trace)
    (distinct : (storedIdsOf d state.db).Nodup) :
    OneSucceeds d start trace := by
  rintro id named fresh ⟨record, error, member, rfl, memory⟩
  have stored := accounted.known record error member named memory
  have counts := accounted.counts (d.recId record)
  rwa [List.count_eq_zero_of_not_mem fresh, Nat.add_zero,
    List.count_eq_one_of_mem distinct stored] at counts

/-! ### Distinct ids -/

theorem distinct_step_iff {state : AddState Record} (step : AddStep Record)
    (distinct : (storedIdsOf d state.db).Nodup) :
    (storedIdsOf d (addMachine d state step).1.db).Nodup ↔
      LinksAbsent d state step := by
  cases step with
  | lookup client record =>
      refine iff_of_true ?_ trivial
      simp only [addMachine]
      split
      · exact distinct
      · split <;> exact distinct
  | link client alloc =>
      simp only [addMachine, LinksAbsent]
      cases state.waiting client with
      | none => exact iff_of_true distinct nofun
      | some record =>
          change (storedIdsOf d (regAddLink d alloc record state.db).1).Nodup ↔ _
          rw [(regAddLink_effect alloc record state.db).2]
          by_cases allocated : alloc = .ok
          · rw [if_pos allocated, storedIdsOf_pushed, List.nodup_cons]
            constructor
            · rintro ⟨absent, _⟩ _ ⟨⟩ _
              exact absent
            · intro absent
              exact ⟨absent record rfl allocated, distinct⟩
          · rw [if_neg allocated]
            exact iff_of_true distinct
              (fun _ _ granted => absurd granted allocated)

theorem ready_step {state : AddState Record} (step : AddStep Record)
    (ready : state.db.initialized = true) :
    (addMachine d state step).1.db.initialized = true := by
  have effect := @addMachine_effect _ d _ step ready
  generalize (addMachine d state step).1.db = db at effect ⊢
  generalize (addMachine d state step).2 = answer at effect
  cases effect with
  | quiet => exact ready
  | refused => exact ready
  | linked record => exact pushed_initialized ready

end Runs

/-- Whatever the order of the steps, the ids stay distinct and one add of each
new id succeeds exactly when every node is linked while its id is absent. -/
theorem concurrent_adds_iff (d : RegDomain Record) (start : RegistryDb)
    (ready : start.initialized = true)
    (distinct : (storedIdsOf d start).Nodup) (steps : List (AddStep Record)) :
    let idle : AddState Record := { db := start, waiting := fun _ => none }
    (∀ done, done <+: steps →
      (storedIdsOf d (final (addMachine d) idle done).db).Nodup ∧
        OneSucceeds d start (answers (addMachine d) idle done)) ↔
      Meets (addMachine d) (LinksAbsent d) idle steps := by
  intro idle
  have ids := prefixes_iff_meets (addMachine d) (LinksAbsent d)
    (fun state => state.db.initialized = true)
    (fun state => (storedIdsOf d state.db).Nodup)
    (fun _ step ready => ready_step step ready)
    (fun _ step _ distinct => distinct_step_iff step distinct)
    idle steps ready distinct
  constructor
  · intro always
    exact ids.mp fun done isPrefix => (always done isPrefix).1
  · intro guarded done isPrefix
    have distinctDone := ids.mpr guarded done isPrefix
    have accounted := traced_invariant (addMachine d) (Accounted d start)
      (fun _ _ step accounted => accounted_step step accounted) idle [] done
      ⟨ready, fun _ => Nat.zero_add _, nofun⟩
    exact ⟨distinctDone, oneSucceeds_of_accounted accounted distinctDone⟩

def initialisedRegistry : RegistryDb := (registryInit clearedRegistry).1

/-- A registry that holds the agent `a`. -/
def agentRegistry : RegistryDb :=
  (registryAddAgent .ok (some (agentNamed "a")) initialisedRegistry).1

/-- Two clients add `b` and `c` at once; then one of them tries `b` as well. -/
def overlappingAdds : List (AddStep AgentRecord) :=
  [.lookup 0 (some (agentNamed "b")), .lookup 1 (some (agentNamed "c")),
    .link 1 .ok, .link 0 .ok, .lookup 1 (some (agentNamed "b")), .link 1 .ok]

theorem concurrent_adds_iff_overlapping :
    let idle : AddState AgentRecord :=
      { db := agentRegistry, waiting := fun _ => none }
    ∀ done, done <+: overlappingAdds →
      (storedIdsOf agentDomain
          (final (addMachine agentDomain) idle done).db).Nodup ∧
        OneSucceeds agentDomain agentRegistry
          (answers (addMachine agentDomain) idle done) := by
  apply (concurrent_adds_iff agentDomain agentRegistry rfl (by decide)
    overlappingAdds).mpr
  refine ⟨trivial, trivial, ?_, ?_, trivial, nofun, trivial⟩
  · rintro record ⟨⟩ _
    decide
  · rintro record ⟨⟩ _
    decide

/-- Two clients look the same new id up before either links: both succeed, and
two nodes hold the id. -/
theorem concurrent_adds_duplicate :
    ¬∀ steps : List (AddStep AgentRecord),
      (storedIdsOf agentDomain (final (addMachine agentDomain)
        { db := initialisedRegistry, waiting := fun _ => none } steps).db).Nodup ∧
        OneSucceeds agentDomain initialisedRegistry
          (answers (addMachine agentDomain)
            { db := initialisedRegistry, waiting := fun _ => none } steps) := by
  intro always
  obtain ⟨distinct, _⟩ := always
    [.lookup 0 (some (agentNamed "a")), .lookup 1 (some (agentNamed "a")),
      .link 0 .ok, .link 1 .ok]
  exact absurd distinct (by decide)

end Heapstore.RegistryMemory
