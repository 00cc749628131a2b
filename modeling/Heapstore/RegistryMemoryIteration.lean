/-
Iterators that stay open while the list changes.

An iterator is followed by the nodes from its position on.  Adding and updating
leave them alone, and so does deleting any other node.  Deleting the node at
which an iterator stands leaves the iterator at released memory; the guard of a
run excludes exactly that.
-/

import Heapstore.RegistryMemoryIterators

namespace Heapstore.RegistryMemory

open ByteText OperationRun

variable {Record : Type}

/-! ### Runs of one domain and its iterators -/

inductive IterationOp (Record : Type) where
  | add (alloc : NodeAlloc) (record : Option Record)
  | update (record : Option Record)
  | delete (id : Option Bytes)
  | query (iterator : Nat) (out alloc : Bool)
  | next (iterator : Nat) (out : Bool)
  | destroy (iterator : Nat)

section Runs

variable (recId : Record → Bytes)

def iterationMachine :
    Machine (NodeDomain Record) (IterationOp Record)
      (IterationAnswer Record) := fun domain operation =>
  match operation with
  | .add alloc record =>
      let result := nodeAdd recId alloc record domain
      (result.1, .code result.2)
  | .update record =>
      let result := nodeUpdate recId record domain
      (result.1, .code result.2)
  | .delete id =>
      let result := nodeDelete recId id domain
      (result.1, .code result.2)
  | .query iterator out alloc =>
      let result := regQuery iterator out alloc domain
      (result.1, .code result.2)
  | .next iterator out => iterNext iterator out domain
  | .destroy iterator => (iterDestroy iterator domain, .code .success)

/-- The domain after a run from the initialised registry. -/
def afterRun (operations : List (IterationOp Record)) : NodeDomain Record :=
  final (iterationMachine recId) emptyDomain operations

def storedIds (domain : NodeDomain Record) : List Bytes :=
  domain.nodes.map (nodeId recId)

/-- The record that one step hands out through an iterator. -/
def handedBy (iterator : Nat) :
    IterationOp Record → IterationAnswer Record → Option Record
  | .next asked _, .record .success (some record) =>
      if asked = iterator then some record else none
  | _, _ => none

def handedOut (iterator : Nat) (domain : NodeDomain Record)
    (operations : List (IterationOp Record)) : List Record :=
  (operations.zip (answers (iterationMachine recId) domain operations)).filterMap
    fun step => handedBy iterator step.1 step.2

/-- Every open iterator is at its end or at a node of the list. -/
def PositionsStored (domain : NodeDomain Record) : Prop :=
  ∀ iterator address, domain.iterators iterator = some (some address) →
    address ∈ domain.addresses

/-- What the next step of an open iterator gives: a stored record, or the end. -/
def ReturnsStored (domain : NodeDomain Record) : Prop :=
  ∀ iterator position, domain.iterators iterator = some position →
    (iterNext iterator true domain).2 = .record .errNotFound none ∧
        position = none ∨
      ∃ record ∈ domain.records,
        (iterNext iterator true domain).2 = .record .success (some record)

/-- An iteration from its query to its end hands out once every record that is
stored all the time. -/
def HandsOutOnce (done : List (IterationOp Record)) : Prop :=
  ∀ before during iterator,
    done = before ++ .query iterator true true :: during →
    (afterRun recId before).iterators iterator = none →
    .destroy iterator ∉ during →
    (afterRun recId done).iterators iterator = some none →
    ∀ id, (∀ part, part <+: during → id ∈ storedIds recId
        (afterRun recId (before ++ .query iterator true true :: part))) →
      ((handedOut recId iterator (afterRun recId
        (before ++ [.query iterator true true])) during).map recId).count id = 1

/-- No delete names the node at which an open iterator stands. -/
def LeavesPositions (domain : NodeDomain Record) :
    IterationOp Record → Prop
  | .delete (some id) => ∀ node ∈ domain.nodes, recId node.data = id →
      ∀ iterator, domain.iterators iterator ≠ some (some node.address)
  | _ => True

/-! ### What one step can do -/

/-- What an add or an update does to a domain. -/
inductive Grown (domain : NodeDomain Record) : NodeDomain Record → Prop where
  | kept : Grown domain domain
  | pushed (address : Nat) (record : Record)
      (fresh : address ∉ domain.addresses)
      (absent : findNode recId domain (recId record) = none) :
      Grown domain (pushNode domain address record fresh)
  | written (record : Record) : Grown domain (writeNode recId domain record)

variable {recId} {domain next : NodeDomain Record}

theorem findNode_eq_none_iff {id : Bytes} :
    findNode recId domain id = none ↔ id ∉ storedIds recId domain :=
  KeyedList.lookup_eq_none_iff (nodeId recId) domain.nodes id

theorem nodeAdd_grown (alloc : NodeAlloc) (record : Option Record) :
    Grown recId domain (nodeAdd recId alloc record domain).1 := by
  cases record with
  | none => exact .kept
  | some record =>
      simp only [nodeAdd]
      split
      · exact .kept
      split
      · exact .kept
      cases stored : findNode recId domain (recId record) with
      | some found => exact .kept
      | none =>
          rw [if_neg (by simp)]
          cases alloc.node with
          | none => exact .kept
          | some address =>
              by_cases used : address ∈ domain.addresses
              · simp only [dif_pos used]
                exact .kept
              · simp only [dif_neg used]
                split
                · exact .kept
                · exact .pushed address record used stored

theorem nodeUpdate_grown (record : Option Record) :
    Grown recId domain (nodeUpdate recId record domain).1 := by
  cases record with
  | none => exact .kept
  | some record =>
      simp only [nodeUpdate]
      split
      · exact .kept
      split
      · exact .kept
      split
      · exact .kept
      · exact .written record

theorem nodeDelete_eq {id : Bytes} (ready : domain.initialized = true) :
    (nodeDelete recId (some id) domain).1 =
      if id ∈ storedIds recId domain then dropNode recId domain id
      else domain := by
  unfold nodeDelete
  simp only [ready, Bool.true_eq_false, if_false, Option.isNone_iff_eq_none,
    findNode_eq_none_iff]
  by_cases stored : id ∈ storedIds recId domain
  · simp only [stored, not_true, if_false, if_true]
  · simp only [stored, not_false_eq_true, if_false, if_true]

/-- What the calls of an iterator do to a domain: at most the position of that
iterator changes, and it goes to a node of the list. -/
inductive Moved (domain : NodeDomain Record) (iterator : Nat) :
    NodeDomain Record → Prop where
  | kept : Moved domain iterator domain
  | moved (target : Option (Option Nat))
      (inside : ∀ address, target = some (some address) →
        address ∈ domain.addresses) :
      Moved domain iterator { domain with
        iterators := Function.update domain.iterators iterator target }

theorem regQuery_moved (iterator : Nat) (out alloc : Bool) :
    Moved domain iterator (regQuery iterator out alloc domain).1 := by
  unfold regQuery
  split
  · exact .kept
  split
  · exact .kept
  split
  · exact .kept
  · apply Moved.moved
    intro address led
    obtain ⟨node, first, rfl⟩ := Option.map_eq_some_iff.mp (Option.some.inj led)
    exact List.mem_map_of_mem (List.mem_of_mem_head? first)

/-- An iterator object in use is not given out again. -/
theorem regQuery_in_use {iterator : Nat} {position : Option Nat}
    (standing : domain.iterators iterator = some position)
    (out alloc : Bool) :
    (regQuery iterator out alloc domain).1 = domain := by
  unfold regQuery
  simp only [standing, Option.isSome_some, or_true, if_true]
  split
  · rfl
  split <;> rfl

theorem iterNext_moved (iterator : Nat) (out : Bool) :
    Moved domain iterator (iterNext iterator out domain).1 := by
  unfold iterNext
  split
  · exact .kept
  split
  · exact .kept
  split
  · exact .kept
  split
  · exact .kept
  · rename_i read
    apply Moved.moved
    intro other led
    exact (ahead_of_readNode domain.apart read).2.1 other
      (Option.some.inj led)

theorem iterDestroy_moved (iterator : Nat) :
    Moved domain iterator (iterDestroy iterator domain) :=
  .moved none nofun

theorem Moved.nodes {iterator : Nat} (moved : Moved domain iterator next) :
    next.nodes = domain.nodes := by
  cases moved <;> rfl

theorem Moved.elsewhere {asked iterator : Nat}
    (moved : Moved domain asked next) (apart : iterator ≠ asked) :
    next.iterators iterator = domain.iterators iterator := by
  cases moved with
  | kept => rfl
  | moved target _ => exact Function.update_of_ne apart _ _

/-! ### The registry under the iterators -/

section Registry

variable {d : RegDomain Record} {db : RegistryDb}

/-- A step as the registry without addresses makes it; the calls of iterators
leave its list alone. -/
def recordsStep (d : RegDomain Record) (db : RegistryDb)
    (domain : NodeDomain Record) :
    IterationOp Record → RegistryDb × IterationAnswer Record
  | .add alloc record =>
      let result := regAdd d (alloc.outcome domain) record db
      (result.1, .code result.2)
  | .update record =>
      let result := regUpdate d record db
      (result.1, .code result.2)
  | .delete id =>
      let result := regDelete d id db
      (result.1, .code result.2)
  | operation => (db, (iterationMachine d.recId domain operation).2)

def recordsRun (d : RegDomain Record) :
    RegistryDb → NodeDomain Record → List (IterationOp Record) → RegistryDb
  | db, _, [] => db
  | db, domain, operation :: rest =>
      recordsRun d (recordsStep d db domain operation).1
        (iterationMachine d.recId domain operation).1 rest

theorem Moved.shows {iterator : Nat} (moved : Moved domain iterator next)
    (shows : Shows d db domain) : Shows d db next := by
  cases moved with
  | kept => exact shows
  | moved => exact ⟨shows.head, shows.count, shows.initialized⟩

theorem step_shows (shows : Shows d db domain)
    (operation : IterationOp Record) :
    Shows d (recordsStep d db domain operation).1
        (iterationMachine d.recId domain operation).1 ∧
      (recordsStep d db domain operation).2 =
        (iterationMachine d.recId domain operation).2 := by
  cases operation with
  | add alloc record =>
      obtain ⟨shown, code⟩ := nodeAdd_shows shows alloc record
      exact ⟨shown, congrArg IterationAnswer.code code⟩
  | update record =>
      obtain ⟨shown, code⟩ := nodeUpdate_shows shows record
      exact ⟨shown, congrArg IterationAnswer.code code⟩
  | delete id =>
      obtain ⟨shown, code⟩ := nodeDelete_shows shows id
      exact ⟨shown, congrArg IterationAnswer.code code⟩
  | query iterator out alloc =>
      exact ⟨(regQuery_moved iterator out alloc).shows shows, rfl⟩
  | next iterator out =>
      exact ⟨(iterNext_moved iterator out).shows shows, rfl⟩
  | destroy iterator =>
      exact ⟨(iterDestroy_moved iterator).shows shows, rfl⟩

/-- Over a run with iterators the list is the one of the registry. -/
theorem run_shows (shows : Shows d db domain)
    (operations : List (IterationOp Record)) :
    Shows d (recordsRun d db domain operations)
      (final (iterationMachine d.recId) domain operations) := by
  induction operations generalizing db domain with
  | nil => exact shows
  | cons operation rest ih =>
      rw [final_cons]
      exact ih (step_shows shows operation).1

end Registry

theorem Grown.iterators (grown : Grown recId domain next) :
    next.iterators = domain.iterators := by
  cases grown <;> rfl

/-! ### Distinct ids -/

structure Tidy (recId : Record → Bytes) (domain : NodeDomain Record) :
    Prop where
  ready : domain.initialized = true
  distinct : KeyedList.Distinct (nodeId recId) domain.nodes

theorem Grown.tidy (grown : Grown recId domain next)
    (tidy : Tidy recId domain) : Tidy recId next := by
  obtain ⟨ready, distinct⟩ := tidy
  cases grown with
  | kept => exact ⟨ready, distinct⟩
  | pushed address record fresh absent =>
      exact ⟨ready, KeyedList.distinct_push (nodeId recId)
        { address := address, data := record } domain.nodes distinct absent⟩
  | written record =>
      refine ⟨ready, ?_⟩
      change ((overwrite recId record domain.nodes).map _).Nodup
      rw [map_nodeId_overwrite]
      exact distinct

theorem Moved.tidy {iterator : Nat} (moved : Moved domain iterator next)
    (tidy : Tidy recId domain) : Tidy recId next := by
  cases moved with
  | kept => exact tidy
  | moved => exact ⟨tidy.ready, tidy.distinct⟩

theorem Tidy.deleted (tidy : Tidy recId domain) (id : Option Bytes) :
    Tidy recId (nodeDelete recId id domain).1 := by
  cases id with
  | none => exact tidy
  | some id =>
      rw [nodeDelete_eq tidy.ready]
      split
      · exact ⟨tidy.ready, KeyedList.distinct_removeFirst _ id _ tidy.distinct⟩
      · exact tidy

theorem tidy_step (operation : IterationOp Record) (tidy : Tidy recId domain) :
    Tidy recId (iterationMachine recId domain operation).1 := by
  cases operation with
  | add alloc record => exact (nodeAdd_grown alloc record).tidy tidy
  | update record => exact (nodeUpdate_grown record).tidy tidy
  | delete id => exact tidy.deleted id
  | query iterator out alloc =>
      exact (regQuery_moved iterator out alloc).tidy tidy
  | next iterator out => exact (iterNext_moved iterator out).tidy tidy
  | destroy iterator => exact (iterDestroy_moved iterator).tidy tidy

/-! ### Positions -/

theorem Moved.positions {iterator : Nat} (moved : Moved domain iterator next)
    (stored : PositionsStored domain) : PositionsStored next := by
  cases moved with
  | kept => exact stored
  | moved target inside =>
      intro asked address here
      change Function.update domain.iterators iterator target asked = _ at here
      by_cases same : asked = iterator
      · subst same
        rw [Function.update_self] at here
        exact inside address here
      · rw [Function.update_of_ne same] at here
        exact stored asked address here

theorem Grown.positions (grown : Grown recId domain next)
    (stored : PositionsStored domain) : PositionsStored next := by
  intro iterator address here
  rw [grown.iterators] at here
  have inside := stored iterator address here
  cases grown with
  | kept => exact inside
  | pushed => exact List.mem_cons_of_mem _ inside
  | written record =>
      unfold NodeDomain.addresses writeNode
      rwa [map_address_overwrite]

theorem mem_addresses_dropNode {id : Bytes} (tidy : Tidy recId domain)
    {node : Node Record} (inside : node ∈ domain.nodes) :
    node.address ∈ (dropNode recId domain id).addresses ↔
      recId node.data ≠ id := by
  have removed := @KeyedList.mem_removeFirst_iff _ _ _ (nodeId recId) id
    domain.nodes
  constructor
  · intro member
    obtain ⟨other, left, same⟩ := List.mem_map.mp member
    obtain ⟨present, different⟩ := (removed tidy.distinct).mp left
    rwa [List.inj_on_of_nodup_map domain.apart present inside same]
      at different
  · intro different
    exact List.mem_map_of_mem ((removed tidy.distinct).mpr ⟨inside, different⟩)

theorem positions_drop_iff (tidy : Tidy recId domain)
    (stored : PositionsStored domain) (id : Bytes) :
    PositionsStored (dropNode recId domain id) ↔
      LeavesPositions recId domain (.delete (some id)) := by
  constructor
  · intro kept node inside named iterator here
    exact (mem_addresses_dropNode tidy inside).mp (kept iterator _ here) named
  · intro leaves iterator address here
    obtain ⟨node, inside, rfl⟩ :=
      List.mem_map.mp (stored iterator address here)
    apply (mem_addresses_dropNode tidy inside).mpr
    intro named
    exact leaves node inside named iterator here

/-- One step keeps the positions in the list exactly if it meets the guard. -/
theorem positions_step_iff (tidy : Tidy recId domain)
    (stored : PositionsStored domain) (operation : IterationOp Record) :
    PositionsStored (iterationMachine recId domain operation).1 ↔
      LeavesPositions recId domain operation := by
  cases operation with
  | add alloc record =>
      exact iff_of_true ((nodeAdd_grown alloc record).positions stored) trivial
  | update record =>
      exact iff_of_true ((nodeUpdate_grown record).positions stored) trivial
  | delete id =>
      cases id with
      | none => exact iff_of_true stored trivial
      | some id =>
          change PositionsStored (nodeDelete recId (some id) domain).1 ↔ _
          rw [nodeDelete_eq tidy.ready]
          by_cases present : id ∈ storedIds recId domain
          · rw [if_pos present]
            exact positions_drop_iff tidy stored id
          · rw [if_neg present]
            apply iff_of_true stored
            intro node inside named
            exact absurd (named ▸ List.mem_map_of_mem inside) present
  | query iterator out alloc =>
      exact iff_of_true ((regQuery_moved iterator out alloc).positions stored)
        trivial
  | next iterator out =>
      exact iff_of_true ((iterNext_moved iterator out).positions stored) trivial
  | destroy iterator =>
      exact iff_of_true ((iterDestroy_moved iterator).positions stored) trivial

/-! ### What an iterator still hands out -/

def upcoming (recId : Record → Bytes) (domain : NodeDomain Record)
    (position : Option Nat) : List Bytes :=
  (ahead domain.nodes position).map (nodeId recId)

theorem Grown.upcoming_eq (grown : Grown recId domain next)
    {position : Option Nat}
    (inside : ∀ address, position = some address →
      address ∈ domain.addresses) :
    upcoming recId next position = upcoming recId domain position := by
  cases grown with
  | kept => rfl
  | written record => exact ahead_overwrite recId record domain.nodes position
  | pushed address record fresh absent =>
      cases position with
      | none => rfl
      | some other =>
          have different : address ≠ other :=
            fun same => fresh (same ▸ inside other rfl)
          have skipped : ahead (pushNode domain address record fresh).nodes
              (some other) = ahead domain.nodes (some other) :=
            ahead_cons_of_ne different
          exact congrArg (List.map (nodeId recId)) skipped

theorem count_upcoming_drop (tidy : Tidy recId domain) {id other : Bytes}
    (different : other ≠ id) {iterator : Nat} {position : Option Nat}
    (standing : domain.iterators iterator = some position)
    (leaves : LeavesPositions recId domain (.delete (some id))) :
    (upcoming recId (dropNode recId domain id) position).count other =
      (upcoming recId domain position).count other := by
  cases position with
  | none => rfl
  | some address =>
      have elsewhere : ∀ node ∈ domain.nodes, node.address = address →
          recId node.data ≠ id := by
        intro node inside here named
        exact leaves node inside named iterator (here ▸ standing)
      unfold upcoming dropNode
      rw [ahead_removeFirst recId tidy.distinct elsewhere]
      exact KeyedList.count_removeFirst (nodeId recId) different _

/-- What a step hands out through an iterator is what no longer lies ahead. -/
def Accounts (recId : Record → Bytes) (iterator : Nat) (id : Bytes)
    (domain : NodeDomain Record) (position : Option Nat)
    (operation : IterationOp Record) : Prop :=
  let result := iterationMachine recId domain operation
  ∃ later, result.1.iterators iterator = some later ∧
    ((handedBy iterator operation result.2).toList.map recId).count id +
        (upcoming recId result.1 later).count id =
      (upcoming recId domain position).count id

theorem accounts_unmoved {iterator : Nat} {position : Option Nat}
    (standing : domain.iterators iterator = some position) {id : Bytes}
    {operation : IterationOp Record} {after : NodeDomain Record}
    {answer : IterationAnswer Record}
    (result : iterationMachine recId domain operation = (after, answer))
    (same : after.iterators iterator = domain.iterators iterator)
    (silent : handedBy iterator operation answer = none)
    (counts : (upcoming recId after position).count id =
      (upcoming recId domain position).count id) :
    Accounts recId iterator id domain position operation := by
  unfold Accounts
  rw [result]
  refine ⟨position, same.trans standing, ?_⟩
  simp only [silent, Option.toList_none, List.map_nil, List.count_nil,
    Nat.zero_add]
  exact counts

theorem next_accounts (stored : PositionsStored domain) {iterator : Nat}
    {position : Option Nat}
    (standing : domain.iterators iterator = some position) (id : Bytes)
    (asked : Nat) (out : Bool) :
    Accounts recId iterator id domain position (.next asked out) := by
  by_cases same : asked = iterator
  · subst same
    have result : iterationMachine recId domain (.next asked out) =
        iterNext asked out domain := rfl
    unfold iterNext at result
    rw [standing] at result
    cases out with
    | false => exact accounts_unmoved standing result rfl rfl rfl
    | true =>
        cases position with
        | none => exact accounts_unmoved standing result rfl rfl rfl
        | some address =>
            have inside := stored asked address standing
            obtain ⟨⟨node, next⟩, read⟩ :=
              Option.isSome_iff_exists.mp (readNode_isSome.mpr inside)
            obtain ⟨_, _, split⟩ := ahead_of_readNode domain.apart read
            simp only [read, Bool.true_eq_false, if_false] at result
            unfold Accounts
            rw [result]
            refine ⟨next, Function.update_self .., ?_⟩
            simp only [handedBy, if_true, Option.toList_some, upcoming, split,
              List.map_cons, List.map_nil]
            rw [← List.count_append]
            rfl
  · have moved : Moved domain asked _ := iterNext_moved asked out
    refine accounts_unmoved standing rfl (moved.elsewhere (Ne.symm same)) ?_ ?_
    · change handedBy iterator (.next asked out) (iterNext asked out domain).2 =
        none
      cases (iterNext asked out domain).2 with
      | code error => rfl
      | undefined => rfl
      | record error handed =>
          cases error <;> cases handed <;> simp [handedBy, same]
    · change (upcoming recId (iterNext asked out domain).1 position).count id = _
      unfold upcoming
      rw [moved.nodes]

theorem step_accounts (tidy : Tidy recId domain)
    (stored : PositionsStored domain) {operation : IterationOp Record}
    (leaves : LeavesPositions recId domain operation) {iterator : Nat}
    {position : Option Nat}
    (standing : domain.iterators iterator = some position)
    (left : operation ≠ .destroy iterator) {id : Bytes}
    (present : id ∈ storedIds recId
      (iterationMachine recId domain operation).1) :
    Accounts recId iterator id domain position operation := by
  have inside : ∀ address, position = some address →
      address ∈ domain.addresses := by
    intro address here
    subst here
    exact stored iterator address standing
  cases operation with
  | add alloc record =>
      have grown : Grown recId domain _ := nodeAdd_grown alloc record
      exact accounts_unmoved standing rfl (congrFun grown.iterators iterator)
        rfl (congrArg (List.count id) (grown.upcoming_eq inside))
  | update record =>
      have grown : Grown recId domain _ := nodeUpdate_grown record
      exact accounts_unmoved standing rfl (congrFun grown.iterators iterator)
        rfl (congrArg (List.count id) (grown.upcoming_eq inside))
  | delete asked =>
      cases asked with
      | none => exact accounts_unmoved standing rfl rfl rfl rfl
      | some asked =>
          have result : iterationMachine recId domain (.delete (some asked)) =
              (_, .code (nodeDelete recId (some asked) domain).2) := rfl
          rw [nodeDelete_eq tidy.ready] at result
          rw [result] at present
          by_cases stored : asked ∈ storedIds recId domain
          · rw [if_pos stored] at result present
            have different : id ≠ asked := by
              obtain ⟨node, kept, rfl⟩ := List.mem_map.mp present
              exact ((KeyedList.mem_removeFirst_iff _ tidy.distinct).mp kept).2
            exact accounts_unmoved standing result rfl rfl
              (count_upcoming_drop tidy different standing leaves)
          · rw [if_neg stored] at result
            exact accounts_unmoved standing result rfl rfl rfl
  | query asked out alloc =>
      have moved : Moved domain asked _ := regQuery_moved asked out alloc
      have unmoved : (regQuery asked out alloc domain).1.iterators iterator =
          domain.iterators iterator := by
        by_cases same : iterator = asked
        · subst same
          rw [regQuery_in_use standing]
        · exact moved.elsewhere same
      refine accounts_unmoved standing rfl unmoved rfl ?_
      unfold upcoming
      rw [moved.nodes]
  | next asked out => exact next_accounts stored standing id asked out
  | destroy asked =>
      have apart : iterator ≠ asked := by
        rintro rfl
        exact left rfl
      exact accounts_unmoved standing rfl
        (Function.update_of_ne apart _ _) rfl rfl

theorem handedOut_cons (iterator : Nat) (operation : IterationOp Record)
    (rest : List (IterationOp Record)) :
    handedOut recId iterator domain (operation :: rest) =
      (handedBy iterator operation
          (iterationMachine recId domain operation).2).toList ++
        handedOut recId iterator (iterationMachine recId domain operation).1
          rest := by
  unfold handedOut
  rw [answers_cons, List.zip_cons_cons, List.filterMap_cons]
  cases handedBy iterator operation
    (iterationMachine recId domain operation).2 <;> rfl

/-- Over a run, what was handed out and what lies ahead make up what lay ahead
at its start. -/
theorem run_accounts (tidy : Tidy recId domain)
    (stored : PositionsStored domain)
    {operations : List (IterationOp Record)}
    (guarded : Meets (iterationMachine recId) (LeavesPositions recId) domain
      operations) {iterator : Nat} {position : Option Nat}
    (standing : domain.iterators iterator = some position)
    (left : .destroy iterator ∉ operations) {id : Bytes}
    (present : ∀ part, part <+: operations →
      id ∈ storedIds recId (final (iterationMachine recId) domain part)) :
    ∃ later,
      (final (iterationMachine recId) domain operations).iterators iterator =
          some later ∧
        ((handedOut recId iterator domain operations).map recId).count id +
            (upcoming recId (final (iterationMachine recId) domain operations)
              later).count id =
          (upcoming recId domain position).count id := by
  induction operations generalizing domain position with
  | nil => exact ⟨position, standing, Nat.zero_add _⟩
  | cons operation rest ih =>
      obtain ⟨here, restGuarded⟩ := guarded
      rw [List.mem_cons, not_or] at left
      have stays := present [operation]
        ((List.prefix_cons_inj operation).mpr List.nil_prefix)
      obtain ⟨middle, moved, first⟩ :=
        step_accounts tidy stored here standing (Ne.symm left.1) stays
      have restPresent : ∀ part, part <+: rest → id ∈ storedIds recId
          (final (iterationMachine recId)
            (iterationMachine recId domain operation).1 part) :=
        fun part isPrefix => present (operation :: part)
          ((List.prefix_cons_inj operation).mpr isPrefix)
      obtain ⟨later, ended, others⟩ := ih (tidy_step operation tidy)
        ((positions_step_iff tidy stored operation).mpr here) restGuarded moved
        left.2 restPresent
      refine ⟨later, ended, ?_⟩
      rw [handedOut_cons, List.map_append, List.count_append, final_cons]
      omega

theorem returnsStored_of_positions (stored : PositionsStored domain) :
    ReturnsStored domain := by
  intro iterator position standing
  unfold iterNext
  rw [standing]
  cases position with
  | none => exact Or.inl ⟨rfl, rfl⟩
  | some address =>
      obtain ⟨⟨node, next⟩, read⟩ :=
        Option.isSome_iff_exists.mp
          (readNode_isSome.mpr (stored iterator address standing))
      obtain ⟨inside, _⟩ := ahead_of_readNode domain.apart read
      refine Or.inr ⟨node.data, List.mem_map_of_mem inside, ?_⟩
      simp only [read, Bool.true_eq_false, if_false]

theorem tidy_emptyDomain : Tidy recId emptyDomain := ⟨rfl, List.nodup_nil⟩

theorem afterRun_append (first second : List (IterationOp Record)) :
    afterRun recId (first ++ second) =
      final (iterationMachine recId) (afterRun recId first) second :=
  final_append ..

theorem tidy_afterRun (operations : List (IterationOp Record)) :
    Tidy recId (afterRun recId operations) :=
  invariant (iterationMachine recId) (Tidy recId)
    (fun _ operation tidy => tidy_step operation tidy) emptyDomain operations
    tidy_emptyDomain

/-- A query starts an iterator with the whole list ahead of it. -/
theorem query_starts (tidy : Tidy recId domain) {iterator : Nat}
    (free : domain.iterators iterator = none) :
    (regQuery iterator true true domain).1.iterators iterator =
        some (domain.nodes.head?.map Node.address) ∧
      upcoming recId (regQuery iterator true true domain).1
          (domain.nodes.head?.map Node.address) =
        storedIds recId domain := by
  simp only [regQuery, tidy.ready, free, Bool.true_eq_false, if_false,
    Option.isSome_none, Bool.false_eq_true, or_self]
  refine ⟨Function.update_self .., ?_⟩
  unfold upcoming storedIds
  rw [ahead_head]

theorem positions_iff_meets (operations : List (IterationOp Record)) :
    (∀ done, done <+: operations → PositionsStored (afterRun recId done)) ↔
      Meets (iterationMachine recId) (LeavesPositions recId) emptyDomain
        operations :=
  prefixes_iff_meets (iterationMachine recId) (LeavesPositions recId)
    (Tidy recId) PositionsStored
    (fun _ operation tidy => tidy_step operation tidy)
    (fun _ operation tidy stored => positions_step_iff tidy stored operation)
    emptyDomain operations tidy_emptyDomain nofun

theorem handsOutOnce_of_meets {done : List (IterationOp Record)}
    (guarded : Meets (iterationMachine recId) (LeavesPositions recId)
      emptyDomain done) : HandsOutOnce recId done := by
  rintro before during iterator rfl free left ended id present
  have stored := (positions_iff_meets _).mpr guarded before
    (List.prefix_append _ _)
  obtain ⟨_, here, followed⟩ := (meets_append _ _ _ before _).mp guarded
  have tidy : Tidy recId (afterRun recId before) := tidy_afterRun before
  obtain ⟨standing, whole⟩ := query_starts tidy free
  have first := present [] List.nil_prefix
  simp only [afterRun_append, final_cons, final_nil] at ended present first ⊢
  obtain ⟨later, atEnd, counts⟩ :=
    run_accounts (tidy_step (.query iterator true true) tidy)
      ((positions_step_iff tidy stored _).mpr here) followed standing left
      present
  cases Option.some.inj (atEnd.symm.trans ended)
  rw [Nat.add_eq_left.mpr (show (upcoming recId _ none).count id = 0 from rfl)]
    at counts
  rw [counts]
  change (upcoming recId (regQuery iterator true true _).1 _).count id = 1
  have nodes : storedIds recId (afterRun recId before) =
      storedIds recId (iterationMachine recId (afterRun recId before)
        (.query iterator true true)).1 :=
    congrArg (List.map _) (regQuery_moved iterator true true).nodes.symm
  rw [whole, nodes]
  exact List.count_eq_one_of_mem (nodes ▸ tidy.distinct) first

end Runs

/-- In a run, every position stays in the list, every step of an iterator gives
a stored record or the end and every record stored during a whole iteration is
handed out once, exactly when no delete names a node at which an open iterator
stands. -/
theorem iterations_follow_iff (d : RegDomain Record)
    (operations : List (IterationOp Record)) :
    (∀ done, done <+: operations →
      PositionsStored (afterRun d.recId done) ∧
        ReturnsStored (afterRun d.recId done) ∧ HandsOutOnce d.recId done) ↔
      Meets (iterationMachine d.recId) (LeavesPositions d.recId) emptyDomain
        operations := by
  constructor
  · intro always
    apply (positions_iff_meets operations).mp
    intro done isPrefix
    exact (always done isPrefix).1
  · intro guarded done isPrefix
    have stored := (positions_iff_meets operations).mpr guarded done isPrefix
    obtain ⟨rest, rfl⟩ := isPrefix
    have before := ((meets_append _ _ _ done rest).mp guarded).1
    exact ⟨stored, returnsStored_of_positions stored,
      handsOutOnce_of_meets before⟩

/-- Adding an agent, opening an iterator and deleting the agent leaves the
iterator at a released node. -/
theorem iteration_loses_position :
    ¬∀ operations : List (IterationOp AgentRecord),
      PositionsStored (afterRun agentDomain.recId operations) ∧
        ReturnsStored (afterRun agentDomain.recId operations) ∧
          HandsOutOnce agentDomain.recId operations := by
  intro always
  obtain ⟨stored, _⟩ := always
    [.add { node := some 7, data := true } (some (agentNamed "a")),
      .query 0 true true, .delete (some (ofString "a"))]
  exact absurd (stored 0 7 (by decide)) (by decide)

end Heapstore.RegistryMemory
