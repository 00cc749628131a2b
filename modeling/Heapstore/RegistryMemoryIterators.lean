/-
Iterators over one domain of the in-memory registry.

An iterator keeps the address of a node, so here every node has one, and the
next pointer of a node is the address of the node behind it.  The nodes from a
position on are what an iterator at it still has ahead.  What the list
operations do to the records is what the registry does without addresses.

Addresses and iterator objects come from the allocator.  One that is in use
counts as a failed allocation, since the allocator gives out none such.
-/

import Heapstore.Foundation.OperationRun
import Heapstore.RegistryMemory
import Mathlib.Data.List.TakeWhile

namespace Heapstore.RegistryMemory

open ByteText

structure Node (Record : Type) where
  address : Nat
  data : Record
  deriving DecidableEq

/-- One domain: its list, its counter and the open iterators, each at the end
or at an address. -/
structure NodeDomain (Record : Type) where
  nodes : List (Node Record)
  apart : (nodes.map Node.address).Nodup
  count : Nat
  initialized : Bool
  iterators : Nat → Option (Option Nat)

variable {Record : Type}

def NodeDomain.addresses (domain : NodeDomain Record) : List Nat :=
  domain.nodes.map Node.address

def NodeDomain.records (domain : NodeDomain Record) : List Record :=
  domain.nodes.map Node.data

/-- What the memory at an address holds: the node and its next pointer. -/
def readNode : List (Node Record) → Nat → Option (Node Record × Option Nat)
  | [], _ => none
  | node :: rest, address =>
      if node.address = address then
        some (node, rest.head?.map Node.address)
      else readNode rest address

structure NodeAlloc where
  node : Option Nat
  data : Bool
  deriving DecidableEq

/-- An allocation as the registry without addresses sees it. -/
def NodeAlloc.outcome (alloc : NodeAlloc) (domain : NodeDomain Record) :
    AddAlloc where
  node := alloc.node.any fun address => address ∉ domain.addresses
  data := alloc.data

section Operations

variable (recId : Record → Bytes)

def nodeId (node : Node Record) : Bytes := recId node.data

def findNode (domain : NodeDomain Record) (id : Bytes) :
    Option (Node Record) :=
  KeyedList.lookup (nodeId recId) domain.nodes id

def pushNode (domain : NodeDomain Record) (address : Nat) (record : Record)
    (fresh : address ∉ domain.addresses) : NodeDomain Record :=
  { domain with
    nodes := { address := address, data := record } :: domain.nodes
    apart := List.nodup_cons.mpr ⟨fresh, domain.apart⟩
    count := domain.count + 1 }

/-- The first node with the id of the record takes the record. -/
def overwrite (record : Record) : List (Node Record) → List (Node Record)
  | [] => []
  | node :: rest =>
      if recId node.data = recId record then { node with data := record } :: rest
      else node :: overwrite record rest

theorem map_address_overwrite (record : Record) (nodes : List (Node Record)) :
    (overwrite recId record nodes).map Node.address =
      nodes.map Node.address := by
  induction nodes with
  | nil => rfl
  | cons node rest ih =>
      by_cases same : recId node.data = recId record
      · simp only [overwrite, if_pos same, List.map_cons]
      · simp only [overwrite, if_neg same, List.map_cons, ih]

theorem map_data_overwrite (record : Record) (nodes : List (Node Record)) :
    (overwrite recId record nodes).map Node.data =
      KeyedList.replaceFirst recId record (nodes.map Node.data) := by
  induction nodes with
  | nil => rfl
  | cons node rest ih =>
      by_cases same : recId node.data = recId record
      · simp only [overwrite, if_pos same, List.map_cons,
          KeyedList.replaceFirst]
      · simp only [overwrite, if_neg same, List.map_cons,
          KeyedList.replaceFirst, ih]

def writeNode (domain : NodeDomain Record) (record : Record) :
    NodeDomain Record :=
  { domain with
    nodes := overwrite recId record domain.nodes
    apart := by
      rw [map_address_overwrite]
      exact domain.apart }

def dropNode (domain : NodeDomain Record) (id : Bytes) : NodeDomain Record :=
  { domain with
    nodes := KeyedList.removeFirst (nodeId recId) id domain.nodes
    apart := domain.apart.sublist
      ((KeyedList.removeFirst_sublist (nodeId recId) id domain.nodes).map
        Node.address)
    count := domain.count - 1 }

/-- `reg_add` -/
def nodeAdd (alloc : NodeAlloc) (record : Option Record)
    (domain : NodeDomain Record) : NodeDomain Record × HeapstoreError :=
  match record with
  | none => (domain, .errInvalidParam)
  | some record =>
      if recId record = [] then (domain, .errInvalidParam)
      else if domain.initialized = false then (domain, .errNotInitialized)
      else if (findNode recId domain (recId record)).isSome then
        (domain, .errAlreadyInitialized)
      else
        match alloc.node with
        | none => (domain, .errOutOfMemory)
        | some address =>
            if used : address ∈ domain.addresses then
              (domain, .errOutOfMemory)
            else if alloc.data = false then (domain, .errOutOfMemory)
            else (pushNode domain address record used, .success)

/-- `reg_update` -/
def nodeUpdate (record : Option Record) (domain : NodeDomain Record) :
    NodeDomain Record × HeapstoreError :=
  match record with
  | none => (domain, .errInvalidParam)
  | some record =>
      if recId record = [] then (domain, .errInvalidParam)
      else if domain.initialized = false then (domain, .errNotInitialized)
      else if (findNode recId domain (recId record)).isNone then
        (domain, .errNotFound)
      else (writeNode recId domain record, .success)

/-- `reg_delete` -/
def nodeDelete (id : Option Bytes) (domain : NodeDomain Record) :
    NodeDomain Record × HeapstoreError :=
  match id with
  | none => (domain, .errInvalidParam)
  | some id =>
      if domain.initialized = false then (domain, .errNotInitialized)
      else if (findNode recId domain id).isNone then (domain, .errNotFound)
      else (dropNode recId domain id, .success)

end Operations

/-- `reg_query`: the iterator starts at the head of the list. -/
def regQuery (iterator : Nat) (out alloc : Bool)
    (domain : NodeDomain Record) : NodeDomain Record × HeapstoreError :=
  if out = false then (domain, .errInvalidParam)
  else if domain.initialized = false then (domain, .errNotInitialized)
  else if alloc = false ∨ (domain.iterators iterator).isSome then
    (domain, .errOutOfMemory)
  else
    ({ domain with
        iterators := Function.update domain.iterators iterator
          (some (domain.nodes.head?.map Node.address)) }, .success)

/-- The query functions of the agents: both filters are ignored. -/
def registryQueryAgents (_filterType _filterStatus : Option Bytes)
    (iterator : Nat) (out alloc : Bool) (domain : NodeDomain AgentRecord) :
    NodeDomain AgentRecord × HeapstoreError :=
  regQuery iterator out alloc domain

/-- The query function of the sessions: the filter is ignored. -/
def registryQuerySessions (_filterStatus : Option Bytes) (iterator : Nat)
    (out alloc : Bool) (domain : NodeDomain SessionRecord) :
    NodeDomain SessionRecord × HeapstoreError :=
  regQuery iterator out alloc domain

inductive IterationAnswer (Record : Type) where
  | code (error : HeapstoreError)
  | record (error : HeapstoreError) (out : Option Record)
  | undefined
  deriving DecidableEq

/-- `heapstore_registry_iter_next`.  The behaviour is undefined where the
iterator stands at memory that holds no node. -/
def iterNext (iterator : Nat) (out : Bool) (domain : NodeDomain Record) :
    NodeDomain Record × IterationAnswer Record :=
  match domain.iterators iterator with
  | none => (domain, .record .errInvalidParam none)
  | some position =>
      if out = false then (domain, .record .errInvalidParam none)
      else
        match position with
        | none => (domain, .record .errNotFound none)
        | some address =>
            match readNode domain.nodes address with
            | none => (domain, .undefined)
            | some (node, next) =>
                ({ domain with
                    iterators :=
                      Function.update domain.iterators iterator (some next) },
                  .record .success (some node.data))

def iterDestroy (iterator : Nat) (domain : NodeDomain Record) :
    NodeDomain Record :=
  { domain with iterators := Function.update domain.iterators iterator none }

/-- The domain after `heapstore_registry_init`. -/
def emptyDomain : NodeDomain Record where
  nodes := []
  apart := List.nodup_nil
  count := 0
  initialized := true
  iterators := fun _ => none

/-! ### The nodes ahead of a position -/

def ahead (nodes : List (Node Record)) : Option Nat → List (Node Record)
  | none => []
  | some address => nodes.dropWhile fun node => node.address ≠ address

theorem ahead_cons_self (node : Node Record) (rest : List (Node Record)) :
    ahead (node :: rest) (some node.address) = node :: rest := by
  simp only [ahead]
  rw [List.dropWhile_cons_of_neg (by simp)]

theorem ahead_cons_of_ne {node : Node Record} {rest : List (Node Record)}
    {address : Nat} (different : node.address ≠ address) :
    ahead (node :: rest) (some address) = ahead rest (some address) := by
  simp only [ahead]
  rw [List.dropWhile_cons_of_pos (by simpa using different)]

theorem ahead_head (nodes : List (Node Record)) :
    ahead nodes (nodes.head?.map Node.address) = nodes := by
  cases nodes with
  | nil => rfl
  | cons node rest => exact ahead_cons_self node rest

theorem readNode_isSome {nodes : List (Node Record)} {address : Nat} :
    (readNode nodes address).isSome = true ↔
      address ∈ nodes.map Node.address := by
  induction nodes with
  | nil => simp [readNode]
  | cons node rest ih =>
      by_cases same : node.address = address
      · simp [readNode, same]
      · rw [readNode, if_neg same, ih, List.map_cons, List.mem_cons]
        constructor
        · exact Or.inr
        · rintro (here | later)
          · exact absurd here.symm same
          · exact later

/-- The next pointer of a node leads to the nodes behind it. -/
theorem ahead_of_readNode {nodes : List (Node Record)} {address : Nat}
    {node : Node Record} {next : Option Nat}
    (apart : (nodes.map Node.address).Nodup)
    (read : readNode nodes address = some (node, next)) :
    node ∈ nodes ∧ (∀ other, next = some other →
        other ∈ nodes.map Node.address) ∧
      ahead nodes (some address) = node :: ahead nodes next := by
  induction nodes with
  | nil => cases read
  | cons head rest ih =>
      rw [List.map_cons] at apart
      obtain ⟨fresh, restApart⟩ := List.nodup_cons.mp apart
      by_cases same : head.address = address
      · rw [readNode, if_pos same, Option.some.injEq, Prod.mk.injEq] at read
        obtain ⟨rfl, rfl⟩ := read
        have behind : ahead (head :: rest) (rest.head?.map Node.address) =
            rest := by
          cases rest with
          | nil => rfl
          | cons second others =>
              have different : head.address ≠ second.address :=
                fun equal => fresh (equal ▸ List.mem_cons_self)
              change ahead _ (some second.address) = _
              rw [ahead_cons_of_ne different, ahead_cons_self]
        refine ⟨List.mem_cons_self, ?_, ?_⟩
        · intro other led
          cases rest with
          | nil => cases led
          | cons second others =>
              cases led
              exact List.mem_cons_of_mem _ List.mem_cons_self
        · rw [behind, ← same, ahead_cons_self]
      · rw [readNode, if_neg same] at read
        obtain ⟨member, leads, shown⟩ := ih restApart read
        refine ⟨List.mem_cons_of_mem head member, ?_, ?_⟩
        · intro other led
          exact List.mem_cons_of_mem _ (leads other led)
        · rw [ahead_cons_of_ne same, shown]
          cases next with
          | none => rfl
          | some other =>
              have different : head.address ≠ other :=
                fun equal => fresh (equal ▸ leads other rfl)
              rw [ahead_cons_of_ne different]

section Keys

variable (recId : Record → Bytes)

theorem map_nodeId_overwrite (record : Record) (nodes : List (Node Record)) :
    (overwrite recId record nodes).map (nodeId recId) =
      nodes.map (nodeId recId) := by
  have ids := congrArg (List.map recId)
    (map_data_overwrite recId record nodes)
  rw [KeyedList.map_key_replaceFirst, List.map_map, List.map_map] at ids
  exact ids

theorem ahead_overwrite (record : Record) (nodes : List (Node Record))
    (position : Option Nat) :
    (ahead (overwrite recId record nodes) position).map (nodeId recId) =
      (ahead nodes position).map (nodeId recId) := by
  cases position with
  | none => rfl
  | some address =>
      induction nodes with
      | nil => rfl
      | cons node rest ih =>
          by_cases same : recId node.data = recId record
          · have whole : nodeId recId node = recId record := same
            rw [overwrite, if_pos same]
            by_cases here : node.address = address
            · subst here
              have kept := ahead_cons_self
                { node with data := record } rest
              change ahead _ (some node.address) = _ at kept
              rw [kept, ahead_cons_self, List.map_cons, List.map_cons, whole]
              rfl
            · rw [ahead_cons_of_ne here]
              rw [show ahead ({ node with data := record } :: rest)
                  (some address) = ahead rest (some address) from
                ahead_cons_of_ne here]
          · rw [overwrite, if_neg same]
            by_cases here : node.address = address
            · subst here
              rw [ahead_cons_self, ahead_cons_self, List.map_cons,
                List.map_cons]
              rw [map_nodeId_overwrite]
            · rw [ahead_cons_of_ne here, ahead_cons_of_ne here, ih]

/-- Unlinking another node than the one at the position unlinks it from the
nodes ahead. -/
theorem ahead_removeFirst {nodes : List (Node Record)} {address : Nat}
    {id : Bytes} (distinct : KeyedList.Distinct (nodeId recId) nodes)
    (other : ∀ node ∈ nodes, node.address = address → recId node.data ≠ id) :
    ahead (KeyedList.removeFirst (nodeId recId) id nodes) (some address) =
      KeyedList.removeFirst (nodeId recId) id (ahead nodes (some address)) := by
  induction nodes with
  | nil => rfl
  | cons node rest ih =>
      obtain ⟨fresh, restDistinct⟩ := List.nodup_cons.mp distinct
      have restOther := fun later member =>
        other later (List.mem_cons_of_mem node member)
      by_cases same : nodeId recId node = id
      · have different : node.address ≠ address :=
          fun here => other node List.mem_cons_self here same
        rw [KeyedList.removeFirst, if_pos same, ahead_cons_of_ne different]
        -- No later node carries the id.
        refine (KeyedList.removeFirst_of_absent _ _ _ ?_).symm
        intro member
        obtain ⟨later, inside, equal⟩ := List.mem_map.mp member
        have present : later ∈ rest := (List.dropWhile_sublist _).subset inside
        exact fresh (by rw [same, ← equal]; exact List.mem_map_of_mem present)
      · rw [KeyedList.removeFirst, if_neg same]
        by_cases here : node.address = address
        · subst here
          rw [ahead_cons_self, ahead_cons_self, KeyedList.removeFirst,
            if_neg same]
        · rw [ahead_cons_of_ne here, ahead_cons_of_ne here, ih restDistinct
            restOther]

end Keys

/-! ### The records are those of the registry -/

section Refinement

variable {d : RegDomain Record} {db : RegistryDb} {domain : NodeDomain Record}

/-- The list of a domain holds the records of the nodes. -/
structure Shows (d : RegDomain Record) (db : RegistryDb)
    (domain : NodeDomain Record) : Prop where
  head : d.head db = domain.records
  count : d.count db = domain.count
  initialized : db.initialized = domain.initialized

theorem Shows.find (shows : Shows d db domain) (id : Bytes) :
    findNodeById d (d.head db) id =
      (findNode d.recId domain id).map Node.data := by
  unfold findNodeById findNode
  rw [shows.head]
  exact KeyedList.lookup_map d.recId Node.data domain.nodes id

theorem Shows.assigned (shows : Shows d db domain) {next : NodeDomain Record}
    (initialized : next.initialized = domain.initialized) :
    Shows d (d.assign db next.records next.count) next :=
  ⟨d.head_assign .., d.count_assign ..,
    (d.initialized_assign ..).trans (shows.initialized.trans initialized.symm)⟩

theorem nodeAdd_shows (shows : Shows d db domain) (alloc : NodeAlloc)
    (record : Option Record) :
    Shows d (regAdd d (alloc.outcome domain) record db).1
        (nodeAdd d.recId alloc record domain).1 ∧
      (regAdd d (alloc.outcome domain) record db).2 =
        (nodeAdd d.recId alloc record domain).2 := by
  cases record with
  | none => exact ⟨shows, rfl⟩
  | some record =>
      unfold regAdd nodeAdd
      simp only [shows.initialized, shows.find, Option.isSome_map]
      by_cases unnamed : d.recId record = []
      · simp only [if_pos unnamed]
        exact ⟨shows, trivial⟩
      by_cases stopped : domain.initialized = false
      · simp only [if_neg unnamed, if_pos stopped]
        exact ⟨shows, trivial⟩
      by_cases stored : (findNode d.recId domain (d.recId record)).isSome = true
      · simp only [if_neg unnamed, if_neg stopped, if_pos stored]
        exact ⟨shows, trivial⟩
      simp only [if_neg unnamed, if_neg stopped, if_neg stored]
      unfold NodeAlloc.outcome
      cases alloc.node with
      | none => exact ⟨shows, rfl⟩
      | some address =>
          by_cases used : address ∈ domain.addresses
          · simp only [Option.any_some, used, not_true, decide_false, dif_pos,
              if_true]
            exact ⟨shows, trivial⟩
          cases alloc.data with
          | false =>
              simp only [Option.any_some, used, not_false_eq_true, decide_true,
                Bool.true_eq_false, if_false, if_true, dif_neg]
              exact ⟨shows, trivial⟩
          | true =>
              simp only [Option.any_some, used, not_false_eq_true, decide_true,
                Bool.true_eq_false, if_false, dif_neg]
              have pushed : record :: d.head db =
                  (pushNode domain address record used).records :=
                congrArg (record :: ·) shows.head
              rw [pushed, shows.count]
              exact ⟨shows.assigned rfl, trivial⟩

theorem nodeUpdate_shows (shows : Shows d db domain)
    (record : Option Record) :
    Shows d (regUpdate d record db).1 (nodeUpdate d.recId record domain).1 ∧
      (regUpdate d record db).2 = (nodeUpdate d.recId record domain).2 := by
  cases record with
  | none => exact ⟨shows, rfl⟩
  | some record =>
      unfold regUpdate nodeUpdate
      simp only [shows.initialized, shows.find]
      by_cases unnamed : d.recId record = []
      · simp only [if_pos unnamed]
        exact ⟨shows, trivial⟩
      by_cases stopped : domain.initialized = false
      · simp only [if_neg unnamed, if_pos stopped]
        exact ⟨shows, trivial⟩
      simp only [if_neg unnamed, if_neg stopped]
      cases findNode d.recId domain (d.recId record) with
      | none =>
          simp only [Option.map_none, Option.isNone_none, if_true]
          exact ⟨shows, trivial⟩
      | some found =>
          simp only [Option.map_some, Option.isNone_some, Bool.false_eq_true,
            if_false]
          have written : KeyedList.replaceFirst d.recId record (d.head db) =
              (writeNode d.recId domain record).records := by
            rw [shows.head]
            exact (map_data_overwrite d.recId record domain.nodes).symm
          rw [written, shows.count]
          exact ⟨shows.assigned rfl, trivial⟩

theorem nodeDelete_shows (shows : Shows d db domain) (id : Option Bytes) :
    Shows d (regDelete d id db).1 (nodeDelete d.recId id domain).1 ∧
      (regDelete d id db).2 = (nodeDelete d.recId id domain).2 := by
  cases id with
  | none => exact ⟨shows, rfl⟩
  | some id =>
      unfold regDelete nodeDelete
      simp only [shows.initialized, unlinkNode_eq, shows.find]
      by_cases stopped : domain.initialized = false
      · simp only [if_pos stopped]
        exact ⟨shows, trivial⟩
      simp only [if_neg stopped]
      cases stored : findNode d.recId domain id with
      | none =>
          simp only [Option.map_none, if_true, Option.isNone_none]
          exact ⟨shows, trivial⟩
      | some found =>
          simp only [Option.map_some, reduceCtorEq, if_false,
            Option.isNone_some, Bool.false_eq_true]
          have dropped : KeyedList.removeFirst d.recId id (d.head db) =
              (dropNode d.recId domain id).records := by
            rw [shows.head]
            exact (KeyedList.removeFirst_map d.recId Node.data id
              domain.nodes).symm
          rw [dropped, shows.count]
          exact ⟨shows.assigned rfl, trivial⟩

end Refinement

end Heapstore.RegistryMemory
