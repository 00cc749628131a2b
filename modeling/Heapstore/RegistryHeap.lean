/-
The in-memory registry on the heap.

The three lists are nodes and records at addresses.  A loop follows pointers
and may take at most a given number of turns; a call whose loop takes more, or
that reads, writes or frees what is not there, is undefined.  The calls are
compared with those of the registry whose lists are given as lists.
-/

import Heapstore.Foundation.OwnedChain
import Heapstore.RegistryMemoryRefinement

namespace Heapstore.RegistryHeap

open ByteText OwnedChain OperationRun
open RegistryMemory (RegistryDb RegDomain AddAlloc RegistryDomain)

/-! ### Records of three kinds in one memory -/

abbrev RecordOf : RegistryDomain → Type
  | .agents => AgentRecord
  | .skills => SkillRecord
  | .sessions => SessionRecord

inductive Object where
  | agent (record : AgentRecord)
  | skill (record : SkillRecord)
  | session (record : SessionRecord)

def object : (domain : RegistryDomain) → RecordOf domain → Object
  | .agents => .agent
  | .skills => .skill
  | .sessions => .session

/-- A record of another domain does not have the size of this domain's. -/
def objectAs : (domain : RegistryDomain) → Object → Option (RecordOf domain)
  | .agents, .agent record => some record
  | .skills, .skill record => some record
  | .sessions, .session record => some record
  | _, _ => none

theorem objectAs_object (domain : RegistryDomain) (record : RecordOf domain) :
    objectAs domain (object domain record) = some record := by
  cases domain <;> rfl

/-- The descriptors of the domains, for lists given as lists. -/
def described : (domain : RegistryDomain) → RegDomain (RecordOf domain)
  | .agents => RegistryMemory.agentDomain
  | .skills => RegistryMemory.skillDomain
  | .sessions => RegistryMemory.sessionDomain

abbrev recordId (domain : RegistryDomain) : RecordOf domain → Bytes :=
  (described domain).recId

/-! ### The registry -/

/-- `registry_db_t` with the memory that its pointers lead into. -/
structure HeapRegistry where
  arena : Arena Object
  heads : RegistryDomain → Option Nat
  counts : RegistryDomain → Nat
  initialized : Bool

def clearedHeap : HeapRegistry where
  arena := fun _ => none
  heads := fun _ => none
  counts := fun _ => 0
  initialized := false

/-- What the allocator gives for the node and for its record. -/
structure HeapAlloc where
  node : Option Nat
  data : Option Nat

def HeapAlloc.outcome (alloc : HeapAlloc) : AddAlloc where
  node := alloc.node.isSome
  data := alloc.data.isSome

def HeapAlloc.offers (alloc : HeapAlloc) : List Nat :=
  alloc.node.toList ++ alloc.data.toList

section Operations

variable (fuel : Nat) (domain : RegistryDomain)

def loadRecord (arena : Arena Object) (address : Nat) :
    Option (RecordOf domain) :=
  (loadValue arena address).bind (objectAs domain)

/-- The loop of `find_node_by_id`: a node without data is passed over. -/
def findNodeById (arena : Arena Object) (id : Bytes) :
    Nat → Option Nat → Option (Option Nat)
  | 0, _ => none
  | _ + 1, none => some none
  | fuel + 1, some address =>
      match loadNode arena address with
      | none => none
      | some (none, next) => findNodeById arena id fuel next
      | some (some data, next) =>
          match loadRecord domain arena data with
          | none => none
          | some record =>
              if recordId domain record = id then some (some address)
              else findNodeById arena id fuel next

/-- `free_node_list`, up to the assignment of the head. -/
def freeNodeList : Nat → Arena Object → Option Nat → Option (Arena Object)
  | 0, _, _ => none
  | _ + 1, arena, none => some arena
  | fuel + 1, arena, some address =>
      match loadNode arena address with
      | none => none
      | some (data, next) =>
          match (release arena data).bind (release · (some address)) with
          | none => none
          | some freed => freeNodeList fuel freed next

/-- The second half of `reg_add`: a node without its record is freed again. -/
def linkNode (alloc : HeapAlloc) (record : RecordOf domain)
    (heap : HeapRegistry) : HeapRegistry × HeapstoreError :=
  match alloc.node with
  | none => (heap, .errOutOfMemory)
  | some node =>
      let zeroed := Function.update heap.arena node (some (.node none none))
      match alloc.data with
      | none => ({ heap with arena := without zeroed [node] }, .errOutOfMemory)
      | some data =>
          let copied := Function.update zeroed data
            (some (.value (object domain record)))
          ({ heap with
              arena := Function.update copied node
                (some (.node (some data) (heap.heads domain)))
              heads := Function.update heap.heads domain (some node)
              counts := Function.update heap.counts domain
                (heap.counts domain + 1) }, .success)

def regAdd (alloc : HeapAlloc) (record : Option (RecordOf domain))
    (heap : HeapRegistry) : Option (HeapRegistry × HeapstoreError) :=
  match record with
  | none => some (heap, .errInvalidParam)
  | some record =>
      if recordId domain record = [] then some (heap, .errInvalidParam)
      else if heap.initialized = false then some (heap, .errNotInitialized)
      else
        match findNodeById domain heap.arena (recordId domain record) fuel
            (heap.heads domain) with
        | none => none
        | some (some _) => some (heap, .errAlreadyInitialized)
        | some none => some (linkNode domain alloc record heap)

def regGet (id : Option Bytes) (out : Bool) (heap : HeapRegistry) :
    Option (HeapstoreError × Option (RecordOf domain)) :=
  match id with
  | none => some (.errInvalidParam, none)
  | some id =>
      if out = false then some (.errInvalidParam, none)
      else if heap.initialized = false then some (.errNotInitialized, none)
      else
        match findNodeById domain heap.arena id fuel (heap.heads domain) with
        | none => none
        | some none => some (.errNotFound, none)
        | some (some address) =>
            match loadNode heap.arena address with
            | some (some data, _) =>
                (loadRecord domain heap.arena data).map fun record =>
                  (.success, some record)
            | _ => none

/-- The copy over a record that is there. -/
def storeRecord (address : Nat) (record : RecordOf domain)
    (heap : HeapRegistry) : Option HeapRegistry :=
  (loadRecord domain heap.arena address).map fun _ =>
    { heap with
      arena := Function.update heap.arena address
        (some (.value (object domain record))) }

def regUpdate (record : Option (RecordOf domain)) (heap : HeapRegistry) :
    Option (HeapRegistry × HeapstoreError) :=
  match record with
  | none => some (heap, .errInvalidParam)
  | some record =>
      if recordId domain record = [] then some (heap, .errInvalidParam)
      else if heap.initialized = false then some (heap, .errNotInitialized)
      else
        match findNodeById domain heap.arena (recordId domain record) fuel
            (heap.heads domain) with
        | none => none
        | some none => some (heap, .errNotFound)
        | some (some address) =>
            match loadNode heap.arena address with
            | some (some data, _) =>
                (storeRecord domain data record heap).map (·, .success)
            | _ => none

/-- The loop of `reg_delete`: the place of the pointer to the node with the id,
and the node.  Here a node without data is not passed over. -/
def findVictim (arena : Arena Object) (head : Option Nat) (id : Bytes) :
    Nat → Option Nat → Option (Option (Option Nat × Nat))
  | 0, _ => none
  | fuel + 1, place =>
      match loadPointer arena head place with
      | none => none
      | some none => some none
      | some (some address) =>
          match loadNode arena address with
          | some (some data, _) =>
              match loadRecord domain arena data with
              | none => none
              | some record =>
                  if recordId domain record = id then
                    some (some (place, address))
                  else findVictim arena head id fuel (some address)
          | _ => none

/-- What `reg_delete` does with the node that it found. -/
def unlinkVictim (place : Option Nat) (victim : Nat) (heap : HeapRegistry) :
    Option HeapRegistry :=
  match loadNode heap.arena victim with
  | none => none
  | some (_, next) =>
      match storePointer heap.arena (heap.heads domain) next place with
      | none => none
      | some (written, first) =>
          match loadNode written victim with
          | none => none
          | some (data, _) =>
              ((release written data).bind (release · (some victim))).map
                fun freed =>
                  { heap with
                    arena := freed
                    heads := Function.update heap.heads domain first
                    counts := Function.update heap.counts domain
                      (heap.counts domain - 1) }

def regDelete (id : Option Bytes) (heap : HeapRegistry) :
    Option (HeapRegistry × HeapstoreError) :=
  match id with
  | none => some (heap, .errInvalidParam)
  | some id =>
      if heap.initialized = false then some (heap, .errNotInitialized)
      else
        match findVictim domain heap.arena (heap.heads domain) id fuel none with
        | none => none
        | some none => some (heap, .errNotFound)
        | some (some (place, victim)) =>
            (unlinkVictim domain place victim heap).map (·, .success)

/-- The loop of `reg_batch`. -/
def regBatchLoop : (Nat → HeapAlloc) → List (RecordOf domain) → HeapRegistry →
    Option (HeapRegistry × HeapstoreError)
  | _, [], heap => some (heap, .success)
  | alloc, record :: rest, heap =>
      match regAdd fuel domain (alloc 0) (some record) heap with
      | none => none
      | some (added, error) =>
          if error = .success then
            regBatchLoop (fun index => alloc (index + 1)) rest added
          else some (added, error)

def regBatch (alloc : Nat → HeapAlloc)
    (records : Option (List (RecordOf domain))) (heap : HeapRegistry) :
    Option (HeapRegistry × HeapstoreError) :=
  match records with
  | none => some (heap, .errInvalidParam)
  | some records =>
      if records = [] then some (heap, .errInvalidParam)
      else if heap.initialized = false then some (heap, .errNotInitialized)
      else regBatchLoop fuel domain alloc records heap

end Operations

/-- `heapstore_registry_init`: the pointers are overwritten. -/
def registryInit (heap : HeapRegistry) : HeapRegistry × HeapstoreError :=
  ({ clearedHeap with arena := heap.arena, initialized := true }, .success)

/-- `heapstore_registry_shutdown` -/
def registryShutdown (fuel : Nat) (heap : HeapRegistry) :
    Option HeapRegistry :=
  match freeNodeList fuel heap.arena (heap.heads .agents) with
  | none => none
  | some arena =>
      match freeNodeList fuel arena (heap.heads .skills) with
      | none => none
      | some arena =>
          (freeNodeList fuel arena (heap.heads .sessions)).map fun freed =>
            { clearedHeap with arena := freed }

/-! ### Runs -/

/-- The addresses that the allocator gives out in a batch. -/
def batchOffers {Record : Type} : (Nat → HeapAlloc) → List Record → List Nat
  | _, [] => []
  | alloc, _ :: rest =>
      (alloc 0).offers ++ batchOffers (fun index => alloc (index + 1)) rest

inductive HeapCall where
  | init
  | shutdown
  | add (domain : RegistryDomain) (alloc : HeapAlloc)
      (record : Option (RecordOf domain))
  | get (domain : RegistryDomain) (id : Option Bytes) (out : Bool)
  | update (domain : RegistryDomain) (record : Option (RecordOf domain))
  | delete (domain : RegistryDomain) (id : Option Bytes)
  | batchInsert (domain : RegistryDomain) (alloc : Nat → HeapAlloc)
      (records : Option (List (RecordOf domain)))

inductive HeapAnswer where
  | done
  | code (error : HeapstoreError)
  | record (domain : RegistryDomain)
      (answer : HeapstoreError × Option (RecordOf domain))
  | undefined

def coded (heap : HeapRegistry)
    (result : Option (HeapRegistry × HeapstoreError)) :
    HeapRegistry × HeapAnswer :=
  match result with
  | none => (heap, .undefined)
  | some (next, error) => (next, .code error)

def heapStep (fuel : Nat) : Machine HeapRegistry HeapCall HeapAnswer :=
  fun heap call =>
    match call with
    | .init => coded heap (some (registryInit heap))
    | .shutdown =>
        match registryShutdown fuel heap with
        | none => (heap, .undefined)
        | some next => (next, .done)
    | .add domain alloc record => coded heap (regAdd fuel domain alloc record heap)
    | .get domain id out =>
        match regGet fuel domain id out heap with
        | none => (heap, .undefined)
        | some answer => (heap, .record domain answer)
    | .update domain record => coded heap (regUpdate fuel domain record heap)
    | .delete domain id => coded heap (regDelete fuel domain id heap)
    | .batchInsert domain alloc records =>
        coded heap (regBatch fuel domain alloc records heap)

/-- The same calls on lists; an allocation has an outcome and no address. -/
def listStep : Machine RegistryDb HeapCall HeapAnswer := fun db call =>
  match call with
  | .init =>
      ((RegistryMemory.registryInit db).1,
        .code (RegistryMemory.registryInit db).2)
  | .shutdown => (RegistryMemory.registryShutdown db, .done)
  | .add domain alloc record =>
      let added :=
        RegistryMemory.regAdd (described domain) alloc.outcome record db
      (added.1, .code added.2)
  | .get domain id out =>
      (db, .record domain
        (RegistryMemory.regGet (described domain) id out db))
  | .update domain record =>
      let updated := RegistryMemory.regUpdate (described domain) record db
      (updated.1, .code updated.2)
  | .delete domain id =>
      let deleted := RegistryMemory.regDelete (described domain) id db
      (deleted.1, .code deleted.2)
  | .batchInsert domain alloc records =>
      let inserted := RegistryMemory.regBatch (described domain)
        (fun index => (alloc index).outcome) records db
      (inserted.1, .code inserted.2)

/-- The records that a call may add. -/
def HeapCall.records : HeapCall → Nat
  | .add .. => 1
  | .batchInsert _ _ records => (records.getD []).length
  | _ => 0

def offeredRecords (calls : List HeapCall) : Nat :=
  (calls.map HeapCall.records).sum

def HeapCall.offers : HeapCall → List Nat
  | .add _ alloc _ => alloc.offers
  | .batchInsert _ alloc records => batchOffers alloc (records.getD [])
  | _ => []

/-- The addresses that the allocator gives out are free, and no two are one. -/
def Offered (arena : Arena Object) (offers : List Nat) : Prop :=
  offers.Nodup ∧ ∀ address ∈ offers, arena address = none

def Fresh (heap : HeapRegistry) (call : HeapCall) : Prop :=
  Offered heap.arena call.offers

instance (heap : HeapRegistry) (call : HeapCall) :
    Decidable (Fresh heap call) :=
  inferInstanceAs (Decidable (_ ∧ _))

/-- An initialization overwrites no pointer to a list. -/
def StartsEmpty (heap : HeapRegistry) (call : HeapCall) : Prop :=
  match call with
  | .init => ∀ domain, heap.heads domain = none
  | _ => True

/-! ### The loops on a list -/

def shown (domain : RegistryDomain) (entries : List (Entry (RecordOf domain))) :
    List (Entry Object) :=
  entries.map (Entry.map (object domain))

def entryId (domain : RegistryDomain) (entry : Entry (RecordOf domain)) :
    Bytes :=
  recordId domain entry.value

section Loops

variable {domain : RegistryDomain} {arena : Arena Object} {id : Bytes}
  {start stop head : Option Nat} {entries before : List (Entry (RecordOf domain))}

theorem shown_append (first second : List (Entry (RecordOf domain))) :
    shown domain (first ++ second) = shown domain first ++ shown domain second :=
  List.map_append

theorem loadRecord_eq {address : Nat} {record : RecordOf domain}
    (owned : arena address = some (.value (object domain record))) :
    loadRecord domain arena address = some record := by
  unfold loadRecord
  rw [loadValue_eq owned, Option.bind_some, objectAs_object]

/-- The search goes through entries without the id. -/
theorem findNodeById_passes (extra : Nat)
    (segment : Segment arena stop start (shown domain entries))
    (absent : id ∉ entries.map (entryId domain)) :
    findNodeById domain arena id (entries.length + extra) start =
      findNodeById domain arena id extra stop := by
  induction entries generalizing start with
  | nil =>
      cases segment
      rw [List.length_nil, Nat.zero_add]
  | cons entry rest ih =>
      cases segment with
      | cons _ next _ here owned later =>
          rw [List.map_cons, List.mem_cons, not_or] at absent
          rw [List.length_cons, Nat.add_right_comm, findNodeById]
          have different : recordId domain entry.value ≠ id := Ne.symm absent.1
          simp only [loadNode_eq here, loadRecord_eq owned, if_neg different]
          exact ih later absent.2

theorem findNodeById_absent {fuel : Nat}
    (chained : Chained arena start (shown domain entries))
    (absent : id ∉ entries.map (entryId domain))
    (room : entries.length < fuel) :
    findNodeById domain arena id fuel start = some none := by
  obtain ⟨extra, rfl⟩ := Nat.exists_eq_add_of_lt room
  rw [Nat.add_assoc, findNodeById_passes _ chained absent, findNodeById]

theorem findNodeById_found {fuel : Nat} {entry : Entry (RecordOf domain)}
    {next : Option Nat}
    (segment : Segment arena (some entry.node) start (shown domain before))
    (absent : id ∉ before.map (entryId domain))
    (here : arena entry.node = some (.node (some entry.data) next))
    (owned : arena entry.data = some (.value (object domain entry.value)))
    (same : entryId domain entry = id) (room : before.length < fuel) :
    findNodeById domain arena id fuel start = some (some entry.node) := by
  obtain ⟨extra, rfl⟩ := Nat.exists_eq_add_of_lt room
  rw [Nat.add_assoc, findNodeById_passes _ segment absent, findNodeById]
  have carried : recordId domain entry.value = id := same
  simp only [loadNode_eq here, loadRecord_eq owned, if_pos carried]

/-- The walk of a deletion goes through entries without the id; it stands at
the pointer behind them. -/
theorem findVictim_passes (extra : Nat)
    (segment : Segment arena stop head (shown domain (before ++ entries)))
    (absent : id ∉ entries.map (entryId domain)) :
    findVictim domain arena head id (entries.length + extra)
        (cursor (shown domain before)) =
      findVictim domain arena head id extra
        (cursor (shown domain (before ++ entries))) := by
  induction entries generalizing before with
  | nil => rw [List.length_nil, Nat.zero_add, List.append_nil]
  | cons entry rest ih =>
      have whole := segment
      rw [shown_append] at segment
      obtain ⟨middle, first, second⟩ := segment.split
      cases second with
      | cons _ next _ here owned later =>
          rw [List.map_cons, List.mem_cons, not_or] at absent
          have different : recordId domain entry.value ≠ id := Ne.symm absent.1
          rw [List.length_cons, Nat.add_right_comm, findVictim]
          simp only [first.load, loadNode_eq here, loadRecord_eq owned,
            if_neg different]
          rw [List.append_cons] at whole ⊢
          rw [← ih whole absent.2, shown_append]
          exact congrArg (findVictim domain arena head id (rest.length + extra))
            (cursor_concat _ _).symm

theorem findVictim_absent {fuel : Nat}
    (chained : Chained arena head (shown domain entries))
    (absent : id ∉ entries.map (entryId domain))
    (room : entries.length < fuel) :
    findVictim domain arena head id fuel none = some none := by
  obtain ⟨extra, rfl⟩ := Nat.exists_eq_add_of_lt room
  have passed := @findVictim_passes domain arena id none head entries []
    (extra + 1) chained absent
  rw [Nat.add_assoc]
  refine passed.trans ?_
  rw [List.nil_append, findVictim, chained.load]

theorem findVictim_found {fuel : Nat} {entry : Entry (RecordOf domain)}
    {next : Option Nat}
    (segment : Segment arena (some entry.node) head (shown domain before))
    (absent : id ∉ before.map (entryId domain))
    (here : arena entry.node = some (.node (some entry.data) next))
    (owned : arena entry.data = some (.value (object domain entry.value)))
    (same : entryId domain entry = id) (room : before.length < fuel) :
    findVictim domain arena head id fuel none =
      some (some (cursor (shown domain before), entry.node)) := by
  obtain ⟨extra, rfl⟩ := Nat.exists_eq_add_of_lt room
  have passed := @findVictim_passes domain arena id (some entry.node) head
    before [] (extra + 1) segment absent
  rw [Nat.add_assoc]
  refine passed.trans ?_
  have carried : recordId domain entry.value = id := same
  rw [List.nil_append, findVictim, segment.load]
  simp only [loadNode_eq here, loadRecord_eq owned, if_pos carried]

theorem freeNodeList_chained {fuel : Nat} {entries : List (Entry Object)}
    (chained : Chained arena start entries)
    (distinct : (footprint entries).Nodup) (room : entries.length < fuel) :
    freeNodeList fuel arena start =
      some (without arena (footprint entries)) := by
  induction entries generalizing fuel arena start with
  | nil =>
      obtain ⟨extra, rfl⟩ := Nat.exists_eq_add_of_lt room
      cases chained
      refine congrArg some (funext fun address => ?_)
      exact (without_other List.not_mem_nil).symm
  | cons entry rest ih =>
      cases fuel with
      | zero => cases room
      | succ fuel =>
          cases chained with
          | cons _ next _ here owned later =>
              rw [footprint_cons, List.nodup_cons, List.nodup_cons,
                List.mem_cons, not_or] at distinct
              obtain ⟨⟨different, node⟩, data, distinct⟩ := distinct
              have freed := @release_entry Object arena entry different
                (here ▸ Option.some_ne_none _) (owned ▸ Option.some_ne_none _)
              rw [freeNodeList]
              simp only [loadNode_eq here, freed]
              rw [ih (later.frame fun address member => ?_) distinct
                (Nat.lt_of_succ_lt_succ room), without_without]
              · rfl
              · apply without_other
                simp only [footprint, List.flatMap_cons, List.flatMap_nil,
                  List.append_nil, List.mem_cons, List.not_mem_nil, or_false,
                  not_or]
                constructor
                · rintro rfl
                  exact node member
                · rintro rfl
                  exact data member

end Loops

/-! ### The heap against lists -/

abbrev HeapRows := (domain : RegistryDomain) → List (Entry (RecordOf domain))

/-- The memory holds the lists; what is in none of them is loose. -/
structure Mirrors (heap : HeapRegistry) (db : RegistryDb) (rows : HeapRows)
    (loose : Set Nat) : Prop where
  laid : Laid heap.arena heap.heads
    (fun domain => shown domain (rows domain)) loose
  records : ∀ domain,
    (rows domain).map Entry.value = (described domain).head db
  counted : ∀ domain, heap.counts domain = (described domain).count db
  ready : heap.initialized = db.initialized

theorem shown_update (rows : HeapRows) (domain : RegistryDomain)
    (entries : List (Entry (RecordOf domain))) :
    (fun other => shown other (Function.update rows domain entries other)) =
      Function.update (fun other => shown other (rows other)) domain
        (shown domain entries) :=
  funext fun other => Function.apply_update shown rows domain entries other

/-- The descriptors of two domains address different fields. -/
theorem assign_other {domain other : RegistryDomain} (db : RegistryDb)
    (items : List (RecordOf domain)) (count : Nat)
    (different : other ≠ domain) :
    (described other).head ((described domain).assign db items count) =
        (described other).head db ∧
      (described other).count ((described domain).assign db items count) =
        (described other).count db := by
  cases domain <;> cases other <;>
    first | exact absurd rfl different | exact ⟨rfl, rfl⟩

section Steps

variable {heap : HeapRegistry} {db : RegistryDb} {rows : HeapRows}
  {loose : Set Nat} {domain : RegistryDomain}

theorem Mirrors.ids (mirrors : Mirrors heap db rows loose) (id : Bytes) :
    RegistryMemory.findNodeById (described domain)
        ((described domain).head db) id =
      (KeyedList.lookup (entryId domain) (rows domain) id).map Entry.value := by
  unfold RegistryMemory.findNodeById
  rw [← mirrors.records domain, KeyedList.lookup_map]
  rfl

/-- The first entry with an id, and what the memory holds for it. -/
structure Met (heap : HeapRegistry) (rows : HeapRows) (domain : RegistryDomain)
    (id : Bytes) (before : List (Entry (RecordOf domain)))
    (entry : Entry (RecordOf domain))
    (after : List (Entry (RecordOf domain))) (next : Option Nat) : Prop where
  pieces : rows domain = before ++ entry :: after
  same : entryId domain entry = id
  absent : id ∉ before.map (entryId domain)
  segment : Segment heap.arena (some entry.node) (heap.heads domain)
    (shown domain before)
  here : heap.arena entry.node = some (.node (some entry.data) next)
  owned : heap.arena entry.data = some (.value (object domain entry.value))

variable {id : Bytes} {fuel : Nat} {before after : List (Entry (RecordOf domain))}
  {entry : Entry (RecordOf domain)} {next : Option Nat}

theorem shown_pieces (pieces : rows domain = before ++ entry :: after) :
    shown domain (rows domain) = shown domain before ++
      entry.map (object domain) :: shown domain after := by
  rw [pieces, shown_append]
  rfl

theorem Met.absent_value (met : Met heap rows domain id before entry after next) :
    id ∉ (before.map Entry.value).map (recordId domain) := by
  rw [List.map_map]
  exact met.absent

theorem Met.short (met : Met heap rows domain id before entry after next)
    (room : (rows domain).length < fuel) : before.length < fuel := by
  refine Nat.lt_of_le_of_lt ?_ room
  rw [met.pieces, List.length_append]
  exact Nat.le_add_right _ _

theorem Mirrors.met_or_absent (mirrors : Mirrors heap db rows loose)
    (domain : RegistryDomain) (id : Bytes) :
    id ∉ (rows domain).map (entryId domain) ∨
      ∃ before entry after next, Met heap rows domain id before entry after
        next := by
  by_cases carried : id ∈ (rows domain).map (entryId domain)
  · obtain ⟨before, entry, after, pieces, same, absent⟩ :=
      KeyedList.exists_split (entryId domain) carried
    obtain ⟨segment, owned, next, here, _⟩ :=
      mirrors.laid.reads (shown_pieces pieces)
    exact .inr ⟨before, entry, after, next, pieces, same, absent, segment,
      here, owned⟩
  · exact .inl carried

theorem Mirrors.find_absent (mirrors : Mirrors heap db rows loose)
    (absent : id ∉ (rows domain).map (entryId domain))
    (room : (rows domain).length < fuel) :
    findNodeById domain heap.arena id fuel (heap.heads domain) = some none ∧
      RegistryMemory.findNodeById (described domain)
        ((described domain).head db) id = none := by
  refine ⟨findNodeById_absent (mirrors.laid.chained domain) absent room, ?_⟩
  rw [mirrors.ids, (KeyedList.lookup_eq_none_iff _ _ _).mpr absent]
  rfl

theorem Mirrors.find_met (mirrors : Mirrors heap db rows loose)
    (met : Met heap rows domain id before entry after next)
    (room : (rows domain).length < fuel) :
    findNodeById domain heap.arena id fuel (heap.heads domain) =
        some (some entry.node) ∧
      RegistryMemory.findNodeById (described domain)
        ((described domain).head db) id = some entry.value := by
  constructor
  · exact findNodeById_found met.segment met.absent met.here met.owned met.same
      (met.short room)
  · rw [mirrors.ids, met.pieces,
      KeyedList.lookup_of_split _ met.absent met.same]
    rfl

/-- One list of the memory is another, and so is the list that it shows. -/
theorem Mirrors.assign (mirrors : Mirrors heap db rows loose)
    {arena : Arena Object} {start : Option Nat}
    {entries : List (Entry (RecordOf domain))} {count : Nat}
    (laid : Laid arena (Function.update heap.heads domain start)
      (Function.update (fun other => shown other (rows other)) domain
        (shown domain entries)) loose) :
    Mirrors
      { heap with
        arena := arena
        heads := Function.update heap.heads domain start
        counts := Function.update heap.counts domain count }
      ((described domain).assign db (entries.map Entry.value) count)
      (Function.update rows domain entries) loose where
  laid := by
    rw [shown_update]
    exact laid
  records other := by
    by_cases same : other = domain
    · subst same
      rw [Function.update_self, RegDomain.head_assign]
    · rw [Function.update_of_ne same, (assign_other db _ _ same).1,
        mirrors.records other]
  counted other := by
    by_cases same : other = domain
    · subst same
      rw [RegDomain.count_assign]
      exact Function.update_self ..
    · rw [(assign_other db _ _ same).2]
      exact (Function.update_of_ne same _ _).trans (mirrors.counted other)
  ready := by
    rw [RegDomain.initialized_assign]
    exact mirrors.ready

/-- A call that is not undefined does what it does to lists.  Its lists grow by
so many records, and of the free memory it takes these addresses. -/
def Follows (heap : HeapRegistry) (rows : HeapRows) (loose : Set Nat)
    (grown : Nat) (taken : List Nat)
    (result : Option (HeapRegistry × HeapstoreError))
    (expected : RegistryDb × HeapstoreError) : Prop :=
  ∃ next entries, result = some (next, expected.2) ∧
    Mirrors next expected.1 entries loose ∧
    (∀ domain, (entries domain).length ≤ (rows domain).length + grown) ∧
    ∀ address, heap.arena address = none → address ∉ taken →
      next.arena address = none

theorem Mirrors.refused (mirrors : Mirrors heap db rows loose)
    (error : HeapstoreError) (grown : Nat) (taken : List Nat) :
    Follows heap rows loose grown taken (some (heap, error)) (db, error) :=
  ⟨heap, rows, rfl, mirrors, fun _ => Nat.le_add_right _ _,
    fun _ free _ => free⟩

theorem length_update_le (rows : HeapRows) (domain other : RegistryDomain)
    (entries : List (Entry (RecordOf domain))) {grown : Nat}
    (bounded : entries.length ≤ (rows domain).length + grown) :
    (Function.update rows domain entries other).length ≤
      (rows other).length + grown := by
  by_cases same : other = domain
  · subst same
    rwa [Function.update_self]
  · rw [Function.update_of_ne same]
    exact Nat.le_add_right _ _

theorem linkNode_follows (mirrors : Mirrors heap db rows loose)
    (alloc : HeapAlloc) (record : RecordOf domain)
    (offered : Offered heap.arena alloc.offers) :
    Follows heap rows loose 1 alloc.offers
      (some (linkNode domain alloc record heap))
      (if alloc.outcome.node = false then (db, .errOutOfMemory)
        else if alloc.outcome.data = false then (db, .errOutOfMemory)
        else ((described domain).assign db
          (record :: (described domain).head db)
          ((described domain).count db + 1), .success)) := by
  rcases alloc with ⟨_ | node, data⟩
  · exact mirrors.refused _ 1 _
  obtain ⟨distinct, free⟩ := offered
  have nodeFree : heap.arena node = none := free node List.mem_cons_self
  cases data with
  | none =>
      -- The node is freed, and the memory is what it was.
      have freed : linkNode domain ⟨some node, none⟩ record heap =
          (heap, .errOutOfMemory) := by
        unfold linkNode
        simp only [without_taken nodeFree]
      rw [freed]
      exact mirrors.refused _ 1 _
  | some data =>
      have dataFree : heap.arena data = none :=
        free data (List.mem_cons_of_mem _ List.mem_cons_self)
      have different : node ≠ data :=
        fun same => (List.nodup_cons.mp distinct).1
          (same ▸ List.mem_cons_self)
      have written : ∀ address, address ≠ node → address ≠ data →
          (linkNode domain ⟨some node, some data⟩ record heap).1.arena address =
            heap.arena address := by
        intro address first second
        unfold linkNode
        simp only [Function.update_of_ne first, Function.update_of_ne second]
      have pushed := mirrors.laid.push domain
        ⟨node, data, object domain record⟩ nodeFree dataFree different
        (Function.update_self ..)
        ((Function.update_of_ne different.symm _ _).trans
          (Function.update_self ..)) written
      have assigned := @Mirrors.assign heap db rows loose domain mirrors _ _
        (⟨node, data, record⟩ :: rows domain) ((described domain).count db + 1)
        pushed
      rw [List.map_cons, mirrors.records, ← mirrors.counted] at assigned
      rw [← mirrors.counted]
      refine ⟨_, _, rfl, assigned, fun other => ?_,
        fun address addressFree absent => ?_⟩
      · exact length_update_le rows domain other _ (Nat.le_refl _)
      · simp only [HeapAlloc.offers, Option.toList_some, List.singleton_append,
          List.mem_cons, List.not_mem_nil, or_false, not_or] at absent
        exact (written address absent.1 absent.2).trans addressFree

section Calls

variable {fuel : Nat}

theorem regAdd_follows (mirrors : Mirrors heap db rows loose)
    (alloc : HeapAlloc) (record : Option (RecordOf domain))
    (room : (rows domain).length < fuel)
    (offered : Offered heap.arena alloc.offers) :
    Follows heap rows loose 1 alloc.offers
      (regAdd fuel domain alloc record heap)
      (RegistryMemory.regAdd (described domain) alloc.outcome record db) := by
  unfold regAdd RegistryMemory.regAdd
  cases record with
  | none => exact mirrors.refused _ _ _
  | some record =>
      rw [← mirrors.ready]
      by_cases unnamed : recordId domain record = []
      · simp only [if_pos unnamed]
        exact mirrors.refused _ _ _
      simp only [if_neg unnamed]
      by_cases down : heap.initialized = false
      · rw [if_pos down, if_pos down]
        exact mirrors.refused _ _ _
      rw [if_neg down, if_neg down]
      rcases mirrors.met_or_absent domain (recordId domain record) with
        absent | ⟨before, entry, after, next, met⟩
      · obtain ⟨missed, none⟩ := mirrors.find_absent absent room
        rw [missed, none]
        exact linkNode_follows mirrors alloc record offered
      · obtain ⟨found, stored⟩ := mirrors.find_met met room
        rw [found, stored]
        exact mirrors.refused _ _ _

theorem regGet_answers (mirrors : Mirrors heap db rows loose)
    (id : Option Bytes) (out : Bool) (room : (rows domain).length < fuel) :
    regGet fuel domain id out heap =
      some (RegistryMemory.regGet (described domain) id out db) := by
  unfold regGet RegistryMemory.regGet
  cases id with
  | none => rfl
  | some id =>
      rw [← mirrors.ready]
      by_cases nowhere : out = false
      · simp only [if_pos nowhere]
      simp only [if_neg nowhere]
      by_cases down : heap.initialized = false
      · simp only [if_pos down]
      simp only [if_neg down]
      rcases mirrors.met_or_absent domain id with
        absent | ⟨before, entry, after, next, met⟩
      · obtain ⟨missed, none⟩ := mirrors.find_absent absent room
        rw [missed, none]
      · obtain ⟨found, stored⟩ := mirrors.find_met met room
        rw [found, stored]
        simp only [loadNode_eq met.here, loadRecord_eq met.owned,
          Option.map_some]

theorem regUpdate_follows (mirrors : Mirrors heap db rows loose)
    (record : Option (RecordOf domain)) (room : (rows domain).length < fuel) :
    Follows heap rows loose 0 [] (regUpdate fuel domain record heap)
      (RegistryMemory.regUpdate (described domain) record db) := by
  unfold regUpdate RegistryMemory.regUpdate
  cases record with
  | none => exact mirrors.refused _ _ _
  | some record =>
      rw [← mirrors.ready]
      by_cases unnamed : recordId domain record = []
      · simp only [if_pos unnamed]
        exact mirrors.refused _ _ _
      simp only [if_neg unnamed]
      by_cases down : heap.initialized = false
      · rw [if_pos down, if_pos down]
        exact mirrors.refused _ _ _
      rw [if_neg down, if_neg down]
      rcases mirrors.met_or_absent domain (recordId domain record) with
        absent | ⟨before, entry, after, next, met⟩
      · obtain ⟨missed, none⟩ := mirrors.find_absent absent room
        rw [missed, none]
        exact mirrors.refused _ _ _
      · obtain ⟨found, stored⟩ := mirrors.find_met met room
        rw [found, stored]
        simp only [loadNode_eq met.here]
        unfold storeRecord
        rw [loadRecord_eq met.owned]
        have replaced := mirrors.laid.replace (shown_pieces met.pieces)
          (object domain record)
        have items : KeyedList.replaceFirst (described domain).recId record
            ((described domain).head db) =
              (before ++ { entry with value := record } :: after).map
                Entry.value := by
          rw [← mirrors.records, met.pieces, List.map_append, List.map_cons,
            List.map_append, List.map_cons]
          exact KeyedList.replaceFirst_of_split _ met.absent_value met.same
        rw [items]
        have assigned := @Mirrors.assign heap db rows loose domain mirrors
          (Function.update heap.arena entry.data
            (some (.value (object domain record)))) (heap.heads domain)
          (before ++ { entry with value := record } :: after)
          (heap.counts domain) (by
            rw [Function.update_eq_self, shown_append]
            exact replaced)
        rw [Function.update_eq_self, Function.update_eq_self,
          mirrors.counted] at assigned
        refine ⟨_, _, rfl, assigned, fun other => ?_,
          fun address free _ => ?_⟩
        · refine length_update_le rows domain other _ (Nat.le_of_eq ?_)
          rw [met.pieces, List.length_append, List.length_append]
          rfl
        · refine (Function.update_of_ne ?_ _ _).trans free
          rintro rfl
          have owned := met.owned
          rw [free] at owned
          cases owned

theorem regDelete_follows (mirrors : Mirrors heap db rows loose)
    (id : Option Bytes) (room : (rows domain).length < fuel) :
    Follows heap rows loose 0 [] (regDelete fuel domain id heap)
      (RegistryMemory.regDelete (described domain) id db) := by
  unfold regDelete RegistryMemory.regDelete
  cases id with
  | none => exact mirrors.refused _ _ _
  | some id =>
      rw [← mirrors.ready]
      by_cases down : heap.initialized = false
      · simp only [if_pos down]
        exact mirrors.refused _ _ _
      simp only [if_neg down]
      rw [RegistryMemory.unlinkNode_eq]
      rcases mirrors.met_or_absent domain id with
        absent | ⟨before, entry, after, next, met⟩
      · rw [findVictim_absent (mirrors.laid.chained domain) absent room,
          if_pos (mirrors.find_absent absent room).2]
        exact mirrors.refused _ _ _
      · rw [findVictim_found met.segment met.absent met.here met.owned met.same
            (met.short room), (mirrors.find_met met room).2,
          if_neg (Option.some_ne_none _)]
        simp only
        have split := shown_pieces met.pieces
        obtain ⟨target, written, first, loaded, stored, again, freed, laid⟩ :=
          mirrors.laid.unlink split
        have unlinked : unlinkVictim domain (cursor (shown domain before))
            entry.node heap = some
              { heap with
                arena := without written
                  (footprint [entry.map (object domain)])
                heads := Function.update heap.heads domain first
                counts := Function.update heap.counts domain
                  (heap.counts domain - 1) } := by
          unfold unlinkVictim
          rw [show loadNode heap.arena entry.node =
            some (some entry.data, target) from loaded]
          simp only [stored]
          rw [show loadNode written entry.node =
            some (some entry.data, target) from again]
          simp only
          rw [show (release written (some entry.data)).bind
              (release · (some entry.node)) = _ from freed]
          rfl
        rw [unlinked]
        have items : KeyedList.removeFirst (described domain).recId id
            ((described domain).head db) =
              (before ++ after).map Entry.value := by
          rw [← mirrors.records, met.pieces, List.map_append, List.map_cons,
            List.map_append]
          exact KeyedList.removeFirst_of_split _ met.absent_value met.same
        rw [items, ← mirrors.counted]
        have assigned := @Mirrors.assign heap db rows loose domain mirrors _ _
          (before ++ after) (heap.counts domain - 1)
          (by
            rw [shown_append]
            exact laid)
        refine ⟨_, _, rfl, assigned, fun other => ?_,
          fun address free _ => ?_⟩
        · refine length_update_le rows domain other _ ?_
          rw [met.pieces, List.length_append, List.length_append,
            List.length_cons]
          omega
        · -- What is allocated now was so before.
          by_contra taken
          rcases (laid.live address).mp taken with ⟨other, member⟩ | lost
          · refine (mirrors.laid.live address).mpr (.inl ⟨other, ?_⟩) free
            by_cases same : other = domain
            · subst same
              rw [Function.update_self, footprint_append] at member
              rw [split, footprint_append, footprint_cons]
              rcases List.mem_append.mp member with member | member
              · exact List.mem_append_left _ member
              · exact List.mem_append_right _
                  (List.mem_cons_of_mem _ (List.mem_cons_of_mem _ member))
            · rwa [Function.update_of_ne same] at member
          · exact (mirrors.laid.live address).mpr (.inr lost) free

theorem regBatchLoop_follows (records : List (RecordOf domain))
    (alloc : Nat → HeapAlloc) (mirrors : Mirrors heap db rows loose)
    (room : (rows domain).length + records.length ≤ fuel)
    (offered : Offered heap.arena (batchOffers alloc records)) :
    Follows heap rows loose records.length (batchOffers alloc records)
      (regBatchLoop fuel domain alloc records heap)
      (RegistryMemory.regBatchLoop (described domain)
        (fun index => (alloc index).outcome) records db) := by
  induction records generalizing alloc heap db rows with
  | nil => exact mirrors.refused _ _ _
  | cons record rest ih =>
      obtain ⟨distinct, free⟩ := offered
      obtain ⟨first, second, disjoint⟩ := List.nodup_append'.mp distinct
      rw [List.length_cons] at room
      obtain ⟨next, entries, added, reached, grown, left⟩ :=
        regAdd_follows mirrors (alloc 0) (some record)
          (show (rows domain).length < fuel by omega)
          ⟨first, fun address member =>
            free address (List.mem_append_left _ member)⟩
      unfold regBatchLoop RegistryMemory.regBatchLoop
      simp only [added]
      by_cases succeeded : (RegistryMemory.regAdd (described domain)
          (alloc 0).outcome (some record) db).2 = .success
      · rw [if_pos succeeded, if_pos succeeded]
        have bounded := grown domain
        obtain ⟨last, final, ran, ends, growing, leaving⟩ :=
          ih (fun index => alloc (index + 1)) reached (by omega)
            ⟨second, fun address member =>
              left address (free address (List.mem_append_right _ member))
                fun taken => disjoint taken member⟩
        refine ⟨last, final, ran, ends, fun other => ?_,
          fun address unused absent => ?_⟩
        · have before := grown other
          have after := growing other
          rw [List.length_cons]
          omega
        · rw [batchOffers, List.mem_append, not_or] at absent
          exact leaving address (left address unused absent.1) absent.2
      · rw [if_neg succeeded, if_neg succeeded]
        refine ⟨next, entries, rfl, reached, fun other => ?_,
          fun address unused absent => ?_⟩
        · have before := grown other
          rw [List.length_cons]
          omega
        · rw [batchOffers, List.mem_append, not_or] at absent
          exact left address unused absent.1

theorem regBatch_follows (records : Option (List (RecordOf domain)))
    (alloc : Nat → HeapAlloc) (mirrors : Mirrors heap db rows loose)
    (room : (rows domain).length + (records.getD []).length ≤ fuel)
    (offered : Offered heap.arena (batchOffers alloc (records.getD []))) :
    Follows heap rows loose (records.getD []).length
      (batchOffers alloc (records.getD []))
      (regBatch fuel domain alloc records heap)
      (RegistryMemory.regBatch (described domain)
        (fun index => (alloc index).outcome) records db) := by
  unfold regBatch RegistryMemory.regBatch
  cases records with
  | none => exact mirrors.refused _ _ _
  | some records =>
      rw [← mirrors.ready]
      by_cases nothing : records = []
      · simp only [if_pos nothing]
        exact mirrors.refused _ _ _
      simp only [if_neg nothing]
      by_cases down : heap.initialized = false
      · simp only [if_pos down]
        exact mirrors.refused _ _ _
      simp only [if_neg down]
      exact regBatchLoop_follows records alloc mirrors room offered

end Calls

/-! ### Starts and ends -/

theorem mirrors_emptied (arena : Arena Object) (lost : Set Nat) (up : Bool)
    (laid : Laid arena (fun _ : RegistryDomain => none) (fun _ => []) lost) :
    Mirrors { clearedHeap with arena := arena, initialized := up }
      { RegistryMemory.clearedRegistry with initialized := up }
      (fun _ => []) lost where
  laid := laid
  records domain := by cases domain <;> rfl
  counted domain := by cases domain <;> rfl
  ready := rfl

theorem free_list {arena : Arena Object} {heads : RegistryDomain → Option Nat}
    {lists : RegistryDomain → List (Entry Object)} {fuel : Nat}
    (laid : Laid arena heads lists loose) (domain : RegistryDomain)
    (room : (lists domain).length < fuel) :
    freeNodeList fuel arena (heads domain) =
      some (without arena (footprint (lists domain))) :=
  freeNodeList_chained (laid.chained domain) (laid.distinct domain) room

theorem registryShutdown_mirrors (mirrors : Mirrors heap db rows loose)
    {fuel : Nat} (room : ∀ domain, (rows domain).length < fuel) :
    ∃ next, registryShutdown fuel heap = some next ∧
      Mirrors next (RegistryMemory.registryShutdown db) (fun _ => []) loose := by
  have short : ∀ domain, (shown domain (rows domain)).length < fuel := by
    intro domain
    unfold shown
    rw [List.length_map]
    exact room domain
  have agents := free_list mirrors.laid .agents (short .agents)
  have first := mirrors.laid.clear .agents
  have skills := free_list first .skills (short .skills)
  have second := first.clear .skills
  have sessions := free_list second .sessions (short .sessions)
  have third := second.clear .sessions
  have heads : Function.update (Function.update (Function.update heap.heads
      .agents none) .skills none) .sessions none = fun _ => none := by
    funext domain
    cases domain <;> rfl
  have lists : Function.update (Function.update (Function.update
      (fun domain => shown domain (rows domain)) .agents []) .skills [])
        .sessions [] = fun _ => [] := by
    funext domain
    cases domain <;> rfl
  rw [heads, lists] at third
  refine ⟨_, ?_, mirrors_emptied _ loose false third⟩
  unfold registryShutdown
  rw [agents]
  simp only
  rw [show freeNodeList fuel _ (heap.heads .skills) = _ from skills]
  simp only
  rw [show freeNodeList fuel _ (heap.heads .sessions) = _ from sessions]
  rfl

/-! ### Every call and every run -/

/-- A step does what it does to lists, and leaves blocks loose only where an
initialization overwrites the lists. -/
structure Kept (heap : HeapRegistry) (rows : HeapRows) (loose : Set Nat)
    (call : HeapCall) (next : HeapRegistry) (after : RegistryDb)
    (entries : HeapRows) (left : Set Nat) : Prop where
  mirrors : Mirrors next after entries left
  grown : ∀ domain,
    (entries domain).length ≤ (rows domain).length + call.records
  lost : left = ∅ ↔ loose = ∅ ∧ StartsEmpty heap call

theorem Follows.kept {call : HeapCall} {taken : List Nat}
    {result : Option (HeapRegistry × HeapstoreError)}
    {expected : RegistryDb × HeapstoreError}
    (follows : Follows heap rows loose call.records taken result expected)
    (quiet : StartsEmpty heap call) :
    (coded heap result).2 = .code expected.2 ∧ ∃ entries left,
      Kept heap rows loose call (coded heap result).1 expected.1 entries
        left := by
  obtain ⟨next, entries, rfl, mirrors, grown, _⟩ := follows
  exact ⟨rfl, entries, loose, mirrors, grown, (and_iff_left quiet).symm⟩

theorem step_kept (fuel : Nat) (mirrors : Mirrors heap db rows loose)
    (call : HeapCall)
    (room : ∀ domain, (rows domain).length + call.records < fuel)
    (fresh : Fresh heap call) :
    (heapStep fuel heap call).2 = (listStep db call).2 ∧ ∃ entries left,
      Kept heap rows loose call (heapStep fuel heap call).1
        (listStep db call).1 entries left := by
  have short : ∀ domain, (rows domain).length < fuel :=
    fun domain => Nat.lt_of_le_of_lt (Nat.le_add_right _ _) (room domain)
  cases call with
  | init =>
      refine ⟨rfl, fun _ => [], _, mirrors_emptied heap.arena _ true
        (laid_loose heap.arena), fun _ => Nat.zero_le _, ?_⟩
      exact mirrors.laid.nothing_live_iff
  | shutdown =>
      obtain ⟨next, down, emptied⟩ := registryShutdown_mirrors mirrors short
      simp only [heapStep, down]
      exact ⟨rfl, _, loose, emptied, fun _ => Nat.zero_le _,
        (and_iff_left trivial).symm⟩
  | add domain alloc record =>
      exact (regAdd_follows mirrors alloc record (short domain) fresh).kept
        trivial
  | get domain id out =>
      simp only [heapStep, regGet_answers mirrors id out (short domain)]
      exact ⟨rfl, rows, loose, mirrors, fun _ => Nat.le_refl _,
        (and_iff_left trivial).symm⟩
  | update domain record =>
      exact (regUpdate_follows mirrors record (short domain)).kept trivial
  | delete domain id =>
      exact (regDelete_follows mirrors id (short domain)).kept trivial
  | batchInsert domain alloc records =>
      exact (regBatch_follows records alloc mirrors (room domain).le
        fresh).kept trivial

theorem run_kept (fuel : Nat) (calls : List HeapCall)
    (mirrors : Mirrors heap db rows loose)
    (room : ∀ domain, (rows domain).length + offeredRecords calls < fuel)
    (fresh : Meets (heapStep fuel) Fresh heap calls) :
    answers (heapStep fuel) heap calls = answers listStep db calls ∧
      ∃ entries left,
        Mirrors (final (heapStep fuel) heap calls) (final listStep db calls)
          entries left ∧
        (left = ∅ ↔
          loose = ∅ ∧ Meets (heapStep fuel) StartsEmpty heap calls) := by
  induction calls generalizing heap db rows loose with
  | nil => exact ⟨rfl, rows, loose, mirrors, (and_iff_left trivial).symm⟩
  | cons call rest ih =>
      obtain ⟨here, later⟩ := fresh
      have split : offeredRecords (call :: rest) =
          call.records + offeredRecords rest := List.sum_cons
      rw [split] at room
      obtain ⟨same, entries, left, kept⟩ := step_kept fuel mirrors call
        (fun domain => by
          have bound := room domain
          omega) here
      obtain ⟨again, ends, remaining, reached, lost⟩ := ih kept.mirrors
        (fun domain => by
          have bound := room domain
          have grown := kept.grown domain
          omega) later
      refine ⟨?_, ends, remaining, reached, ?_⟩
      · rw [answers_cons, answers_cons, same, again]
      · rw [lost, kept.lost, and_assoc]
        rfl

end Steps

theorem mirrors_cleared :
    Mirrors clearedHeap RegistryMemory.clearedRegistry (fun _ => []) ∅ := by
  have laid : Laid clearedHeap.arena (fun _ : RegistryDomain => none)
      (fun _ => []) _ := laid_loose clearedHeap.arena
  rw [show {address | clearedHeap.arena address ≠ none} = (∅ : Set Nat) from
    Set.eq_empty_iff_forall_notMem.mpr fun _ live => live rfl] at laid
  exact mirrors_emptied clearedHeap.arena ∅ false laid

theorem listStep_defined (db : RegistryDb) (calls : List HeapCall) :
    HeapAnswer.undefined ∉ answers listStep db calls := by
  induction calls generalizing db with
  | nil => exact List.not_mem_nil
  | cons call rest ih =>
      rw [answers_cons, List.mem_cons, not_or]
      refine ⟨?_, ih _⟩
      cases call <;> intro impossible <;> cases impossible

/-- Where the allocator gives out free memory, no call of a run reads, writes or
frees what is not there, and every call answers as it does on lists.  What is
allocated in the end belongs to the stored records alone exactly if every
initialization found the lists empty. -/
theorem registry_owns_its_memory (fuel : Nat) (calls : List HeapCall)
    (room : offeredRecords calls < fuel)
    (fresh : Meets (heapStep fuel) Fresh clearedHeap calls) :
    let reached := final (heapStep fuel) clearedHeap calls
    let lists := final listStep RegistryMemory.clearedRegistry calls
    HeapAnswer.undefined ∉ answers (heapStep fuel) clearedHeap calls ∧
      answers (heapStep fuel) clearedHeap calls =
        answers listStep RegistryMemory.clearedRegistry calls ∧
      ∃ rows loose, Mirrors reached lists rows loose ∧
        (loose = ∅ ↔ Meets (heapStep fuel) StartsEmpty clearedHeap calls) := by
  intro reached lists
  obtain ⟨same, rows, loose, mirrors, lost⟩ := run_kept fuel calls
    mirrors_cleared (fun _ => by rwa [List.length_nil, Nat.zero_add]) fresh
  refine ⟨?_, same, rows, loose, mirrors, ?_⟩
  · rw [same]
    exact listStep_defined _ calls
  · rw [lost]
    exact and_iff_right rfl

/-- A deletion frees two blocks, and a session takes them the other way
around. -/
def reusingCalls : List HeapCall :=
  [.init, .add .agents ⟨some 1, some 2⟩ (some (agentNamed "a")),
    .add .agents ⟨some 3, some 4⟩ (some (agentNamed "b")),
    .delete .agents (some (ofString "a")),
    .add .sessions ⟨some 2, some 1⟩ (some (sessionNamed "s"))]

theorem registry_owns_its_memory_reused :
    ∃ rows loose,
      Mirrors (final (heapStep 4) clearedHeap reusingCalls)
        (final listStep RegistryMemory.clearedRegistry reusingCalls) rows
        loose ∧ loose = ∅ := by
  have fresh : Meets (heapStep 4) Fresh clearedHeap reusingCalls :=
    ⟨by decide, by decide, by decide, by decide, by decide, trivial⟩
  have starts : Meets (heapStep 4) StartsEmpty clearedHeap reusingCalls :=
    ⟨fun _ => rfl, trivial, trivial, trivial, trivial, trivial⟩
  obtain ⟨_, _, rows, loose, mirrors, exact_⟩ :=
    registry_owns_its_memory 4 reusingCalls (by decide) fresh
  exact ⟨rows, loose, mirrors, exact_.mpr starts⟩

end Heapstore.RegistryHeap
