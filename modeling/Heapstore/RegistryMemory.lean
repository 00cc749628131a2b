/-
The in-memory registry backend.

Three singly linked lists, one for each record domain, are driven through a
shared descriptor.  A list is given head first, and a node is its record.  The
descriptor names the list, the counter and the id field of its domain, so that
the add, get, update, delete and batch bodies exist once.

The allocator is an argument: every allocation of a call may fail.
-/

import Heapstore.Foundation.KeyedList
import Heapstore.Types

namespace Heapstore.RegistryMemory

open ByteText

structure RegistryDb where
  agents : List AgentRecord
  skills : List SkillRecord
  sessions : List SessionRecord
  agentCount : Nat
  skillCount : Nat
  sessionCount : Nat
  initialized : Bool
  deriving DecidableEq

/-- `reg_domain_t`: the list and counter a domain reads and writes, and the id
of its records.  The laws say that the pointers of one descriptor address one
domain and nothing else. -/
structure RegDomain (Record : Type) where
  head : RegistryDb → List Record
  count : RegistryDb → Nat
  assign : RegistryDb → List Record → Nat → RegistryDb
  recId : Record → Bytes
  head_assign : ∀ db items newCount, head (assign db items newCount) = items
  count_assign : ∀ db items newCount,
    count (assign db items newCount) = newCount
  initialized_assign : ∀ db items newCount,
    (assign db items newCount).initialized = db.initialized
  assign_assign : ∀ db items newCount otherItems otherCount,
    assign (assign db items newCount) otherItems otherCount =
      assign db otherItems otherCount
  assign_self : ∀ db, assign db (head db) (count db) = db

attribute [simp] RegDomain.head_assign RegDomain.count_assign
  RegDomain.initialized_assign RegDomain.assign_assign
  RegDomain.assign_self

def agentDomain : RegDomain AgentRecord where
  head := RegistryDb.agents
  count := RegistryDb.agentCount
  assign db items count := { db with agents := items, agentCount := count }
  recId record := record.id.text
  head_assign _ _ _ := rfl
  count_assign _ _ _ := rfl
  initialized_assign _ _ _ := rfl
  assign_assign _ _ _ _ _ := rfl
  assign_self _ := rfl

def skillDomain : RegDomain SkillRecord where
  head := RegistryDb.skills
  count := RegistryDb.skillCount
  assign db items count := { db with skills := items, skillCount := count }
  recId record := record.id.text
  head_assign _ _ _ := rfl
  count_assign _ _ _ := rfl
  initialized_assign _ _ _ := rfl
  assign_assign _ _ _ _ _ := rfl
  assign_self _ := rfl

def sessionDomain : RegDomain SessionRecord where
  head := RegistryDb.sessions
  count := RegistryDb.sessionCount
  assign db items count := { db with sessions := items, sessionCount := count }
  recId record := record.id.text
  head_assign _ _ _ := rfl
  count_assign _ _ _ := rfl
  initialized_assign _ _ _ := rfl
  assign_assign _ _ _ _ _ := rfl
  assign_self _ := rfl

structure AddAlloc where
  node : Bool
  data : Bool
  deriving DecidableEq

def AddAlloc.ok : AddAlloc := { node := true, data := true }

variable {Record : Type}

def findNodeById (d : RegDomain Record) (head : List Record) (id : Bytes) :
    Option Record :=
  KeyedList.lookup d.recId head id

/-- `reg_add`: a null record is `none`. -/
def regAdd (d : RegDomain Record) (alloc : AddAlloc)
    (record : Option Record) (db : RegistryDb) :
    RegistryDb × HeapstoreError :=
  match record with
  | none => (db, .errInvalidParam)
  | some record =>
      if d.recId record = [] then (db, .errInvalidParam)
      else if db.initialized = false then (db, .errNotInitialized)
      else if (findNodeById d (d.head db) (d.recId record)).isSome then
        (db, .errAlreadyInitialized)
      else if alloc.node = false then (db, .errOutOfMemory)
      else if alloc.data = false then (db, .errOutOfMemory)
      else (d.assign db (record :: d.head db) (d.count db + 1), .success)

/-- `reg_get`: the copied record accompanies the code on success. -/
def regGet (d : RegDomain Record) (id : Option Bytes) (out : Bool)
    (db : RegistryDb) : HeapstoreError × Option Record :=
  match id with
  | none => (.errInvalidParam, none)
  | some id =>
      if out = false then (.errInvalidParam, none)
      else if db.initialized = false then (.errNotInitialized, none)
      else
        match findNodeById d (d.head db) id with
        | none => (.errNotFound, none)
        | some record => (.success, some record)

def regUpdate (d : RegDomain Record) (record : Option Record)
    (db : RegistryDb) : RegistryDb × HeapstoreError :=
  match record with
  | none => (db, .errInvalidParam)
  | some record =>
      if d.recId record = [] then (db, .errInvalidParam)
      else if db.initialized = false then (db, .errNotInitialized)
      else
        match findNodeById d (d.head db) (d.recId record) with
        | none => (db, .errNotFound)
        | some _ =>
            (d.assign db (KeyedList.replaceFirst d.recId record (d.head db))
              (d.count db), .success)

/-- The pointer walk of `reg_delete`: the list without its first node carrying
the id, or nothing when the walk reaches the end. -/
def unlinkNode (d : RegDomain Record) (id : Bytes) :
    List Record → Option (List Record)
  | [] => none
  | node :: rest =>
      if d.recId node = id then some rest
      else (unlinkNode d id rest).map (node :: ·)

def regDelete (d : RegDomain Record) (id : Option Bytes)
    (db : RegistryDb) : RegistryDb × HeapstoreError :=
  match id with
  | none => (db, .errInvalidParam)
  | some id =>
      if db.initialized = false then (db, .errNotInitialized)
      else
        match unlinkNode d id (d.head db) with
        | none => (db, .errNotFound)
        | some rest => (d.assign db rest (d.count db - 1), .success)

/-- The loop of `reg_batch`: the first failing add ends it. -/
def regBatchLoop (d : RegDomain Record) :
    (Nat → AddAlloc) → List Record → RegistryDb →
      RegistryDb × HeapstoreError
  | _, [], db => (db, .success)
  | alloc, record :: rest, db =>
      let added := regAdd d (alloc 0) (some record) db
      if added.2 = .success then
        regBatchLoop d (fun index => alloc (index + 1)) rest added.1
      else added

def regBatch (d : RegDomain Record) (alloc : Nat → AddAlloc)
    (records : Option (List Record)) (db : RegistryDb) :
    RegistryDb × HeapstoreError :=
  match records with
  | none => (db, .errInvalidParam)
  | some records =>
      if records = [] then (db, .errInvalidParam)
      else if db.initialized = false then (db, .errNotInitialized)
      else regBatchLoop d alloc records db

/-! ### The registry interface of this backend -/

def clearedRegistry : RegistryDb where
  agents := []
  skills := []
  sessions := []
  agentCount := 0
  skillCount := 0
  sessionCount := 0
  initialized := false

def registryInit (_db : RegistryDb) : RegistryDb × HeapstoreError :=
  ({ clearedRegistry with initialized := true }, .success)

def registryShutdown (_db : RegistryDb) : RegistryDb :=
  clearedRegistry

def registryAddAgent := regAdd agentDomain
def registryGetAgent := regGet agentDomain
def registryUpdateAgent := regUpdate agentDomain
def registryDeleteAgent := regDelete agentDomain
def registryAddSkill := regAdd skillDomain
def registryGetSkill := regGet skillDomain
def registryDeleteSkill := regDelete skillDomain
def registryAddSession := regAdd sessionDomain
def registryGetSession := regGet sessionDomain
def registryUpdateSession := regUpdate sessionDomain
def registryDeleteSession := regDelete sessionDomain
def registryBatchInsertAgents := regBatch agentDomain
def registryBatchInsertSkills := regBatch skillDomain
def hsBatchInsertSessions := regBatch sessionDomain

/-! ### What one operation can do -/

theorem unlinkNode_eq (d : RegDomain Record) (id : Bytes)
    (items : List Record) :
    unlinkNode d id items =
      if findNodeById d items id = none then none
      else some (KeyedList.removeFirst d.recId id items) := by
  induction items with
  | nil => rfl
  | cons node rest ih =>
      unfold findNodeById at ih ⊢
      by_cases same : d.recId node = id
      · rw [unlinkNode, if_pos same, KeyedList.lookup_cons, if_pos same,
          if_neg (Option.some_ne_none node), KeyedList.removeFirst,
          if_pos same]
      · rw [unlinkNode, if_neg same, ih, KeyedList.lookup_cons, if_neg same,
          KeyedList.removeFirst, if_neg same]
        split <;> rfl

/-- The checks before the insertion of `reg_add`, as one condition. -/
def Admits (d : RegDomain Record) (alloc : AddAlloc) (db : RegistryDb)
    (record : Record) : Prop :=
  d.recId record ≠ [] ∧
    findNodeById d (d.head db) (d.recId record) = none ∧ alloc = .ok

theorem regAdd_of_admits {d : RegDomain Record} {alloc : AddAlloc}
    {db : RegistryDb} {record : Record} (ready : db.initialized = true)
    (admitted : Admits d alloc db record) :
    regAdd d alloc (some record) db =
      (d.assign db (record :: d.head db) (d.count db + 1), .success) := by
  obtain ⟨named, absent, rfl⟩ := admitted
  simp [regAdd, named, ready, absent, AddAlloc.ok]

theorem admits_of_regAdd {d : RegDomain Record} {alloc : AddAlloc}
    {db : RegistryDb} {record : Record}
    (succeeded : (regAdd d alloc (some record) db).2 = .success) :
    Admits d alloc db record := by
  by_cases unnamed : d.recId record = []
  · simp [regAdd, unnamed] at succeeded
  · cases ready : db.initialized with
    | false => simp [regAdd, unnamed, ready] at succeeded
    | true =>
        cases stored : findNodeById d (d.head db) (d.recId record) with
        | some other => simp [regAdd, unnamed, ready, stored] at succeeded
        | none =>
            refine ⟨unnamed, stored, ?_⟩
            rcases alloc with ⟨_ | _, _ | _⟩
            case true.true => rfl
            all_goals simp [regAdd, unnamed, ready, stored] at succeeded

/-- A step on one domain writes through that domain's descriptor or not at all. -/
def Assigns (d : RegDomain Record) (before after : RegistryDb) : Prop :=
  after = before ∨ ∃ items count, after = d.assign before items count

theorem Assigns.refl (d : RegDomain Record) (db : RegistryDb) :
    Assigns d db db := Or.inl rfl

theorem Assigns.initialized {d : RegDomain Record} {before after : RegistryDb}
    (assigns : Assigns d before after) :
    after.initialized = before.initialized := by
  rcases assigns with unchanged | ⟨items, newCount, changed⟩
  · rw [unchanged]
  · rw [changed, d.initialized_assign]

def Untouched (d : RegDomain Record) (before after : RegistryDb) : Prop :=
  d.head after = d.head before ∧ d.count after = d.count before

theorem Assigns.untouched {Other : Type} {d : RegDomain Record}
    {other : RegDomain Other} {before after : RegistryDb}
    (assigns : Assigns d before after)
    (apart : ∀ db items newCount,
      Untouched other db (d.assign db items newCount)) :
    Untouched other before after := by
  rcases assigns with unchanged | ⟨items, newCount, changed⟩
  · rw [unchanged]
    exact ⟨rfl, rfl⟩
  · rw [changed]
    exact apart before items newCount

theorem Assigns.trans {d : RegDomain Record}
    {first second third : RegistryDb} (earlier : Assigns d first second)
    (later : Assigns d second third) : Assigns d first third := by
  rcases later with unchanged | ⟨items, newCount, changed⟩
  · rwa [unchanged]
  · rcases earlier with unchanged | ⟨oldItems, oldCount, assigned⟩
    · exact Or.inr ⟨items, newCount, by rw [changed, unchanged]⟩
    · refine Or.inr ⟨items, newCount, ?_⟩
      rw [changed, assigned, d.assign_assign]

/-- A single-record operation either fails and changes nothing, or succeeds
and writes through its descriptor. -/
def SingleOutcome (d : RegDomain Record) (before : RegistryDb)
    (result : RegistryDb × HeapstoreError) : Prop :=
  (result.1 = before ∧ result.2 ≠ .success) ∨
    (result.2 = .success ∧
      ∃ items newCount, result.1 = d.assign before items newCount)

theorem SingleOutcome.rejected {d : RegDomain Record} {db : RegistryDb}
    {error : HeapstoreError} (failed : error ≠ .success) :
    SingleOutcome d db (db, error) := Or.inl ⟨rfl, failed⟩

theorem SingleOutcome.assigned {d : RegDomain Record} {db : RegistryDb}
    (items : List Record) (newCount : Nat) :
    SingleOutcome d db (d.assign db items newCount, .success) :=
  Or.inr ⟨rfl, items, newCount, rfl⟩

theorem SingleOutcome.assigns {d : RegDomain Record} {db : RegistryDb}
    {result : RegistryDb × HeapstoreError}
    (outcome : SingleOutcome d db result) : Assigns d db result.1 := by
  rcases outcome with ⟨unchanged, _⟩ | ⟨_, changed⟩
  · exact Or.inl unchanged
  · exact Or.inr changed

theorem SingleOutcome.unchanged {d : RegDomain Record} {db : RegistryDb}
    {result : RegistryDb × HeapstoreError}
    (outcome : SingleOutcome d db result) (failed : result.2 ≠ .success) :
    result.1 = db := by
  rcases outcome with ⟨unchanged, _⟩ | ⟨succeeded, _⟩
  · exact unchanged
  · exact absurd succeeded failed

theorem regAdd_outcome (d : RegDomain Record) (alloc : AddAlloc)
    (record : Option Record) (db : RegistryDb) :
    SingleOutcome d db (regAdd d alloc record db) := by
  cases record with
  | none => exact .rejected nofun
  | some record =>
      unfold regAdd
      iterate 5
        refine iteInduction (fun _ => .rejected nofun) (fun _ => ?_)
      exact .assigned _ _

theorem regUpdate_outcome (d : RegDomain Record) (record : Option Record)
    (db : RegistryDb) : SingleOutcome d db (regUpdate d record db) := by
  cases record with
  | none => exact .rejected nofun
  | some record =>
      unfold regUpdate
      iterate 2
        refine iteInduction (fun _ => .rejected nofun) (fun _ => ?_)
      cases findNodeById d (d.head db) (d.recId record) with
      | none => exact .rejected nofun
      | some _ => exact .assigned _ _

theorem regDelete_outcome (d : RegDomain Record) (id : Option Bytes)
    (db : RegistryDb) : SingleOutcome d db (regDelete d id db) := by
  cases id with
  | none => exact .rejected nofun
  | some id =>
      unfold regDelete
      refine iteInduction (fun _ => .rejected nofun) (fun _ => ?_)
      cases unlinkNode d id (d.head db) with
      | none => exact .rejected nofun
      | some rest => exact .assigned _ _

theorem regBatchLoop_assigns (d : RegDomain Record) (alloc : Nat → AddAlloc)
    (records : List Record) (db : RegistryDb) :
    Assigns d db (regBatchLoop d alloc records db).1 := by
  induction records generalizing alloc db with
  | nil => exact Assigns.refl d db
  | cons record rest ih =>
      have added := (regAdd_outcome d (alloc 0) (some record) db).assigns
      simp only [regBatchLoop]
      split
      · exact added.trans (ih _ _)
      · exact added

theorem regBatch_assigns (d : RegDomain Record) (alloc : Nat → AddAlloc)
    (records : Option (List Record)) (db : RegistryDb) :
    Assigns d db (regBatch d alloc records db).1 := by
  cases records with
  | none => exact Assigns.refl d db
  | some records =>
      simp only [regBatch]
      split
      · exact Assigns.refl d db
      · split
        · exact Assigns.refl d db
        · exact regBatchLoop_assigns d alloc records db

end Heapstore.RegistryMemory
