/-
The in-memory registry as three finite maps from id to record.

The maps state what the registry is for; they know nothing of lists, counters
or descriptors.  Each list operation is related to one map operation, and runs
of calls follow by the refinement rule.
-/

import Heapstore.Foundation.OperationRun
import Heapstore.RegistryMemory

namespace Heapstore.RegistryMemory

open ByteText OperationRun

/-! ### The abstract registry -/

abbrev RecordMap (Record : Type) := Bytes → Option Record

section MapOperations

variable {Record : Type} (recId : Record → Bytes)

def mapAdd (alloc : AddAlloc) (record : Option Record)
    (map : RecordMap Record) : RecordMap Record × HeapstoreError :=
  match record with
  | none => (map, .errInvalidParam)
  | some record =>
      if recId record = [] then (map, .errInvalidParam)
      else if map (recId record) ≠ none then (map, .errAlreadyInitialized)
      else if alloc = .ok then
        (Function.update map (recId record) (some record), .success)
      else (map, .errOutOfMemory)

def mapGet (id : Option Bytes) (out : Bool) (map : RecordMap Record) :
    HeapstoreError × Option Record :=
  match id with
  | none => (.errInvalidParam, none)
  | some id =>
      if out = false then (.errInvalidParam, none)
      else if map id = none then (.errNotFound, none)
      else (.success, map id)

def mapUpdate (record : Option Record) (map : RecordMap Record) :
    RecordMap Record × HeapstoreError :=
  match record with
  | none => (map, .errInvalidParam)
  | some record =>
      if recId record = [] then (map, .errInvalidParam)
      else if map (recId record) = none then (map, .errNotFound)
      else (Function.update map (recId record) (some record), .success)

def mapDelete (id : Option Bytes) (map : RecordMap Record) :
    RecordMap Record × HeapstoreError :=
  match id with
  | none => (map, .errInvalidParam)
  | some id =>
      if map id = none then (map, .errNotFound)
      else (Function.update map id none, .success)

def mapAddEach :
    (Nat → AddAlloc) → List Record → RecordMap Record →
      RecordMap Record × HeapstoreError
  | _, [], map => (map, .success)
  | alloc, record :: rest, map =>
      let added := mapAdd recId (alloc 0) (some record) map
      if added.2 = .success then
        mapAddEach (fun index => alloc (index + 1)) rest added.1
      else added

def mapBatch (alloc : Nat → AddAlloc) (records : Option (List Record))
    (map : RecordMap Record) : RecordMap Record × HeapstoreError :=
  match records with
  | none => (map, .errInvalidParam)
  | some [] => (map, .errInvalidParam)
  | some (record :: rest) => mapAddEach recId alloc (record :: rest) map

end MapOperations

/-! ### One operation of a domain -/

/-- The list of a domain is an indexed representation of a map. -/
structure Represents {Record : Type} (d : RegDomain Record) (db : RegistryDb)
    (map : RecordMap Record) : Prop where
  distinct : KeyedList.Distinct d.recId (d.head db)
  named : ∀ record ∈ d.head db, d.recId record ≠ []
  counted : d.count db = (d.head db).length
  entries : KeyedList.lookup d.recId (d.head db) = map

section DomainOperations

variable {Record : Type} {d : RegDomain Record} {db : RegistryDb}
  {map : RecordMap Record}

theorem Represents.find (same : Represents d db map) (id : Bytes) :
    findNodeById d (d.head db) id = map id :=
  congrFun same.entries id

private theorem represents_push (same : Represents d db map) (record : Record)
    (named : d.recId record ≠ []) (absent : map (d.recId record) = none) :
    Represents d (d.assign db (record :: d.head db) (d.count db + 1))
      (Function.update map (d.recId record) (some record)) := by
  have missing : KeyedList.lookup d.recId (d.head db) (d.recId record) = none :=
    (same.find _).trans absent
  constructor
  · rw [d.head_assign]
    exact KeyedList.distinct_push d.recId record _ same.distinct missing
  · rw [d.head_assign]
    intro other member
    rcases List.mem_cons.mp member with rfl | later
    · exact named
    · exact same.named other later
  · rw [d.head_assign, d.count_assign, List.length_cons, same.counted]
  · rw [d.head_assign, KeyedList.lookup_push, same.entries]

theorem regAdd_refines (ready : db.initialized = true)
    (same : Represents d db map) (alloc : AddAlloc) (record : Option Record) :
    Represents d (regAdd d alloc record db).1
        (mapAdd d.recId alloc record map).1 ∧
      (regAdd d alloc record db).2 = (mapAdd d.recId alloc record map).2 := by
  cases record with
  | none => exact ⟨same, rfl⟩
  | some record =>
      by_cases unnamed : d.recId record = []
      · simp only [regAdd, mapAdd, if_pos unnamed]
        exact ⟨same, trivial⟩
      · cases stored : map (d.recId record) with
        | some other =>
            simp only [regAdd, mapAdd, if_neg unnamed, ready, same.find, stored]
            exact ⟨same, rfl⟩
        | none =>
            have pushed := represents_push same record unnamed stored
            rcases alloc with ⟨_ | _, _ | _⟩
            all_goals
              simp [regAdd, mapAdd, unnamed, ready, same.find, stored,
                AddAlloc.ok, same, pushed]

theorem regGet_refines (ready : db.initialized = true)
    (same : Represents d db map) (id : Option Bytes) (out : Bool) :
    regGet d id out db = mapGet id out map := by
  cases id with
  | none => rfl
  | some id =>
      cases out with
      | false => rfl
      | true =>
          cases stored : map id <;>
            simp [regGet, mapGet, ready, same.find, stored]

theorem regUpdate_refines (ready : db.initialized = true)
    (same : Represents d db map) (record : Option Record) :
    Represents d (regUpdate d record db).1 (mapUpdate d.recId record map).1 ∧
      (regUpdate d record db).2 = (mapUpdate d.recId record map).2 := by
  cases record with
  | none => exact ⟨same, rfl⟩
  | some record =>
      by_cases unnamed : d.recId record = []
      · simp only [regUpdate, mapUpdate, if_pos unnamed]
        exact ⟨same, trivial⟩
      · cases stored : map (d.recId record) with
        | none => simp [regUpdate, mapUpdate, unnamed, ready, same.find, stored, same]
        | some other =>
            simp only [regUpdate, mapUpdate, if_neg unnamed, ready, same.find,
              stored]
            refine ⟨⟨?_, ?_, ?_, ?_⟩, rfl⟩
            · simp only [Bool.true_eq_false, if_false, d.head_assign]
              exact KeyedList.distinct_replaceFirst d.recId record _ same.distinct
            · simp only [Bool.true_eq_false, if_false, d.head_assign]
              intro member present
              -- Overwriting a node keeps the ids of the list.
              have carried : d.recId member ∈
                  (KeyedList.replaceFirst d.recId record (d.head db)).map
                    d.recId := List.mem_map_of_mem present
              rw [KeyedList.map_key_replaceFirst] at carried
              obtain ⟨old, oldMember, sameId⟩ := List.mem_map.mp carried
              rw [← sameId]
              exact same.named old oldMember
            · simp only [Bool.true_eq_false, if_false, d.head_assign,
                d.count_assign, KeyedList.length_replaceFirst, same.counted]
            · have present :
                  KeyedList.lookup d.recId (d.head db) (d.recId record) ≠ none := by
                rw [same.entries, stored]
                exact Option.some_ne_none other
              simp only [Bool.true_eq_false, if_false, d.head_assign,
                KeyedList.lookup_replaceFirst d.recId record _ present,
                same.entries, Option.some_ne_none]

theorem regDelete_refines (ready : db.initialized = true)
    (same : Represents d db map) (id : Option Bytes) :
    Represents d (regDelete d id db).1 (mapDelete id map).1 ∧
      (regDelete d id db).2 = (mapDelete id map).2 := by
  cases id with
  | none => exact ⟨same, rfl⟩
  | some id =>
      cases stored : map id with
      | none =>
          simp [regDelete, mapDelete, ready, unlinkNode_eq, same.find, stored,
            same]
      | some other =>
          have present : KeyedList.lookup d.recId (d.head db) id ≠ none := by
            rw [same.entries, stored]
            exact Option.some_ne_none other
          have unlinked : unlinkNode d id (d.head db) =
              some (KeyedList.removeFirst d.recId id (d.head db)) := by
            rw [unlinkNode_eq, same.find, stored,
              if_neg (Option.some_ne_none other)]
          simp only [regDelete, mapDelete, ready, unlinked, stored]
          refine ⟨⟨?_, ?_, ?_, ?_⟩, rfl⟩
          · simp only [Bool.true_eq_false, if_false, d.head_assign]
            exact KeyedList.distinct_removeFirst d.recId id _ same.distinct
          · simp only [Bool.true_eq_false, if_false, d.head_assign]
            intro record member
            exact same.named record
              ((KeyedList.removeFirst_sublist d.recId id _).subset member)
          · have shorter := KeyedList.length_removeFirst d.recId id _ present
            simp only [Bool.true_eq_false, if_false, d.head_assign,
              d.count_assign, same.counted]
            omega
          · simp only [Bool.true_eq_false, if_false, d.head_assign,
              KeyedList.lookup_removeFirst d.recId id _ same.distinct,
              same.entries, Option.some_ne_none]

theorem regBatchLoop_refines (records : List Record) (alloc : Nat → AddAlloc)
    (ready : db.initialized = true) (same : Represents d db map) :
    Represents d (regBatchLoop d alloc records db).1
        (mapAddEach d.recId alloc records map).1 ∧
      (regBatchLoop d alloc records db).2 =
        (mapAddEach d.recId alloc records map).2 := by
  induction records generalizing alloc db map with
  | nil => exact ⟨same, rfl⟩
  | cons record rest ih =>
      obtain ⟨added, code⟩ := regAdd_refines ready same (alloc 0) (some record)
      by_cases accepted : (regAdd d (alloc 0) (some record) db).2 = .success
      · have stillReady :=
          (regAdd_outcome d (alloc 0) (some record) db).assigns.initialized.trans ready
        simp only [regBatchLoop, mapAddEach, accepted, ← code, if_true]
        exact ih (fun index => alloc (index + 1)) stillReady added
      · simp only [regBatchLoop, mapAddEach, accepted, ← code, if_false]
        exact ⟨added, trivial⟩

theorem regBatch_refines (ready : db.initialized = true)
    (same : Represents d db map) (alloc : Nat → AddAlloc)
    (records : Option (List Record)) :
    Represents d (regBatch d alloc records db).1
        (mapBatch d.recId alloc records map).1 ∧
      (regBatch d alloc records db).2 =
        (mapBatch d.recId alloc records map).2 := by
  rcases records with _ | _ | ⟨record, rest⟩
  · exact ⟨same, rfl⟩
  · exact ⟨same, rfl⟩
  · have loop := regBatchLoop_refines (record :: rest) alloc ready same
    simpa only [regBatch, mapBatch, reduceCtorEq, if_false, ready,
      Bool.true_eq_false] using loop

end DomainOperations

/-! ### Runs of registry calls -/

/-- The calls of the registry interface, each with its arguments and with the
outcomes of the allocations it makes. -/
inductive RegistryCall where
  | addAgent (alloc : AddAlloc) (record : Option AgentRecord)
  | getAgent (id : Option Bytes) (out : Bool)
  | updateAgent (record : Option AgentRecord)
  | deleteAgent (id : Option Bytes)
  | batchInsertAgents (alloc : Nat → AddAlloc)
      (records : Option (List AgentRecord))
  | addSkill (alloc : AddAlloc) (record : Option SkillRecord)
  | getSkill (id : Option Bytes) (out : Bool)
  | deleteSkill (id : Option Bytes)
  | batchInsertSkills (alloc : Nat → AddAlloc)
      (records : Option (List SkillRecord))
  | addSession (alloc : AddAlloc) (record : Option SessionRecord)
  | getSession (id : Option Bytes) (out : Bool)
  | updateSession (record : Option SessionRecord)
  | deleteSession (id : Option Bytes)
  | batchInsertSessions (alloc : Nat → AddAlloc)
      (records : Option (List SessionRecord))

inductive RegistryAnswer where
  | code (error : HeapstoreError)
  | agent (result : HeapstoreError × Option AgentRecord)
  | skill (result : HeapstoreError × Option SkillRecord)
  | session (result : HeapstoreError × Option SessionRecord)
  deriving DecidableEq

def RegistryAnswer.error : RegistryAnswer → HeapstoreError
  | .code error => error
  | .agent result => result.1
  | .skill result => result.1
  | .session result => result.1

private def withCode {State : Type} (result : State × HeapstoreError) :
    State × RegistryAnswer :=
  (result.1, .code result.2)

def registryStep (db : RegistryDb) :
    RegistryCall → RegistryDb × RegistryAnswer
  | .addAgent alloc record => withCode (registryAddAgent alloc record db)
  | .getAgent id out => (db, .agent (registryGetAgent id out db))
  | .updateAgent record => withCode (registryUpdateAgent record db)
  | .deleteAgent id => withCode (registryDeleteAgent id db)
  | .batchInsertAgents alloc records =>
      withCode (registryBatchInsertAgents alloc records db)
  | .addSkill alloc record => withCode (registryAddSkill alloc record db)
  | .getSkill id out => (db, .skill (registryGetSkill id out db))
  | .deleteSkill id => withCode (registryDeleteSkill id db)
  | .batchInsertSkills alloc records =>
      withCode (registryBatchInsertSkills alloc records db)
  | .addSession alloc record => withCode (registryAddSession alloc record db)
  | .getSession id out => (db, .session (registryGetSession id out db))
  | .updateSession record => withCode (registryUpdateSession record db)
  | .deleteSession id => withCode (registryDeleteSession id db)
  | .batchInsertSessions alloc records =>
      withCode (hsBatchInsertSessions alloc records db)

structure RegistryMaps where
  agents : RecordMap AgentRecord
  skills : RecordMap SkillRecord
  sessions : RecordMap SessionRecord

def emptyMaps : RegistryMaps where
  agents := fun _ => none
  skills := fun _ => none
  sessions := fun _ => none

def RegistryMaps.onAgents (maps : RegistryMaps)
    (result : RecordMap AgentRecord × HeapstoreError) :
    RegistryMaps × RegistryAnswer :=
  ({ maps with agents := result.1 }, .code result.2)

def RegistryMaps.onSkills (maps : RegistryMaps)
    (result : RecordMap SkillRecord × HeapstoreError) :
    RegistryMaps × RegistryAnswer :=
  ({ maps with skills := result.1 }, .code result.2)

def RegistryMaps.onSessions (maps : RegistryMaps)
    (result : RecordMap SessionRecord × HeapstoreError) :
    RegistryMaps × RegistryAnswer :=
  ({ maps with sessions := result.1 }, .code result.2)

def agentId (record : AgentRecord) : Bytes := record.id.text
def skillId (record : SkillRecord) : Bytes := record.id.text
def sessionId (record : SessionRecord) : Bytes := record.id.text

/-- What the three maps answer to a call. -/
def mapsStep (maps : RegistryMaps) :
    RegistryCall → RegistryMaps × RegistryAnswer
  | .addAgent alloc record =>
      maps.onAgents (mapAdd agentId alloc record maps.agents)
  | .getAgent id out => (maps, .agent (mapGet id out maps.agents))
  | .updateAgent record => maps.onAgents (mapUpdate agentId record maps.agents)
  | .deleteAgent id => maps.onAgents (mapDelete id maps.agents)
  | .batchInsertAgents alloc records =>
      maps.onAgents (mapBatch agentId alloc records maps.agents)
  | .addSkill alloc record =>
      maps.onSkills (mapAdd skillId alloc record maps.skills)
  | .getSkill id out => (maps, .skill (mapGet id out maps.skills))
  | .deleteSkill id => maps.onSkills (mapDelete id maps.skills)
  | .batchInsertSkills alloc records =>
      maps.onSkills (mapBatch skillId alloc records maps.skills)
  | .addSession alloc record =>
      maps.onSessions (mapAdd sessionId alloc record maps.sessions)
  | .getSession id out => (maps, .session (mapGet id out maps.sessions))
  | .updateSession record =>
      maps.onSessions (mapUpdate sessionId record maps.sessions)
  | .deleteSession id => maps.onSessions (mapDelete id maps.sessions)
  | .batchInsertSessions alloc records =>
      maps.onSessions (mapBatch sessionId alloc records maps.sessions)

structure Refines (db : RegistryDb) (maps : RegistryMaps) : Prop where
  ready : db.initialized = true
  agents : Represents agentDomain db maps.agents
  skills : Represents skillDomain db maps.skills
  sessions : Represents sessionDomain db maps.sessions

private theorem Represents.of_untouched {Record : Type} {d : RegDomain Record}
    {before after : RegistryDb} {map : RecordMap Record}
    (same : Represents d before map) (untouched : Untouched d before after) :
    Represents d after map := by
  obtain ⟨head, count⟩ := untouched
  constructor
  · rw [head]
    exact same.distinct
  · rw [head]
    exact same.named
  · rw [head, count]
    exact same.counted
  · rw [head]
    exact same.entries

section Steps

variable {db : RegistryDb} {maps : RegistryMaps}

private theorem refines_onAgents (same : Refines db maps)
    {result : RegistryDb × HeapstoreError}
    {expected : RecordMap AgentRecord × HeapstoreError}
    (frame : Assigns agentDomain db result.1)
    (step : Represents agentDomain result.1 expected.1 ∧
      result.2 = expected.2) :
    Refines (withCode result).1 (maps.onAgents expected).1 ∧
      (withCode result).2 = (maps.onAgents expected).2 :=
  ⟨{ ready := frame.initialized.trans same.ready
     agents := step.1
     skills := same.skills.of_untouched (frame.untouched fun _ _ _ => ⟨rfl, rfl⟩)
     sessions :=
       same.sessions.of_untouched (frame.untouched fun _ _ _ => ⟨rfl, rfl⟩) },
    congrArg RegistryAnswer.code step.2⟩

private theorem refines_onSkills (same : Refines db maps)
    {result : RegistryDb × HeapstoreError}
    {expected : RecordMap SkillRecord × HeapstoreError}
    (frame : Assigns skillDomain db result.1)
    (step : Represents skillDomain result.1 expected.1 ∧
      result.2 = expected.2) :
    Refines (withCode result).1 (maps.onSkills expected).1 ∧
      (withCode result).2 = (maps.onSkills expected).2 :=
  ⟨{ ready := frame.initialized.trans same.ready
     agents := same.agents.of_untouched (frame.untouched fun _ _ _ => ⟨rfl, rfl⟩)
     skills := step.1
     sessions :=
       same.sessions.of_untouched (frame.untouched fun _ _ _ => ⟨rfl, rfl⟩) },
    congrArg RegistryAnswer.code step.2⟩

private theorem refines_onSessions (same : Refines db maps)
    {result : RegistryDb × HeapstoreError}
    {expected : RecordMap SessionRecord × HeapstoreError}
    (frame : Assigns sessionDomain db result.1)
    (step : Represents sessionDomain result.1 expected.1 ∧
      result.2 = expected.2) :
    Refines (withCode result).1 (maps.onSessions expected).1 ∧
      (withCode result).2 = (maps.onSessions expected).2 :=
  ⟨{ ready := frame.initialized.trans same.ready
     agents := same.agents.of_untouched (frame.untouched fun _ _ _ => ⟨rfl, rfl⟩)
     skills := same.skills.of_untouched (frame.untouched fun _ _ _ => ⟨rfl, rfl⟩)
     sessions := step.1 },
    congrArg RegistryAnswer.code step.2⟩

/-- One call of the interface refines one step of the maps. -/
theorem registryStep_refines (same : Refines db maps) (call : RegistryCall) :
    Refines (registryStep db call).1 (mapsStep maps call).1 ∧
      (registryStep db call).2 = (mapsStep maps call).2 := by
  cases call with
  | addAgent alloc record =>
      exact refines_onAgents same (regAdd_outcome agentDomain alloc record db).assigns
        (regAdd_refines same.ready same.agents alloc record)
  | getAgent id out =>
      exact ⟨same, congrArg RegistryAnswer.agent
        (regGet_refines same.ready same.agents id out)⟩
  | updateAgent record =>
      exact refines_onAgents same (regUpdate_outcome agentDomain record db).assigns
        (regUpdate_refines same.ready same.agents record)
  | deleteAgent id =>
      exact refines_onAgents same (regDelete_outcome agentDomain id db).assigns
        (regDelete_refines same.ready same.agents id)
  | batchInsertAgents alloc records =>
      exact refines_onAgents same (regBatch_assigns agentDomain alloc records db)
        (regBatch_refines same.ready same.agents alloc records)
  | addSkill alloc record =>
      exact refines_onSkills same (regAdd_outcome skillDomain alloc record db).assigns
        (regAdd_refines same.ready same.skills alloc record)
  | getSkill id out =>
      exact ⟨same, congrArg RegistryAnswer.skill
        (regGet_refines same.ready same.skills id out)⟩
  | deleteSkill id =>
      exact refines_onSkills same (regDelete_outcome skillDomain id db).assigns
        (regDelete_refines same.ready same.skills id)
  | batchInsertSkills alloc records =>
      exact refines_onSkills same (regBatch_assigns skillDomain alloc records db)
        (regBatch_refines same.ready same.skills alloc records)
  | addSession alloc record =>
      exact refines_onSessions same
        (regAdd_outcome sessionDomain alloc record db).assigns
        (regAdd_refines same.ready same.sessions alloc record)
  | getSession id out =>
      exact ⟨same, congrArg RegistryAnswer.session
        (regGet_refines same.ready same.sessions id out)⟩
  | updateSession record =>
      exact refines_onSessions same (regUpdate_outcome sessionDomain record db).assigns
        (regUpdate_refines same.ready same.sessions record)
  | deleteSession id =>
      exact refines_onSessions same (regDelete_outcome sessionDomain id db).assigns
        (regDelete_refines same.ready same.sessions id)
  | batchInsertSessions alloc records =>
      exact refines_onSessions same
        (regBatch_assigns sessionDomain alloc records db)
        (regBatch_refines same.ready same.sessions alloc records)

end Steps

/-! ### What a call leaves alone -/

inductive RegistryDomain where
  | agents
  | skills
  | sessions
  deriving DecidableEq

def RegistryCall.domain : RegistryCall → RegistryDomain
  | .addAgent .. | .getAgent .. | .updateAgent .. | .deleteAgent ..
  | .batchInsertAgents .. => .agents
  | .addSkill .. | .getSkill .. | .deleteSkill ..
  | .batchInsertSkills .. => .skills
  | .addSession .. | .getSession .. | .updateSession .. | .deleteSession ..
  | .batchInsertSessions .. => .sessions

def RegistryCall.isBatch : RegistryCall → Bool
  | .batchInsertAgents .. | .batchInsertSkills ..
  | .batchInsertSessions .. => true
  | _ => false

structure OtherDomainsUntouched (call : RegistryCall)
    (before after : RegistryDb) : Prop where
  agents : call.domain ≠ .agents → Untouched agentDomain before after
  skills : call.domain ≠ .skills → Untouched skillDomain before after
  sessions : call.domain ≠ .sessions → Untouched sessionDomain before after

private theorem others_of_agents {call : RegistryCall}
    {before after : RegistryDb} (addressed : call.domain = .agents)
    (frame : Assigns agentDomain before after) :
    OtherDomainsUntouched call before after where
  agents other := absurd addressed other
  skills _ := frame.untouched fun _ _ _ => ⟨rfl, rfl⟩
  sessions _ := frame.untouched fun _ _ _ => ⟨rfl, rfl⟩

private theorem others_of_skills {call : RegistryCall}
    {before after : RegistryDb} (addressed : call.domain = .skills)
    (frame : Assigns skillDomain before after) :
    OtherDomainsUntouched call before after where
  agents _ := frame.untouched fun _ _ _ => ⟨rfl, rfl⟩
  skills other := absurd addressed other
  sessions _ := frame.untouched fun _ _ _ => ⟨rfl, rfl⟩

private theorem others_of_sessions {call : RegistryCall}
    {before after : RegistryDb} (addressed : call.domain = .sessions)
    (frame : Assigns sessionDomain before after) :
    OtherDomainsUntouched call before after where
  agents _ := frame.untouched fun _ _ _ => ⟨rfl, rfl⟩
  skills _ := frame.untouched fun _ _ _ => ⟨rfl, rfl⟩
  sessions other := absurd addressed other

theorem registryStep_others (db : RegistryDb) (call : RegistryCall) :
    OtherDomainsUntouched call db (registryStep db call).1 := by
  cases call with
  | addAgent alloc record =>
      exact others_of_agents rfl (regAdd_outcome agentDomain alloc record db).assigns
  | getAgent id out => exact others_of_agents rfl (Assigns.refl agentDomain db)
  | updateAgent record =>
      exact others_of_agents rfl (regUpdate_outcome agentDomain record db).assigns
  | deleteAgent id =>
      exact others_of_agents rfl (regDelete_outcome agentDomain id db).assigns
  | batchInsertAgents alloc records =>
      exact others_of_agents rfl (regBatch_assigns agentDomain alloc records db)
  | addSkill alloc record =>
      exact others_of_skills rfl (regAdd_outcome skillDomain alloc record db).assigns
  | getSkill id out => exact others_of_skills rfl (Assigns.refl skillDomain db)
  | deleteSkill id =>
      exact others_of_skills rfl (regDelete_outcome skillDomain id db).assigns
  | batchInsertSkills alloc records =>
      exact others_of_skills rfl (regBatch_assigns skillDomain alloc records db)
  | addSession alloc record =>
      exact others_of_sessions rfl
        (regAdd_outcome sessionDomain alloc record db).assigns
  | getSession id out =>
      exact others_of_sessions rfl (Assigns.refl sessionDomain db)
  | updateSession record =>
      exact others_of_sessions rfl (regUpdate_outcome sessionDomain record db).assigns
  | deleteSession id =>
      exact others_of_sessions rfl (regDelete_outcome sessionDomain id db).assigns
  | batchInsertSessions alloc records =>
      exact others_of_sessions rfl
        (regBatch_assigns sessionDomain alloc records db)

theorem registryStep_failed_single (db : RegistryDb) (call : RegistryCall)
    (single : call.isBatch = false)
    (failed : (registryStep db call).2.error ≠ .success) :
    (registryStep db call).1 = db := by
  cases call with
  | addAgent alloc record => exact (regAdd_outcome _ alloc record db).unchanged failed
  | getAgent id out => rfl
  | updateAgent record => exact (regUpdate_outcome _ record db).unchanged failed
  | deleteAgent id => exact (regDelete_outcome _ id db).unchanged failed
  | batchInsertAgents alloc records => cases single
  | addSkill alloc record => exact (regAdd_outcome _ alloc record db).unchanged failed
  | getSkill id out => rfl
  | deleteSkill id => exact (regDelete_outcome _ id db).unchanged failed
  | batchInsertSkills alloc records => cases single
  | addSession alloc record => exact (regAdd_outcome _ alloc record db).unchanged failed
  | getSession id out => rfl
  | updateSession record => exact (regUpdate_outcome _ record db).unchanged failed
  | deleteSession id => exact (regDelete_outcome _ id db).unchanged failed
  | batchInsertSessions alloc records => cases single

/-! ### The refinement of runs -/

theorem registryInit_refines (db : RegistryDb) :
    Refines (registryInit db).1 emptyMaps where
  ready := rfl
  agents := ⟨List.nodup_nil, nofun, rfl, rfl⟩
  skills := ⟨List.nodup_nil, nofun, rfl, rfl⟩
  sessions := ⟨List.nodup_nil, nofun, rfl, rfl⟩

theorem registry_run_refines (start : RegistryDb) (calls : List RegistryCall) :
    Refines (final registryStep (registryInit start).1 calls)
        (final mapsStep emptyMaps calls) ∧
      answers registryStep (registryInit start).1 calls =
        answers mapsStep emptyMaps calls :=
  refinement registryStep mapsStep Refines
    (fun _db _maps call same => registryStep_refines same call)
    (registryInit start).1 emptyMaps calls (registryInit_refines start)

/-- After initialization the registry answers every call of every run as three
maps would; its lists stay keyed and counted, a failed single-record call
changes nothing, and a call stays within its domain. -/
theorem registry_runs_as_maps (start : RegistryDb)
    (calls : List RegistryCall) :
    answers registryStep (registryInit start).1 calls =
        answers mapsStep emptyMaps calls ∧
      Refines (final registryStep (registryInit start).1 calls)
        (final mapsStep emptyMaps calls) ∧
      ∀ call : RegistryCall,
        let reached := final registryStep (registryInit start).1 calls
        OtherDomainsUntouched call reached (registryStep reached call).1 ∧
          (call.isBatch = false →
            (registryStep reached call).2.error ≠ .success →
              (registryStep reached call).1 = reached) := by
  obtain ⟨refines, same⟩ := registry_run_refines start calls
  refine ⟨same, refines, ?_⟩
  intro call reached
  exact ⟨registryStep_others reached call,
    registryStep_failed_single reached call⟩

end Heapstore.RegistryMemory
