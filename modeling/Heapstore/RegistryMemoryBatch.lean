/-
Batch insertion of the in-memory registry, against all-or-nothing.

The loop adds until the first failure and keeps what it added.  The condition
under which a batch is still all or nothing is stated on the array, the
registry and the allocator alone.
-/

import Heapstore.RegistryMemory

namespace Heapstore.RegistryMemory

open ByteText

section Loop

variable {Record : Type} {d : RegDomain Record}

/-- Every add of the array would succeed, each after the ones before it. -/
structure AllAdmitted (d : RegDomain Record) (alloc : Nat → AddAlloc)
    (records : List Record) (db : RegistryDb) : Prop where
  allocated : ∀ index, index < records.length → alloc index = .ok
  named : ∀ record ∈ records, d.recId record ≠ []
  absent : ∀ record ∈ records, findNodeById d (d.head db) (d.recId record) = none
  distinct : KeyedList.Distinct d.recId records

theorem allAdmitted_nil (alloc : Nat → AddAlloc) (db : RegistryDb) :
    AllAdmitted d alloc [] db where
  allocated _ impossible := absurd impossible (Nat.not_lt_zero _)
  named := nofun
  absent := nofun
  distinct := List.nodup_nil

def pushed (d : RegDomain Record) (db : RegistryDb) (record : Record) :
    RegistryDb :=
  d.assign db (record :: d.head db) (d.count db + 1)

private theorem find_pushed_none (db : RegistryDb) (record : Record)
    (id : Bytes) :
    findNodeById d (d.head (pushed d db record)) id = none ↔
      d.recId record ≠ id ∧ findNodeById d (d.head db) id = none := by
  unfold findNodeById pushed
  rw [d.head_assign, KeyedList.lookup_cons]
  by_cases same : d.recId record = id
  · simp [same]
  · simp [same]

theorem allAdmitted_cons (alloc : Nat → AddAlloc) (record : Record)
    (rest : List Record) (db : RegistryDb) :
    AllAdmitted d alloc (record :: rest) db ↔
      Admits d (alloc 0) db record ∧
        AllAdmitted d (fun index => alloc (index + 1)) rest
          (pushed d db record) := by
  constructor
  · intro all
    obtain ⟨fresh, distinct⟩ := List.nodup_cons.mp all.distinct
    refine ⟨⟨all.named record List.mem_cons_self,
      all.absent record List.mem_cons_self,
      all.allocated 0 (Nat.succ_pos _)⟩, ?_, ?_, ?_, distinct⟩
    · intro index inside
      exact all.allocated (index + 1) (Nat.succ_lt_succ inside)
    · intro other member
      exact all.named other (List.mem_cons_of_mem record member)
    · intro other member
      rw [find_pushed_none]
      refine ⟨?_, all.absent other (List.mem_cons_of_mem record member)⟩
      intro same
      exact fresh (List.mem_map.mpr ⟨other, member, same.symm⟩)
  · rintro ⟨⟨named, absent, allocated⟩, later⟩
    refine ⟨?_, ?_, ?_, List.nodup_cons.mpr ⟨?_, later.distinct⟩⟩
    · intro index inside
      cases index with
      | zero => exact allocated
      | succ index => exact later.allocated index (Nat.lt_of_succ_lt_succ inside)
    · intro other member
      rcases List.mem_cons.mp member with rfl | inRest
      · exact named
      · exact later.named other inRest
    · intro other member
      rcases List.mem_cons.mp member with rfl | inRest
      · exact absent
      · exact ((find_pushed_none db record _).mp (later.absent other inRest)).2
    · intro repeated
      obtain ⟨other, inRest, same⟩ := List.mem_map.mp repeated
      exact ((find_pushed_none db record _).mp (later.absent other inRest)).1
        same.symm

theorem pushed_initialized {db : RegistryDb} {record : Record}
    (ready : db.initialized = true) :
    (pushed d db record).initialized = true := by
  unfold pushed
  rw [d.initialized_assign, ready]

theorem regBatchLoop_cons_admitted {alloc : Nat → AddAlloc}
    {record : Record} {rest : List Record} {db : RegistryDb}
    (ready : db.initialized = true) (admitted : Admits d (alloc 0) db record) :
    regBatchLoop d alloc (record :: rest) db =
      regBatchLoop d (fun index => alloc (index + 1)) rest
        (pushed d db record) := by
  simp only [regBatchLoop]
  rw [regAdd_of_admits ready admitted, if_pos rfl]
  rfl

private theorem regBatchLoop_cons_rejected {alloc : Nat → AddAlloc}
    {record : Record} {rest : List Record} {db : RegistryDb}
    (rejected : ¬Admits d (alloc 0) db record) :
    (regBatchLoop d alloc (record :: rest) db).1 = db ∧
      (regBatchLoop d alloc (record :: rest) db).2 ≠ .success := by
  have failed : (regAdd d (alloc 0) (some record) db).2 ≠ .success :=
    fun succeeded => rejected (admits_of_regAdd succeeded)
  simp only [regBatchLoop]
  rw [if_neg failed]
  exact ⟨(regAdd_outcome d (alloc 0) (some record) db).unchanged failed, failed⟩

theorem regBatchLoop_of_allAdmitted {alloc : Nat → AddAlloc}
    {records : List Record} {db : RegistryDb} (ready : db.initialized = true)
    (all : AllAdmitted d alloc records db) :
    regBatchLoop d alloc records db =
      (d.assign db (records.reverse ++ d.head db)
        (d.count db + records.length), .success) := by
  induction records generalizing alloc db with
  | nil =>
      simp only [regBatchLoop, List.reverse_nil, List.nil_append,
        List.length_nil, Nat.add_zero, d.assign_self]
  | cons record rest ih =>
      obtain ⟨admitted, later⟩ := (allAdmitted_cons alloc record rest db).mp all
      rw [regBatchLoop_cons_admitted ready admitted,
        ih (pushed_initialized ready) later]
      unfold pushed
      rw [d.assign_assign, d.head_assign, d.count_assign, List.reverse_cons,
        List.append_assoc, List.length_cons]
      congr 2
      omega

theorem allAdmitted_of_regBatchLoop {alloc : Nat → AddAlloc}
    {records : List Record} {db : RegistryDb} (ready : db.initialized = true)
    (succeeded : (regBatchLoop d alloc records db).2 = .success) :
    AllAdmitted d alloc records db := by
  induction records generalizing alloc db with
  | nil => exact allAdmitted_nil alloc db
  | cons record rest ih =>
      by_cases admitted : Admits d (alloc 0) db record
      · rw [regBatchLoop_cons_admitted ready admitted] at succeeded
        exact (allAdmitted_cons alloc record rest db).mpr
          ⟨admitted, ih (pushed_initialized ready) succeeded⟩
      · exact absurd succeeded (regBatchLoop_cons_rejected admitted).2

/-- The loop never removes a record, so a partial insertion shows. -/
theorem length_head_regBatchLoop (d : RegDomain Record)
    (alloc : Nat → AddAlloc) (records : List Record) {db : RegistryDb}
    (ready : db.initialized = true) :
    (d.head db).length ≤
      (d.head (regBatchLoop d alloc records db).1).length := by
  induction records generalizing alloc db with
  | nil => exact Nat.le_refl _
  | cons record rest ih =>
      by_cases admitted : Admits d (alloc 0) db record
      · have stillReady : (pushed d db record).initialized = true :=
          pushed_initialized ready
        have later := ih (fun index => alloc (index + 1)) stillReady
        rw [regBatchLoop_cons_admitted ready admitted]
        unfold pushed at later ⊢
        rw [d.head_assign, List.length_cons] at later
        omega
      · rw [(regBatchLoop_cons_rejected admitted).1]

end Loop

/-! ### All or nothing -/

/-- Success with every record inserted, or an error with the registry as it was. -/
def AllOrNothing {Record : Type} (d : RegDomain Record)
    (records : Option (List Record)) (before : RegistryDb)
    (result : RegistryDb × HeapstoreError) : Prop :=
  (result.2 = .success ∧ ∃ items, records = some items ∧
      result.1 = d.assign before (items.reverse ++ d.head before)
        (d.count before + items.length)) ∨
    (result.2 ≠ .success ∧ result.1 = before)

/-- Nothing is attempted, the first add is rejected, or every add is admitted. -/
def BatchSafe {Record : Type} (d : RegDomain Record) (alloc : Nat → AddAlloc)
    (records : Option (List Record)) (db : RegistryDb) : Prop :=
  match records with
  | none => True
  | some [] => True
  | some (first :: rest) =>
      db.initialized = false ∨ ¬Admits d (alloc 0) db first ∨
        AllAdmitted d alloc (first :: rest) db

private theorem regBatch_of_ready {Record : Type} {d : RegDomain Record}
    {alloc : Nat → AddAlloc} {first : Record} {rest : List Record}
    {db : RegistryDb} (ready : db.initialized = true) :
    regBatch d alloc (some (first :: rest)) db =
      regBatchLoop d alloc (first :: rest) db := by
  simp [regBatch, ready]

theorem regBatch_allOrNothing_iff {Record : Type} (d : RegDomain Record)
    (alloc : Nat → AddAlloc) (records : Option (List Record))
    (db : RegistryDb) :
    AllOrNothing d records db (regBatch d alloc records db) ↔
      BatchSafe d alloc records db := by
  rcases records with _ | _ | ⟨first, rest⟩
  · exact ⟨fun _ => trivial, fun _ => Or.inr ⟨nofun, rfl⟩⟩
  · exact ⟨fun _ => trivial, fun _ => Or.inr ⟨nofun, rfl⟩⟩
  · cases ready : db.initialized with
    | false =>
        have refused : regBatch d alloc (some (first :: rest)) db =
            (db, .errNotInitialized) := by
          simp [regBatch, ready]
        have failed : HeapstoreError.errNotInitialized ≠ .success := by decide
        rw [refused]
        exact ⟨fun _ => Or.inl ready, fun _ => Or.inr ⟨failed, rfl⟩⟩
    | true =>
        rw [regBatch_of_ready ready]
        constructor
        · rintro (⟨succeeded, _⟩ | ⟨_, unchanged⟩)
          · exact Or.inr (Or.inr (allAdmitted_of_regBatchLoop ready succeeded))
          · refine Or.inr (Or.inl ?_)
            intro admitted
            -- The first record stays in the list, whatever the rest did.
            have stillReady : (pushed d db first).initialized = true :=
              pushed_initialized ready
            have longer := length_head_regBatchLoop d
              (fun index => alloc (index + 1)) rest stillReady
            rw [← regBatchLoop_cons_admitted ready admitted, unchanged] at longer
            unfold pushed at longer
            rw [d.head_assign, List.length_cons] at longer
            omega
        · rintro (notReady | rejected | all)
          · rw [ready] at notReady
            cases notReady
          · obtain ⟨unchanged, failed⟩ := regBatchLoop_cons_rejected rejected
            exact Or.inr ⟨failed, unchanged⟩
          · rw [regBatchLoop_of_allAdmitted ready all]
            exact Or.inl ⟨rfl, first :: rest, rfl, rfl⟩

/-- Each batch insert of the interface is all or nothing exactly when nothing
is attempted, the first add is rejected, or every add is admitted. -/
theorem registryBatchInsert_allOrNothing_iff (alloc : Nat → AddAlloc)
    (db : RegistryDb) :
    (∀ records, AllOrNothing agentDomain records db
        (registryBatchInsertAgents alloc records db) ↔
          BatchSafe agentDomain alloc records db) ∧
      (∀ records, AllOrNothing skillDomain records db
        (registryBatchInsertSkills alloc records db) ↔
          BatchSafe skillDomain alloc records db) ∧
      (∀ records, AllOrNothing sessionDomain records db
        (hsBatchInsertSessions alloc records db) ↔
          BatchSafe sessionDomain alloc records db) :=
  ⟨fun records => regBatch_allOrNothing_iff agentDomain alloc records db,
    fun records => regBatch_allOrNothing_iff skillDomain alloc records db,
    fun records => regBatch_allOrNothing_iff sessionDomain alloc records db⟩

/-- Two agents with one id: the second add fails and the first stays. -/
theorem registryBatchInsertAgents_partial :
    ¬∀ alloc records db, AllOrNothing agentDomain records db
      (registryBatchInsertAgents alloc records db) := by
  intro always
  let twice : List AgentRecord := [agentNamed "a", agentNamed "a"]
  have batch := always (fun _ => .ok) (some twice) (registryInit clearedRegistry).1
  have failed : (registryBatchInsertAgents (fun _ => .ok) (some twice)
      (registryInit clearedRegistry).1).2 = .errAlreadyInitialized := by decide
  have kept : (registryBatchInsertAgents (fun _ => .ok) (some twice)
      (registryInit clearedRegistry).1).1 ≠ (registryInit clearedRegistry).1 := by
    decide
  rcases batch with ⟨succeeded, _⟩ | ⟨_, unchanged⟩
  · rw [failed] at succeeded
    cases succeeded
  · exact kept unchanged

end Heapstore.RegistryMemory
