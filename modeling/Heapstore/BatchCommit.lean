/-
Committing a batch context to the in-memory registry, against all-or-nothing.

The commit adds session by session, goes on after a failure and returns the
first error, so it takes back nothing.  Run alone on the items of a context it
is a loop over the sessions of the pending chain.
-/

import Heapstore.BatchCapacity
import Heapstore.RegistryMemoryBatch

namespace Heapstore.Batch

open LinkedChain OperationRun RegistryMemory

/-- The loop of `heapstore_batch_commit`, entered with the result so far. -/
def batchCommitLoop :
    (Nat → AddAlloc) → List SessionRecord → HeapstoreError → RegistryDb →
      RegistryDb × HeapstoreError
  | _, [], result, db => (db, result)
  | alloc, session :: rest, result, db =>
      let added := registryAddSession (alloc 0) (some session) db
      batchCommitLoop (fun index => alloc (index + 1)) rest
        (if added.2 ≠ .success ∧ result = .success then added.2 else result)
        added.1

def batchCommit (alloc : Nat → AddAlloc)
    (context : Option (List SessionRecord)) (db : RegistryDb) :
    RegistryDb × HeapstoreError :=
  match context with
  | none => (db, .errInvalidParam)
  | some sessions => batchCommitLoop alloc sessions .success db

/-! ### The commit on the items of a context -/

/-- The session that a committing thread is about to hand over. -/
def nextSession (state : BatchState) (thread : Nat) : Option SessionRecord :=
  match state.threads thread with
  | .committing (some item) _ => (state.heap item).map Cell.payload
  | _ => none

/-- A committing thread, no other thread running, hands its sessions to the
registry. -/
def commitAlone (thread : Nat) :
    Nat → (Nat → AddAlloc) → BatchState → RegistryDb → BatchState × RegistryDb
  | 0, _, state, db => (state, db)
  | items + 1, alloc, state, db =>
      match nextSession state thread with
      | none => (state, db)
      | some session =>
          let added := registryAddSession (alloc 0) (some session) db
          let handed := (threadStep state thread added.2).1
          commitAlone thread items (fun index => alloc (index + 1))
            (threadStep handed thread .success).1 added.1

/-- The steps of the thread are the loop over the sessions of its chain. -/
theorem commitAlone_eq {thread : Nat} {alloc : Nat → AddAlloc}
    {state : BatchState} {db : RegistryDb} {start : Option Nat}
    {result : HeapstoreError} {chain : List Item}
    (found : Chain state.heap start chain)
    (place : state.threads thread = .committing start result) :
    let looped := batchCommitLoop alloc (payloads chain) result db
    (commitAlone thread chain.length alloc state db).2 = looped.1 ∧
      (commitAlone thread chain.length alloc state db).1.threads thread =
        .committing none looped.2 := by
  induction chain generalizing alloc state db start result with
  | nil =>
      have ended : start = none := found.start_eq_none_iff.mpr rfl
      subst ended
      exact ⟨rfl, place⟩
  | cons item rest ih =>
      cases found with
      | cons address session next _ here later =>
          have whole := Chain.cons address session next rest here later
          have first : nextSession state thread = some session := by
            simp only [nextSession, place, here, Option.map_some]
          simp only [List.length_cons, commitAlone, first]
          have unfolded : batchCommitLoop alloc
              (payloads ((address, session) :: rest)) result db =
                batchCommitLoop alloc (session :: payloads rest) result db :=
            rfl
          rw [unfolded, batchCommitLoop]
          generalize registryAddSession (alloc 0) (some session) db = added
          let after :=
            if added.2 ≠ .success ∧ result = .success then added.2 else result
          let moved := state.move thread (.releasing address next after)
          have handed : (threadStep state thread added.2).1 = moved := by
            simp only [threadStep, place, here]
            rfl
          have stands : moved.threads thread =
              .releasing address next after := Function.update_self ..
          have kept : moved.heap address =
              some { payload := session, next := next } := here
          have released : (threadStep moved thread .success).1 =
              (moved.free address).move thread (.committing next after) := by
            simp only [threadStep, stands, kept, Option.isNone_some,
              Bool.false_eq_true, if_false]
          rw [handed, released]
          have chained : Chain ((moved.free address).move thread
              (.committing next after)).heap next rest :=
            later.frame (freed_rest whole)
          have nextPlace : ((moved.free address).move thread
              (.committing next after)).threads thread =
                .committing next after := Function.update_self ..
          exact ih chained nextPlace

/-! ### All or nothing -/

/-- Success with every session stored, or an error with the registry as it
was. -/
def CommitsWhole (sessions : List SessionRecord) (before : RegistryDb)
    (result : RegistryDb × HeapstoreError) : Prop :=
  (result.2 = .success ∧ ∀ session ∈ sessions, session ∈ result.1.sessions) ∨
    (result.2 ≠ .success ∧ result.1 = before)

/-- The registry is stopped, every session is admitted after those before it,
or none would be admitted on its own. -/
def CommitSafe (alloc : Nat → AddAlloc) (sessions : List SessionRecord)
    (db : RegistryDb) : Prop :=
  db.initialized = false ∨ AllAdmitted sessionDomain alloc sessions db ∨
    ∀ index session, sessions[index]? = some session →
      ¬Admits sessionDomain (alloc index) db session

section Loop

variable {alloc : Nat → AddAlloc} {sessions : List SessionRecord}
  {db : RegistryDb}

theorem batchCommitLoop_cons_admitted {session : SessionRecord}
    {rest : List SessionRecord} {result : HeapstoreError}
    (ready : db.initialized = true)
    (admitted : Admits sessionDomain (alloc 0) db session) :
    batchCommitLoop alloc (session :: rest) result db =
      batchCommitLoop (fun index => alloc (index + 1)) rest result
        (pushed sessionDomain db session) := by
  have added : registryAddSession (alloc 0) (some session) db =
      (pushed sessionDomain db session, .success) :=
    regAdd_of_admits ready admitted
  simp only [batchCommitLoop, added, ne_eq, not_true, false_and, if_false]

/-- A rejected session leaves the registry and an error in the result. -/
theorem batchCommitLoop_cons_rejected {session : SessionRecord}
    {rest : List SessionRecord} (result : HeapstoreError)
    (failed : (registryAddSession (alloc 0) (some session) db).2 ≠ .success) :
    ∃ error, error ≠ .success ∧
      batchCommitLoop alloc (session :: rest) result db =
        batchCommitLoop (fun index => alloc (index + 1)) rest error db := by
  have unchanged := (regAdd_outcome sessionDomain (alloc 0) (some session)
    db).unchanged failed
  change (registryAddSession (alloc 0) (some session) db).1 = db at unchanged
  simp only [batchCommitLoop, unchanged]
  by_cases first : result = .success
  · rw [if_pos ⟨failed, first⟩]
    exact ⟨_, failed, rfl⟩
  · rw [if_neg (fun both => first both.2)]
    exact ⟨result, first, rfl⟩

theorem batchCommitLoop_keeps_error {result : HeapstoreError}
    (failed : result ≠ .success) :
    (batchCommitLoop alloc sessions result db).2 = result := by
  induction sessions generalizing alloc db with
  | nil => rfl
  | cons session rest ih =>
      simp only [batchCommitLoop]
      rw [if_neg (fun both => failed both.2)]
      exact ih

theorem ready_of_regAdd {session : SessionRecord} {one : AddAlloc}
    (succeeded : (registryAddSession one (some session) db).2 = .success) :
    db.initialized = true := by
  by_contra stopped
  simp only [Bool.not_eq_true] at stopped
  by_cases unnamed : sessionDomain.recId session = []
  · simp [registryAddSession, regAdd, unnamed] at succeeded
  · simp [registryAddSession, regAdd, unnamed, stopped] at succeeded

theorem not_admits_failed {session : SessionRecord} {one : AddAlloc}
    (rejected : ¬Admits sessionDomain one db session) :
    (registryAddSession one (some session) db).2 ≠ .success :=
  fun succeeded => rejected (admits_of_regAdd succeeded)

/-- Without a failure the commit does what a batch insert does. -/
theorem batchCommitLoop_of_allAdmitted (ready : db.initialized = true)
    (all : AllAdmitted sessionDomain alloc sessions db) :
    batchCommitLoop alloc sessions .success db =
      regBatchLoop sessionDomain alloc sessions db := by
  induction sessions generalizing alloc db with
  | nil => rfl
  | cons session rest ih =>
      obtain ⟨admitted, later⟩ := (allAdmitted_cons alloc session rest db).mp all
      rw [batchCommitLoop_cons_admitted ready admitted,
        regBatchLoop_cons_admitted ready admitted,
        ih (pushed_initialized ready) later]

theorem allAdmitted_of_batchCommitLoop (ready : db.initialized = true)
    (succeeded : (batchCommitLoop alloc sessions .success db).2 = .success) :
    AllAdmitted sessionDomain alloc sessions db := by
  induction sessions generalizing alloc db with
  | nil => exact allAdmitted_nil alloc db
  | cons session rest ih =>
      by_cases admitted : Admits sessionDomain (alloc 0) db session
      · rw [batchCommitLoop_cons_admitted ready admitted] at succeeded
        exact (allAdmitted_cons alloc session rest db).mpr
          ⟨admitted, ih (pushed_initialized ready) succeeded⟩
      · obtain ⟨error, failed, goesOn⟩ :=
          @batchCommitLoop_cons_rejected alloc db session rest .success
            (not_admits_failed admitted)
        rw [goesOn, batchCommitLoop_keeps_error failed] at succeeded
        exact absurd succeeded failed

theorem length_batchCommitLoop (alloc : Nat → AddAlloc)
    (sessions : List SessionRecord) (result : HeapstoreError)
    (ready : db.initialized = true) :
    db.sessions.length ≤
      (batchCommitLoop alloc sessions result db).1.sessions.length := by
  induction sessions generalizing alloc db result with
  | nil => exact Nat.le_refl _
  | cons session rest ih =>
      by_cases admitted : Admits sessionDomain (alloc 0) db session
      · rw [batchCommitLoop_cons_admitted ready admitted]
        have still : (pushed sessionDomain db session).initialized = true :=
          pushed_initialized ready
        have longer : db.sessions.length + 1 ≤ _ :=
          ih (fun index => alloc (index + 1)) result still
        exact Nat.le_of_succ_le longer
      · obtain ⟨error, _, goesOn⟩ :=
          @batchCommitLoop_cons_rejected alloc db session rest result
            (not_admits_failed admitted)
        rw [goesOn]
        exact ih _ error ready

/-- The registry is unchanged only if no session was admitted. -/
theorem rejected_of_unchanged {result : HeapstoreError}
    (ready : db.initialized = true)
    (unchanged : (batchCommitLoop alloc sessions result db).1 = db) :
    ∀ index session, sessions[index]? = some session →
      ¬Admits sessionDomain (alloc index) db session := by
  induction sessions generalizing alloc result with
  | nil => exact nofun
  | cons session rest ih =>
      by_cases admitted : Admits sessionDomain (alloc 0) db session
      · rw [batchCommitLoop_cons_admitted ready admitted] at unchanged
        have still : (pushed sessionDomain db session).initialized = true :=
          pushed_initialized ready
        have longer : db.sessions.length + 1 ≤ _ := length_batchCommitLoop
          (fun index => alloc (index + 1)) rest result still
        rw [unchanged] at longer
        exact absurd longer (Nat.not_succ_le_self _)
      · obtain ⟨error, _, goesOn⟩ :=
          @batchCommitLoop_cons_rejected alloc db session rest result
            (not_admits_failed admitted)
        rw [goesOn] at unchanged
        intro index other here
        cases index with
        | zero =>
            cases here
            exact admitted
        | succ index => exact ih unchanged index other here

/-- Sessions that all fail leave the registry, and an error unless there is
none. -/
theorem batchCommitLoop_of_rejected {result : HeapstoreError}
    (rejected : ∀ index session, sessions[index]? = some session →
      (registryAddSession (alloc index) (some session) db).2 ≠ .success) :
    (batchCommitLoop alloc sessions result db).1 = db ∧
      (sessions ≠ [] →
        (batchCommitLoop alloc sessions result db).2 ≠ .success) := by
  induction sessions generalizing alloc result with
  | nil => exact ⟨rfl, fun some_ => absurd rfl some_⟩
  | cons session rest ih =>
      obtain ⟨error, failed, goesOn⟩ :=
        @batchCommitLoop_cons_rejected alloc db session rest result
          (rejected 0 session rfl)
      rw [goesOn]
      refine ⟨(ih fun index other here =>
        rejected (index + 1) other here).1, fun _ => ?_⟩
      rw [batchCommitLoop_keeps_error failed]
      exact failed

end Loop

/-- A commit is all or nothing exactly when the registry is stopped, every
session is admitted or every session is rejected. -/
theorem batchCommit_whole_iff (alloc : Nat → AddAlloc)
    (sessions : List SessionRecord) (db : RegistryDb) :
    CommitsWhole sessions db (batchCommit alloc (some sessions) db) ↔
      CommitSafe alloc sessions db := by
  change CommitsWhole sessions db
    (batchCommitLoop alloc sessions .success db) ↔ _
  unfold CommitSafe
  have nothing : (∀ index session, sessions[index]? = some session →
      (registryAddSession (alloc index) (some session) db).2 ≠ .success) →
        CommitsWhole sessions db
          (batchCommitLoop alloc sessions .success db) := by
    intro rejected
    obtain ⟨unchanged, failed⟩ :=
      @batchCommitLoop_of_rejected alloc sessions db .success rejected
    by_cases empty : sessions = []
    · subst empty
      exact Or.inl ⟨rfl, nofun⟩
    · exact Or.inr ⟨failed empty, unchanged⟩
  cases ready : db.initialized with
  | false =>
      refine iff_of_true (nothing ?_) (Or.inl rfl)
      intro index session _ succeeded
      rw [ready_of_regAdd succeeded] at ready
      cases ready
  | true =>
      constructor
      · rintro (⟨succeeded, _⟩ | ⟨_, unchanged⟩)
        · exact Or.inr (Or.inl (allAdmitted_of_batchCommitLoop ready succeeded))
        · exact Or.inr (Or.inr (rejected_of_unchanged ready unchanged))
      · rintro (stopped | all | rejected)
        · cases stopped
        · rw [batchCommitLoop_of_allAdmitted ready all,
            regBatchLoop_of_allAdmitted ready all]
          refine Or.inl ⟨rfl, fun session member => ?_⟩
          exact List.mem_append_left _ (List.mem_reverse.mpr member)
        · exact nothing fun index session here =>
            not_admits_failed (rejected index session here)

/-- A session that repeats an id fails, and the one before it stays. -/
theorem batchCommit_partial :
    ¬∀ alloc sessions db,
      CommitsWhole sessions db (batchCommit alloc (some sessions) db) := by
  intro always
  let twice : List SessionRecord := [sessionNamed "a", sessionNamed "a"]
  let start : RegistryDb := (registryInit clearedRegistry).1
  have failed : (batchCommit (fun _ => .ok) (some twice) start).2 =
      .errAlreadyInitialized := by decide
  have kept : (batchCommit (fun _ => .ok) (some twice) start).1 ≠ start := by
    decide
  rcases always (fun _ => .ok) twice start with ⟨succeeded, _⟩ | ⟨_, unchanged⟩
  · rw [failed] at succeeded
    cases succeeded
  · exact kept unchanged

end Heapstore.Batch
