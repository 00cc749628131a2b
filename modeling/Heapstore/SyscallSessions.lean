/-
Sessions through the syscall layer.

Saving fills a record and adds it to the registry; the id goes through a fixed
array on the way in, while a deletion and a lookup compare with the string of
the caller.  The registry is the in-memory one.
-/

import Heapstore.RegistryMemory

namespace Heapstore.Syscall

open ByteText RegistryMemory

/-- The arguments of `heapstore_syscall_session_save`. -/
structure SessionArguments where
  sessionId : Option Bytes
  metadata : Option Bytes
  createdNs : UInt64
  lastActiveNs : UInt64

/-- The record that is saved: the metadata goes to the field `user_id`. -/
def sessionRecord (sessionId : Bytes) (arguments : SessionArguments) :
    SessionRecord where
  id := CharArray.copy sessionId
  userId := CharArray.copy (arguments.metadata.getD [])
  createdAt := arguments.createdNs
  lastActiveAt := arguments.lastActiveNs
  ttlSeconds := 0
  status := CharArray.copy (ofString "active")
  metadata := CharArray.copy []

def syscallSessionSave (integrated : Bool) (alloc : AddAlloc)
    (arguments : SessionArguments) (db : RegistryDb) :
    RegistryDb × SyscallError :=
  if integrated = false then (db, .eNotInit)
  else
    match arguments.sessionId with
    | none => (db, .eInval)
    | some sessionId =>
        let added :=
          registryAddSession alloc (some (sessionRecord sessionId arguments)) db
        (added.1, .ofHeapstore added.2)

def syscallSessionDelete (integrated : Bool) (sessionId : Option Bytes)
    (db : RegistryDb) : RegistryDb × SyscallError :=
  if integrated = false then (db, .eNotInit)
  else
    match sessionId with
    | none => (db, .eInval)
    | some sessionId =>
        let deleted := registryDeleteSession (some sessionId) db
        (deleted.1, .ofHeapstore deleted.2)

/-! ### The registry under the two calls -/

section Calls

variable {db : RegistryDb} {sessionId : Bytes}

/-- No stored session carries the id. -/
def NotStored (db : RegistryDb) (id : Bytes) : Prop :=
  ∀ session ∈ db.sessions, session.id.text ≠ id

theorem lookup_eq_none_of_absent {sessions : List SessionRecord}
    (absent : ∀ session ∈ sessions, session.id.text ≠ sessionId) :
    KeyedList.lookup sessionDomain.recId sessions sessionId = none := by
  rw [KeyedList.lookup_eq_none_iff]
  intro carried
  obtain ⟨session, member, same⟩ := List.mem_map.mp carried
  exact absent session member same

theorem registryGetSession_answer (ready : db.initialized = true)
    (id : Bytes) :
    registryGetSession (some id) true db =
      match KeyedList.lookup sessionDomain.recId db.sessions id with
      | none => (.errNotFound, none)
      | some session => (.success, some session) := by
  have scanned : findNodeById sessionDomain (sessionDomain.head db) id =
      KeyedList.lookup sessionDomain.recId db.sessions id := rfl
  unfold registryGetSession regGet
  simp only [ready, Bool.true_eq_false, if_false, scanned]
  cases KeyedList.lookup sessionDomain.recId db.sessions id with
  | none => rfl
  | some session => rfl

/-- A session that is found carries the id, which therefore fits its field. -/
theorem length_of_found {id : Bytes} {session : SessionRecord}
    (ready : db.initialized = true)
    (found : registryGetSession (some id) true db = (.success, some session)) :
    id.length < 128 := by
  rw [registryGetSession_answer ready] at found
  cases held : KeyedList.lookup sessionDomain.recId db.sessions id with
  | none =>
      rw [held] at found
      cases found
  | some other =>
      rw [← KeyedList.key_of_lookup sessionDomain.recId held]
      exact other.id.fits

/-- A save that succeeds puts its record in front of the others. -/
theorem saved_sessions {alloc : AddAlloc} {arguments : SessionArguments}
    (given : arguments.sessionId = some sessionId)
    (saved : (syscallSessionSave true alloc arguments db).2 = .success) :
    (syscallSessionSave true alloc arguments db).1.sessions =
        sessionRecord sessionId arguments :: db.sessions ∧
      (syscallSessionSave true alloc arguments db).1.initialized =
        db.initialized ∧
      db.initialized = true := by
  unfold syscallSessionSave at saved ⊢
  simp only [Bool.true_eq_false, if_false, given] at saved ⊢
  have added := (SyscallError.ofHeapstore_success_iff _).mp saved
  have ready : db.initialized = true := by
    cases flag : db.initialized with
    | true => rfl
    | false =>
        unfold registryAddSession regAdd at added
        simp only [flag, if_true] at added
        split at added <;> cases added
  unfold registryAddSession at added ⊢
  rw [regAdd_of_admits ready (admits_of_regAdd added)]
  exact ⟨rfl, rfl, ready⟩

theorem save_succeeds {alloc : AddAlloc} {arguments : SessionArguments}
    (given : arguments.sessionId = some sessionId) (allocated : alloc = .ok)
    (ready : db.initialized = true) (clean : (0 : UInt8) ∉ sessionId)
    (named : sessionId ≠ []) (short : sessionId.length < 128)
    (absent : NotStored db sessionId) :
    (syscallSessionSave true alloc arguments db).2 = .success := by
  have text : (sessionRecord sessionId arguments).id.text = sessionId :=
    CharArray.text_copy clean (Nat.lt_succ_iff.mp short)
  have admitted : Admits sessionDomain alloc db
      (sessionRecord sessionId arguments) := by
    refine ⟨?_, ?_, allocated⟩
    · change (sessionRecord sessionId arguments).id.text ≠ []
      rw [text]
      exact named
    · change KeyedList.lookup sessionDomain.recId db.sessions
        (sessionRecord sessionId arguments).id.text = none
      rw [text]
      exact lookup_eq_none_of_absent absent
  unfold syscallSessionSave
  simp only [Bool.true_eq_false, if_false, given]
  rw [SyscallError.ofHeapstore_success_iff]
  unfold registryAddSession
  rw [regAdd_of_admits ready admitted]

end Calls

/-! ### What a saved session is read back as -/

/-- The record found under the id carries the arguments of its save. -/
def CarriesArguments (sessionId metadata : Bytes)
    (arguments : SessionArguments) (db : RegistryDb) : Prop :=
  ∃ session, registryGetSession (some sessionId) true db =
      (.success, some session) ∧
    session.id.text = sessionId ∧ session.metadata.text = metadata ∧
    session.createdAt = arguments.createdNs ∧
    session.lastActiveAt = arguments.lastActiveNs

theorem saved_session_found {db : RegistryDb} {sessionId : Bytes}
    {alloc : AddAlloc} {arguments : SessionArguments}
    (given : arguments.sessionId = some sessionId)
    (clean : (0 : UInt8) ∉ sessionId) (short : sessionId.length < 128)
    (saved : (syscallSessionSave true alloc arguments db).2 = .success) :
    registryGetSession (some sessionId) true
        (syscallSessionSave true alloc arguments db).1 =
      (.success, some (sessionRecord sessionId arguments)) := by
  obtain ⟨sessions, still, ready⟩ := saved_sessions given saved
  have text : sessionDomain.recId (sessionRecord sessionId arguments) =
      sessionId :=
    CharArray.text_copy clean (Nat.lt_succ_iff.mp short)
  rw [registryGetSession_answer (still.trans ready), sessions,
    KeyedList.lookup_cons, if_pos text]

/-- The arguments of a save with both of its strings. -/
def savedWith (sessionId metadata : Bytes) (createdNs lastActiveNs : UInt64) :
    SessionArguments where
  sessionId := some sessionId
  metadata := some metadata
  createdNs := createdNs
  lastActiveNs := lastActiveNs

/-- The arguments of a save come back exactly when its metadata is empty. -/
theorem session_arguments_round_trip_iff {db : RegistryDb}
    {sessionId : Bytes} (metadata : Bytes) {alloc : AddAlloc}
    (createdNs lastActiveNs : UInt64) (clean : (0 : UInt8) ∉ sessionId)
    (short : sessionId.length < 128)
    (saved : (syscallSessionSave true alloc
      (savedWith sessionId metadata createdNs lastActiveNs) db).2 = .success) :
    CarriesArguments sessionId metadata
        (savedWith sessionId metadata createdNs lastActiveNs)
        (syscallSessionSave true alloc
          (savedWith sessionId metadata createdNs lastActiveNs) db).1 ↔
      metadata = [] := by
  have found := saved_session_found rfl clean short saved
  unfold CarriesArguments
  rw [found]
  constructor
  · intro carried
    obtain ⟨session, same, _, stored, _⟩ := carried
    cases same
    exact stored.symm
  · intro empty
    refine ⟨_, rfl, ?_, ?_, rfl, rfl⟩
    · exact CharArray.text_copy clean (Nat.lt_succ_iff.mp short)
    · rw [empty]
      rfl

def emptyRegistry : RegistryDb := (registryInit clearedRegistry).1

theorem session_arguments_round_trip_iff_empty :
    CarriesArguments (ofString "s") [] (savedWith (ofString "s") [] 1 2)
        (syscallSessionSave true .ok (savedWith (ofString "s") [] 1 2)
          emptyRegistry).1 ↔
      ([] : Bytes) = [] :=
  session_arguments_round_trip_iff [] 1 2 (by decide) (by decide) (by decide)

/-- The metadata of this session is found in the field of the user id. -/
theorem session_metadata_lost :
    ¬∀ (sessionId metadata : Bytes) (alloc : AddAlloc)
        (createdNs lastActiveNs : UInt64) (db : RegistryDb),
      (0 : UInt8) ∉ sessionId → (0 : UInt8) ∉ metadata →
      sessionId.length < 128 → metadata.length < 512 →
      (syscallSessionSave true alloc
        (savedWith sessionId metadata createdNs lastActiveNs) db).2 =
          .success →
      CarriesArguments sessionId metadata
        (savedWith sessionId metadata createdNs lastActiveNs)
        (syscallSessionSave true alloc
          (savedWith sessionId metadata createdNs lastActiveNs) db).1 := by
  intro always
  obtain ⟨session, found, _, stored, _⟩ :=
    always (ofString "s") (ofString "x") .ok 1 2 emptyRegistry (by decide)
      (by decide) (by decide) (by decide) (by decide)
  have held : registryGetSession (some (ofString "s")) true
      (syscallSessionSave true .ok
        (savedWith (ofString "s") (ofString "x") 1 2) emptyRegistry).1 =
      (.success, some (sessionRecord (ofString "s")
        (savedWith (ofString "s") (ofString "x") 1 2))) := by decide
  rw [held] at found
  cases found
  revert stored
  decide

/-! ### Two sessions -/

/-- Deleting one session succeeds, hides it and leaves the other. -/
def DeletesOnly (victim other : Bytes) (kept : SessionRecord)
    (db : RegistryDb) : Prop :=
  let deleted := syscallSessionDelete true (some victim) db
  deleted.2 = .success ∧
    registryGetSession (some victim) true deleted.1 = (.errNotFound, none) ∧
    registryGetSession (some other) true deleted.1 = (.success, some kept)

/-- Two saves succeed, each id finds its own record, and either session can be
deleted without the other. -/
def SeparateSessions (first second : Bytes)
    (firstArguments secondArguments : SessionArguments) (db : RegistryDb) :
    Prop :=
  let once := syscallSessionSave true .ok firstArguments db
  let twice := syscallSessionSave true .ok secondArguments once.1
  once.2 = .success ∧ twice.2 = .success ∧
    registryGetSession (some first) true twice.1 =
      (.success, some (sessionRecord first firstArguments)) ∧
    registryGetSession (some second) true twice.1 =
      (.success, some (sessionRecord second secondArguments)) ∧
    DeletesOnly first second (sessionRecord second secondArguments) twice.1 ∧
    DeletesOnly second first (sessionRecord first firstArguments) twice.1

/-- A deletion that finds the id takes the first session with it away. -/
theorem syscallSessionDelete_of_held {db : RegistryDb} {victim : Bytes}
    (ready : db.initialized = true)
    (held : KeyedList.lookup sessionDomain.recId db.sessions victim ≠ none) :
    (syscallSessionDelete true (some victim) db).2 = .success ∧
      (syscallSessionDelete true (some victim) db).1.initialized = true ∧
      (syscallSessionDelete true (some victim) db).1.sessions =
        KeyedList.removeFirst sessionDomain.recId victim db.sessions := by
  have unlinked : unlinkNode sessionDomain victim (sessionDomain.head db) =
      some (KeyedList.removeFirst sessionDomain.recId victim db.sessions) := by
    rw [unlinkNode_eq]
    exact if_neg held
  unfold syscallSessionDelete registryDeleteSession regDelete
  simp only [Bool.true_eq_false, if_false, ready, unlinked]
  exact ⟨(SyscallError.ofHeapstore_success_iff _).mpr rfl, ready, rfl⟩

section Two

variable {db : RegistryDb} {victim other : Bytes} {kept : SessionRecord}

/-- A registry in which two sessions stand before the others. -/
theorem deletesOnly_of_sessions (rest : List SessionRecord)
    (ready : db.initialized = true)
    (found : KeyedList.lookup sessionDomain.recId db.sessions victim ≠ none)
    (removed : KeyedList.removeFirst sessionDomain.recId victim db.sessions =
      kept :: rest)
    (named : kept.id.text = other) (different : victim ≠ other)
    (absent : ∀ session ∈ rest, session.id.text ≠ victim) :
    DeletesOnly victim other kept db := by
  obtain ⟨succeeded, still, sessions⟩ :=
    syscallSessionDelete_of_held ready found
  have key : sessionDomain.recId kept = other := named
  have gone := lookup_eq_none_of_absent absent
  unfold DeletesOnly
  refine ⟨succeeded, ?_, ?_⟩
  · rw [registryGetSession_answer still, sessions, removed,
      KeyedList.lookup_cons, key, if_neg (Ne.symm different), gone]
  · rw [registryGetSession_answer still, sessions, removed,
      KeyedList.lookup_cons, key, if_pos rfl]

/-- With two sessions in front, each is found and deleted on its own. -/
theorem separate_in_front {older newer : SessionRecord} {first second : Bytes}
    (rest : List SessionRecord) (ready : db.initialized = true)
    (sessions : db.sessions = newer :: older :: rest)
    (olderText : older.id.text = first) (newerText : newer.id.text = second)
    (different : first ≠ second)
    (firstNew : ∀ session ∈ rest, session.id.text ≠ first)
    (secondNew : ∀ session ∈ rest, session.id.text ≠ second) :
    registryGetSession (some first) true db = (.success, some older) ∧
      registryGetSession (some second) true db = (.success, some newer) ∧
      DeletesOnly first second newer db ∧ DeletesOnly second first older db := by
  have olderKey : sessionDomain.recId older = first := olderText
  have newerKey : sessionDomain.recId newer = second := newerText
  have firstHeld : KeyedList.lookup sessionDomain.recId db.sessions first =
      some older := by
    rw [sessions, KeyedList.lookup_cons, newerKey,
      if_neg (Ne.symm different), KeyedList.lookup_cons, if_pos olderKey]
  have secondHeld : KeyedList.lookup sessionDomain.recId db.sessions second =
      some newer := by
    rw [sessions, KeyedList.lookup_cons, if_pos newerKey]
  refine ⟨?_, ?_, ?_, ?_⟩
  · rw [registryGetSession_answer ready, firstHeld]
  · rw [registryGetSession_answer ready, secondHeld]
  · refine deletesOnly_of_sessions rest ready ?_ ?_ newerText different firstNew
    · rw [firstHeld]
      exact Option.some_ne_none _
    · rw [sessions, KeyedList.removeFirst, newerKey,
        if_neg (Ne.symm different), KeyedList.removeFirst, if_pos olderKey]
  · refine deletesOnly_of_sessions rest ready ?_ ?_ olderText
      (Ne.symm different) secondNew
    · rw [secondHeld]
      exact Option.some_ne_none _
    · rw [sessions, KeyedList.removeFirst, if_pos newerKey]

end Two

/-- Two new sessions are told apart exactly when both ids fit their field. -/
theorem separate_sessions_iff {db : RegistryDb} {first second : Bytes}
    {firstArguments secondArguments : SessionArguments}
    (ready : db.initialized = true)
    (firstGiven : firstArguments.sessionId = some first)
    (secondGiven : secondArguments.sessionId = some second)
    (firstClean : (0 : UInt8) ∉ first) (secondClean : (0 : UInt8) ∉ second)
    (firstNamed : first ≠ []) (secondNamed : second ≠ [])
    (different : first ≠ second) (firstNew : NotStored db first)
    (secondNew : NotStored db second) :
    SeparateSessions first second firstArguments secondArguments db ↔
      first.length < 128 ∧ second.length < 128 := by
  constructor
  · intro separate
    obtain ⟨saved, again, firstFound, secondFound, _⟩ := separate
    obtain ⟨_, firstStill, _⟩ := saved_sessions firstGiven saved
    obtain ⟨_, secondStill, _⟩ := saved_sessions secondGiven again
    have running := secondStill.trans (firstStill.trans ready)
    exact ⟨length_of_found running firstFound,
      length_of_found running secondFound⟩
  · intro short
    obtain ⟨firstShort, secondShort⟩ := short
    have firstText : (sessionRecord first firstArguments).id.text = first :=
      CharArray.text_copy firstClean (Nat.lt_succ_iff.mp firstShort)
    have secondText : (sessionRecord second secondArguments).id.text = second :=
      CharArray.text_copy secondClean (Nat.lt_succ_iff.mp secondShort)
    have saved := save_succeeds firstGiven rfl ready firstClean firstNamed
      firstShort firstNew
    obtain ⟨onceSessions, onceStill, _⟩ := saved_sessions firstGiven saved
    have stillNew : NotStored
        (syscallSessionSave true .ok firstArguments db).1 second := by
      intro session member
      rw [onceSessions] at member
      rcases List.mem_cons.mp member with same | old
      · rw [same, firstText]
        exact different
      · exact secondNew session old
    have again := save_succeeds secondGiven rfl (onceStill.trans ready)
      secondClean secondNamed secondShort stillNew
    obtain ⟨twiceSessions, twiceStill, _⟩ := saved_sessions secondGiven again
    rw [onceSessions] at twiceSessions
    exact ⟨saved, again, separate_in_front db.sessions
      (twiceStill.trans (onceStill.trans ready)) twiceSessions firstText
      secondText different firstNew secondNew⟩

theorem notStored_emptyRegistry (id : Bytes) : NotStored emptyRegistry id := by
  intro session member
  cases member

theorem separate_sessions_iff_short :
    SeparateSessions (ofString "a") (ofString "b")
        (savedWith (ofString "a") [] 1 2) (savedWith (ofString "b") [] 1 2)
        emptyRegistry ↔
      (ofString "a").length < 128 ∧ (ofString "b").length < 128 :=
  separate_sessions_iff rfl rfl rfl (by decide) (by decide) (by decide)
    (by decide) (by decide) (notStored_emptyRegistry _)
    (notStored_emptyRegistry _)

def longId (last : UInt8) : Bytes := List.replicate 127 97 ++ [last]

/-- Two ids of 128 bytes that differ in the last one collide. -/
theorem long_sessions_collide :
    ¬∀ (first second : Bytes) (firstArguments secondArguments :
        SessionArguments) (db : RegistryDb), db.initialized = true →
      firstArguments.sessionId = some first →
      secondArguments.sessionId = some second →
      (0 : UInt8) ∉ first → (0 : UInt8) ∉ second → first ≠ [] → second ≠ [] →
      first ≠ second → NotStored db first → NotStored db second →
      SeparateSessions first second firstArguments secondArguments db := by
  intro always
  obtain ⟨_, again, _⟩ := always (longId 97) (longId 98)
    (savedWith (longId 97) [] 1 2) (savedWith (longId 98) [] 1 2) emptyRegistry
    rfl rfl rfl (by decide) (by decide) (by decide) (by decide) (by decide)
    (notStored_emptyRegistry _) (notStored_emptyRegistry _)
  revert again
  decide +kernel

end Heapstore.Syscall
