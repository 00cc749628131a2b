/-
A second start of a subsystem.

Each of the five start functions decides on its own what a repeated call does.
Four of them look at their flag first and leave everything as it is; the one of
the in-memory registry clears its lists whatever they hold.
-/

import Heapstore.LogFiles
import Heapstore.MemoryTables
import Heapstore.RegistryMemory
import Heapstore.RegistrySqlite
import Heapstore.TraceBuffer

namespace Heapstore.Reinitialization

open ByteText SqlConnection

/-- A subsystem in some state.  The log module comes with the disk its files
are on. -/
inductive Subsystem where
  | memoryRegistry (db : RegistryMemory.RegistryDb)
  | sqliteRegistry (registry : RegistrySqlite.SqlRegistry)
  | trace (state : Trace.TraceState)
  | memory (state : Memory.MemoryState)
  | log (state : Log.LogState) (disk : Disk)

def Subsystem.initialized : Subsystem → Bool
  | .memoryRegistry db => db.initialized
  | .sqliteRegistry registry => registry.initialized
  | .trace state => state.initialized
  | .memory state => state.initialized
  | .log state _ => state.initialized

/-- What a start function finds around it: the paths, and the outcomes of the
calls it makes. -/
structure StartCalls where
  root : Bytes
  dataDir : Bytes
  logRoot : Option Bytes
  allocated : Bool
  ensured : Bytes → Bool
  databaseOpened : Bytes → Option Database
  schemaSucceeds : Nat → Bool
  logOpened : Bool

def Subsystem.start (calls : StartCalls) : Subsystem → Subsystem
  | .memoryRegistry db => .memoryRegistry (RegistryMemory.registryInit db).1
  | .sqliteRegistry registry =>
      .sqliteRegistry (RegistrySqlite.registryInit (some calls.root)
        (some calls.dataDir) calls.databaseOpened calls.schemaSucceeds
        registry).1
  | .trace state => .trace (Trace.traceInit calls.root calls.allocated state).1
  | .memory state =>
      .memory (Memory.memoryInit calls.root calls.dataDir calls.ensured state).1
  | .log state disk =>
      let started :=
        Log.logInit calls.logRoot calls.dataDir calls.logOpened state disk
      .log started.1 started.2.1

/-- The records, spans, pools and allocations of one state are those of the
other, and so are the open log files with their contents. -/
def Subsystem.SameData : Subsystem → Subsystem → Prop
  | .memoryRegistry before, .memoryRegistry after =>
      after.agents = before.agents ∧ after.skills = before.skills ∧
        after.sessions = before.sessions
  | .sqliteRegistry before, .sqliteRegistry after => after.db = before.db
  | .trace before, .trace after =>
      after.buffered = before.buffered ∧ after.files = before.files
  | .memory before, .memory after =>
      after.pools = before.pools ∧ after.allocations = before.allocations
  | .log before beforeDisk, .log after afterDisk =>
      after.mainLogFile = before.mainLogFile ∧
        after.serviceLogs = before.serviceLogs ∧ afterDisk = beforeDisk
  | _, _ => False

/-- The in-memory registry holds no record. -/
def Subsystem.NothingToLose : Subsystem → Prop
  | .memoryRegistry db => db.agents = [] ∧ db.skills = [] ∧ db.sessions = []
  | _ => True

theorem Subsystem.sameData_refl (subsystem : Subsystem) :
    subsystem.SameData subsystem := by
  cases subsystem with
  | memoryRegistry db => exact ⟨rfl, rfl, rfl⟩
  | sqliteRegistry registry => exact rfl
  | trace state => exact ⟨rfl, rfl⟩
  | memory state => exact ⟨rfl, rfl⟩
  | log state disk => exact ⟨rfl, rfl, rfl⟩

/-- A start function that looks at its flag does nothing the second time. -/
theorem Subsystem.start_of_initialized (calls : StartCalls)
    {subsystem : Subsystem} (running : subsystem.initialized = true)
    (guarded : ∀ db, subsystem ≠ .memoryRegistry db) :
    subsystem.start calls = subsystem := by
  cases subsystem with
  | memoryRegistry db => exact absurd rfl (guarded db)
  | sqliteRegistry registry =>
      change Subsystem.sqliteRegistry _ = _
      have flag : registry.initialized = true := running
      unfold RegistrySqlite.registryInit
      rw [if_pos flag]
  | trace state =>
      change Subsystem.trace _ = _
      have flag : state.initialized = true := running
      unfold Trace.traceInit
      rw [if_pos flag]
  | memory state =>
      change Subsystem.memory _ = _
      have flag : state.initialized = true := running
      unfold Memory.memoryInit
      rw [if_pos flag]
  | log state disk =>
      change Subsystem.log _ _ = _
      have flag : state.initialized = true := running
      unfold Log.logInit
      rw [if_pos flag]

/-- Starting a running subsystem again keeps its data exactly when it is not an
in-memory registry that holds records. -/
theorem restart_keeps_data_iff (calls : StartCalls) (subsystem : Subsystem)
    (running : subsystem.initialized = true) :
    subsystem.SameData (subsystem.start calls) ↔ subsystem.NothingToLose := by
  by_cases registry : ∃ db, subsystem = .memoryRegistry db
  · obtain ⟨db, same⟩ := registry
    subst same
    change [] = db.agents ∧ [] = db.skills ∧ [] = db.sessions ↔
      db.agents = [] ∧ db.skills = [] ∧ db.sessions = []
    rw [eq_comm, @eq_comm _ _ db.skills, @eq_comm _ _ db.sessions]
  · have guarded : ∀ db, subsystem ≠ .memoryRegistry db :=
      fun db same => registry ⟨db, same⟩
    rw [subsystem.start_of_initialized calls running guarded]
    refine ⟨fun _ => ?_, fun _ => subsystem.sameData_refl⟩
    cases subsystem with
    | memoryRegistry db => exact absurd rfl (guarded db)
    | sqliteRegistry registry => trivial
    | trace state => trivial
    | memory state => trivial
    | log state disk => trivial

def plainCalls : StartCalls where
  root := ofString "/data"
  dataDir := ofString "/data"
  logRoot := none
  allocated := true
  ensured := fun _ => true
  databaseOpened := fun _ => some fun _ => none
  schemaSucceeds := fun _ => true
  logOpened := true

def startedRegistry : RegistryMemory.RegistryDb :=
  (RegistryMemory.registryInit RegistryMemory.clearedRegistry).1

/-- A SQLite registry with an agent in it. -/
def filledRegistry : RegistrySqlite.SqlRegistry :=
  let started := (RegistrySqlite.registryInit (some plainCalls.root)
    (some plainCalls.dataDir) plainCalls.databaseOpened
    plainCalls.schemaSucceeds RegistrySqlite.clearedRegistry).1
  (RegistrySqlite.registryAddAgent .ok (some (agentNamed "planner"))
    started).1

def filledBuffer : Trace.TraceState :=
  Trace.holdingBoth Trace.requestSpan Trace.lookupSpan

theorem restart_keeps_data_iff_filled :
    let registry := Subsystem.sqliteRegistry filledRegistry
    let buffer := Subsystem.trace filledBuffer
    registry.SameData (registry.start plainCalls) ∧
      RegistrySqlite.registryGetAgent .ok (some (ofString "planner")) true
        filledRegistry = (.success, some (agentNamed "planner")) ∧
      buffer.SameData (buffer.start plainCalls) ∧
      filledBuffer.buffered = [Trace.requestSpan, Trace.lookupSpan] := by
  intro registry buffer
  refine ⟨?_, by decide +kernel, ?_, rfl⟩
  · exact (restart_keeps_data_iff plainCalls registry (by decide +kernel)).mpr
      trivial
  · exact (restart_keeps_data_iff plainCalls buffer rfl).mpr trivial

/-- A session that was added is gone after the second start. -/
theorem restart_loses_session :
    ¬∀ (calls : StartCalls) (added : Option SessionRecord),
      let reached := Subsystem.memoryRegistry
        (RegistryMemory.registryAddSession .ok added startedRegistry).1
      reached.SameData (reached.start calls) := by
  intro always
  obtain ⟨_, _, sessions⟩ := always plainCalls (some (sessionNamed "s"))
  have held : (RegistryMemory.registryAddSession .ok (some (sessionNamed "s"))
      startedRegistry).1.sessions = [sessionNamed "s"] := by decide
  rw [held] at sessions
  cases sessions

end Heapstore.Reinitialization
