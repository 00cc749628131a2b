/-
The open files of the log module under interleaved calls.

A write and a rotation test the module before they take its lock, so a stop can
come between the test and what runs under the lock.  A start and a stop are
calls of one thread.  A start takes no lock and makes the locks of the module
anew, so it is made while no other call is under way, as its header asks.  The
handles are followed through every such interleaving: which are opened, written
to and closed, and who refers to them.
-/

import Heapstore.Foundation.OpenHandles
import Heapstore.LogRotation
import Mathlib.Data.Fintype.Basic

namespace Heapstore.Log

open ByteText OperationRun OpenHandles

structure HandledService where
  serviceName : CharArray 64
  handle : Nat
  deriving DecidableEq

/-- The pointers to open files; handles are numbered as they are opened. -/
structure Handles where
  initialized : Bool
  main : Option Nat
  services : List HandledService
  issued : Nat
  deriving DecidableEq

def Handles.owned (handles : Handles) : List Nat :=
  handles.main.toList ++ handles.services.map HandledService.handle

/-! ### What runs under the lock -/

/-- A file that a call found, and what it did to find it. -/
structure FoundHandle where
  handles : Handles
  handle : Option Nat
  events : List HandleEvent

/-- `get_main_log_file` -/
def Handles.getMainLogFile (opened : Bool) (handles : Handles) : FoundHandle :=
  if handles.initialized = false then
    { handles := handles, handle := none, events := [] }
  else
    match handles.main with
    | some handle =>
        { handles := handles, handle := some handle, events := [] }
    | none =>
        if opened = false then
          { handles := handles, handle := none, events := [] }
        else
          { handles :=
              { handles with
                  main := some handles.issued
                  issued := handles.issued + 1 }
            handle := some handles.issued
            events := [.opened handles.issued] }

/-- `get_service_log_file`; it does not test the module again. -/
def Handles.getServiceLogFile (opened : Bool) (service : Option Bytes)
    (handles : Handles) : FoundHandle :=
  match service with
  | none => handles.getMainLogFile opened
  | some [] => handles.getMainLogFile opened
  | some (byte :: rest) =>
      match pathClean 64 (byte :: rest) with
      | none => { handles := handles, handle := none, events := [] }
      | some safe =>
          match handles.services.find? fun entry =>
              entry.serviceName.text = safe with
          | some entry =>
              { handles := handles, handle := some entry.handle, events := [] }
          | none =>
              if handles.services.length < logMaxServices then
                if opened = false then
                  { handles := handles, handle := none, events := [] }
                else
                  { handles :=
                      { handles with
                          services := handles.services ++
                            [{ serviceName := CharArray.copy safe
                               handle := handles.issued }]
                          issued := handles.issued + 1 }
                    handle := some handles.issued
                    events := [.opened handles.issued] }
              else handles.getMainLogFile opened

/-- `heapstore_log_write` behind its tests. -/
def Handles.write (opened : Bool) (service : Option Bytes)
    (handles : Handles) : Handles × List HandleEvent :=
  let found := handles.getServiceLogFile opened service
  match found.handle with
  | none => (found.handles, found.events)
  | some handle => (found.handles, found.events ++ [.used handle])

/-- `heapstore_log_rotate` behind its test. -/
def Handles.rotate (replaced opened : Bool) (handles : Handles) :
    Handles × List HandleEvent :=
  let closing : List HandleEvent := handles.main.toList.map .closed
  if replaced = false ∨ opened = false then
    ({ handles with main := none }, closing)
  else
    ({ handles with
        main := some handles.issued
        issued := handles.issued + 1 }, closing ++ [.opened handles.issued])

/-- `heapstore_log_shutdown` behind its test. -/
def Handles.shutdown (handles : Handles) : Handles × List HandleEvent :=
  ({ handles with initialized := false, main := none, services := [] },
    handles.owned.map .closed)

/-! ### Threads -/

inductive LogPlace where
  | outside
  | writing (service : Option Bytes)
  | rotating
  deriving DecidableEq

/-- The thread that starts and stops the module. -/
inductive Keeper where
  | resting
  | starting
  | stopping
  deriving DecidableEq

/-- `lost` are the files whose only pointer a start has overwritten. -/
structure LogThreads (Thread : Type*) where
  handles : Handles
  place : Thread → LogPlace
  keeper : Keeper
  lost : List Nat

def logThreadsStart (Thread : Type*) : LogThreads Thread where
  handles := { initialized := false, main := none, services := [], issued := 0 }
  place := fun _ => .outside
  keeper := .resting
  lost := []

/-- Each test and each section under the lock is one move; `admitted` is the
test of the level. -/
inductive LogMove (Thread : Type*) where
  | testWrite (thread : Thread) (service : Option Bytes) (admitted : Bool)
  | runWrite (thread : Thread) (opened : Bool)
  | testRotate (thread : Thread)
  | runRotate (thread : Thread) (replaced opened : Bool)
  | initOpen (opened : Bool)
  | initDone
  | testShutdown
  | runShutdown

section Moves

variable {Thread : Type*} [DecidableEq Thread]

/-- No thread is in a write or a rotation. -/
def LogThreads.Calm (state : LogThreads Thread) : Prop :=
  ∀ thread, state.place thread = .outside

instance [Fintype Thread] (state : LogThreads Thread) : Decidable state.Calm :=
  inferInstanceAs (Decidable (∀ thread, state.place thread = .outside))

def LogThreads.enter (state : LogThreads Thread) (thread : Thread)
    (place : LogPlace) : LogThreads Thread :=
  { state with place := Function.update state.place thread place }

/-- A section of a call under the lock, after which the call returns. -/
def LogThreads.leave (state : LogThreads Thread) (thread : Thread)
    (ran : Handles × List HandleEvent) :
    LogThreads Thread × List HandleEvent :=
  ({ state.enter thread .outside with handles := ran.1 }, ran.2)

def logThreadsStep [Fintype Thread] :
    Machine (LogThreads Thread) (LogMove Thread) (List HandleEvent) :=
  fun state move =>
    match move with
    | .testWrite thread service admitted =>
        if state.place thread = .outside ∧ state.handles.initialized = true ∧
            admitted = true then
          (state.enter thread (.writing service), [])
        else (state, [])
    | .runWrite thread opened =>
        match state.place thread with
        | .writing service =>
            state.leave thread (state.handles.write opened service)
        | _ => (state, [])
    | .testRotate thread =>
        if state.place thread = .outside ∧ state.handles.initialized = true then
          (state.enter thread .rotating, [])
        else (state, [])
    | .runRotate thread replaced opened =>
        match state.place thread with
        | .rotating =>
            state.leave thread (state.handles.rotate replaced opened)
        | _ => (state, [])
    | .initOpen opened =>
        if state.keeper ≠ .resting ∨ state.handles.initialized = true ∨
            ¬state.Calm then
          (state, [])
        else
          -- The pointer is assigned whatever it held before.
          let lost := state.lost ++ state.handles.main.toList
          if opened = false then
            ({ state with
                handles := { state.handles with main := none }
                lost := lost }, [])
          else
            ({ state with
                handles :=
                  { state.handles with
                      main := some state.handles.issued
                      issued := state.handles.issued + 1 }
                keeper := .starting
                lost := lost }, [.opened state.handles.issued])
    | .initDone =>
        if state.keeper = .starting then
          ({ state with
              handles := { state.handles with initialized := true }
              keeper := .resting }, [])
        else (state, [])
    | .testShutdown =>
        if state.keeper = .resting ∧ state.handles.initialized = true then
          ({ state with keeper := .stopping }, [])
        else (state, [])
    | .runShutdown =>
        if state.keeper = .stopping then
          let ran := state.handles.shutdown
          ({ state with handles := ran.1, keeper := .resting }, ran.2)
        else (state, [])

end Moves

/-! ### Each section accounts for its handles -/

/-- What a section does can be done to the open files, and the pointers list
the files that are open afterwards; `lost` are those nobody points to. -/
def Accounts (before : Handles) (ran : Handles × List HandleEvent) : Prop :=
  ∀ live lost, Lists before.issued live (before.owned ++ lost) →
    ∃ after, reads live ran.2 = some after ∧
      Lists ran.1.issued after (ran.1.owned ++ lost)

def FoundHandle.ran (found : FoundHandle) : Handles × List HandleEvent :=
  (found.handles, found.events)

section Sections

variable {handles : Handles}

theorem accounts_idle : Accounts handles (handles, []) :=
  fun live _ lists => ⟨live, rfl, lists⟩

/-- A file that is found is one of those pointed to. -/
structure Finds (before : Handles) (found : FoundHandle) : Prop where
  accounts : Accounts before found.ran
  owned : ∀ handle, found.handle = some handle → handle ∈ found.handles.owned

theorem finds_none : Finds handles
    { handles := handles, handle := none, events := [] } where
  accounts := accounts_idle
  owned := nofun

theorem finds_known {handle : Nat} (known : handle ∈ handles.owned) :
    Finds handles
      { handles := handles, handle := some handle, events := [] } where
  accounts := accounts_idle
  owned := by
    rintro other ⟨⟩
    exact known

theorem finds_opened {next : Handles} (issued : next.issued = handles.issued + 1)
    (added : next.owned.Perm (handles.issued :: handles.owned)) :
    Finds handles
      { handles := next
        handle := some handles.issued
        events := [.opened handles.issued] } where
  accounts := by
    intro live lost lists
    obtain ⟨read, listed⟩ := lists.open_
    refine ⟨_, read, ?_⟩
    change Lists next.issued _ (next.owned ++ lost)
    rw [issued]
    exact listed.perm (added.symm.append_right lost)
  owned := by
    rintro other ⟨⟩
    exact added.mem_iff.mpr List.mem_cons_self

theorem getMain_finds (opened : Bool) :
    Finds handles (handles.getMainLogFile opened) := by
  unfold Handles.getMainLogFile
  split
  · exact finds_none
  · cases main : handles.main with
    | some handle =>
        simp only
        refine finds_known ?_
        unfold Handles.owned
        rw [main]
        exact List.mem_cons_self
    | none =>
        simp only
        split
        · exact finds_none
        · refine finds_opened rfl ?_
          unfold Handles.owned
          rw [main]
          exact List.Perm.refl _

theorem getService_finds (opened : Bool) (service : Option Bytes) :
    Finds handles (handles.getServiceLogFile opened service) := by
  unfold Handles.getServiceLogFile
  split
  · exact getMain_finds opened
  · exact getMain_finds opened
  · split
    · exact finds_none
    · split
      · next entry found =>
          apply finds_known
          have member := List.mem_of_find?_eq_some found
          exact List.mem_append_right _ (List.mem_map_of_mem member)
      · split
        · split
          · exact finds_none
          · refine finds_opened rfl ?_
            unfold Handles.owned
            rw [List.map_append, ← List.append_assoc]
            exact List.perm_append_comm
        · exact getMain_finds opened

theorem write_accounts (opened : Bool) (service : Option Bytes) :
    Accounts handles (handles.write opened service) := by
  have finds := @getService_finds handles opened service
  unfold Handles.write
  simp only
  cases found : (handles.getServiceLogFile opened service).handle with
  | none => exact finds.accounts
  | some handle =>
      intro live lost lists
      obtain ⟨after, read, listed⟩ := finds.accounts live lost lists
      refine ⟨after, ?_, listed⟩
      have member := List.mem_append_left lost (finds.owned handle found)
      rw [reads_append]
      change (reads live (handles.getServiceLogFile opened service).ran.2).bind _ = _
      rw [read]
      exact listed.use member

theorem rotate_accounts (replaced opened : Bool) :
    Accounts handles (handles.rotate replaced opened) := by
  intro live lost lists
  have closing : Lists handles.issued live (handles.main.toList ++
      (handles.services.map HandledService.handle ++ lost)) := by
    rw [← List.append_assoc]
    exact lists
  obtain ⟨after, read, left⟩ := closing.closeAll
  unfold Handles.rotate
  simp only
  split
  · exact ⟨after, read, left⟩
  · obtain ⟨reopened, listed⟩ := left.open_
    refine ⟨_, ?_, listed⟩
    rw [reads_append, read]
    exact reopened

theorem shutdown_accounts : Accounts handles handles.shutdown := by
  intro live lost lists
  obtain ⟨after, read, left⟩ := lists.closeAll
  exact ⟨after, read, left⟩

end Sections

/-! ### Calls that nobody interrupts -/

/-- The module state without the numbers of the handles. -/
structure Handles.Shows (handles : Handles) (log : LogState) : Prop where
  initialized : handles.initialized = log.initialized
  main : handles.main.isSome = log.mainLogFile.isSome
  services : handles.services.map HandledService.serviceName =
    log.serviceLogs.map ServiceLog.serviceName

section Uninterrupted

variable {handles : Handles} {logger : Logger}

/-- Both look the file up alike and are left alike. -/
def FoundHandle.Shows (found : FoundHandle) (other : Logger × Option Bytes) :
    Prop :=
  found.handles.Shows other.1.log ∧ found.handle.isSome = other.2.isSome

theorem getMainLogFile_shows (shows : handles.Shows logger.log)
    (calls : WriteCalls) :
    (handles.getMainLogFile calls.opened).Shows
      (getMainLogFile calls logger) := by
  unfold Handles.getMainLogFile getMainLogFile
  rw [shows.initialized]
  split
  · exact ⟨shows, rfl⟩
  · have main := shows.main
    cases here : handles.main with
    | some handle =>
        cases there : logger.log.mainLogFile with
        | some path => exact ⟨shows, rfl⟩
        | none =>
            rw [here, there] at main
            cases main
    | none =>
        cases there : logger.log.mainLogFile with
        | some path =>
            rw [here, there] at main
            cases main
        | none =>
            simp only
            split
            · exact ⟨⟨shows.initialized, shows.main, shows.services⟩, rfl⟩
            · exact ⟨⟨rfl, rfl, shows.services⟩, rfl⟩

theorem getServiceLogFile_shows (shows : handles.Shows logger.log)
    (calls : WriteCalls) (service : Option Bytes) :
    (handles.getServiceLogFile calls.opened service).Shows
      (getServiceLogFile calls service logger) := by
  have looked : ∀ safe : Bytes,
      (handles.services.find? fun entry =>
          entry.serviceName.text = safe).isSome =
        (logger.log.serviceLogs.find? fun entry =>
          entry.serviceName.text = safe).isSome := by
    intro safe
    have same := congrArg
      (fun names => (names.find? fun name : CharArray 64 =>
        decide (name.text = safe)).isSome) shows.services
    simp only [List.find?_map, Option.isSome_map] at same
    exact same
  have counted : handles.services.length = logger.log.serviceLogs.length := by
    have same := congrArg List.length shows.services
    rwa [List.length_map, List.length_map] at same
  unfold Handles.getServiceLogFile getServiceLogFile
  cases service with
  | none => exact getMainLogFile_shows shows calls
  | some input =>
      cases input with
      | nil => exact getMainLogFile_shows shows calls
      | cons byte rest =>
          simp only
          cases pathClean 64 (byte :: rest) with
          | none => exact ⟨shows, rfl⟩
          | some safe =>
              simp only
              have known := looked safe
              cases here : handles.services.find? fun entry =>
                  entry.serviceName.text = safe with
              | some entry =>
                  rw [here] at known
                  obtain ⟨other, there⟩ :=
                    Option.isSome_iff_exists.mp known.symm
                  rw [there]
                  exact ⟨shows, rfl⟩
              | none =>
                  rw [here] at known
                  rw [Option.not_isSome_iff_eq_none.mp
                    (Bool.eq_false_iff.mp known.symm), counted]
                  simp only
                  split
                  · split
                    · exact ⟨shows, rfl⟩
                    · refine ⟨⟨shows.initialized, shows.main, ?_⟩, rfl⟩
                      simp only [List.map_append, shows.services]
                      rfl
                  · exact getMainLogFile_shows shows calls

variable {Thread : Type*} [DecidableEq Thread] [Fintype Thread]
  {state : LogThreads Thread} {thread : Thread}

/-- A write whose test and section follow each other is `logWrite`. -/
theorem logWrite_shows (outside : state.place thread = .outside)
    (shows : state.handles.Shows logger.log) (calls : WriteCalls)
    (level : Level) (service traceId : Option Bytes) (place : SourcePlace)
    (printed : Bytes) :
    (final logThreadsStep state
        [.testWrite thread service (decide (level ≤ logger.log.logLevel)),
          .runWrite thread calls.opened]).handles.Shows
      (logWrite calls level service traceId place printed logger).1.log := by
  have up := shows.initialized
  simp only [final_cons, final_nil, logThreadsStep, outside, true_and, logWrite,
    decide_eq_true_eq]
  cases started : logger.log.initialized with
  | false =>
      rw [started] at up
      simp only [up, Bool.false_eq_true, false_and, if_false, if_true, outside]
      exact shows
  | true =>
      rw [started] at up
      simp only [up, true_and, Bool.true_eq_false, if_false]
      by_cases admitted : level ≤ logger.log.logLevel
      · have found := getServiceLogFile_shows shows calls service
        have through : ¬level > logger.log.logLevel := UInt32.not_lt.mpr admitted
        simp only [admitted, through, if_true, if_false, LogThreads.enter,
          Function.update_self, LogThreads.leave, Handles.write]
        cases (getServiceLogFile calls service logger).2 <;>
          split <;> exact found.1
      · have held : level > logger.log.logLevel := UInt32.not_le.mp admitted
        simp only [admitted, held, if_true, if_false, outside]
        exact shows

/-- A rotation whose test and section follow each other is `logRotate`. -/
theorem logRotate_shows (outside : state.place thread = .outside)
    (shows : state.handles.Shows logger.log) (clock : CivilTime.LocalClock)
    (calls : RotateCalls) :
    (final logThreadsStep state
        [.testRotate thread,
          .runRotate thread
            (decide (¬(calls.replaced = false ∨
              logger.disk (mainLogPath calls.base) = none)))
            calls.opened]).handles.Shows
      (logRotate clock calls logger).1.log := by
  have up := shows.initialized
  simp only [final_cons, final_nil, logThreadsStep, outside, true_and, logRotate]
  cases started : logger.log.initialized with
  | false =>
      rw [started] at up
      simp only [up, Bool.false_eq_true, if_false, if_true, outside]
      exact shows
  | true =>
      rw [started] at up
      simp only [up, if_true, Bool.true_eq_false, if_false, LogThreads.enter,
        Function.update_self, LogThreads.leave, Handles.rotate,
        decide_eq_false_iff_not, not_not]
      by_cases fails : calls.replaced = false ∨
          logger.disk (mainLogPath calls.base) = none
      · rw [if_pos (Or.inl fails), if_pos fails]
        exact ⟨rfl, rfl, shows.services⟩
      · rw [if_neg fails]
        by_cases opened : calls.opened = false
        · rw [if_pos (Or.inr opened), if_pos opened]
          exact ⟨rfl, rfl, shows.services⟩
        · rw [if_neg (not_or.mpr ⟨fails, opened⟩), if_neg opened]
          exact ⟨rfl, rfl, shows.services⟩

theorem logShutdown_shows (resting : state.keeper = .resting)
    (shows : state.handles.Shows logger.log) :
    (final logThreadsStep state [.testShutdown, .runShutdown]).handles.Shows
      (logShutdown logger.log) := by
  have up := shows.initialized
  simp only [final_cons, final_nil, logThreadsStep, resting, true_and,
    logShutdown]
  cases started : logger.log.initialized with
  | false =>
      rw [started] at up
      simp only [up, Bool.false_eq_true, if_false, resting, reduceCtorEq]
      exact shows
  | true =>
      rw [started] at up
      simp only [up, if_true]
      exact ⟨rfl, rfl, rfl⟩

theorem logInit_shows (resting : state.keeper = .resting) (calm : state.Calm)
    (shows : state.handles.Shows logger.log) (env : Option Bytes)
    (dataDir : Bytes) (opened : Bool) :
    (final logThreadsStep state [.initOpen opened, .initDone]).handles.Shows
      (logInit env dataDir opened logger.log logger.disk).1 := by
  have up := shows.initialized
  simp only [final_cons, final_nil, logThreadsStep, resting, logInit]
  cases started : logger.log.initialized with
  | true =>
      rw [started] at up
      simp only [up, true_or, or_true, if_true, resting, reduceCtorEq, if_false]
      exact shows
  | false =>
      rw [started] at up
      simp only [up, ne_eq, not_true_eq_false, Bool.false_eq_true, or_false,
        calm, if_false]
      cases opened with
      | false =>
          simp only [if_true, reduceCtorEq, if_false]
          exact ⟨rfl, rfl, shows.services⟩
      | true =>
          simp only [Bool.true_eq_false, if_false, if_true]
          exact ⟨rfl, rfl, shows.services⟩

end Uninterrupted

/-! ### Interleavings -/

section Runs

variable {Thread : Type*} [DecidableEq Thread] [Fintype Thread]

/-- The moves so far can be made, and leave open what is pointed to and what
was lost. -/
def Accounted (state : LogThreads Thread) (trace : List (List HandleEvent)) :
    Prop :=
  ∃ live, reads ∅ trace.flatten = some live ∧
    Lists state.handles.issued live (state.handles.owned ++ state.lost)

omit [DecidableEq Thread] [Fintype Thread] in
theorem Accounted.move {state next : LogThreads Thread}
    {trace : List (List HandleEvent)} {events : List HandleEvent}
    (accounted : Accounted state trace)
    (moved : ∀ live,
      Lists state.handles.issued live (state.handles.owned ++ state.lost) →
      ∃ after, reads live events = some after ∧
        Lists next.handles.issued after (next.handles.owned ++ next.lost)) :
    Accounted next (trace ++ [events]) := by
  obtain ⟨live, read, lists⟩ := accounted
  obtain ⟨after, further, listed⟩ := moved live lists
  refine ⟨after, ?_, listed⟩
  rw [List.flatten_append, List.flatten_singleton, reads_append, read]
  exact further

omit [DecidableEq Thread] [Fintype Thread] in
theorem Accounted.same {state next : LogThreads Thread}
    {trace : List (List HandleEvent)} (accounted : Accounted state trace)
    (issued : next.handles.issued = state.handles.issued)
    (owned : next.handles.owned = state.handles.owned)
    (lost : next.lost = state.lost) : Accounted next (trace ++ [[]]) := by
  apply accounted.move
  intro live lists
  refine ⟨live, rfl, ?_⟩
  rw [issued, owned, lost]
  exact lists

theorem accounted_step (state : LogThreads Thread)
    (trace : List (List HandleEvent)) (move : LogMove Thread)
    (accounted : Accounted state trace) :
    Accounted (logThreadsStep state move).1
      (trace ++ [(logThreadsStep state move).2]) := by
  have idle : Accounted state (trace ++ [[]]) := accounted.same rfl rfl rfl
  cases move with
  | testWrite thread service admitted =>
      simp only [logThreadsStep]
      split
      · exact accounted.same rfl rfl rfl
      · exact idle
  | testRotate thread =>
      simp only [logThreadsStep]
      split
      · exact accounted.same rfl rfl rfl
      · exact idle
  | runWrite thread opened =>
      simp only [logThreadsStep]
      split
      · exact accounted.move fun live => write_accounts opened _ live state.lost
      · exact idle
  | runRotate thread replaced opened =>
      simp only [logThreadsStep]
      split
      · exact accounted.move fun live =>
          rotate_accounts replaced opened live state.lost
      · exact idle
  | initOpen opened =>
      simp only [logThreadsStep]
      -- The file that main pointed to moves to the lost ones.
      have moved : (state.handles.owned ++ state.lost).Perm
          (state.handles.services.map HandledService.handle ++
            (state.lost ++ state.handles.main.toList)) := by
        unfold Handles.owned
        rw [List.append_assoc, ← List.append_assoc _ state.lost]
        exact List.perm_append_comm
      split
      · exact idle
      split
      · apply accounted.move
        intro live lists
        exact ⟨live, rfl, lists.perm moved⟩
      · apply accounted.move
        intro live lists
        obtain ⟨read, listed⟩ := (lists.perm moved).open_
        exact ⟨_, read, listed⟩
  | initDone =>
      simp only [logThreadsStep]
      split
      · exact accounted.same rfl rfl rfl
      · exact idle
  | testShutdown =>
      simp only [logThreadsStep]
      split
      · exact accounted.same rfl rfl rfl
      · exact idle
  | runShutdown =>
      simp only [logThreadsStep]
      split
      · exact accounted.move fun live => shutdown_accounts live state.lost
      · exact idle

/-- What runs under the lock runs while the module is up. -/
def RunsUp (state : LogThreads Thread) : LogMove Thread → Prop
  | .runWrite thread _ =>
      state.place thread ≠ .outside → state.handles.initialized = true
  | .runRotate thread _ _ =>
      state.place thread ≠ .outside → state.handles.initialized = true
  | _ => True

/-- Nothing is lost, and a module that is down has no open files, but for the
main file of a start that is not done. -/
structure Tidy (state : LogThreads Thread) : Prop where
  kept : state.lost = []
  starting : state.keeper = .starting →
    state.handles.initialized = false ∧ state.handles.services = []
  stopping : state.keeper = .stopping → state.handles.initialized = true
  down : state.handles.initialized = false → state.keeper ≠ .starting →
    state.handles.owned = []

theorem getMain_initialized (opened : Bool) (handles : Handles) :
    (handles.getMainLogFile opened).handles.initialized = handles.initialized := by
  unfold Handles.getMainLogFile
  split
  · rfl
  · split
    · rfl
    · split <;> rfl

theorem getService_initialized (opened : Bool) (service : Option Bytes)
    (handles : Handles) :
    (handles.getServiceLogFile opened service).handles.initialized =
      handles.initialized := by
  unfold Handles.getServiceLogFile
  split
  · exact getMain_initialized opened handles
  · exact getMain_initialized opened handles
  · split
    · rfl
    · split
      · rfl
      · split
        · split <;> rfl
        · exact getMain_initialized opened handles

theorem write_initialized (opened : Bool) (service : Option Bytes)
    (handles : Handles) :
    (handles.write opened service).1.initialized = handles.initialized := by
  unfold Handles.write
  simp only
  split
  · exact getService_initialized opened service handles
  · exact getService_initialized opened service handles

theorem rotate_initialized (replaced opened : Bool) (handles : Handles) :
    (handles.rotate replaced opened).1.initialized = handles.initialized := by
  unfold Handles.rotate
  simp only
  split <;> rfl

omit [Fintype Thread] in
theorem Tidy.leave {state : LogThreads Thread} (tidy : Tidy state)
    (up : state.handles.initialized = true) {thread : Thread}
    {ran : Handles × List HandleEvent}
    (still : ran.1.initialized = state.handles.initialized) :
    Tidy (state.leave thread ran).1 := by
  have running : ran.1.initialized = true := still.trans up
  constructor
  · exact tidy.kept
  · intro starting
    rw [(tidy.starting starting).1] at up
    cases up
  · exact fun _ => running
  · intro stopped
    change ran.1.initialized = false at stopped
    rw [running] at stopped
    cases stopped

/-- A start finds a stopped module, which has no open file. -/
theorem Tidy.initOpen {state : LogThreads Thread} (tidy : Tidy state)
    (opened : Bool) :
    Tidy (logThreadsStep state (.initOpen opened)).1 := by
  simp only [logThreadsStep]
  split
  · exact tidy
  · next ready =>
      obtain ⟨resting, down⟩ := not_or.mp ready
      have stopped := Bool.eq_false_iff.mpr (not_or.mp down).1
      have notStarting : state.keeper ≠ .starting := by
        rw [not_not.mp resting]
        nofun
      obtain ⟨noMain, noServices⟩ := List.append_eq_nil_iff.mp
        (tidy.down stopped notStarting)
      have services := List.map_eq_nil_iff.mp noServices
      split
      · constructor
        · exact List.append_eq_nil_iff.mpr ⟨tidy.kept, noMain⟩
        · exact fun starting => absurd starting notStarting
        · exact tidy.stopping
        · exact fun _ _ => noServices
      · constructor
        · exact List.append_eq_nil_iff.mpr ⟨tidy.kept, noMain⟩
        · exact fun _ => ⟨stopped, services⟩
        · nofun
        · exact fun _ starting => absurd rfl starting

theorem tidy_step (state : LogThreads Thread) (move : LogMove Thread)
    (tidy : Tidy state) (runsUp : RunsUp state move) :
    Tidy (logThreadsStep state move).1 := by
  have entered : ∀ thread place, Tidy (state.enter thread place) :=
    fun _ _ => ⟨tidy.kept, tidy.starting, tidy.stopping, tidy.down⟩
  cases move with
  | testWrite thread service admitted =>
      simp only [logThreadsStep]
      split
      · exact entered _ _
      · exact tidy
  | testRotate thread =>
      simp only [logThreadsStep]
      split
      · exact entered _ _
      · exact tidy
  | runWrite thread opened =>
      simp only [logThreadsStep]
      split
      · next service here =>
          have up := runsUp (by rw [here]; nofun)
          exact tidy.leave up (write_initialized _ _ _)
      · exact tidy
  | runRotate thread replaced opened =>
      simp only [logThreadsStep]
      split
      · next here =>
          have up := runsUp (by rw [here]; nofun)
          exact tidy.leave up (rotate_initialized _ _ _)
      · exact tidy
  | initOpen opened => exact tidy.initOpen opened
  | initDone =>
      simp only [logThreadsStep]
      split
      · exact ⟨tidy.kept, nofun, nofun, nofun⟩
      · exact tidy
  | testShutdown =>
      simp only [logThreadsStep]
      split
      · next ready =>
          refine ⟨tidy.kept, nofun, fun _ => ready.2, ?_⟩
          intro stopped
          change state.handles.initialized = false at stopped
          rw [ready.2] at stopped
          cases stopped
      · exact tidy
  | runShutdown =>
      simp only [logThreadsStep]
      split
      · exact ⟨tidy.kept, nofun, nofun, fun _ _ => rfl⟩
      · exact tidy

/-- However writes, rotations and stops interleave between the starts, no file
is written to or closed once it was closed, and the open files are those pointed
to and those that a start has overwritten.  Where no section of a write or a
rotation runs on a stopped module, none is overwritten, and a stopped module has
no open files. -/
theorem log_handles_accounted (moves : List (LogMove Thread)) :
    let state := final logThreadsStep (logThreadsStart Thread) moves
    ∃ live, reads ∅ (answers logThreadsStep (logThreadsStart Thread)
          moves).flatten = some live ∧
      live = (state.handles.owned ++ state.lost).toFinset ∧
      (Meets logThreadsStep RunsUp (logThreadsStart Thread) moves →
        state.lost = [] ∧
          (state.handles.initialized = false → state.keeper ≠ .starting →
            live = ∅)) := by
  intro state
  obtain ⟨live, read, lists⟩ := traced_invariant logThreadsStep Accounted
    accounted_step (logThreadsStart Thread) [] moves
    ⟨∅, rfl, lists_nil 0⟩
  refine ⟨live, read, lists.same.symm, ?_⟩
  intro runsUp
  have tidy : Tidy state := guarded_invariant logThreadsStep RunsUp Tidy
    tidy_step (logThreadsStart Thread) moves
    ⟨rfl, nofun, nofun, fun _ _ => rfl⟩ runsUp
  refine ⟨tidy.kept, ?_⟩
  intro stopped notStarting
  rw [← lists.same]
  change (state.handles.owned ++ state.lost).toFinset = ∅
  rw [tidy.down stopped notStarting, tidy.kept]
  rfl

/-- A rotation that was tested before a stop and runs after it opens a file
that the next start loses. -/
theorem stale_rotation_loses_file :
    (final logThreadsStep (logThreadsStart Unit)
      [.initOpen true, .initDone, .testRotate (), .testShutdown, .runShutdown,
        .runRotate () true true, .initOpen true]).lost = [1] := by
  decide

end Runs

end Heapstore.Log
