/-
Calls that run under one lock.

A call looks at the shared state once before it takes the lock, and may give up
there; under the lock it touches the state one access at a time.  However the
accesses of any number of threads interleave, a machine that makes each call at
once explains them: each call acts at one moment between its start and its
return, and answers what the machine answers there.
-/

import Heapstore.Foundation.OperationRun
import Mathlib.Data.List.ReduceOption
import Mathlib.Logic.Function.Basic

namespace LockedCalls

open OperationRun

structure Code (Shared Call Place Answer : Type*) where
  /-- Before the lock: where the call starts under it, or its answer when it
  gives up. -/
  gate : Shared → Call → Place ⊕ Answer
  /-- One access.  The lock is given back with the answer. -/
  access : Place → Shared → Shared × (Place ⊕ Answer)

inductive Phase (Call Place Answer : Type*) where
  | resting
  | called (call : Call)
  | waiting (call : Call) (place : Place)
  | inside (place : Place)
  | answered (answer : Answer)

structure World (Thread Shared Call Place Answer : Type*) where
  shared : Shared
  holder : Option Thread
  phase : Thread → Phase Call Place Answer

inductive Move (Thread Call : Type*) where
  | invoke (thread : Thread) (call : Call)
  | go (thread : Thread)

inductive Event (Thread Call Answer : Type*) where
  | called (thread : Thread) (call : Call)
  | acts (thread : Thread) (call : Call)
  | returned (thread : Thread) (answer : Answer)
  deriving DecidableEq

variable {Thread Shared Call Place Answer Model : Type*}

def Event.thread : Event Thread Call Answer → Thread
  | .called thread _ | .acts thread _ | .returned thread _ => thread

def worldStart (shared : Shared) : World Thread Shared Call Place Answer where
  shared := shared
  holder := none
  phase _ := .resting

section Steps

variable [DecidableEq Thread]

def World.put (world : World Thread Shared Call Place Answer) (thread : Thread)
    (phase : Phase Call Place Answer) : World Thread Shared Call Place Answer :=
  { world with phase := Function.update world.phase thread phase }

/-- A thread goes on where it stands; one that waits for a lock in use stays. -/
def lockedStep (code : Code Shared Call Place Answer) :
    Machine (World Thread Shared Call Place Answer) (Move Thread Call)
      (Option (Event Thread Call Answer)) :=
  fun world move =>
    match move with
    | .invoke thread call =>
        match world.phase thread with
        | .resting =>
            (world.put thread (.called call), some (.called thread call))
        | _ => (world, none)
    | .go thread =>
        match world.phase thread with
        | .resting => (world, none)
        | .called call =>
            match code.gate world.shared call with
            | .inr answer =>
                (world.put thread (.answered answer), some (.acts thread call))
            | .inl place => (world.put thread (.waiting call place), none)
        | .waiting call place =>
            match world.holder with
            | some _ => (world, none)
            | none =>
                ({ world.put thread (.inside place) with
                    holder := some thread }, some (.acts thread call))
        | .inside place =>
            match code.access place world.shared with
            | (shared, .inl next) =>
                ({ world.put thread (.inside next) with
                    shared := shared }, none)
            | (shared, .inr answer) =>
                ({ world.put thread (.answered answer) with
                    shared := shared, holder := none }, none)
        | .answered answer =>
            (world.put thread .resting, some (.returned thread answer))

end Steps

/-! ### What explains a run -/

/-- The calls in the order in which they act. -/
def order (trace : List (Event Thread Call Answer)) : List Call :=
  trace.filterMap fun event =>
    match event with
    | .acts _ call => some call
    | _ => none

/-- The last event of its thread. -/
def Latest (event : Event Thread Call Answer)
    (trace : List (Event Thread Call Answer)) : Prop :=
  ∃ before after, trace = before ++ event :: after ∧
    ∀ other ∈ after, other.thread ≠ event.thread

section Explaining

variable (machine : Machine Model Call Answer) (start : Model)

/-- The state that the calls lead to one after the other. -/
def serial (trace : List (Event Thread Call Answer)) : Model :=
  final machine start (order trace)

/-- The thread acted last with this call, and the answer is the one the machine
gives after the calls that acted before. -/
def Acted (thread : Thread) (call : Call) (answer : Answer)
    (trace : List (Event Thread Call Answer)) : Prop :=
  ∃ before after, trace = before ++ .acts thread call :: after ∧
    (∀ other ∈ after, other.thread ≠ thread) ∧
    answer = (machine (serial machine start before) call).2

/-- A call acts after its start, with no event of its thread between the two,
and returns after it acted, again with none between. -/
def Explained (before : List (Event Thread Call Answer)) :
    Event Thread Call Answer → Prop
  | .called _ _ => True
  | .acts thread call => Latest (.called thread call) before
  | .returned thread answer => ∃ call, Acted machine start thread call answer before

def Linearizes (trace : List (Event Thread Call Answer)) : Prop :=
  ∀ before event, before ++ [event] <+: trace → Explained machine start before event

variable {machine start} {trace : List (Event Thread Call Answer)}

theorem linearizes_nil :
    Linearizes machine start ([] : List (Event Thread Call Answer)) := by
  intro before event isPrefix
  exact absurd (List.prefix_nil.mp isPrefix) (List.concat_ne_nil event before)

theorem Linearizes.concat {event : Event Thread Call Answer}
    (linearizes : Linearizes machine start trace)
    (explained : Explained machine start trace event) :
    Linearizes machine start (trace ++ [event]) := by
  intro before other isPrefix
  rcases List.prefix_concat_iff.mp isPrefix with whole | shorter
  · obtain ⟨rfl, last⟩ := List.append_inj' whole rfl
    cases last
    exact explained
  · exact linearizes before other shorter

theorem Latest.concat {event other : Event Thread Call Answer}
    (latest : Latest event trace) (apart : other.thread ≠ event.thread) :
    Latest event (trace ++ [other]) := by
  obtain ⟨before, after, rfl, quiet⟩ := latest
  refine ⟨before, after ++ [other], List.append_assoc _ _ _, ?_⟩
  intro later member
  rcases List.mem_append.mp member with inside | last
  · exact quiet later inside
  · rwa [List.mem_singleton.mp last]

theorem latest_last (event : Event Thread Call Answer) :
    Latest event (trace ++ [event]) :=
  ⟨trace, [], rfl, List.forall_mem_nil _⟩

theorem Acted.concat {thread : Thread} {call : Call} {answer : Answer}
    {other : Event Thread Call Answer}
    (acted : Acted machine start thread call answer trace)
    (apart : other.thread ≠ thread) :
    Acted machine start thread call answer (trace ++ [other]) := by
  obtain ⟨before, after, rfl, quiet, same⟩ := acted
  refine ⟨before, after ++ [other], List.append_assoc _ _ _, ?_, same⟩
  intro later member
  rcases List.mem_append.mp member with inside | last
  · exact quiet later inside
  · rwa [List.mem_singleton.mp last]

theorem acted_last (thread : Thread) (call : Call) :
    Acted machine start thread call
      (machine (serial machine start trace) call).2
      (trace ++ [.acts thread call]) :=
  ⟨trace, [], rfl, List.forall_mem_nil _, rfl⟩

theorem serial_acts (thread : Thread) (call : Call) :
    serial machine start (trace ++ [.acts thread call]) =
      (machine (serial machine start trace) call).1 := by
  unfold serial order
  rw [List.filterMap_append, final_append]
  rfl

theorem serial_called (thread : Thread) (call : Call) :
    serial machine start (trace ++ [.called thread call]) =
      serial machine start trace := by
  unfold serial order
  rw [List.filterMap_append, final_append]
  rfl

theorem serial_returned (thread : Thread) (answer : Answer) :
    serial machine start (trace ++ [.returned thread answer]) =
      serial machine start trace := by
  unfold serial order
  rw [List.filterMap_append, final_append]
  rfl

/-- What one machine explains, every machine explains that it refines. -/
theorem Linearizes.refine {Abstract : Type*}
    {abstract : Machine Abstract Call Answer} {origin : Abstract}
    (Related : Model → Abstract → Prop)
    (step : ∀ model simple call, Related model simple →
      Related (machine model call).1 (abstract simple call).1 ∧
        (machine model call).2 = (abstract simple call).2)
    (related : Related start origin)
    (linearizes : Linearizes machine start trace) :
    Linearizes abstract origin trace := by
  intro before event isPrefix
  have explained := linearizes before event isPrefix
  cases event with
  | called _ _ => trivial
  | acts _ _ => exact explained
  | returned thread answer =>
      obtain ⟨call, earlier, after, split, quiet, same⟩ := explained
      have reached := (refinement machine abstract Related step start origin
        (order earlier) related).1
      exact ⟨call, earlier, after, split, quiet,
        same.trans (step _ _ call reached).2⟩

end Explaining

/-! ### Code against the machine -/

/-- The accesses from a place on, with those of no other thread between. -/
inductive Runs (access : Place → Shared → Shared × (Place ⊕ Answer)) :
    Place → Shared → Shared × Answer → Prop where
  | last {place : Place} {shared after : Shared} {answer : Answer}
      (ended : access place shared = (after, .inr answer)) :
      Runs access place shared (after, answer)
  | more {place next : Place} {shared between : Shared}
      {out : Shared × Answer}
      (went : access place shared = (between, .inl next))
      (rest : Runs access next between out) :
      Runs access place shared out

/-- The turns of a loop, each one access. -/
theorem Runs.loop {access : Place → Shared → Shared × (Place ⊕ Answer)}
    (places : Nat → Place) (states : Nat → Shared) {first last : Nat}
    (ordered : first ≤ last)
    (turn : ∀ index, first ≤ index → index < last →
      access (places index) (states index) =
        (states (index + 1), .inl (places (index + 1))))
    {out : Shared × Answer}
    (rest : Runs access (places last) (states last) out) :
    Runs access (places first) (states first) out := by
  obtain ⟨turns, rfl⟩ := Nat.exists_eq_add_of_le ordered
  induction turns with
  | zero => exact rest
  | succ turns ih =>
      have final := turn (first + turns) (Nat.le_add_right _ _)
        (Nat.lt_succ_self _)
      refine ih (Nat.le_add_right _ _) (fun index after before => ?_)
        (.more final rest)
      exact turn index after (Nat.lt_succ_of_lt before)

/-- Alone, the code does what the machine does to what the state shows, and
what it looks at before the lock is changed by no access. -/
structure Implements (code : Code Shared Call Place Answer)
    (view : Shared → Model) (machine : Machine Model Call Answer) : Prop where
  refuses : ∀ shared call answer, code.gate shared call = .inr answer →
    machine (view shared) call = (view shared, answer)
  runs : ∀ shared call place, code.gate shared call = .inl place → ∃ after,
    Runs code.access place shared (after, (machine (view shared) call).2) ∧
      view after = (machine (view shared) call).1
  steady : ∀ shared place other,
    code.gate (code.access place shared).1 other = code.gate shared other

/-- Accesses to a part of the state are accesses to the state. -/
theorem Runs.lift {Part Inner Reply : Type*}
    {inner : Inner → Part → Part × (Inner ⊕ Reply)}
    {access : Place → Shared → Shared × (Place ⊕ Answer)}
    (whole : Part → Shared) (places : Inner → Place) (gives : Reply → Answer)
    (accesses : ∀ place part, access (places place) (whole part) =
      (whole (inner place part).1, (inner place part).2.map places gives))
    {place : Inner} {part : Part} {out : Part × Reply}
    (runs : Runs inner place part out) :
    Runs access (places place) (whole part) (whole out.1, gives out.2) := by
  induction runs with
  | @last place part after reply ended =>
      apply Runs.last
      rw [accesses place part, ended]
      rfl
  | @more place next part between out went rest ih =>
      apply Runs.more _ ih
      rw [accesses place part, went]
      rfl

section Interleaving

variable {code : Code Shared Call Place Answer} {view : Shared → Model}
  {machine : Machine Model Call Answer} {start : Model}

theorem Implements.gate_runs (implements : Implements code view machine)
    {place : Place} {shared : Shared} {out : Shared × Answer}
    (runs : Runs code.access place shared out) (other : Call) :
    code.gate out.1 other = code.gate shared other := by
  induction runs with
  | @last place shared after answer ended =>
      have same := implements.steady shared place other
      rwa [ended] at same
  | @more place next shared between out went rest ih =>
      have same := implements.steady shared place other
      rw [went] at same
      exact ih.trans same

/-- What is known of a thread at its place in the code. -/
def Stands (code : Code Shared Call Place Answer) (view : Shared → Model)
    (machine : Machine Model Call Answer) (start : Model)
    (shared : Shared) (holder : Option Thread)
    (trace : List (Event Thread Call Answer)) (thread : Thread) :
    Phase Call Place Answer → Prop
  | .resting => True
  | .called call => Latest (.called thread call) trace
  | .waiting call place =>
      Latest (.called thread call) trace ∧ code.gate shared call = .inl place
  | .inside place =>
      holder = some thread ∧ ∃ call answer after,
        Acted machine start thread call answer trace ∧
        Runs code.access place shared (after, answer) ∧
        view after = serial machine start trace
  | .answered answer => ∃ call, Acted machine start thread call answer trace

/-- The lock is free and the state shows what the calls so far lead to, or the
thread that holds it will lead there by itself. -/
structure Holds (code : Code Shared Call Place Answer) (view : Shared → Model)
    (machine : Machine Model Call Answer) (start : Model)
    (world : World Thread Shared Call Place Answer)
    (trace : List (Event Thread Call Answer)) : Prop where
  linearizes : Linearizes machine start trace
  free : world.holder = none →
    view world.shared = serial machine start trace
  held : ∀ thread, world.holder = some thread →
    ∃ place, world.phase thread = .inside place
  stands : ∀ thread, Stands code view machine start world.shared world.holder
    trace thread (world.phase thread)

theorem holds_start (shared : Shared) :
    Holds code view machine (view shared)
      (worldStart shared : World Thread Shared Call Place Answer) [] where
  linearizes := linearizes_nil
  free _ := rfl
  held _ held := by cases held
  stands _ := trivial

variable {world : World Thread Shared Call Place Answer}
  {trace : List (Event Thread Call Answer)} {thread : Thread}
  {phase : Phase Call Place Answer} {shared after : Shared}
  {holder later : Option Thread}
  {event : Option (Event Thread Call Answer)}

/-- What a step of another thread leaves of a thread: it writes nothing the
thread looked at, and changes nothing under the thread's lock. -/
theorem Stands.other
    (stands : Stands code view machine start shared holder trace thread phase)
    (apart : ∀ seen, event = some seen → seen.thread ≠ thread)
    (gates : ∀ call, code.gate after call = code.gate shared call)
    (locked : holder = some thread →
      later = some thread ∧ after = shared ∧
        serial machine start (trace ++ event.toList) =
          serial machine start trace) :
    Stands code view machine start after later (trace ++ event.toList)
      thread phase := by
  have calls {call : Call} (latest : Latest (.called thread call) trace) :
      Latest (.called thread call) (trace ++ event.toList) := by
    cases event with
    | none => rwa [Option.toList_none, List.append_nil]
    | some seen => exact latest.concat (apart seen rfl)
  have acts {call : Call} {answer : Answer}
      (acted : Acted machine start thread call answer trace) :
      Acted machine start thread call answer (trace ++ event.toList) := by
    cases event with
    | none => rwa [Option.toList_none, List.append_nil]
    | some seen => exact acted.concat (apart seen rfl)
  cases phase with
  | resting => trivial
  | called call => exact calls stands
  | waiting call place => exact ⟨calls stands.1, (gates call).trans stands.2⟩
  | inside place =>
      obtain ⟨holds, call, answer, left, acted, runs, shows⟩ := stands
      obtain ⟨still, rfl, same⟩ := locked holds
      exact ⟨still, call, answer, left, acts acted, runs, shows.trans same.symm⟩
  | answered answer =>
      obtain ⟨call, acted⟩ := stands
      exact ⟨call, acts acted⟩

theorem Holds.idle (holds : Holds code view machine start world trace) :
    Holds code view machine start world
      (trace ++ (none : Option (Event Thread Call Answer)).toList) := by
  rwa [Option.toList_none, List.append_nil]

/-- What the calls lead to does not depend on a call that gives up before the
lock, whoever holds the lock meanwhile. -/
theorem Holds.refused (implements : Implements code view machine) {call : Call}
    {answer : Answer} (holds : Holds code view machine start world trace)
    (gate : code.gate world.shared call = .inr answer) :
    machine (serial machine start trace) call =
      (serial machine start trace, answer) := by
  cases holding : world.holder with
  | none =>
      rw [← holds.free holding]
      exact implements.refuses _ call answer gate
  | some owner =>
      obtain ⟨place, inside⟩ := holds.held owner holding
      have stands := holds.stands owner
      rw [inside] at stands
      obtain ⟨_, _, _, after, _, runs, shows⟩ := stands
      rw [← shows]
      apply implements.refuses
      rw [implements.gate_runs runs call]
      exact gate

variable [DecidableEq Thread]

/-- One thread goes on to another place; the rest is framed. -/
theorem Holds.advance
    (holds : Holds code view machine start world trace)
    (own : ∀ seen, event = some seen →
      seen.thread = thread ∧ Explained machine start trace seen)
    (gates : ∀ call, code.gate shared call = code.gate world.shared call)
    (locked : ∀ other ≠ thread, world.holder = some other →
      holder = some other ∧ shared = world.shared ∧
        serial machine start (trace ++ event.toList) =
          serial machine start trace)
    (free : holder = none →
      view shared = serial machine start (trace ++ event.toList))
    (held : ∀ other, holder = some other →
      (other = thread ∧ ∃ place, phase = .inside place) ∨
        (other ≠ thread ∧ world.holder = some other))
    (stands : Stands code view machine start shared holder
      (trace ++ event.toList) thread phase) :
    Holds code view machine start
      { world.put thread phase with shared := shared, holder := holder }
      (trace ++ event.toList) where
  linearizes := by
    cases event with
    | none =>
        rw [Option.toList_none, List.append_nil]
        exact holds.linearizes
    | some seen => exact holds.linearizes.concat (own seen rfl).2
  free := free
  held other holding := by
    change ∃ place, Function.update world.phase thread phase other = _
    rcases held other holding with ⟨rfl, inside⟩ | ⟨apart, before⟩
    · rwa [Function.update_self]
    · rw [Function.update_of_ne apart]
      exact holds.held other before
  stands other := by
    change Stands code view machine start shared holder _ other
      (Function.update world.phase thread phase other)
    by_cases same : other = thread
    · subst same
      rwa [Function.update_self]
    · rw [Function.update_of_ne same]
      apply (holds.stands other).other _ gates (locked other same)
      intro seen here
      rw [(own seen here).1]
      exact Ne.symm same

/-- A step outside the lock. -/
theorem Holds.outside (holds : Holds code view machine start world trace)
    (outside : ∀ place, world.phase thread ≠ .inside place)
    (own : ∀ seen, event = some seen →
      seen.thread = thread ∧ Explained machine start trace seen)
    (same : serial machine start (trace ++ event.toList) =
      serial machine start trace)
    (stands : Stands code view machine start world.shared world.holder
      (trace ++ event.toList) thread phase) :
    Holds code view machine start (world.put thread phase)
      (trace ++ event.toList) := by
  apply holds.advance own (fun _ => rfl)
    (fun _ _ holding => ⟨holding, rfl, same⟩)
    (fun unlocked => (holds.free unlocked).trans same.symm) _ stands
  intro other holding
  refine Or.inr ⟨?_, holding⟩
  rintro rfl
  obtain ⟨place, inside⟩ := holds.held other holding
  exact outside place inside

theorem holds_invoke (call : Call)
    (holds : Holds code view machine start world trace)
    (resting : world.phase thread = .resting) :
    Holds code view machine start (world.put thread (.called call))
      (trace ++ [.called thread call]) := by
  apply @Holds.outside _ _ _ _ _ _ code view machine start world trace thread
    (.called call) (some (.called thread call)) _ holds
  · intro _ inside
    rw [resting] at inside
    cases inside
  · rintro seen ⟨⟩
    exact ⟨rfl, trivial⟩
  · exact serial_called thread call
  · exact latest_last _

theorem holds_refused (implements : Implements code view machine) {call : Call}
    {answer : Answer} (holds : Holds code view machine start world trace)
    (called : world.phase thread = .called call)
    (gate : code.gate world.shared call = .inr answer) :
    Holds code view machine start (world.put thread (.answered answer))
      (trace ++ [.acts thread call]) := by
  have stands := holds.stands thread
  rw [called] at stands
  have refused := holds.refused implements gate
  apply @Holds.outside _ _ _ _ _ _ code view machine start world trace thread
    (.answered answer) (some (.acts thread call)) _ holds
  · intro _ inside
    rw [called] at inside
    cases inside
  · rintro seen ⟨⟩
    exact ⟨rfl, stands⟩
  · exact (serial_acts thread call).trans (congrArg Prod.fst refused)
  · have acted := @acted_last _ _ _ _ machine start trace thread call
    rw [refused] at acted
    exact ⟨call, acted⟩

theorem holds_admitted {call : Call} {place : Place}
    (holds : Holds code view machine start world trace)
    (called : world.phase thread = .called call)
    (gate : code.gate world.shared call = .inl place) :
    Holds code view machine start (world.put thread (.waiting call place))
      trace := by
  have stands := holds.stands thread
  rw [called] at stands
  have moved := @Holds.outside _ _ _ _ _ _ code view machine start world trace
    thread (.waiting call place) none _ holds
  simp only [Option.toList_none, List.append_nil] at moved
  apply moved
  · intro _ inside
    rw [called] at inside
    cases inside
  · exact nofun
  · trivial
  · exact ⟨stands, gate⟩

theorem holds_returned {answer : Answer}
    (holds : Holds code view machine start world trace)
    (answered : world.phase thread = .answered answer) :
    Holds code view machine start (world.put thread .resting)
      (trace ++ [.returned thread answer]) := by
  have stands := holds.stands thread
  rw [answered] at stands
  apply @Holds.outside _ _ _ _ _ _ code view machine start world trace thread
    .resting (some (.returned thread answer)) _ holds
  · intro _ inside
    rw [answered] at inside
    cases inside
  · rintro seen ⟨⟩
    exact ⟨rfl, stands⟩
  · exact serial_returned thread answer
  · trivial

/-- The call acts when it gets the lock: from here on it runs alone. -/
theorem holds_acquired (implements : Implements code view machine) {call : Call}
    {place : Place} (holds : Holds code view machine start world trace)
    (waiting : world.phase thread = .waiting call place)
    (unlocked : world.holder = none) :
    Holds code view machine start
      { world.put thread (.inside place) with holder := some thread }
      (trace ++ [.acts thread call]) := by
  have stands := holds.stands thread
  rw [waiting] at stands
  obtain ⟨latest, gate⟩ := stands
  obtain ⟨after, runs, shows⟩ := implements.runs world.shared call place gate
  rw [holds.free unlocked] at runs shows
  apply @Holds.advance _ _ _ _ _ _ code view machine start world trace thread
    (.inside place) world.shared (some thread)
    (some (.acts thread call)) _ holds
  · rintro seen ⟨⟩
    exact ⟨rfl, latest⟩
  · exact fun _ => rfl
  · intro other _ holding
    rw [unlocked] at holding
    cases holding
  · exact nofun
  · rintro other ⟨⟩
    exact Or.inl ⟨rfl, place, rfl⟩
  · exact ⟨rfl, call, _, after, acted_last thread call, runs,
      shows.trans (serial_acts thread call).symm⟩

/-- An access under the lock, the last one or not. -/
theorem holds_access (implements : Implements code view machine) {place : Place}
    (holds : Holds code view machine start world trace)
    (inside : world.phase thread = .inside place) :
    Holds code view machine start
      (lockedStep code world (.go thread)).1 trace := by
  have stands := holds.stands thread
  rw [inside] at stands
  obtain ⟨holding, call, answer, after, acted, runs, shows⟩ := stands
  have alone : ∀ other ≠ thread, world.holder ≠ some other := by
    intro other apart taken
    exact apart (Option.some.inj (taken.symm.trans holding))
  have steady := implements.steady world.shared place
  cases runs with
  | last ended =>
      rw [ended] at steady
      have moved := @Holds.advance _ _ _ _ _ _ code view machine start world
        trace thread (.answered answer) after none none _ holds nofun steady
        (fun other apart taken => absurd taken (alone other apart))
      simp only [Option.toList_none, List.append_nil] at moved
      simp only [lockedStep, inside, ended]
      exact moved (fun _ => shows) nofun ⟨call, acted⟩
  | @more _ next _ between _ went rest =>
      rw [went] at steady
      have moved := @Holds.advance _ _ _ _ _ _ code view machine start world
        trace thread (.inside next) between world.holder none _ holds
        nofun steady (fun other apart taken => absurd taken (alone other apart))
      simp only [Option.toList_none, List.append_nil] at moved
      simp only [lockedStep, inside, went]
      apply moved
      · intro unlocked
        rw [unlocked] at holding
        cases holding
      · intro other taken
        by_cases same : other = thread
        · exact Or.inl ⟨same, next, rfl⟩
        · exact absurd taken (alone other same)
      · exact ⟨holding, call, answer, after, acted, rest, shows⟩

theorem holds_step (implements : Implements code view machine)
    (move : Move Thread Call)
    (holds : Holds code view machine start world trace) :
    Holds code view machine start (lockedStep code world move).1
      (trace ++ (lockedStep code world move).2.toList) := by
  cases move with
  | invoke thread call =>
      cases standing : world.phase thread with
      | resting =>
          simp only [lockedStep, standing]
          exact holds_invoke call holds standing
      | called _ | waiting _ _ | inside _ | answered _ =>
          simp only [lockedStep, standing]
          exact holds.idle
  | go thread =>
      cases standing : world.phase thread with
      | resting =>
          simp only [lockedStep, standing]
          exact holds.idle
      | called call =>
          cases gate : code.gate world.shared call with
          | inr answer =>
              simp only [lockedStep, standing, gate]
              exact holds_refused implements holds standing gate
          | inl place =>
              simp only [lockedStep, standing, gate]
              exact (holds_admitted holds standing gate).idle
      | waiting call place =>
          cases holding : world.holder with
          | some _ =>
              simp only [lockedStep, standing, holding]
              exact holds.idle
          | none =>
              simp only [lockedStep, standing, holding]
              exact holds_acquired implements holds standing holding
      | inside place =>
          have silent : (lockedStep code world (.go thread)).2 = none := by
            simp only [lockedStep, standing]
            split <;> rfl
          rw [silent]
          exact (holds_access implements holds standing).idle
      | answered answer =>
          simp only [lockedStep, standing]
          exact holds_returned holds standing

/-- The events of a run. -/
def events (code : Code Shared Call Place Answer)
    (world : World Thread Shared Call Place Answer)
    (moves : List (Move Thread Call)) : List (Event Thread Call Answer) :=
  (answers (lockedStep code) world moves).reduceOption

theorem holds_run (implements : Implements code view machine) (shared : Shared)
    (moves : List (Move Thread Call)) :
    Holds code view machine (view shared)
      (final (lockedStep code) (worldStart shared) moves)
      (events code (worldStart shared) moves) := by
  apply traced_invariant (lockedStep code)
    (fun world trace => Holds code view machine (view shared) world
      trace.reduceOption) _ (worldStart shared) [] moves (holds_start shared)
  intro world trace move holds
  rw [List.reduceOption_append, List.reduceOption_singleton]
  exact holds_step implements move holds

/-- The thread that holds the lock gives it back by its own accesses. -/
theorem Runs.frees {place : Place} {out : Shared × Answer}
    (runs : Runs code.access place shared out)
    (here : world.shared = shared) (holding : world.holder = some thread)
    (inside : world.phase thread = .inside place) :
    ∃ steps, (final (lockedStep code) world
      (List.replicate steps (.go thread))).holder = none := by
  induction runs generalizing world with
  | last ended =>
      refine ⟨1, ?_⟩
      rw [← here] at ended
      simp only [List.replicate_one, final_cons, final_nil, lockedStep, inside,
        ended]
  | @more place next shared between out went rest ih =>
      rw [← here] at went
      have moved : (lockedStep code world (.go thread)).1 =
          { world.put thread (.inside next) with shared := between } := by
        simp only [lockedStep, inside, went]
      have later := @ih { world.put thread (.inside next) with
        shared := between } rfl holding (Function.update_self ..)
      obtain ⟨steps, free⟩ := later
      refine ⟨steps + 1, ?_⟩
      rw [List.replicate_succ, final_cons, moved]
      exact free

/-- However the accesses interleave, the run is one of the machine; with the
lock free, the state shows where the machine stands; and the lock comes free by
the accesses of the thread that holds it. -/
theorem calls_linearize (implements : Implements code view machine)
    (shared : Shared) (moves : List (Move Thread Call)) :
    Linearizes machine (view shared) (events code (worldStart shared) moves) ∧
      ((final (lockedStep code) (worldStart shared) moves).holder = none →
        view (final (lockedStep code) (worldStart shared) moves).shared =
          serial machine (view shared)
            (events code (worldStart shared) moves)) ∧
      ∀ thread,
        (final (lockedStep code) (worldStart shared) moves).holder =
            some thread →
          ∃ steps, (final (lockedStep code)
            (final (lockedStep code) (worldStart shared) moves)
            (List.replicate steps (.go thread))).holder = none := by
  have holds := holds_run implements shared moves
  refine ⟨holds.linearizes, holds.free, ?_⟩
  intro thread holding
  obtain ⟨place, inside⟩ := holds.held thread holding
  have stands := holds.stands thread
  rw [inside] at stands
  obtain ⟨_, _, _, _, _, runs, _⟩ := stands
  exact runs.frees rfl holding inside

end Interleaving

end LockedCalls
