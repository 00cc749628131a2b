/-
Outcomes of the steps of a SQLite iterator.

A step of the engine gives the next row, reports the end, or fails.  The
iterator returns one code for the last two.  The rows of the result set are
followed through any sequence of calls and step outcomes.
-/

import Heapstore.RegistrySqliteQueries
import Heapstore.RegistrySqliteBatch

namespace Heapstore.RegistrySqlite

open ByteText SqlTable SqlConnection OperationRun

/-! ### One step of the engine -/

/-- Why `sqlite3_step` returns neither a row nor the end. -/
inductive StepTrouble where
  | busy
  | error (code : Int32)
  deriving DecidableEq

inductive StepResult where
  | row (values : Row)
  | done
  | failed (trouble : StepTrouble)

/-- `sqlite3_step` on a statement that has these rows left. -/
def sqlite3Step (trouble : Option StepTrouble) (rows : List Row) : StepResult :=
  match trouble, rows with
  | some trouble, _ => .failed trouble
  | none, [] => .done
  | none, row :: _ => .row row

/-- One call: whether its two pointers are given, and how its step goes. -/
structure IterCall where
  given : Bool
  out : Bool
  trouble : Option StepTrouble
  deriving DecidableEq

section Calls

variable {type : RecType}

abbrev NextAnswer (type : RecType) := HeapstoreError × Option type.Record

/-- A call without the iterator leaves it as it is. -/
def nextMachine (database : Database) :
    Machine (Option (SqlIter type)) IterCall (NextAnswer type) :=
  fun iter call =>
    if call.given then
      iterNext call.trouble.isNone database call.out iter
    else (iter, (iterNext call.trouble.isNone database call.out
      (none : Option (SqlIter type))).2)

/-- The call reaches the engine. -/
def Steps (iter : Option (SqlIter type)) (call : IterCall) : Prop :=
  call.given = true ∧ call.out = true ∧
    ∃ open_, iter = some open_ ∧ open_.hasMore = true

/-- The call reaches the engine and its step fails. -/
def StepFails (iter : Option (SqlIter type)) (call : IterCall) : Prop :=
  Steps iter call ∧ call.trouble ≠ none

/-- The records that are still to come. -/
def leftOf (database : Database) (iter : Option (SqlIter type)) :
    List type.Record :=
  iter.elim [] (SqlIter.left database)

def handedOver (given : List (NextAnswer type)) : List type.Record :=
  given.filterMap Prod.snd

variable {database : Database} {iter : Option (SqlIter type)} {call : IterCall}

/-- A call that reaches the engine answers by the result of its step. -/
theorem nextMachine_steps {open_ : SqlIter type}
    (given : call.given = true) (out : call.out = true)
    (more : open_.hasMore = true) :
    nextMachine database (some open_) call =
      match sqlite3Step call.trouble (open_.rows database) with
      | .row values =>
          (some { open_ with pending := some (open_.rows database).tail },
            .success, some (extractRow type values))
      | .done => (some { open_ with hasMore := false }, .errNotFound, none)
      | .failed _ =>
          (some { open_ with hasMore := false }, .errNotFound, none) := by
  simp only [nextMachine, given, if_true, iterNext, out, more,
    Bool.true_eq_false, if_false]
  cases call.trouble with
  | some trouble => rfl
  | none =>
      simp only [Option.isNone_none, if_true]
      cases open_.rows database with
      | nil => rfl
      | cons row rest => rfl

/-- A call that does not reach the engine hands nothing over. -/
theorem nextMachine_stays (idle : ¬Steps iter call) :
    (nextMachine database iter call).1 = iter ∧
      (nextMachine database iter call).2.2 = none ∧
      ((nextMachine database iter call).2.1 = .errNotFound →
        leftOf database iter = []) := by
  unfold nextMachine
  cases given : call.given with
  | false => exact ⟨rfl, rfl, by rintro ⟨⟩⟩
  | true =>
      cases iter with
      | none => exact ⟨rfl, rfl, fun _ => rfl⟩
      | some open_ =>
          simp only [if_true, iterNext]
          cases out : call.out with
          | false => exact ⟨rfl, rfl, by rintro ⟨⟩⟩
          | true =>
              have ended : open_.hasMore = false := by
                rw [← Bool.not_eq_true]
                exact fun more => idle ⟨given, out, open_, rfl, more⟩
              simp only [Bool.true_eq_false, if_false, ended, if_true]
              refine ⟨trivial, trivial, fun _ => ?_⟩
              simp only [leftOf, Option.elim_some, SqlIter.left, ended,
                Bool.false_eq_true, if_false]

theorem leftOf_open {open_ : SqlIter type} (more : open_.hasMore = true) :
    leftOf database (some open_) =
      (open_.rows database).map (extractRow type) := by
  simp only [leftOf, Option.elim_some, SqlIter.left, more, if_true]

/-- A failing step ends the iteration as the last row does. -/
theorem nextMachine_fails (failing : StepFails iter call) :
    (nextMachine database iter call).2 = (.errNotFound, none) ∧
      leftOf database (nextMachine database iter call).1 = [] := by
  obtain ⟨⟨given, out, open_, rfl, more⟩, trouble⟩ := failing
  obtain ⟨reason, failed⟩ := Option.ne_none_iff_exists'.mp trouble
  rw [nextMachine_steps given out more, failed]
  exact ⟨rfl, rfl⟩

/-- A failing step while records are left. -/
def CutsShort (database : Database) (iter : Option (SqlIter type))
    (call : IterCall) : Prop :=
  StepFails iter call ∧ leftOf database iter ≠ []

theorem served_or_failed (steps : Steps iter call) :
    call.trouble = none ∨ StepFails iter call := by
  by_cases served : call.trouble = none
  · exact .inl served
  · exact .inr ⟨steps, served⟩

/-- What a call hands over is the first of the records that were left, unless
its step fails and cuts them off. -/
theorem leftOf_step (whole : ¬CutsShort database iter call) :
    leftOf database iter =
      (nextMachine database iter call).2.2.toList ++
        leftOf database (nextMachine database iter call).1 := by
  by_cases steps : Steps iter call
  · rcases served_or_failed steps with served | failing
    · obtain ⟨given, out, open_, rfl, more⟩ := steps
      rw [nextMachine_steps given out more, served, leftOf_open more]
      cases rows : open_.rows database with
      | nil => rfl
      | cons row rest =>
          simp only [sqlite3Step, List.tail_cons, leftOf, Option.elim_some,
            SqlIter.left, more, if_true, SqlIter.rows, Option.getD_some]
          rfl
    · have nothing : leftOf database iter = [] := by
        by_contra left
        exact whole ⟨failing, left⟩
      obtain ⟨answer, after⟩ := @nextMachine_fails type database _ _ failing
      rw [answer, after, nothing]
      rfl
  · obtain ⟨same, nothing, _⟩ := @nextMachine_stays type database _ _ steps
    rw [same, nothing]
    rfl

/-- The end is only reported when nothing is left, unless a failing step is
taken for it. -/
theorem leftOf_of_notFound (whole : ¬CutsShort database iter call)
    (ended : (nextMachine database iter call).2.1 = .errNotFound) :
    leftOf database iter = [] := by
  by_cases steps : Steps iter call
  · rcases served_or_failed steps with served | failing
    · obtain ⟨given, out, open_, rfl, more⟩ := steps
      rw [nextMachine_steps given out more, served] at ended
      rw [leftOf_open more]
      cases rows : open_.rows database with
      | nil => rfl
      | cons row rest =>
          rw [rows] at ended
          cases ended
    · by_contra left
      exact whole ⟨failing, left⟩
  · exact (nextMachine_stays steps).2.2 ended

/-! ### A whole iteration -/

/-- The end is only reported when all records have been handed over. -/
def EndsComplete (database : Database) (iter : Option (SqlIter type))
    (calls : List IterCall) : Prop :=
  ∀ before call after, calls = before ++ call :: after →
    (nextMachine database (final (nextMachine database) iter before)
      call).2.1 = .errNotFound →
    handedOver (answers (nextMachine database) iter before) =
      leftOf database iter

/-- A failing step is not reported as a row, and not as the end. -/
def ReportsFailures (database : Database) (iter : Option (SqlIter type))
    (calls : List IterCall) : Prop :=
  ∀ before call after, calls = before ++ call :: after →
    StepFails (final (nextMachine database) iter before) call →
    (nextMachine database (final (nextMachine database) iter before)
        call).2.1 ≠ .errNotFound ∧
      (nextMachine database (final (nextMachine database) iter before)
        call).2.1 ≠ .success

theorem handedOver_cons (answer : NextAnswer type)
    (rest : List (NextAnswer type)) :
    handedOver (answer :: rest) = answer.2.toList ++ handedOver rest := by
  obtain ⟨code, record⟩ := answer
  cases record <;> rfl

/-- The end is truthful in a run exactly when no step fails with records left. -/
theorem endsComplete_iff (iter : Option (SqlIter type))
    (calls : List IterCall) :
    EndsComplete database iter calls ↔
      Meets (nextMachine database)
        (fun iter call => ¬CutsShort database iter call) iter calls := by
  induction calls generalizing iter with
  | nil =>
      refine ⟨fun _ => trivial, ?_⟩
      intro _ before call after pieces
      exact absurd (congrArg List.length pieces) (by simp)
  | cons call rest ih =>
      constructor
      · intro complete
        have here : ¬CutsShort database iter call := by
          rintro ⟨failing, left⟩
          have ended := (@nextMachine_fails type database iter call failing).1
          exact left (complete [] call rest rfl (by rw [final_nil, ended])).symm
        refine ⟨here, (ih _).mp ?_⟩
        intro before other after pieces ended
        have whole := complete (call :: before) other after
          (by rw [pieces]; rfl) ended
        rw [answers_cons, handedOver_cons, leftOf_step here] at whole
        exact List.append_cancel_left whole
      · rintro ⟨here, later⟩ before other after pieces ended
        cases before with
        | nil =>
            cases pieces
            exact (leftOf_of_notFound here ended).symm
        | cons first before =>
            cases pieces
            rw [answers_cons, handedOver_cons, leftOf_step here,
              (ih _).mpr later before other after rfl ended]

theorem reportsFailures_iff (iter : Option (SqlIter type))
    (calls : List IterCall) :
    ReportsFailures database iter calls ↔
      Meets (nextMachine database) (fun iter call => ¬StepFails iter call)
        iter calls := by
  rw [meets_iff_forall]
  constructor
  · intro reports before call after pieces failing
    have answer := (@nextMachine_fails type database _ call failing).1
    exact (reports before call after pieces failing).1 (by rw [answer])
  · intro sound before call after pieces failing
    exact absurd failing (sound before call after pieces)

end Calls

/-! ### Iterating a query -/

/-- For every query of a registry and every sequence of calls with any step
outcomes: the end means that every row was handed over and failing steps are
told apart from it exactly when no step that a call takes fails. -/
theorem iteration_end_iff (type : RecType) (statement : Statement)
    (values : Row) (opening : QueryCalls) (iter : Bool)
    (registry : SqlRegistry) (database : Database) (calls : List IterCall) :
    (EndsComplete database
        (queryRecords type statement values opening iter registry).2 calls ∧
      ReportsFailures database
        (queryRecords type statement values opening iter registry).2 calls) ↔
      Meets (nextMachine database) (fun iter call => ¬StepFails iter call)
        (queryRecords type statement values opening iter registry).2 calls := by
  rw [reportsFailures_iff, and_iff_right_iff_imp, endsComplete_iff]
  intro sound
  apply sound.mono
  rintro state call noFailure ⟨failing, _⟩
  exact noFailure failing

/-- The tables of a registry with one agent. -/
def oneAgentTables : Database :=
  fun name =>
    if name = "agents" then
      (Table.empty agentColumns).insert
        (newRow agentColumns agentFields (bindAgentRecord (agentNamed "a")))
    else none

def oneAgent : SqlRegistry where
  db := some { committed := oneAgentTables, working := none }
  dbPath := []
  initialized := true

/-- The first step of a query for all agents is busy: the one agent is missed
and the caller reads the end. -/
theorem busy_step_reported_as_end :
    ∃ opened : SqlIter .agent,
      registryQueryAgents none none .ok true oneAgent =
          (.success, some opened) ∧
        opened.left oneAgentTables = [agentNamed "a"] ∧
        answers (nextMachine oneAgentTables) (some opened)
          [{ given := true, out := true, trouble := some .busy }] =
            [(.errNotFound, none)] ∧
        ¬(EndsComplete oneAgentTables (some opened)
            [{ given := true, out := true, trouble := some .busy }] ∧
          ReportsFailures oneAgentTables (some opened)
            [{ given := true, out := true, trouble := some .busy }]) := by
  let opened : SqlIter .agent :=
    { statement := queryAgents false false, values := [], hasMore := true
      pending := none }
  let busy : IterCall := { given := true, out := true, trouble := some .busy }
  have failing : StepFails (some opened) busy :=
    ⟨⟨rfl, rfl, opened, rfl, rfl⟩, nofun⟩
  refine ⟨opened, by rfl, by decide, by rfl, ?_⟩
  rintro ⟨_, reports⟩
  exact (reports [] busy [] rfl failing).1 rfl

end Heapstore.RegistrySqlite
