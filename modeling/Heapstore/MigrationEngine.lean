/-
The step engine against its table.

The engine is compared with the entries the table declares for a range of
versions: which of them it executes, in which order, and what it records.  Its
array of selected steps holds 64 entries.
-/

import Heapstore.MigrationForwardRuns

namespace Heapstore.Migration

open ByteText

/-! ### The selection of the table -/

/-- The entries between two versions, in table order. -/
def selectedSteps (steps : List MigrationStepDef)
    (current target : UInt32) : List MigrationStepDef :=
  steps.filter fun step =>
    decide (current ≤ step.fromVersion) && decide (step.toVersion ≤ target)

theorem applicableSteps_eq (steps : List MigrationStepDef)
    (current target : UInt32) :
    applicableSteps steps current target =
      (selectedSteps steps current target).take maxSteps := rfl

/-- What the steps return when each runs on what the one before it left. -/
def stepResults (root : Bytes) :
    (Nat → StepCalls) → List MigrationStepDef → Disk → List ApplyResult
  | _, [], _ => []
  | calls, step :: rest, disk =>
      let applied := step.execute root (calls 0).apply disk
      applied :: stepResults root (fun index => calls (index + 1)) rest
        applied.disk

/-- The disk behind a sequence of steps. -/
def diskAfter (root : Bytes) :
    (Nat → StepCalls) → List MigrationStepDef → Disk → Disk
  | _, [], disk => disk
  | calls, step :: rest, disk =>
      diskAfter root (fun index => calls (index + 1)) rest
        (step.execute root (calls 0).apply disk).disk

theorem stepResults_take (root : Bytes) (calls : Nat → StepCalls)
    (steps : List MigrationStepDef) (disk : Disk) (count : Nat) :
    stepResults root calls (steps.take count) disk =
      (stepResults root calls steps disk).take count := by
  induction steps generalizing calls disk count with
  | nil => simp [stepResults]
  | cons step rest ih =>
      cases count with
      | zero => rfl
      | succ count =>
          rw [List.take_succ_cons]
          unfold stepResults
          rw [List.take_succ_cons]
          exact congrArg (List.cons _) (ih _ _ _)

/-! ### What the execution loop does -/

/-- Every step was executed, in order and successfully. -/
def AllExecuted (executed : List ExecutedStep)
    (steps : List MigrationStepDef) : Prop :=
  executed.map ExecutedStep.step = steps ∧
    ∀ entry ∈ executed, entry.outcome.result = .success

/-- The steps were executed up to the first that failed. -/
def EndsAtFailure (executed : List ExecutedStep)
    (steps : List MigrationStepDef) : Prop :=
  ∃ before failed later, executed = before ++ [failed] ∧
    steps = before.map ExecutedStep.step ++ failed.step :: later ∧
    (∀ entry ∈ before, entry.outcome.result = .success) ∧
    failed.outcome.result ≠ .success

theorem AllExecuted.cons {executed : List ExecutedStep}
    {steps : List MigrationStepDef} {head : ExecutedStep}
    (all : AllExecuted executed steps)
    (succeeded : head.outcome.result = .success) :
    AllExecuted (head :: executed) (head.step :: steps) :=
  ⟨by rw [List.map_cons, all.1],
    List.forall_mem_cons.mpr ⟨succeeded, all.2⟩⟩

theorem EndsAtFailure.cons {executed : List ExecutedStep}
    {steps : List MigrationStepDef} {head : ExecutedStep}
    (ends : EndsAtFailure executed steps)
    (success : head.outcome.result = .success) :
    EndsAtFailure (head :: executed) (head.step :: steps) := by
  obtain ⟨before, failed, later, rfl, rfl, succeeded, failure⟩ := ends
  exact ⟨head :: before, failed, later, rfl, rfl,
    List.forall_mem_cons.mpr ⟨success, succeeded⟩, failure⟩

theorem EndsAtFailure.append {executed : List ExecutedStep}
    {steps : List MigrationStepDef} (ends : EndsAtFailure executed steps)
    (more : List MigrationStepDef) : EndsAtFailure executed (steps ++ more) := by
  obtain ⟨before, failed, later, same, rfl, succeeded, failure⟩ := ends
  refine ⟨before, failed, later ++ more, same, ?_, succeeded, failure⟩
  rw [List.append_assoc, List.cons_append]

theorem EndsAtFailure.not_allExecuted {executed : List ExecutedStep}
    {steps other : List MigrationStepDef}
    (ends : EndsAtFailure executed steps) : ¬AllExecuted executed other := by
  obtain ⟨before, failed, _, rfl, _, _, failure⟩ := ends
  rintro ⟨_, succeeded⟩
  exact failure (succeeded failed
    (List.mem_append_right _ List.mem_cons_self))

theorem runSteps_shape (root : Bytes) (calls : Nat → StepCalls)
    (steps : List MigrationStepDef) (disk : Disk) :
    AllExecuted (runSteps root calls steps disk).2 steps ∨
      EndsAtFailure (runSteps root calls steps disk).2 steps := by
  induction steps generalizing calls disk with
  | nil => exact Or.inl ⟨rfl, List.forall_mem_nil _⟩
  | cons step rest ih =>
      unfold runSteps
      by_cases here : (step.execute root (calls 0).apply disk).error = .success
      · simp only [if_pos here]
        rcases ih (fun index => calls (index + 1))
            (step.execute root (calls 0).apply disk).disk with all | ends
        · exact Or.inl (all.cons here)
        · exact Or.inr (ends.cons here)
      · simp only [if_neg here]
        exact Or.inr ⟨[], _, rest, rfl, rfl, List.forall_mem_nil _, here⟩

theorem runSteps_disk (root : Bytes) (calls : Nat → StepCalls)
    (steps : List MigrationStepDef) (disk : Disk) :
    (runSteps root calls steps disk).1 =
      diskAfter root calls
        ((runSteps root calls steps disk).2.map ExecutedStep.step) disk := by
  induction steps generalizing calls disk with
  | nil => rfl
  | cons step rest ih =>
      unfold runSteps
      by_cases here : (step.execute root (calls 0).apply disk).error = .success
      · simp only [if_pos here, List.map_cons]
        exact ih _ _
      · simp only [if_neg here]
        rfl

theorem allExecuted_runSteps_iff (root : Bytes) (calls : Nat → StepCalls)
    (steps : List MigrationStepDef) (disk : Disk) :
    AllExecuted (runSteps root calls steps disk).2 steps ↔
      ∀ result ∈ stepResults root calls steps disk, result.error = .success := by
  induction steps generalizing calls disk with
  | nil => exact ⟨fun _ => nofun, fun _ => ⟨rfl, nofun⟩⟩
  | cons step rest ih =>
      unfold runSteps stepResults
      by_cases here : (step.execute root (calls 0).apply disk).error = .success
      · simp only [List.forall_mem_cons, here, true_and, if_true]
        rw [← ih]
        simp [AllExecuted]
      · simp only [List.forall_mem_cons, here, false_and, iff_false, if_false]
        rintro ⟨_, succeeded⟩
        exact here (succeeded _ List.mem_cons_self)

/-! ### One run of the engine -/

section Engine

variable (ready : Bool) (root : Bytes) (calls : RunCalls) (wanted : Bool)
  (steps : List MigrationStepDef) (current target : UInt32) (disk : Disk)

/-- What a run owes to its table. -/
structure RunsSelected (result : RunResult) : Prop where
  success : result.error = .success →
    AllExecuted result.executed (selectedSteps steps current target) ∧
      RecordedVersion root result.disk target
  failure : result.error ≠ .success →
    EndsAtFailure result.executed (selectedSteps steps current target) ∨
      AllExecuted result.executed (selectedSteps steps current target) ∧
        (migrationSetVersion ready root calls.setVersion target
          (diskAfter root calls.step
            (selectedSteps steps current target) disk)).2 ≠ .success
  /-- Only a step could have touched the recorded version. -/
  recorded : result.error ≠ .success →
    result.disk (versionFilePath root) =
      diskAfter root calls.step (result.executed.map ExecutedStep.step) disk
        (versionFilePath root)
  kept : result.error ≠ .success →
    (∀ step ∈ steps, step.LeavesAlone root (versionFilePath root)) →
    ∀ version, RecordedVersion root result.disk version ↔
      RecordedVersion root disk version

/-- The outcomes of a run, in terms of its execution loop. -/
theorem migRunSteps_cases :
    let ran := runSteps root calls.step
      (applicableSteps steps current target) disk
    let result := migRunSteps ready root calls wanted steps current target disk
    result.executed = ran.2 ∧
      ((EndsAtFailure ran.2 (applicableSteps steps current target) ∧
          result.error ≠ .success ∧ result.disk = ran.1) ∨
        (AllExecuted ran.2 (applicableSteps steps current target) ∧
          let stamped :=
            migrationSetVersion ready root calls.setVersion target ran.1
          result.disk = stamped.1 ∧
            (result.error = .success ↔ stamped.2 = .success))) := by
  intro ran result
  refine ⟨rfl, ?_⟩
  rcases runSteps_shape root calls.step (applicableSteps steps current target)
      disk with all | ends
  · have succeeded : ran.2.all
        (fun executed => decide (executed.outcome.result = .success)) = true := by
      rw [List.all_eq_true]
      exact fun executed member => decide_eq_true (all.2 executed member)
    refine Or.inr ⟨all, ?_⟩
    unfold result migRunSteps
    simp only
    rw [show (runSteps root calls.step (applicableSteps steps current target)
      disk) = ran from rfl, succeeded]
    simp
  · have failed : ran.2.all
        (fun executed => decide (executed.outcome.result = .success)) =
          false := by
      obtain ⟨before, failing, later, same, _, _, failure⟩ := ends
      rw [List.all_eq_false]
      refine ⟨failing, ?_, by simpa using failure⟩
      rw [show ran.2 = before ++ [failing] from same]
      exact List.mem_append_right _ List.mem_cons_self
    refine Or.inl ⟨ends, ?_⟩
    unfold result migRunSteps
    simp only
    rw [show (runSteps root calls.step (applicableSteps steps current target)
      disk) = ran from rfl, failed]
    simp

/-- The version file a failed run leaves is the one its steps left. -/
theorem migRunSteps_version_of_failed
    (failed : (migRunSteps ready root calls wanted steps current target
      disk).error ≠ .success) :
    (migRunSteps ready root calls wanted steps current target disk).disk
        (versionFilePath root) =
      (runSteps root calls.step (applicableSteps steps current target) disk).1
        (versionFilePath root) := by
  rcases (migRunSteps_cases ready root calls wanted steps current target
      disk).2 with ⟨_, _, same⟩ | ⟨_, same, error⟩
  · rw [same]
  · rw [same]
    rcases migrationSetVersion_outcome ready root calls.setVersion target
        (runSteps root calls.step (applicableSteps steps current target)
          disk).1 with ⟨_, unchanged⟩ | ⟨written, _⟩
    · exact unchanged
    · exact absurd (error.mpr written) failed

private theorem runsSelected_frame :
    let result := migRunSteps ready root calls wanted steps current target disk
    (result.error ≠ .success →
      result.disk (versionFilePath root) =
        diskAfter root calls.step (result.executed.map ExecutedStep.step) disk
          (versionFilePath root)) ∧
    (result.error ≠ .success →
      (∀ step ∈ steps, step.LeavesAlone root (versionFilePath root)) →
      ∀ version, RecordedVersion root result.disk version ↔
        RecordedVersion root disk version) := by
  intro result
  have left (failed : result.error ≠ .success) :
      result.disk (versionFilePath root) =
        (runSteps root calls.step (applicableSteps steps current target)
          disk).1 (versionFilePath root) :=
    migRunSteps_version_of_failed ready root calls wanted steps current target
      disk failed
  refine ⟨fun failed => ?_, fun failed alone version => ?_⟩
  · rw [left failed, runSteps_disk]
    rfl
  · apply recordedVersion_congr
    rw [left failed]
    apply runSteps_of_leavesAlone
    intro step member
    exact alone step (List.mem_filter.mp (List.mem_of_mem_take member)).1

/-- The array has room for the selection, or a step in it fails. -/
def SelectionFits : Prop :=
  (selectedSteps steps current target).length ≤ maxSteps ∨
    ∃ result ∈ (stepResults root calls.step
      (selectedSteps steps current target) disk).take maxSteps,
      result.error ≠ .success

private theorem runsSelected_of_fits
    (fits : SelectionFits root calls steps current target disk) :
    RunsSelected ready root calls steps current target disk
      (migRunSteps ready root calls wanted steps current target disk) := by
  obtain ⟨executed, outcome⟩ :=
    migRunSteps_cases ready root calls wanted steps current target disk
  obtain ⟨recorded, kept⟩ :=
    runsSelected_frame ready root calls wanted steps current target disk
  have split : applicableSteps steps current target ++
      (selectedSteps steps current target).drop maxSteps =
        selectedSteps steps current target := List.take_append_drop ..
  rcases outcome with ⟨ends, failed, _⟩ | ⟨all, same, error⟩
  · refine ⟨fun success => absurd success failed, fun _ => ?_, recorded, kept⟩
    rw [executed, ← split]
    exact Or.inl (ends.append _)
  · have whole : applicableSteps steps current target =
        selectedSteps steps current target := by
      rcases fits with short | ⟨result, member, failure⟩
      · exact List.take_of_length_le short
      · rw [← stepResults_take] at member
        exact absurd ((allExecuted_runSteps_iff root calls.step _ disk).mp all
          result member) failure
    have complete := all
    rw [whole] at complete
    refine ⟨fun success => ?_, fun failed => ?_, recorded, kept⟩
    · rw [executed, whole, same]
      exact ⟨complete, recordedVersion_of_write (error.mp success)⟩
    · refine Or.inr ⟨by rw [executed, whole]; exact complete, ?_⟩
      intro written
      refine failed (error.mpr ?_)
      rw [runSteps_disk, all.1, whole]
      exact written

private theorem fits_of_runsSelected
    (selected : RunsSelected ready root calls steps current target disk
      (migRunSteps ready root calls wanted steps current target disk)) :
    SelectionFits root calls steps current target disk := by
  obtain ⟨executed, outcome⟩ :=
    migRunSteps_cases ready root calls wanted steps current target disk
  by_contra cut
  obtain ⟨long, succeed⟩ := not_or.mp cut
  have all : AllExecuted (runSteps root calls.step
      (applicableSteps steps current target) disk).2
        (applicableSteps steps current target) := by
    rw [allExecuted_runSteps_iff, applicableSteps_eq, stepResults_take]
    intro result member
    by_contra failure
    exact succeed ⟨result, member, failure⟩
  -- Sixty-four executed steps are not the whole selection.
  have notWhole : ¬AllExecuted (migRunSteps ready root calls wanted steps
      current target disk).executed (selectedSteps steps current target) := by
    rintro ⟨same, _⟩
    rw [executed, all.1, applicableSteps_eq] at same
    have lengths := congrArg List.length same
    rw [List.length_take] at lengths
    omega
  by_cases success : (migRunSteps ready root calls wanted steps current target
      disk).error = .success
  · exact notWhole (selected.success success).1
  · rcases selected.failure success with ends | ⟨whole, _⟩
    · rw [executed] at ends
      exact ends.not_allExecuted all
    · exact notWhole whole

/-- A run executes the selection of its table exactly when the selection fits
the array or one of the steps in the array fails. -/
theorem runSteps_selected_iff :
    RunsSelected ready root calls steps current target disk
        (migRunSteps ready root calls wanted steps current target disk) ↔
      SelectionFits root calls steps current target disk :=
  ⟨fits_of_runsSelected ready root calls wanted steps current target disk,
    runsSelected_of_fits ready root calls wanted steps current target disk⟩

end Engine

/-- A step that does nothing, successfully. -/
def idleStep : MigrationStepDef where
  name := "idle"
  execute := fun _ _ disk =>
    { disk := disk, error := .success, recordsAffected := 0 }
  fromVersion := 10000
  toVersion := 10100

/-- Of 65 applicable steps the last is dropped, and the target is recorded. -/
theorem runSteps_drops_step :
    ¬∀ (ready : Bool) (root : Bytes) (calls : RunCalls) (wanted : Bool)
      (steps : List MigrationStepDef) (current target : UInt32) (disk : Disk),
      RunsSelected ready root calls steps current target disk
        (migRunSteps ready root calls wanted steps current target disk) := by
  intro always
  have selected := always true recordedRoot.text ForwardCalls.ok.run false
    (List.replicate 65 idleStep) 10000 10100 recordedDisk
  have executed := (selected.success (by decide)).1.1
  have lengths := congrArg List.length executed
  revert lengths
  decide

end Heapstore.Migration
