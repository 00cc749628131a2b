/-
The report of a forward migration in the caller's memory.

The caller passes a structure with arbitrary content.  Reading the version,
finding nothing to do and running the steps fill it on different return paths;
entries of steps that were never reached keep the zeroes of their allocation.
-/

import Heapstore.MigrationEngine

namespace Heapstore.Migration

open ByteText

/-! ### The report as the caller holds it -/

inductive StepsPointer where
  | null
  | allocated (entries : List MigrationStep)
  /-- What the caller's memory held before the call. -/
  | stray
  deriving DecidableEq

def StepsPointer.entries : StepsPointer → List MigrationStep
  | .null => []
  | .allocated entries => entries
  | .stray => []

structure CallerReport where
  fromVersion : UInt32
  toVersion : UInt32
  stepCount : Nat
  steps : StepsPointer
  success : Bool
  totalDurationMs : UInt64
  totalRecordsAffected : UInt64
  deriving DecidableEq

def MigrationReport.caller (report : MigrationReport) : CallerReport where
  fromVersion := report.fromVersion
  toVersion := report.toVersion
  stepCount := report.stepCount
  steps :=
    match report.steps with
    | none => .null
    | some entries => .allocated entries
  success := report.success
  totalDurationMs := report.totalDurationMs
  totalRecordsAffected := report.totalRecordsAffected

/-- `heapstore_migration_report_free`; freeing a stray pointer is undefined. -/
def migrationReportFree (report : CallerReport) : Option CallerReport :=
  match report.steps with
  | .null => some report
  | .allocated _ => some { report with steps := .null, stepCount := 0 }
  | .stray => none

/-- `heapstore_migration_forward` over any step table. -/
def forwardWith (table : List MigrationStepDef) (ready : Bool) (root : Bytes)
    (calls : ForwardCalls) (wanted : Bool) (target : UInt32) (disk : Disk) :
    RunResult :=
  match migrationGetVersion true ready root calls.read disk with
  | .error error =>
      { disk := disk, error := error, report := none, executed := [] }
  | .ok current =>
      if effectiveTarget target ≤ current then
        { disk := disk
          error := .success
          report := if wanted then some (migReportNoop current) else none
          executed := [] }
      else
        migRunSteps ready root calls.run wanted table current
          (effectiveTarget target) disk

theorem migrationForward_eq (ready : Bool) (root : Bytes)
    (calls : ForwardCalls) (wanted : Bool) (target : UInt32) (disk : Disk) :
    migrationForward ready root calls wanted target disk =
      forwardWith gForwardSteps ready root calls wanted target disk := rfl

section Report

variable (table : List MigrationStepDef) (ready : Bool) (root : Bytes)
  (calls : ForwardCalls) (target : UInt32) (disk : Disk)

/-- The caller's report after the call. -/
def reportAfter (prior : CallerReport) : CallerReport :=
  match (forwardWith table ready root calls true target disk).report with
  | none => prior
  | some report => report.caller

/-- What a report says about the run that filled it. -/
structure ReportComplete (result : RunResult) (report : CallerReport) :
    Prop where
  steps : report.steps = .null ∨
    ∃ entries, report.steps = .allocated entries ∧
      entries.length = report.stepCount
  freeable : (migrationReportFree report).isSome = true
  success : report.success = true ↔ result.error = .success
  entry : ∀ (index : Nat) (entry : MigrationStep),
    report.steps.entries[index]? = some entry →
      (entry.result = .success ↔ ∃ executed : ExecutedStep,
        result.executed[index]? = some executed ∧
          executed.outcome.result = .success)
  total : report.totalRecordsAffected =
    totalRecords (report.steps.entries.map MigrationStep.recordsAffected)

/-- Whatever the structure held, the call sets all of it, correctly. -/
def ReportsCall : Prop :=
  (∀ prior other, reportAfter table ready root calls target disk prior =
    reportAfter table ready root calls target disk other) ∧
  ∀ prior, ReportComplete
    (forwardWith table ready root calls true target disk)
    (reportAfter table ready root calls target disk prior)

/-- The version can be read, and the run leaves no entry unset and has no
record to count. -/
def ReportFits : Prop :=
  ∃ current, migrationGetVersion true ready root calls.read disk =
      .ok current ∧
    (effectiveTarget target ≤ current ∨ calls.run.allocated = false ∨
      let results := stepResults root calls.run.step
        (applicableSteps table current (effectiveTarget target)) disk
      (∀ result ∈ results.dropLast, result.error = .success) ∧
        totalRecords (results.map ApplyResult.recordsAffected) = 0)

end Report

/-! ### The entries of the executed steps -/

theorem length_stepResults (root : Bytes) (calls : Nat → StepCalls)
    (steps : List MigrationStepDef) (disk : Disk) :
    (stepResults root calls steps disk).length = steps.length := by
  induction steps generalizing calls disk with
  | nil => rfl
  | cons step rest ih =>
      unfold stepResults
      simp only [List.length_cons, ih]

theorem length_runSteps_le (root : Bytes) (calls : Nat → StepCalls)
    (steps : List MigrationStepDef) (disk : Disk) :
    (runSteps root calls steps disk).2.length ≤ steps.length := by
  rcases runSteps_shape root calls steps disk with ⟨same, _⟩ |
      ⟨before, failed, later, executed, shape, _⟩
  · exact le_of_eq ((List.length_map _).symm.trans (congrArg List.length same))
  · rw [executed]
    conv => rhs; rw [shape]
    simp

/-- Every step was reached exactly when all but the last succeed. -/
theorem length_runSteps_eq_iff (root : Bytes) (calls : Nat → StepCalls)
    (steps : List MigrationStepDef) (disk : Disk) :
    (runSteps root calls steps disk).2.length = steps.length ↔
      ∀ result ∈ (stepResults root calls steps disk).dropLast,
        result.error = .success := by
  induction steps generalizing calls disk with
  | nil => exact ⟨fun _ => nofun, fun _ => rfl⟩
  | cons step rest ih =>
      cases rest with
      | nil =>
          by_cases here :
              (step.execute root (calls 0).apply disk).error = .success <;>
            simp [runSteps, stepResults, here]
      | cons next others =>
          have tail := ih (fun index => calls (index + 1))
            (step.execute root (calls 0).apply disk).disk
          have nonempty : stepResults root (fun index => calls (index + 1))
              (next :: others) (step.execute root (calls 0).apply disk).disk ≠
                [] := by
            rw [← List.length_pos_iff, length_stepResults]
            exact Nat.succ_pos _
          rw [runSteps, stepResults]
          simp only [List.dropLast_cons_of_ne_nil nonempty,
            List.forall_mem_cons]
          by_cases here :
              (step.execute root (calls 0).apply disk).error = .success
          · simp only [here, if_true, true_and, List.length_cons,
              Nat.add_right_cancel_iff]
            exact tail
          · simp [here]

theorem recordsAffected_runSteps (root : Bytes) (calls : Nat → StepCalls)
    (steps : List MigrationStepDef) (disk : Disk) :
    (runSteps root calls steps disk).2.map
        (fun executed => executed.outcome.recordsAffected) =
      ((stepResults root calls steps disk).map
        ApplyResult.recordsAffected).take
          (runSteps root calls steps disk).2.length := by
  induction steps generalizing calls disk with
  | nil => rfl
  | cons step rest ih =>
      rw [runSteps, stepResults]
      by_cases here : (step.execute root (calls 0).apply disk).error = .success
      · simp only [here, if_true, List.map_cons, List.length_cons,
          List.take_succ_cons, ih]
      · simp [here]

/-! ### The report of a run -/

section Runs

variable {table : List MigrationStepDef} {ready : Bool} {root : Bytes}
  {calls : ForwardCalls} {target : UInt32} {disk : Disk}

/-- The step array of a run: the executed steps, then zeroes. -/
def runEntries (root : Bytes) (calls : RunCalls)
    (steps : List MigrationStepDef) (disk : Disk) : List MigrationStep :=
  let executed := (runSteps root calls.step steps disk).2
  executed.map ExecutedStep.outcome ++
    List.replicate (steps.length - executed.length) zeroedStep

theorem length_runEntries (root : Bytes) (calls : RunCalls)
    (steps : List MigrationStepDef) (disk : Disk) :
    (runEntries root calls steps disk).length = steps.length := by
  have bound := length_runSteps_le root calls.step steps disk
  unfold runEntries
  rw [List.length_append, List.length_map, List.length_replicate]
  omega

theorem runEntries_of_length {calls : RunCalls}
    {steps : List MigrationStepDef}
    (reached : (runSteps root calls.step steps disk).2.length = steps.length) :
    runEntries root calls steps disk =
      (runSteps root calls.step steps disk).2.map ExecutedStep.outcome := by
  unfold runEntries
  simp only [reached, Nat.sub_self, List.replicate_zero, List.append_nil]

/-- The entries of a run that reaches every step count what the steps
return. -/
theorem recordsAffected_runEntries {calls : RunCalls}
    {steps : List MigrationStepDef}
    (reached : (runSteps root calls.step steps disk).2.length = steps.length) :
    (runEntries root calls steps disk).map MigrationStep.recordsAffected =
      (stepResults root calls.step steps disk).map
        ApplyResult.recordsAffected := by
  have records := recordsAffected_runSteps root calls.step steps disk
  rw [reached, List.take_of_length_le (by
    rw [List.length_map, length_stepResults])] at records
  rw [runEntries_of_length reached, List.map_map]
  exact records

/-- The first entry behind the executed steps claims success. -/
theorem runEntries_unreached {calls : RunCalls}
    {steps : List MigrationStepDef}
    (unreached : (runSteps root calls.step steps disk).2.length ≠
      steps.length) :
    (runEntries root calls steps disk)[(runSteps root calls.step steps
      disk).2.length]? = some zeroedStep := by
  have bound := length_runSteps_le root calls.step steps disk
  unfold runEntries
  rw [List.getElem?_append_right (by rw [List.length_map]), List.length_map,
    Nat.sub_self, List.getElem?_replicate, if_pos (by omega)]

/-- The report of a run that reads its version and has steps to select. -/
private theorem reportAfter_run (table : List MigrationStepDef)
    {current : UInt32} (prior : CallerReport)
    (read : migrationGetVersion true ready root calls.read disk = .ok current)
    (older : ¬effectiveTarget target ≤ current) :
    let result := forwardWith table ready root calls true target disk
    let selected := applicableSteps table current (effectiveTarget target)
    let report := reportAfter table ready root calls target disk prior
    result.executed = (runSteps root calls.run.step selected disk).2 ∧
      (report.success = true ↔ result.error = .success) ∧
      report.stepCount = selected.length ∧
      report.totalRecordsAffected = 0 ∧
      report.steps =
        if calls.run.allocated then
          .allocated (runEntries root calls.run selected disk)
        else .null := by
  have code (succeeded : Bool) : succeeded = true ↔
      (if succeeded = true then HeapstoreError.success else .errInternal) =
        .success := by
    cases succeeded <;> simp
  intro result selected report
  unfold report reportAfter result forwardWith
  simp only [read, if_neg older, migRunSteps, if_true,
    MigrationReport.caller]
  refine ⟨rfl, code _, rfl, trivial, ?_⟩
  simp only [List.length_map]
  cases calls.run.allocated <;> rfl

private theorem freeable_of_steps {report : CallerReport}
    (known : report.steps ≠ .stray) :
    (migrationReportFree report).isSome = true := by
  unfold migrationReportFree
  cases kind : report.steps with
  | null => rfl
  | allocated entries => rfl
  | stray => exact absurd kind known

private theorem complete_run {current : UInt32} (prior : CallerReport)
    (read : migrationGetVersion true ready root calls.read disk = .ok current)
    (older : ¬effectiveTarget target ≤ current)
    (fits : calls.run.allocated = false ∨
      let results := stepResults root calls.run.step
        (applicableSteps table current (effectiveTarget target)) disk
      (∀ result ∈ results.dropLast, result.error = .success) ∧
        totalRecords (results.map ApplyResult.recordsAffected) = 0) :
    ReportComplete (forwardWith table ready root calls true target disk)
      (reportAfter table ready root calls target disk prior) := by
  obtain ⟨executed, success, count, total, steps⟩ :=
    reportAfter_run table prior read older
  cases allocated : calls.run.allocated with
  | false =>
      rw [allocated] at steps
      refine ⟨Or.inl steps, freeable_of_steps (by rw [steps]; nofun), success,
        ?_, by rw [total, steps]; rfl⟩
      rw [steps]
      nofun
  | true =>
      rw [allocated] at steps
      rcases fits with missing | ⟨reached, sum⟩
      · rw [allocated] at missing
        cases missing
      · have whole := (length_runSteps_eq_iff ..).mpr reached
        have entries := runEntries_of_length whole
        refine ⟨Or.inr ⟨_, steps, ?_⟩, freeable_of_steps (by rw [steps]; nofun),
          success, ?_, ?_⟩
        · rw [length_runEntries, count]
        · rw [steps, executed]
          intro index entry found
          change (runEntries root calls.run _ disk)[index]? = some entry at found
          rw [entries, List.getElem?_map, Option.map_eq_some_iff] at found
          obtain ⟨ran, here, rfl⟩ := found
          constructor
          · exact fun succeeded => ⟨ran, here, succeeded⟩
          · rintro ⟨other, there, succeeded⟩
            rw [here] at there
            cases there
            exact succeeded
        · rw [total, steps]
          change 0 = totalRecords ((runEntries root calls.run _ disk).map
            MigrationStep.recordsAffected)
          rw [recordsAffected_runEntries whole, sum]

private theorem fits_of_complete {current : UInt32} (prior : CallerReport)
    (read : migrationGetVersion true ready root calls.read disk = .ok current)
    (older : ¬effectiveTarget target ≤ current)
    (allocated : calls.run.allocated = true)
    (complete : ReportComplete
      (forwardWith table ready root calls true target disk)
      (reportAfter table ready root calls target disk prior)) :
    let results := stepResults root calls.run.step
      (applicableSteps table current (effectiveTarget target)) disk
    (∀ result ∈ results.dropLast, result.error = .success) ∧
      totalRecords (results.map ApplyResult.recordsAffected) = 0 := by
  obtain ⟨executed, _, _, total, steps⟩ :=
    reportAfter_run table prior read older
  rw [allocated] at steps
  have whole : (runSteps root calls.run.step
      (applicableSteps table current (effectiveTarget target)) disk).2.length =
        (applicableSteps table current (effectiveTarget target)).length := by
    by_contra unreached
    have first := complete.entry _ zeroedStep (by
      rw [steps]
      exact runEntries_unreached unreached)
    obtain ⟨ran, here, _⟩ := first.mp rfl
    rw [executed, List.getElem?_eq_none (Nat.le_refl _)] at here
    cases here
  refine ⟨(length_runSteps_eq_iff ..).mp whole, ?_⟩
  have sum := complete.total
  rw [total, steps] at sum
  change 0 = totalRecords ((runEntries root calls.run _ disk).map
    MigrationStep.recordsAffected) at sum
  rw [recordsAffected_runEntries whole] at sum
  exact sum.symm

end Runs

/-! ### Every return path -/

/-- A structure as it may lie on the caller's stack. -/
def strayReport : CallerReport where
  fromVersion := 0
  toVersion := 0
  stepCount := 0
  steps := .stray
  success := true
  totalDurationMs := 0
  totalRecordsAffected := 0

/-- A call reports correctly exactly when it reads the version and either has
nothing to run, gets no step array, or reaches every selected step without a
record to count. -/
theorem forward_reports_iff (table : List MigrationStepDef) (ready : Bool)
    (root : Bytes) (calls : ForwardCalls) (target : UInt32) (disk : Disk) :
    ReportsCall table ready root calls target disk ↔
      ReportFits table ready root calls target disk := by
  unfold ReportsCall ReportFits
  cases read : migrationGetVersion true ready root calls.read disk with
  | error error =>
      -- The structure is left as it was, and its pointer may be stray.
      have untouched : ∀ prior,
          reportAfter table ready root calls target disk prior = prior := by
        intro prior
        unfold reportAfter forwardWith
        simp only [read]
      constructor
      · rintro ⟨_, complete⟩
        have freed := (complete strayReport).freeable
        rw [untouched] at freed
        cases freed
      · rintro ⟨current, same, _⟩
        cases same
  | ok current =>
      by_cases newer : effectiveTarget target ≤ current
      · refine ⟨fun _ => ⟨current, rfl, Or.inl newer⟩, fun _ => ⟨?_, ?_⟩⟩
        · intro prior other
          unfold reportAfter forwardWith
          simp only [read, if_pos newer, if_true]
        · intro prior
          unfold reportAfter forwardWith
          simp only [read, if_pos newer, if_true]
          exact ⟨Or.inl rfl, rfl, ⟨fun _ => rfl, fun _ => rfl⟩, nofun, rfl⟩
      · constructor
        · rintro ⟨_, complete⟩
          refine ⟨current, rfl, Or.inr ?_⟩
          cases allocated : calls.run.allocated with
          | false => exact Or.inl rfl
          | true =>
              exact Or.inr (fits_of_complete strayReport read newer allocated
                (complete strayReport))
        · rintro ⟨other, same, fits⟩
          cases same
          refine ⟨fun prior other => ?_, fun prior =>
            complete_run prior read newer (fits.resolve_left newer)⟩
          unfold reportAfter forwardWith
          simp only [read, if_neg newer, migRunSteps, if_true]

/-- When the version cannot be read, the pointer of the caller stays stray. -/
theorem forward_report_stray :
    ¬∀ (table : List MigrationStepDef) (ready : Bool) (root : Bytes)
      (calls : ForwardCalls) (target : UInt32) (disk : Disk),
      ReportsCall table ready root calls target disk := by
  intro always
  have reports := always gForwardSteps true recordedRoot.text .ok 0
    (Disk.write (fun _ => none) (versionFilePath recordedRoot.text) (.bytes []))
  have freed := (reports.2 strayReport).freeable
  revert freed
  decide

end Heapstore.Migration
