/-
Forward migrations and runs of them.

The version is recorded as the raw target of a call, also where no step ends
there.  The guard of a run excludes calls that pass over a step in this way;
without it a recorded version can jump over a step that was never executed.
-/

import Heapstore.Foundation.OperationRun
import Heapstore.MigrationSteps

namespace Heapstore.Migration

open ByteText SqlTable

/-! ### The forward steps -/

def agentFieldOps : List ColOp :=
  [{ table := "agents"
     column :=
      { name := "priority", notNull := false, unique := false
        initial := .integer 0 } },
    { table := "agents"
      column :=
        { name := "tags", notNull := false, unique := false
          initial := .text [] } }]

def migrateAgentFields (root : Bytes) (calls : ApplyCalls) (disk : Disk) :
    ApplyResult :=
  migApplyCols root calls agentFieldOps disk

def sessionMetadataOps : List ColOp :=
  [{ table := "sessions"
     column :=
      { name := "metadata", notNull := false, unique := false
        initial := .text [] } }]

def migrateSessionMetadata (root : Bytes) (calls : ApplyCalls) (disk : Disk) :
    ApplyResult :=
  migApplyCols root calls sessionMetadataOps disk

def gForwardSteps : List MigrationStepDef :=
  [{ name := "v1.0→v1.1: Agent priority/tags fields"
     execute := migrateAgentFields
     fromVersion := 10000
     toVersion := 10100 },
    { name := "v1.1→v2.0: Session metadata field"
      execute := migrateSessionMetadata
      fromVersion := 10100
      toVersion := 20000 }]

/-! ### `heapstore_migration_forward` -/

structure ForwardCalls where
  read : VersionReadCalls
  run : RunCalls

def migReportNoop (version : UInt32) : MigrationReport where
  fromVersion := version
  toVersion := version
  stepCount := 0
  steps := none
  success := true
  totalDurationMs := 0
  totalRecordsAffected := 0

/-- The target zero stands for the current version of the code. -/
def effectiveTarget (target : UInt32) : UInt32 :=
  if target = 0 then schemaVersionCurrent else target

def migrationForward (ready : Bool) (root : Bytes) (calls : ForwardCalls)
    (wanted : Bool) (target : UInt32) (disk : Disk) : RunResult :=
  match migrationGetVersion true ready root calls.read disk with
  | .error error =>
      { disk := disk, error := error, report := none, executed := [] }
  | .ok current =>
      if effectiveTarget target ≤ current then
        { disk := disk
          error := .success
          report := if wanted then some (migReportNoop current) else none
          executed := [] }
      else
        migRunSteps ready root calls.run wanted gForwardSteps current
          (effectiveTarget target) disk

/-! ### Runs of forward migrations -/

/-- A store under migration, with the log of all steps executed so far. -/
structure ForwardState where
  disk : Disk
  executed : List ExecutedStep

structure ForwardCall where
  target : UInt32
  wanted : Bool
  calls : ForwardCalls

def forwardStep (ready : Bool) (root : Bytes) :
    OperationRun.Machine ForwardState ForwardCall HeapstoreError :=
  fun state call =>
    let result :=
      migrationForward ready root call.calls call.wanted call.target state.disk
    ({ disk := result.disk, executed := state.executed ++ result.executed },
      result.error)

def ForwardState.Executed (state : ForwardState) (step : MigrationStepDef) :
    Prop :=
  ∃ executed ∈ state.executed,
    executed.step = step ∧ executed.outcome.result = .success

/-- Every step up to the recorded version has been executed. -/
def NoStepSkipped (root : Bytes) (state : ForwardState) : Prop :=
  ∀ version, RecordedVersion root state.disk version →
    ∀ step ∈ gForwardSteps, step.toVersion ≤ version → state.Executed step

/-- The call ends no step that starts below the recorded version and ends
above it. -/
def PassesNoStep (root : Bytes) (state : ForwardState) (call : ForwardCall) :
    Prop :=
  ∀ current, RecordedVersion root state.disk current →
    ∀ step ∈ gForwardSteps, step.toVersion ≤ effectiveTarget call.target →
      current < step.toVersion → current ≤ step.fromVersion

/-! ### The version file and the files of a step -/

private theorem nameByte {root name : Bytes} (short : root.length < 510) :
    (printTo maxPathLen (root ++ ofString "/" ++ name))[root.length + 1]? =
      name[0]? := by
  rw [getElem?_printTo _ (by change root.length + 1 < 511; omega),
    List.getElem?_append_right (by
      rw [List.length_append]
      change root.length + 1 ≤ root.length + 1
      omega), List.length_append]
  congr 1
  change root.length + 1 - (root.length + 1) = 0
  omega

private theorem migDbPath_eq (root : Bytes) :
    migDbPath root =
      printTo maxPathLen
        (root ++ ofString "/" ++ ofString "registry/registry.db") := by
  unfold migDbPath
  rw [List.append_assoc]
  rfl

private theorem migDbPath_nameByte {root : Bytes} (short : root.length < 510) :
    (migDbPath root)[root.length + 1]? = some 114 := by
  rw [migDbPath_eq, nameByte short]
  rfl

private theorem backupPath_nameByte {root : Bytes} (short : root.length < 510) :
    (backupPath (migDbPath root))[root.length + 1]? = some 114 := by
  have byte := migDbPath_nameByte short
  have inside := (List.getElem?_eq_some_iff.mp byte).1
  unfold backupPath
  rw [getElem?_printTo _ (by change root.length + 1 < 511; omega),
    List.getElem?_append_left inside, byte]

private theorem versionFilePath_nameByte {root : Bytes}
    (short : root.length < 510) :
    (versionFilePath root)[root.length + 1]? = some 46 := by
  unfold versionFilePath
  rw [nameByte short]
  rfl

theorem versionFilePath_ne_migDbPath {root : Bytes}
    (short : root.length < 510) : versionFilePath root ≠ migDbPath root := by
  intro same
  have bytes := versionFilePath_nameByte short
  rw [same, migDbPath_nameByte short] at bytes
  cases bytes

theorem versionFilePath_ne_backupPath {root : Bytes}
    (short : root.length < 510) :
    versionFilePath root ≠ backupPath (migDbPath root) := by
  intro same
  have bytes := versionFilePath_nameByte short
  rw [same, backupPath_nameByte short] at bytes
  cases bytes

theorem migDbPath_ne_temporary {root : Bytes} (short : root.length < 510) :
    migDbPath root ≠ versionFilePath root ++ ofString ".tmp" := by
  intro same
  have byte := versionFilePath_nameByte short
  have inside := (List.getElem?_eq_some_iff.mp byte).1
  have other := migDbPath_nameByte short
  rw [same, List.getElem?_append_left inside, byte] at other
  cases other

theorem gForwardSteps_leaveAlone {root : Bytes} (short : root.length < 510) :
    ∀ step ∈ gForwardSteps, step.LeavesAlone root (versionFilePath root) := by
  intro step member calls disk
  have frame : ∀ ops,
      (migApplyCols root calls ops disk).disk (versionFilePath root) =
        disk (versionFilePath root) :=
    fun ops => migApplyCols_of_ne (versionFilePath_ne_migDbPath short)
      (versionFilePath_ne_backupPath short)
  rcases List.mem_cons.mp member with rfl | last
  · exact frame _
  · cases List.mem_singleton.mp last
    exact frame _

theorem short_of_recordedVersion {root : CharArray maxPathLen} {disk : Disk}
    {version : UInt32} (recorded : RecordedVersion root.text disk version) :
    root.text.length < 510 := by
  have bound : root.text.length < 512 := root.fits
  rcases Nat.lt_or_ge root.text.length 510 with short | long
  · exact short
  · -- The path buffer ends at the root: it names the directory itself.
    have named : versionFilePath root.text = root.text ∨
        versionFilePath root.text = root.text ++ ofString "/" := by
      unfold versionFilePath printTo
      rcases Nat.lt_or_ge root.text.length 511 with less | more
      · right
        have length : root.text.length = 510 := by omega
        rw [List.take_append_of_le_length]
        · apply List.take_of_length_le
          rw [List.length_append]
          change root.text.length + 1 ≤ 511
          omega
        · rw [List.length_append]
          change 511 ≤ root.text.length + 1
          omega
      · left
        have length : root.text.length = 511 := by omega
        rw [List.append_assoc, List.take_append_of_le_length]
        · apply List.take_of_length_le
          change root.text.length ≤ 511
          omega
        · change 511 ≤ root.text.length
          omega
    unfold RecordedVersion migrationGetVersion at recorded
    simp only [Bool.true_eq_false, if_false] at recorded
    unfold Disk.find at recorded
    rw [if_pos named] at recorded
    cases recorded

/-! ### One call -/

theorem applicable_gForwardSteps {current target : UInt32}
    {step : MigrationStepDef} (member : step ∈ gForwardSteps)
    (starts : current ≤ step.fromVersion) (ends : step.toVersion ≤ target) :
    step ∈ applicableSteps gForwardSteps current target := by
  unfold applicableSteps
  rw [List.take_of_length_le]
  · refine List.mem_filter.mpr ⟨member, ?_⟩
    rw [decide_eq_true starts, decide_eq_true ends]
    rfl
  · exact (List.length_filter_le _ _).trans (by decide)

private theorem executed_append_left {state : ForwardState}
    {step : MigrationStepDef} {more : List ExecutedStep} {disk : Disk}
    (executed : state.Executed step) :
    ForwardState.Executed
      { disk := disk, executed := state.executed ++ more } step := by
  obtain ⟨entry, member, same⟩ := executed
  exact ⟨entry, List.mem_append_left more member, same⟩

/-- A call either keeps the recorded version or records its target after every
applicable step has been executed successfully. -/
theorem forwardStep_cases (ready : Bool) {root : Bytes}
    (short : root.length < 510) (state : ForwardState) (call : ForwardCall) :
    let next := (forwardStep ready root state call).1
    (∀ version, RecordedVersion root next.disk version →
        RecordedVersion root state.disk version) ∨
      ∃ current, RecordedVersion root state.disk current ∧
        RecordedVersion root next.disk (effectiveTarget call.target) ∧
        ∀ step ∈ applicableSteps gForwardSteps current
          (effectiveTarget call.target), next.Executed step := by
  intro next
  unfold next forwardStep migrationForward
  simp only
  cases read : migrationGetVersion true ready root call.calls.read state.disk with
  | error error => exact Or.inl fun version recorded => recorded
  | ok current =>
      simp only
      split
      · exact Or.inl fun version recorded => recorded
      · rcases @migRunSteps_outcome ready root call.calls.run call.wanted
            gForwardSteps current (effectiveTarget call.target) state.disk
            (gForwardSteps_leaveAlone short) with
          ⟨_, unchanged⟩ | ⟨_, recorded, executed, succeeded⟩
        · exact Or.inl fun version recorded =>
            (recordedVersion_congr unchanged version).mp recorded
        · refine Or.inr ⟨current, recordedVersion_of_read read, recorded, ?_⟩
          intro step member
          rw [← executed] at member
          obtain ⟨entry, present, rfl⟩ := List.mem_map.mp member
          exact ⟨entry, List.mem_append_right _ present, rfl,
            succeeded entry present⟩

theorem forwardStep_keeps (ready : Bool) (root : Bytes) {state : ForwardState}
    (call : ForwardCall) {step : MigrationStepDef}
    (executed : state.Executed step) :
    (forwardStep ready root state call).1.Executed step :=
  executed_append_left executed

theorem noStepSkipped_step (ready : Bool) (root : CharArray maxPathLen)
    (state : ForwardState) (call : ForwardCall)
    (kept : NoStepSkipped root.text state)
    (passes : PassesNoStep root.text state call) :
    NoStepSkipped root.text (forwardStep ready root.text state call).1 := by
  intro version recorded step member ends
  have short := short_of_recordedVersion recorded
  rcases forwardStep_cases ready short state call with
    same | ⟨current, before, after, executed⟩
  · exact forwardStep_keeps ready root.text call
      (kept version (same version recorded) step member ends)
  · cases recordedVersion_unique recorded after
    by_cases earlier : step.toVersion ≤ current
    · exact forwardStep_keeps ready root.text call
        (kept current before step member earlier)
    · -- A step that ends above the recorded version also starts there.
      have starts := passes current before step member ends
        (UInt32.not_le.mp earlier)
      exact executed step (applicable_gForwardSteps member starts ends)

/-! ### Every run -/

def forwardStart (disk : Disk) : ForwardState := { disk := disk, executed := [] }

/-- In every run whose calls pass no step, the recorded version jumps over no
step in any state that is reached. -/
theorem forward_runs_skip_no_step (ready : Bool) (root : CharArray maxPathLen)
    (disk : Disk) (recorded : RecordedVersion root.text disk 10000)
    (calls : List ForwardCall)
    (passes : OperationRun.Meets (forwardStep ready root.text)
      (PassesNoStep root.text) (forwardStart disk) calls) :
    NoStepSkipped root.text
      (OperationRun.final (forwardStep ready root.text) (forwardStart disk)
        calls) := by
  refine OperationRun.guarded_invariant _ (PassesNoStep root.text)
    (NoStepSkipped root.text) (noStepSkipped_step ready root) _ calls ?_ passes
  intro version other step member ends
  cases recordedVersion_unique recorded other
  -- Both steps end above the version the directory starts from.
  exfalso
  revert ends
  revert step
  decide

def ForwardCalls.ok : ForwardCalls where
  read := .ok
  run :=
    { step := fun _ =>
        { apply :=
            { backup :=
                { sourceOpened := true
                  targetOpened := true
                  copied := true
                  torn := .bytes [] }
              opened := true
              column := fun _ => { info := true, alter := true, counted := true }
              restored := true
              removed := true }
          durationMs := 0 }
      setVersion := .ok
      allocated := true
      totalMs := 0 }

def forwardTo (target : UInt32) : ForwardCall :=
  { target := target, wanted := false, calls := .ok }

/-- A data directory that holds nothing but its version file. -/
def recordedRoot : CharArray maxPathLen := CharArray.copy (ofString "/data")

def recordedDisk : Disk :=
  Disk.write (fun _ => none) (versionFilePath recordedRoot.text)
    (.bytes (versionText 10000))

theorem recordedDisk_version : RecordedVersion recordedRoot.text recordedDisk 10000 :=
  recordedVersion_of_text (by decide) (Disk.write_self ..)

theorem forward_runs_skip_no_step_to_v2 :
    NoStepSkipped recordedRoot.text
      (OperationRun.final (forwardStep true recordedRoot.text)
        (forwardStart recordedDisk) [forwardTo 20000]) :=
  forward_runs_skip_no_step true recordedRoot recordedDisk recordedDisk_version
    [forwardTo 20000] ⟨by
      intro current recorded
      cases recordedVersion_unique recorded recordedDisk_version
      decide, trivial⟩

/-- Migrating to 10050 and then to 10100 records 10100 and executes nothing. -/
theorem forward_run_skips_agent_fields :
    ¬∀ calls : List ForwardCall, NoStepSkipped recordedRoot.text
      (OperationRun.final (forwardStep true recordedRoot.text)
        (forwardStart recordedDisk) calls) := by
  intro always
  let reached := OperationRun.final (forwardStep true recordedRoot.text)
    (forwardStart recordedDisk) [forwardTo 10050, forwardTo 10100]
  have recorded : RecordedVersion recordedRoot.text reached.disk 10100 := rfl
  have nothing : reached.executed = [] := rfl
  have kept := always [forwardTo 10050, forwardTo 10100] 10100 recorded
  have first := kept _ List.mem_cons_self (by decide)
  obtain ⟨entry, member, _⟩ := first
  change entry ∈ reached.executed at member
  rw [nothing] at member
  cases member

end Heapstore.Migration
