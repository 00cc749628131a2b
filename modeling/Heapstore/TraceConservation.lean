/-
Conservation of spans over runs of writes and flushes.

The run is observed through two lists that the code does not keep: the spans
accepted so far and the paths flushed to.  An accepted span is either in the
buffer or in one of these files.  A flush names its file by the second, so two
flushes within a second use one path and the second truncates the first.
-/

import Heapstore.Foundation.OperationRun
import Heapstore.TraceBuffer
import Mathlib.Data.List.Nodup

namespace Heapstore.Trace

open ByteText CivilTime

/-- The calls of a run, with the duplications of attributes and the clock. -/
inductive TraceCall where
  | writeSpan (duplicated : Bool) (span : Option TraceSpan)
  | writeSpansBatch (duplicated : Nat → Bool) (batch : Option SpanArray)
  | flush (now : Int)

/-- The module state with the accepted spans and the paths of this run. -/
structure TraceRun where
  state : TraceState
  accepted : List TraceSpan
  written : List Bytes

/-- The path of a flush, nothing when the buffer is empty or not set up. -/
def flushPath (clock : LocalClock) (state : TraceState) :
    TraceCall → Option Bytes
  | .flush now =>
      if state.initialized = false ∨ state.spanCount = 0 then none
      else some (spanFilePath state.tracePath (clock now))
  | _ => none

def TraceCall.spans : TraceCall → List TraceSpan
  | .writeSpan _ (some span) => [span]
  | .writeSpansBatch _ (some batch) => batch.spans
  | _ => []

/-- One call, with all file operations succeeding. -/
def traceCall (clock : LocalClock) (state : TraceState) :
    TraceCall → TraceState × HeapstoreError
  | .writeSpan duplicated span => traceWriteSpan duplicated span state
  | .writeSpansBatch duplicated batch =>
      traceWriteSpansBatch duplicated batch state
  | .flush now => traceFlush clock now true state

def traceStep (clock : LocalClock) :
    OperationRun.Machine TraceRun TraceCall HeapstoreError :=
  fun run call =>
    let result := traceCall clock run.state call
    ({ state := result.1
       accepted :=
        if result.2 = .success then run.accepted ++ call.spans
        else run.accepted
       written :=
        match flushPath clock run.state call with
        | none => run.written
        | some path => run.written.insert path },
      result.2)

def TraceRun.filed (run : TraceRun) : List SpanEntry :=
  run.written.flatMap fun path => (run.state.files path).getD []

/-- Buffer and files together hold exactly the accepted spans. -/
def Conserved (run : TraceRun) : Prop :=
  (run.state.buffered.map TraceSpan.entry ++ run.filed).Perm
    (run.accepted.map TraceSpan.entry)

/-- A flush of a non-empty buffer goes to a path this run has not used. -/
def FlushesFresh (clock : LocalClock) (run : TraceRun) (call : TraceCall) :
    Prop :=
  ∀ path, flushPath clock run.state call = some path → path ∉ run.written

/-- The paths of the run are distinct, and their files have entries. -/
structure FilesNamed (run : TraceRun) : Prop where
  distinct : run.written.Nodup
  filled : ∀ path ∈ run.written,
    ∃ entries, run.state.files path = some entries ∧ entries ≠ []

/-! ### Writes -/

section Steps

variable {clock : LocalClock} {run : TraceRun}

private theorem conserved_of_write {next : TraceState} {more : List TraceSpan}
    (files : next.files = run.state.files)
    (buffered : next.buffered = run.state.buffered ++ more)
    (conserved : Conserved run) :
    Conserved { state := next, accepted := run.accepted ++ more
                written := run.written } := by
  unfold Conserved TraceRun.filed at conserved ⊢
  simp only [files, buffered, List.map_append]
  rw [List.append_assoc]
  apply (List.Perm.append_left _ List.perm_append_comm).trans
  rw [← List.append_assoc]
  exact conserved.append_right _

private theorem filesNamed_of_write {next : TraceState}
    {accepted : List TraceSpan} (files : next.files = run.state.files)
    (named : FilesNamed run) :
    FilesNamed { state := next, accepted := accepted
                 written := run.written } where
  distinct := named.distinct
  filled path member := by
    simp only [files]
    exact named.filled path member

/-! ### Flushes -/

private def flushed (run : TraceRun) (path : Bytes) : TraceRun where
  state :=
    { run.state with
      files := Function.update run.state.files path
        (some (run.state.buffered.map TraceSpan.entry))
      spanCount := 0 }
  accepted := run.accepted
  written := run.written.insert path

private theorem filed_other {path : Bytes} {paths : List Bytes}
    {entries : List SpanEntry} (files : Bytes → Option (List SpanEntry))
    (absent : path ∉ paths) :
    (paths.flatMap fun other =>
        (Function.update files path (some entries) other).getD []) =
      paths.flatMap fun other => (files other).getD [] := by
  apply List.flatMap_congr
  intro other member
  have different : other ≠ path := fun same => absent (same ▸ member)
  rw [Function.update_of_ne different]

private theorem buffered_flushed (run : TraceRun) (path : Bytes) :
    (flushed run path).state.buffered = [] := rfl

private theorem conserved_flushed_fresh {path : Bytes}
    (fresh : path ∉ run.written) (conserved : Conserved run) :
    Conserved (flushed run path) := by
  have filed : (flushed run path).filed =
      run.state.buffered.map TraceSpan.entry ++ run.filed := by
    unfold flushed TraceRun.filed
    simp only
    rw [List.insert_of_not_mem fresh, List.flatMap_cons, Function.update_self,
      filed_other run.state.files fresh]
    rfl
  unfold Conserved
  rw [buffered_flushed, List.map_nil, List.nil_append, filed]
  exact conserved

/-- A second flush to one path drops the entries of the first. -/
private theorem not_conserved_flushed_stale {path : Bytes}
    (stale : path ∈ run.written) (named : FilesNamed run)
    (conserved : Conserved run) : ¬Conserved (flushed run path) := by
  intro after
  obtain ⟨entries, present, nonempty⟩ := named.filled path stale
  have split := List.perm_cons_erase stale
  have absent : path ∉ run.written.erase path :=
    fun member => (named.distinct.mem_erase_iff.mp member).1 rfl
  have before : run.filed.length = entries.length +
      ((run.written.erase path).flatMap fun other =>
        (run.state.files other).getD []).length := by
    unfold TraceRun.filed
    rw [(split.flatMap_right _).length_eq, List.flatMap_cons, present,
      List.length_append]
    rfl
  have later : (flushed run path).filed.length =
      (run.state.buffered.map TraceSpan.entry).length +
      ((run.written.erase path).flatMap fun other =>
        (run.state.files other).getD []).length := by
    unfold flushed TraceRun.filed
    simp only
    rw [List.insert_of_mem stale, (split.flatMap_right _).length_eq,
      List.flatMap_cons, Function.update_self, List.length_append,
      filed_other run.state.files absent]
    rfl
  have total := conserved.length_eq
  have totalAfter := after.length_eq
  rw [List.length_append, before] at total
  rw [buffered_flushed, List.map_nil, List.nil_append, later] at totalAfter
  have positive := List.length_pos_iff.mpr nonempty
  change _ = (run.accepted.map TraceSpan.entry).length at totalAfter
  omega

private theorem filesNamed_flushed {path : Bytes}
    (filled : run.state.spanCount ≠ 0) (named : FilesNamed run) :
    FilesNamed (flushed run path) where
  distinct := List.Nodup.insert named.distinct
  filled other member := by
    by_cases same : other = path
    · subst other
      refine ⟨_, Function.update_self .., ?_⟩
      intro empty
      have length := congrArg List.length empty
      unfold TraceState.buffered at length
      rw [List.length_map, List.length_map, List.length_range] at length
      exact filled length
    · have old : other ∈ run.written := by
        rcases List.mem_insert_iff.mp member with new | old
        · exact absurd new same
        · exact old
      obtain ⟨entries, present, nonempty⟩ := named.filled other old
      exact ⟨entries, (Function.update_of_ne same ..).trans present, nonempty⟩

/-! ### One call -/

/-- Every call either leaves the files alone and buffers what it accepts, or
flushes a non-empty buffer. -/
theorem traceStep_cases (clock : LocalClock) (run : TraceRun)
    (call : TraceCall) :
    (flushPath clock run.state call = none ∧ ∃ more next,
        next.files = run.state.files ∧
        next.buffered = run.state.buffered ++ more ∧
        (traceStep clock run call).1 =
          { state := next, accepted := run.accepted ++ more
            written := run.written }) ∨
      ∃ path, flushPath clock run.state call = some path ∧
        run.state.spanCount ≠ 0 ∧
        (traceStep clock run call).1 = flushed run path := by
  cases call with
  | writeSpan duplicated span =>
      obtain ⟨files, _, _, outcome⟩ :=
        traceWriteSpan_outcome duplicated span run.state
      refine Or.inl ⟨rfl, ?_⟩
      rcases outcome with ⟨failed, same⟩ | ⟨written, rfl, succeeded, added⟩
      · refine ⟨[], _, files, same.trans (List.append_nil _).symm, ?_⟩
        unfold traceStep traceCall
        simp only [if_neg failed, List.append_nil]
        rfl
      · refine ⟨[written], _, files, added, ?_⟩
        unfold traceStep traceCall
        simp only [if_pos succeeded]
        rfl
  | writeSpansBatch duplicated batch =>
      obtain ⟨files, _, _, outcome⟩ :=
        traceWriteSpansBatch_outcome duplicated batch run.state
      refine Or.inl ⟨rfl, ?_⟩
      rcases outcome with ⟨failed, same⟩ | ⟨written, rfl, succeeded, added⟩
      · refine ⟨[], _, files, same.trans (List.append_nil _).symm, ?_⟩
        unfold traceStep traceCall
        simp only [if_neg failed, List.append_nil]
        rfl
      · refine ⟨written.spans, _, files, added, ?_⟩
        unfold traceStep traceCall
        simp only [if_pos succeeded]
        rfl
  | flush now =>
      cases ready : run.state.initialized with
      | false =>
          refine Or.inl ⟨by simp [flushPath, ready], [], run.state, rfl,
            (List.append_nil _).symm, ?_⟩
          simp [traceStep, traceCall, traceFlush, flushPath, ready]
      | true =>
          by_cases empty : run.state.spanCount = 0
          · refine Or.inl ⟨by simp [flushPath, empty], [], run.state, rfl,
              (List.append_nil _).symm, ?_⟩
            simp [traceStep, traceCall, traceFlush, flushPath, ready, empty,
              TraceCall.spans]
          · refine Or.inr
              ⟨_, by simp [flushPath, ready, empty]; rfl, empty, ?_⟩
            simp [traceStep, traceCall, traceFlush, flushPath, ready, empty,
              TraceCall.spans, flushed]

theorem filesNamed_step (clock : LocalClock) (run : TraceRun)
    (call : TraceCall) (named : FilesNamed run) :
    FilesNamed (traceStep clock run call).1 := by
  rcases traceStep_cases clock run call with
    ⟨_, more, next, files, _, result⟩ | ⟨path, _, filled, result⟩
  · rw [result]
    exact filesNamed_of_write files named
  · rw [result]
    exact filesNamed_flushed filled named

theorem conserved_step_iff (clock : LocalClock) (run : TraceRun)
    (call : TraceCall) (named : FilesNamed run) (conserved : Conserved run) :
    Conserved (traceStep clock run call).1 ↔ FlushesFresh clock run call := by
  rcases traceStep_cases clock run call with
    ⟨none_, more, next, files, buffered, result⟩ | ⟨path, some_, _, result⟩
  · rw [result]
    refine ⟨fun _ path flushes => ?_,
      fun _ => conserved_of_write files buffered conserved⟩
    rw [none_] at flushes
    cases flushes
  · rw [result]
    constructor
    · intro after other flushes stale
      rw [some_] at flushes
      cases flushes
      exact not_conserved_flushed_stale stale named conserved after
    · intro fresh
      exact conserved_flushed_fresh (fresh path some_) conserved

end Steps

/-! ### Every run -/

/-- A run starts from a freshly initialized module, whatever files exist. -/
def traceStart (root : Bytes) (files : Bytes → Option (List SpanEntry)) :
    TraceRun where
  state :=
    (traceInit root true
      { initialized := false
        tracePath := []
        slots := fun _ => zeroedSpan
        spanCount := 0
        files := files }).1
  accepted := []
  written := []

/-- At every point of a run no accepted span is lost or duplicated, exactly if
every flush of a non-empty buffer goes to a path not used before. -/
theorem trace_runs_conserve_iff (clock : LocalClock) (root : Bytes)
    (files : Bytes → Option (List SpanEntry)) (calls : List TraceCall) :
    (∀ done, done <+: calls → Conserved
        (OperationRun.final (traceStep clock) (traceStart root files) done)) ↔
      OperationRun.Meets (traceStep clock) (FlushesFresh clock)
        (traceStart root files) calls :=
  OperationRun.prefixes_iff_meets (traceStep clock) (FlushesFresh clock)
    FilesNamed Conserved (filesNamed_step clock) (conserved_step_iff clock)
    (traceStart root files) calls ⟨List.nodup_nil, nofun⟩ List.Perm.nil

def sampleSpan (id : String) : TraceSpan :=
  { zeroedSpan with
    traceId := CharArray.copy (ofString "trace")
    spanId := CharArray.copy (ofString id) }

/-- The time a call reads from the clock. -/
def TraceCall.now : TraceCall → Option Int
  | .flush now => some now
  | _ => none

/-- Two spans flushed within one second: the first is lost. -/
theorem trace_run_loses_span :
    ¬∀ (clock : LocalClock) (root : Bytes)
      (files : Bytes → Option (List SpanEntry)) (calls : List TraceCall),
      (calls.filterMap TraceCall.now).Pairwise (· ≤ ·) →
      ∀ done, done <+: calls → Conserved
        (OperationRun.final (traceStep clock) (traceStart root files) done) := by
  intro always
  let calls : List TraceCall :=
    [.writeSpan true (some (sampleSpan "a")), .flush 0,
      .writeSpan true (some (sampleSpan "b")), .flush 0]
  let reached := OperationRun.final (traceStep gmtime)
    (traceStart (ofString "/data") fun _ => none) calls
  have conserved : Conserved reached :=
    always gmtime (ofString "/data") (fun _ => none) calls (by decide) calls
      List.prefix_rfl
  have lengths := conserved.length_eq
  rw [List.length_append, List.length_map, List.length_map] at lengths
  have lost : reached.state.buffered.length + reached.filed.length ≠
      reached.accepted.length := by
    decide
  exact lost lengths

end Heapstore.Trace
