/-
The store keeps its contract.

Every call, start, stop and end of the process keeps the relation between the
process, its files and the model, and answers as the contract permits.  Where
no batch leaves a transaction open, the records are what was acknowledged.
-/

import Heapstore.StoreStarts

namespace Heapstore.Durability

open ByteText CivilTime SqlConnection OperationRun
open RegistrySqlite RegistryBackendAgreement Trace Circuit
open Heapstore.Core
open RegistryMemory (RecordMap mapGet)

/-! ### The relation -/

structure Related (path : Bytes) (process : Process) (model : StoreModel) :
    Prop where
  inStep : process.InStep
  up : process.initialized = model.up
  registry : Keeps path model.up model.shelf process.registry
  file : Filed (process.disk path) model.shelf.committed
  held : model.up = true → process.trace.buffered = model.spans
  dropped : model.up = false → model.spans = []

/-- Every start takes the same root. -/
def StartsAt (platform : Platform) (root : Bytes) (process : Process) :
    ServiceCall → Prop
  | .start manager calls =>
      (configure platform manager calls process).rootPath = root
  | _ => True

section Steps

variable {platform : Platform} {clock : LocalClock} {root path : Bytes}
  {process : Process} {model : StoreModel}

theorem Related.down (related : Related path process model)
    (down : model.up = false) : model.down = model := by
  rcases model with ⟨up, ⟨committed, working⟩, spans⟩
  cases down
  cases (related.registry.closed rfl).2
  cases related.dropped rfl
  rfl

theorem start_permitted {manager : Option HeapstoreConfig} {calls : InitCalls}
    (related : Related (registryPath platform root) process model)
    (here : (configure platform manager calls process).rootPath = root) :
    ∃ next, serviceContract model (.start manager calls)
        (.code (heapstoreInit platform manager calls process).2) next ∧
      Related (registryPath platform root)
        (heapstoreInit platform manager calls process).1 next := by
  cases running : model.up with
  | true =>
      have refused : heapstoreInit platform manager calls process =
          (process, .errAlreadyInitialized) := by
        unfold heapstoreInit
        rw [related.up, running, if_pos rfl]
      rw [refused]
      refine ⟨model, ?_, related⟩
      unfold serviceContract
      rw [if_pos running]
      exact ⟨rfl, rfl⟩
  | false =>
      have stopped : process.initialized = false := related.up.trans running
      have closed := related.registry.closed running
      have leaves := heapstoreInit_leaves stopped related.inStep here
        related.file closed.1
      have settled := @heapstoreInit_settled platform manager calls process
        stopped related.inStep
      have inStep := @heapstoreInit_inStep platform manager calls process
        related.inStep
      have flag := congrArg Flags.store settled
      change (heapstoreInit platform manager calls process).1.initialized = _
        at flag
      have registryFlag := congrArg Flags.registry settled
      change (heapstoreInit platform manager calls process).1.registry.initialized
        = _ at registryFlag
      generalize heapstoreInit platform manager calls process = outcome at *
      by_cases succeeded : outcome.2 = .success
      · rw [decide_eq_true succeeded] at flag registryFlag
        obtain ⟨opened, empty⟩ := leaves.opened succeeded
        obtain ⟨database, db, holds⟩ := opened.db
        refine ⟨{ model with up := true }, ?_, ?_⟩
        · unfold serviceContract
          rw [if_neg (Bool.eq_false_iff.mp running), succeeded]
          exact Or.inl ⟨rfl, rfl⟩
        · constructor
          · exact inStep
          · exact flag
          · refine ⟨registryFlag, fun _ => ⟨opened.dbPath, _, db, holds, ?_⟩,
              nofun⟩
            change Option.Rel Holds none model.shelf.working
            rw [closed.2]
            exact .none
          · exact leaves.file
          · intro _
            unfold TraceState.buffered
            rw [empty]
            exact (related.dropped running).symm
          · nofun
      · rw [decide_eq_false succeeded] at flag registryFlag
        refine ⟨model, ?_, ?_⟩
        · unfold serviceContract
          rw [if_neg (Bool.eq_false_iff.mp running)]
          exact Or.inr ⟨⟨_, succeeded, rfl⟩, rfl⟩
        · constructor
          · exact inStep
          · exact flag.trans running.symm
          · refine ⟨registryFlag.trans running.symm, ?_, ?_⟩
            · intro up
              rw [running] at up
              cases up
            · exact fun _ => ⟨leaves.closed succeeded, closed.2⟩
          · exact leaves.file
          · intro up
            rw [running] at up
            cases up
          · exact related.dropped

theorem stop_related (related : Related path process model) :
    Related path (heapstoreShutdown process) model.down := by
  have inStep := heapstoreShutdown_inStep related.inStep
  cases running : model.up with
  | false =>
      have same : heapstoreShutdown process = process := by
        unfold heapstoreShutdown
        rw [related.up, running, if_neg nofun]
      rw [same, related.down running]
      exact related
  | true =>
      have up : process.initialized = true := related.up.trans running
      have registryUp := related.registry.initialized.trans running
      unfold heapstoreShutdown at inStep ⊢
      rw [if_pos up] at inStep ⊢
      exact
        { inStep := inStep
          up := rfl
          registry :=
            ⟨registryShutdown_flag _, nofun,
              fun _ => ⟨registryShutdown_closed _ registryUp, rfl⟩⟩
          file := related.file
          held := nofun
          dropped := fun _ => rfl }

theorem exit_related (related : Related path process model) :
    Related path (respawned process) model.down where
  inStep := rfl
  up := rfl
  registry := ⟨rfl, nofun, fun _ => ⟨rfl, rfl⟩⟩
  file := related.file
  held := nofun
  dropped _ := rfl

theorem reload_related (related : Related path process model)
    (manager : Option HeapstoreConfig) (calls : ArmCalls) :
    Related path (heapstoreReloadConfig calls manager process).1 model := by
  unfold heapstoreReloadConfig
  split
  · exact related
  · cases manager with
    | none => exact related
    | some given =>
        exact
          { inStep := related.inStep
            up := related.up
            registry := related.registry
            file := related.file
            held := related.held
            dropped := related.dropped }

/-- A registry call on a store that is down leaves the records. -/
theorem RecordCall.meaning_down {kind : RecordKind} (call : RecordCall kind)
    (shelf : Shelf) : (call.meaning false shelf).1 = shelf := by
  cases call with
  | add calls record =>
      unfold RecordCall.meaning
      cases record with
      | none => rfl
      | some record =>
          simp only
          split <;> rfl
  | batchInsert calls records =>
      unfold RecordCall.meaning
      cases records with
      | none => rfl
      | some records =>
          simp only
          split <;> rfl
  | get calls id out =>
      unfold RecordCall.meaning
      cases id with
      | none => rfl
      | some id =>
          simp only
          split <;> rfl
  | update able calls record =>
      unfold RecordCall.meaning
      cases record with
      | none => rfl
      | some record =>
          simp only
          split <;> rfl
  | delete calls id => cases id <;> rfl

theorem record_inStep (inStep : process.InStep) {registry : SqlRegistry}
    (flag : registry.initialized = process.registry.initialized) :
    { process with registry := registry }.InStep := by
  unfold Process.InStep Process.flags at inStep ⊢
  rw [flag]
  exact inStep

theorem record_permitted (related : Related path process model)
    {kind : RecordKind} (call : RecordCall kind) :
    (call.run process.registry).2 = (call.meaning model.up model.shelf).2 ∧
      Related path
        (filed { process with registry := (call.run process.registry).1 })
        { model with shelf := (call.meaning model.up model.shelf).1 } := by
  obtain ⟨keeps, answered⟩ := call.run_meant related.registry
  refine ⟨answered, ?_⟩
  have inStep := record_inStep related.inStep
    (keeps.initialized.trans related.registry.initialized.symm)
  generalize (call.run process.registry).1 = registry at keeps inStep ⊢
  cases running : model.up with
  | true =>
      rw [running] at keeps
      obtain ⟨dbPath, connection, db, shelved⟩ := keeps.opened rfl
      unfold filed
      simp only [db]
      exact
        { inStep := inStep
          up := related.up.trans running
          registry := keeps
          file := by
            change Filed (process.disk.write registry.dbPath
              (.database connection.committed) path) _
            rw [dbPath, Disk.write_self]
            exact ⟨_, rfl, shelved.committed.partly⟩
          held := fun _ => related.held running
          dropped := nofun }
  | false =>
      rw [running, call.meaning_down] at keeps
      rw [call.meaning_down]
      unfold filed
      simp only [(keeps.closed rfl).1]
      exact
        { inStep := inStep
          up := related.up.trans running
          registry := keeps
          file := related.file
          held := nofun
          dropped := fun _ => related.dropped running }

/-- What a buffer call leaves, told from the outcomes of its code. -/
theorem bufferCall_initialized (state : TraceState) (call : BufferCall) :
    (bufferCall clock state call).1.initialized = state.initialized := by
  by_cases flush : ∃ now opened, call = .flush now opened
  · obtain ⟨now, opened, rfl⟩ := flush
    exact (traceFlush_buffered clock now opened state).1
  · exact (bufferCall_write clock state call
      fun now opened same => flush ⟨now, opened, same⟩).1

/-- Nothing succeeds on a buffer that is not initialised. -/
theorem bufferCall_down {state : TraceState} (call : BufferCall)
    (down : state.initialized = false) :
    bufferCall clock state call = (state, .errNotInitialized) := by
  cases call <;>
    simp [bufferCall, traceWriteSpan, traceWriteSpansBatch, traceFlush,
      traceQueryByTrace, traceQueryByTimeRange, QueryCalls.untouched, down]

theorem buffer_related (related : Related path process model)
    (call : BufferCall) {spans : List TraceSpan}
    (held : model.up = true →
      (bufferCall clock process.trace call).1.buffered = spans)
    (dropped : model.up = false → spans = []) :
    Related path
      { process with trace := (bufferCall clock process.trace call).1 }
      { model with spans := spans } where
  inStep := by
    have inStep := related.inStep
    unfold Process.InStep Process.flags at inStep ⊢
    simp only [bufferCall_initialized]
    exact inStep
  up := related.up
  registry := related.registry
  file := related.file
  held := held
  dropped := dropped

theorem refused_related (related : Related path process model)
    (call : BufferCall) {done : List TraceSpan → Prop}
    (down : ¬model.up = true) :
    ∃ spans,
      (((bufferCall clock process.trace call).2 = .success ∧
          model.up = true ∧ done spans) ∨
        ((bufferCall clock process.trace call).2 ≠ .success ∧
          spans = model.spans)) ∧
      Related path
        { process with trace := (bufferCall clock process.trace call).1 }
        { model with spans := spans } := by
  have stopped : process.trace.initialized = false :=
    (congrArg Flags.trace related.inStep).trans
      (related.up.trans (Bool.eq_false_iff.mpr down))
  refine ⟨model.spans, Or.inr ⟨?_, rfl⟩,
    buffer_related related call (fun up => absurd up down) related.dropped⟩
  rw [bufferCall_down call stopped]
  nofun

/-- A call that adds its spans or fails. -/
theorem write_permitted (related : Related path process model)
    (call : BufferCall) (write : ∀ now opened, call ≠ .flush now opened) :
    ∃ spans,
      (((bufferCall clock process.trace call).2 = .success ∧
          model.up = true ∧ spans = model.spans ++ call.spans) ∨
        ((bufferCall clock process.trace call).2 ≠ .success ∧
          spans = model.spans)) ∧
      Related path
        { process with trace := (bufferCall clock process.trace call).1 }
        { model with spans := spans } := by
  obtain ⟨_, outcome⟩ := bufferCall_write clock process.trace call write
  by_cases running : model.up = true
  · have dropped : ∀ spans : List TraceSpan, model.up = false → spans = [] :=
      fun _ down => absurd (running.symm.trans down) nofun
    rcases outcome with ⟨failed, same⟩ | ⟨succeeded, added⟩
    · refine ⟨model.spans, Or.inr ⟨failed, rfl⟩,
        buffer_related related call ?_ (dropped _)⟩
      exact fun up => same.trans (related.held up)
    · refine ⟨model.spans ++ call.spans, Or.inl ⟨succeeded, running, rfl⟩,
        buffer_related related call ?_ (dropped _)⟩
      intro up
      rw [added, related.held up]
  · exact refused_related related call running

theorem flush_permitted (related : Related path process model) (now : Int)
    (opened : Bool) :
    ∃ spans,
      (((bufferCall clock process.trace (.flush now opened)).2 = .success ∧
          model.up = true ∧ spans = []) ∨
        ((bufferCall clock process.trace (.flush now opened)).2 ≠ .success ∧
          spans = model.spans)) ∧
      Related path
        { process with
            trace := (bufferCall clock process.trace (.flush now opened)).1 }
        { model with spans := spans } := by
  obtain ⟨_, left⟩ := traceFlush_buffered clock now opened process.trace
  by_cases running : model.up = true
  · have dropped : ∀ spans : List TraceSpan, model.up = false → spans = [] :=
      fun _ down => absurd (running.symm.trans down) nofun
    by_cases succeeded : (traceFlush clock now opened process.trace).2 = .success
    · rw [if_pos succeeded] at left
      exact ⟨[], Or.inl ⟨succeeded, running, rfl⟩,
        buffer_related related (.flush now opened) (fun _ => left) (dropped _)⟩
    · rw [if_neg succeeded] at left
      exact ⟨model.spans, Or.inr ⟨succeeded, rfl⟩,
        buffer_related related (.flush now opened)
          (fun up => left.trans (related.held up)) (dropped _)⟩
  · exact refused_related related (.flush now opened) running

theorem query_permitted (related : Related path process model)
    (call : BufferCall) (calls : Trace.QueryCalls) (wanted : TraceSpan → Bool)
    (asks : asksFor call = some (calls, wanted)) (up : model.up = true)
    (allocated : calls.allocated = true)
    (duplicated : ∀ index, calls.duplicated index = true) :
    bufferAnswer clock process.trace call =
      .spans (answerOf (model.spans.filter wanted)) := by
  have running : process.trace.initialized = true :=
    (congrArg Flags.trace related.inStep).trans (related.up.trans up)
  have collected := spansCollect_answer calls.duplicated duplicated wanted
    process.trace
  rw [related.held up] at collected
  unfold asksFor at asks
  split at asks
  · cases asks
    simp only [bufferAnswer, traceQueryByTrace, running, allocated,
      Bool.true_eq_false, if_false, collected]
  · cases asks
    simp only [bufferAnswer, traceQueryByTimeRange, running, allocated,
      Bool.true_eq_false, if_false, collected]
  · cases asks

/-- The outcome of a call that answers with its code. -/
theorem code_answers {error : HeapstoreError} {up : Bool} {done left : Prop}
    (outcome : (error = .success ∧ up = true ∧ done) ∨
      (error ≠ .success ∧ left)) :
    (ServiceAnswer.code error = .code .success ∧ up = true ∧ done) ∨
      ((∃ code, code ≠ .success ∧ ServiceAnswer.code error = .code code) ∧
        left) := by
  rcases outcome with ⟨succeeded, rest⟩ | ⟨failed, rest⟩
  · exact Or.inl ⟨congrArg ServiceAnswer.code succeeded, rest⟩
  · exact Or.inr ⟨⟨error, failed, rfl⟩, rest⟩

theorem buffer_permitted (related : Related path process model)
    (call : BufferCall) :
    ∃ spans,
      BufferContract model.up model.spans call
        (bufferAnswer clock process.trace call) spans ∧
      Related path
        { process with trace := (bufferCall clock process.trace call).1 }
        { model with spans := spans } := by
  cases call with
  | flush now opened =>
      obtain ⟨spans, outcome, after⟩ :=
        @flush_permitted clock path process model related now opened
      exact ⟨spans, code_answers outcome, after⟩
  | writeSpan duplicated span =>
      obtain ⟨spans, outcome, after⟩ :=
        @write_permitted clock path process model related
          (.writeSpan duplicated span) nofun
      exact ⟨spans, code_answers outcome, after⟩
  | writeSpansBatch duplicated batch =>
      obtain ⟨spans, outcome, after⟩ :=
        @write_permitted clock path process model related
          (.writeSpansBatch duplicated batch) nofun
      exact ⟨spans, code_answers outcome, after⟩
  | queryByTrace calls traceId outs =>
      refine ⟨model.spans, ⟨rfl, ?_⟩,
        buffer_related related (.queryByTrace calls traceId outs)
          related.held related.dropped⟩
      exact fun calls wanted asks up allocated duplicated =>
        query_permitted related _ calls wanted asks up allocated duplicated
  | queryByTimeRange calls startTime endTime outs =>
      refine ⟨model.spans, ⟨rfl, ?_⟩,
        buffer_related related (.queryByTimeRange calls startTime endTime outs)
          related.held related.dropped⟩
      exact fun calls wanted asks up allocated duplicated =>
        query_permitted related _ calls wanted asks up allocated duplicated

theorem service_permitted
    (related : Related (registryPath platform root) process model)
    (call : ServiceCall) (startsAt : StartsAt platform root process call) :
    ∃ next,
      serviceContract model call (serviceStep platform clock process call).2
        next ∧
      Related (registryPath platform root)
        (serviceStep platform clock process call).1 next := by
  cases call with
  | start manager calls => exact start_permitted related startsAt
  | stop => exact ⟨model.down, ⟨rfl, rfl⟩, stop_related related⟩
  | exit => exact ⟨model.down, ⟨rfl, rfl⟩, exit_related related⟩
  | reload manager calls =>
      exact ⟨model, rfl, reload_related related manager calls⟩
  | record kind call =>
      obtain ⟨answered, after⟩ := record_permitted related call
      exact ⟨_, ⟨congrArg (ServiceAnswer.record kind) answered, rfl⟩, after⟩
  | buffer call =>
      obtain ⟨spans, permitted, after⟩ :=
        @buffer_permitted clock _ process model related call
      exact ⟨_, ⟨spans, permitted, rfl⟩, after⟩

end Steps

/-! ### Runs -/

/-- A store that never started, over the records of its database file. -/
def storedModel (maps : RecordMaps) : StoreModel where
  up := false
  shelf := { committed := maps, working := none }
  spans := []

theorem related_fresh {path : Bytes} {disk : Disk} {maps : RecordMaps}
    (file : Filed (disk path) maps) :
    Related path (freshProcess disk) (storedModel maps) where
  inStep := rfl
  up := rfl
  registry := ⟨rfl, nofun, fun _ => ⟨rfl, rfl⟩⟩
  file := file
  held := nofun
  dropped _ := rfl

/-- Whatever fails in a run of starts, stops, ends of the process, registry
calls and buffer calls, the contract explains every answer, and the tables and
the buffer of the last state hold the records and the spans of the last
model. -/
theorem store_keeps_contract (platform : Platform) (clock : LocalClock)
    (root : Bytes) (disk : Disk) (maps : RecordMaps)
    (file : Filed (disk (registryPath platform root)) maps)
    (calls : List ServiceCall)
    (startsAt : Meets (serviceStep platform clock) (StartsAt platform root)
      (freshProcess disk) calls) :
    ∃ last,
      Explains serviceContract (storedModel maps)
        (transcript (serviceStep platform clock) (freshProcess disk) calls)
        last ∧
      Related (registryPath platform root)
        (final (serviceStep platform clock) (freshProcess disk) calls) last :=
  guarded_explains (serviceStep platform clock) serviceContract
    (StartsAt platform root) (Related (registryPath platform root))
    (fun _ _ call related here => service_permitted related call here)
    (freshProcess disk) (storedModel maps) calls (related_fresh file) startsAt

/-! ### What was acknowledged -/

section Acknowledged

variable {kind : RecordKind}

def putRecord (map : RecordMap kind.Record) (record : kind.Record) :
    RecordMap kind.Record :=
  Function.update map (kind.shape.recId record) (some record)

/-- The records after a call that was answered with success, as its caller
understands it. -/
def RecordCall.effect (map : RecordMap kind.Record) :
    RecordCall kind → RecordMap kind.Record
  | .add _ (some record) => putRecord map record
  | .batchInsert _ (some records) => records.foldl putRecord map
  | .update able _ (some record) => mergeInto able record map
  | .delete _ (some id) => Function.update map id none
  | _ => map

end Acknowledged

def acknowledge (maps : RecordMaps) (exchange : ServiceCall × ServiceAnswer) :
    RecordMaps :=
  match exchange with
  | (.record kind call, .record _ answer) =>
      if answer.1 = .success then
        Function.update maps kind (call.effect (maps kind))
      else maps
  | _ => maps

/-- A batch of which neither the commit nor the rollback would fail. -/
def Settles : ServiceCall → Prop
  | .record _ (.batchInsert calls _) =>
      calls.commit = true ∧ calls.rollback = true
  | _ => True

section Settled

variable {kind : RecordKind} {up : Bool} {shelf : Shelf}

/-- A result of a shelf without a transaction: refused, or the effect. -/
def Acknowledges (shelf : Shelf) (effect : RecordMap kind.Record)
    (result : Shelf × HeapstoreError) : Prop :=
  result.1.working = none ∧
    result.1.committed =
      if result.2 = .success then Function.update shelf.committed kind effect
      else shelf.committed

theorem acknowledges_refused (idle : shelf.working = none)
    (error : HeapstoreError) (failed : error ≠ .success)
    (effect : RecordMap kind.Record) :
    Acknowledges shelf effect (shelf, error) := by
  refine ⟨idle, ?_⟩
  rw [if_neg failed]

theorem Shelf.exec_acknowledges (idle : shelf.working = none)
    (calls : ExecCalls)
    {write : RecordMap kind.Record → Option (RecordMap kind.Record)}
    {effect : RecordMap kind.Record}
    (writes : ∀ map, write (shelf.committed kind) = some map → map = effect) :
    Acknowledges shelf effect (shelf.exec up calls write) := by
  unfold Shelf.exec
  split
  · exact acknowledges_refused idle .errNotInitialized nofun effect
  split
  · exact acknowledges_refused idle .errDbQueryFailed nofun effect
  · have visible : shelf.visible = shelf.committed := by
      unfold Shelf.visible
      rw [idle]
      rfl
    rw [visible]
    cases written : write (shelf.committed kind) with
    | none => exact acknowledges_refused idle .errDbQueryFailed nofun effect
    | some map =>
        rw [writes map written]
        unfold Acknowledges Shelf.store
        rw [idle]
        exact ⟨rfl, rfl⟩

theorem insertInto_some {record : kind.Record}
    {map next : RecordMap kind.Record}
    (inserted : insertInto record map = some next) :
    next = putRecord map record := by
  unfold insertInto at inserted
  split at inserted
  · exact (Option.some.inj inserted).symm
  · cases inserted

theorem insertEach_whole (steps : Nat → Bool) (records : List kind.Record)
    (map : RecordMap kind.Record)
    (whole : (insertEach steps records map).2 = true) :
    (insertEach steps records map).1 = records.foldl putRecord map := by
  induction records generalizing steps map with
  | nil => rfl
  | cons record rest ih =>
      unfold insertEach at whole ⊢
      split at whole
      · cases whole
      · next running =>
          rw [if_neg running]
          cases inserted : insertInto record map with
          | none =>
              rw [inserted] at whole
              cases whole
          | some next =>
              simp only [inserted] at whole ⊢
              rw [ih _ _ whole, insertInto_some inserted]
              rfl

theorem Shelf.batch_acknowledges (idle : shelf.working = none)
    {calls : BatchCalls} (commits : calls.commit = true)
    (rollsBack : calls.rollback = true) (records : List kind.Record) :
    Acknowledges shelf (records.foldl putRecord (shelf.committed kind))
      (shelf.batch up calls records) := by
  unfold Shelf.batch
  simp only [commits, rollsBack, if_true]
  split
  · exact acknowledges_refused idle .errNotInitialized nofun _
  split
  · exact acknowledges_refused idle .errDbQueryFailed nofun _
  · split
    · next whole =>
        refine ⟨rfl, ?_⟩
        rw [if_pos rfl, insertEach_whole _ _ _ whole]
    · exact acknowledges_refused idle .errDbQueryFailed nofun _

/-- On a shelf without a transaction a call that settles has its effect
committed if it is answered with success, and none otherwise. -/
theorem RecordCall.meaning_acknowledges (call : RecordCall kind)
    (idle : shelf.working = none) (settles : Settles (.record kind call)) :
    Acknowledges shelf (call.effect (shelf.committed kind))
      ((call.meaning up shelf).1, (call.meaning up shelf).2.1) := by
  have refused : Acknowledges shelf (call.effect (shelf.committed kind))
      (shelf, .errInvalidParam) :=
    acknowledges_refused idle .errInvalidParam nofun _
  cases call with
  | add calls record =>
      cases record with
      | none => exact refused
      | some record =>
          unfold RecordCall.meaning
          simp only
          split
          · exact refused
          · exact Shelf.exec_acknowledges idle calls
              fun map inserted => insertInto_some inserted
  | batchInsert calls records =>
      cases records with
      | none => exact refused
      | some records =>
          unfold RecordCall.meaning
          simp only
          split
          · exact refused
          · exact Shelf.batch_acknowledges idle settles.1 settles.2 records
  | get calls id out =>
      have read : ∀ answer : RecordAnswer kind,
          Acknowledges shelf (shelf.committed kind) (shelf, answer.1) := by
        intro answer
        refine ⟨idle, ?_⟩
        rw [Function.update_eq_self, ite_self]
      cases id with
      | none => exact refused
      | some id =>
          unfold RecordCall.meaning
          simp only
          split
          · exact refused
          · exact read _
  | update able calls record =>
      cases record with
      | none => exact refused
      | some record =>
          unfold RecordCall.meaning
          simp only
          split
          · exact refused
          · exact Shelf.exec_acknowledges idle calls
              fun map written => (Option.some.inj written).symm
  | delete calls id =>
      cases id with
      | none => exact refused
      | some id =>
          exact Shelf.exec_acknowledges idle calls
            fun map written => (Option.some.inj written).symm

end Settled

theorem acknowledged_exchange (model : StoreModel) (call : ServiceCall)
    (answer : ServiceAnswer) (next : StoreModel)
    (idle : model.shelf.working = none) (settles : Settles call)
    (permitted : serviceContract model call answer next) :
    next.shelf.working = none ∧
      next.shelf.committed = acknowledge model.shelf.committed (call, answer) := by
  cases call with
  | start manager calls =>
      simp only [serviceContract] at permitted
      split at permitted
      · rw [permitted.2]
        exact ⟨idle, rfl⟩
      · rcases permitted with ⟨_, rfl⟩ | ⟨_, rfl⟩
        · exact ⟨idle, rfl⟩
        · exact ⟨idle, rfl⟩
  | stop =>
      rw [permitted.2]
      exact ⟨rfl, rfl⟩
  | exit =>
      rw [permitted.2]
      exact ⟨rfl, rfl⟩
  | reload manager calls =>
      cases permitted
      exact ⟨idle, rfl⟩
  | record kind call =>
      obtain ⟨rfl, rfl⟩ := permitted
      exact call.meaning_acknowledges idle settles
  | buffer call =>
      obtain ⟨spans, _, rfl⟩ := permitted
      exact ⟨idle, rfl⟩

/-- Without a transaction a running store answers a lookup from the committed
records. -/
theorem Related.read {path : Bytes} {process : Process} {model : StoreModel}
    (related : Related path process model) (idle : model.shelf.working = none)
    (kind : RecordKind) (id : Bytes) :
    kind.get .ok (some id) true process.registry =
      if process.initialized then
        mapGet (some id) true (model.shelf.committed kind)
      else (.errNotInitialized, none) := by
  have answered := (RecordCall.get .ok (some id) true :
    RecordCall kind).run_meant related.registry
  change _ ∧ kind.get .ok (some id) true process.registry = _ at answered
  rw [answered.2, related.up]
  change model.shelf.get model.up .ok id = _
  unfold Shelf.get
  cases model.up with
  | false => rfl
  | true =>
      have visible : model.shelf.visible = model.shelf.committed := by
        unfold Shelf.visible
        rw [idle]
        rfl
      rw [if_neg nofun, if_neg (not_not_intro rfl), if_pos rfl, visible]

/-- Over every run whose batches settle, the records of the store are those its
acknowledged calls say, whatever starts, stops, ends of the process and engine
failures came between: a read on a running store answers from them. -/
theorem acknowledged_records_survive (platform : Platform) (clock : LocalClock)
    (root : Bytes) (disk : Disk) (maps : RecordMaps)
    (file : Filed (disk (registryPath platform root)) maps)
    (calls : List ServiceCall)
    (startsAt : Meets (serviceStep platform clock) (StartsAt platform root)
      (freshProcess disk) calls)
    (settle : ∀ call ∈ calls, Settles call)
    (kind : RecordKind) (id : Bytes) :
    let process := final (serviceStep platform clock) (freshProcess disk) calls
    kind.get .ok (some id) true process.registry =
      if process.initialized then
        mapGet (some id) true
          ((transcript (serviceStep platform clock) (freshProcess disk)
            calls).foldl acknowledge maps kind)
      else (.errNotInitialized, none) := by
  intro process
  obtain ⟨last, explained, related⟩ := guarded_explains
    (serviceStep platform clock) serviceContract (StartsAt platform root)
    (Related (registryPath platform root))
    (fun _ _ call related here => service_permitted related call here)
    (freshProcess disk) (storedModel maps) calls (related_fresh file) startsAt
  obtain ⟨idle, committed⟩ := explained.folds
    (fun model => model.shelf.committed) acknowledge
    (fun model => model.shelf.working = none) Settles acknowledged_exchange
    (by
      intro exchange member
      apply settle
      have listed := List.mem_map_of_mem (f := Prod.fst) member
      rwa [map_transcript] at listed)
    rfl
  rw [related.read idle kind id, committed]
  rfl

def plainRoot : Bytes := ofString "/var/lib/agentrt/heapstore"

def plainStart (calls : InitCalls) : ServiceCall :=
  .start (some (defConfig (some plainRoot))) calls

def addedAgent (id : String) : ServiceCall :=
  .record .agent (.add .ok (some (agentNamed id)))

/-- An agent is added, and the store stopped, killed and started again. -/
def restartedCalls : List ServiceCall :=
  [plainStart .ok, addedAgent "a", .stop,
    plainStart { InitCalls.ok with traceAllocated := false }, plainStart .ok,
    .exit, plainStart .ok]

theorem filed_missing : Filed none emptyRecords :=
  ⟨fun _ => none, rfl, fun _ => Or.inr ⟨rfl, rfl⟩⟩

theorem store_keeps_contract_restarted :
    ∃ last,
      Explains serviceContract (storedModel emptyRecords)
        (transcript (serviceStep plainPlatform gmtime)
          (freshProcess fun _ => none) restartedCalls) last ∧
      Related (registryPath plainPlatform plainRoot)
        (final (serviceStep plainPlatform gmtime) (freshProcess fun _ => none)
          restartedCalls) last :=
  store_keeps_contract plainPlatform gmtime plainRoot (fun _ => none)
    emptyRecords filed_missing restartedCalls
    ⟨rfl, trivial, trivial, rfl, rfl, trivial, rfl, trivial⟩

theorem acknowledged_records_survive_restarted :
    RecordKind.agent.get .ok (some (ofString "a")) true
        (final (serviceStep plainPlatform gmtime) (freshProcess fun _ => none)
          restartedCalls).registry =
      (.success, some (agentNamed "a")) :=
  (acknowledged_records_survive plainPlatform gmtime plainRoot (fun _ => none)
    emptyRecords filed_missing restartedCalls
    ⟨rfl, trivial, trivial, rfl, rfl, trivial, rfl, trivial⟩
    (by
      intro call member
      simp only [restartedCalls, List.mem_cons, List.not_mem_nil, or_false]
        at member
      rcases member with rfl | rfl | rfl | rfl | rfl | rfl | rfl <;> trivial)
    .agent (ofString "a")).trans (by decide +kernel)

/-- A commit that fails leaves its transaction open, and what is acknowledged
in it does not survive a stop. -/
theorem open_transaction_loses_acknowledged :
    let calls := [plainStart .ok,
      .record .agent (.batchInsert { BatchCalls.ok with commit := false }
        (some [agentNamed "a"])),
      addedAgent "b", .stop, plainStart .ok]
    (answers (serviceStep plainPlatform gmtime) (freshProcess fun _ => none)
        calls)[2]? = some (.record .agent (.success, none)) ∧
      RecordKind.agent.get .ok (some (ofString "b")) true
        (final (serviceStep plainPlatform gmtime) (freshProcess fun _ => none)
          calls).registry = (.errNotFound, none) := by
  intro calls
  exact ⟨rfl, by decide +kernel⟩

end Heapstore.Durability
