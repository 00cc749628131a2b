/-
The integration layer in front of the store.

It starts and stops the store, under a flag of its own, and turns syscalls into
calls of the store.  Over every run in which only the layer starts and stops the
store, its flag and its root are those of the store.  Where the root is always
the same and no batch stays open, the sessions in the registry are those that
its callers were told were saved and not deleted.
-/

import Heapstore.CorePaths
import Heapstore.StoreDurability
import Heapstore.SyscallSessions
import Heapstore.SyscallTraces

namespace Heapstore.Integration

open ByteText CivilTime SqlConnection OperationRun
open Migration RegistrySqlite RegistryBackendAgreement Trace Circuit
open Heapstore.Core
open Durability Syscall
open RegistryMemory (RecordMap mapGet)

/-- `g_integration_initialized` and `g_root_path`. -/
structure Integrated where
  initialized : Bool
  rootPath : Bytes
  deriving DecidableEq

def notIntegrated : Integrated where
  initialized := false
  rootPath := []

/-- The root that the store is started on. -/
def effectiveRoot (platform : Platform) (rootPath : Option Bytes) : Bytes :=
  match rootPath with
  | some root => root
  | none =>
      match platform.env with
      | some (byte :: rest) => byte :: rest
      | _ =>
          if platform.dataDir ≠ [] then
            printTo 512 (platform.dataDir ++ ofString "/agentrt/heapstore")
          else printTo 512 (ofString "/tmp/agentrt/heapstore")

/-- The root that the layer writes down, found once more. -/
def keptRoot (platform : Platform) (rootPath : Option Bytes) : Bytes :=
  match rootPath with
  | some root => printTo 512 root
  | none =>
      match platform.env with
      | some (byte :: rest) => printTo 512 (byte :: rest)
      | _ =>
          if platform.dataDir ≠ [] then
            printTo 512 (platform.dataDir ++ ofString "/agentrt/heapstore")
          else printTo 512 (ofString "/tmp/agentrt/heapstore")

/-- The layer and the process it runs in. -/
abbrev Host := Integrated × Process

/-- `heapstore_integration_init` -/
def integrationInit (platform : Platform) (rootPath : Option Bytes)
    (calls : InitCalls) (host : Host) : Host × SyscallError :=
  if host.1.initialized then (host, .success)
  else
    let config := defConfig (some (effectiveRoot platform rootPath))
    let started := heapstoreInit platform (some config) calls host.2
    if started.2 ≠ .success then ((host.1, started.1), .eIo)
    else
      (({ initialized := true, rootPath := keptRoot platform rootPath },
        started.1), .success)

/-- `heapstore_integration_shutdown` -/
def integrationShutdown (host : Host) : Host :=
  if host.1.initialized = false then host
  else (notIntegrated, heapstoreShutdown host.2)

/-- `heapstore_syscall_session_save` on the SQLite registry. -/
def sessionSave (calls : ExecCalls) (arguments : SessionArguments)
    (host : Host) : Host × SyscallError :=
  if host.1.initialized = false then (host, .eNotInit)
  else
    match arguments.sessionId with
    | none => (host, .eInval)
    | some sessionId =>
        let added := registryAddSession calls
          (some (sessionRecord sessionId arguments)) host.2.registry
        ((host.1, filed { host.2 with registry := added.1 }),
          .ofHeapstore added.2)

/-- `heapstore_syscall_session_delete` on the SQLite registry. -/
def sessionDelete (calls : ExecCalls) (sessionId : Option Bytes)
    (host : Host) : Host × SyscallError :=
  if host.1.initialized = false then (host, .eNotInit)
  else
    match sessionId with
    | none => (host, .eInval)
    | some sessionId =>
        let deleted :=
          registryDeleteSession calls (some sessionId) host.2.registry
        ((host.1, filed { host.2 with registry := deleted.1 }),
          .ofHeapstore deleted.2)

def traceSave (held copied : Bool) (arguments : TraceArguments) (host : Host) :
    Host × SyscallError :=
  let saved := syscallTraceSave host.1.initialized held copied arguments
    host.2.trace
  ((host.1, { host.2 with trace := saved.1 }), saved.2)

/-- A call of the layer, the end of the process, or a call that other code
makes of the store. -/
inductive HostCall where
  | init (rootPath : Option Bytes) (calls : InitCalls)
  | shutdown
  | exit
  | sessionSave (calls : ExecCalls) (arguments : SessionArguments)
  | sessionDelete (calls : ExecCalls) (sessionId : Option Bytes)
  | traceSave (held copied : Bool) (arguments : TraceArguments)
  | other (call : ServiceCall)

inductive HostReply where
  | code (error : SyscallError)
  | other (answer : ServiceAnswer)

def hostStep (platform : Platform) (clock : LocalClock) :
    Machine Host HostCall HostReply := fun host call =>
  let coded : Host × SyscallError → Host × HostReply :=
    fun result => (result.1, .code result.2)
  match call with
  | .init rootPath calls => coded (integrationInit platform rootPath calls host)
  | .shutdown => (integrationShutdown host, .code .success)
  | .exit => ((notIntegrated, respawned host.2), .code .success)
  | .sessionSave calls arguments => coded (sessionSave calls arguments host)
  | .sessionDelete calls sessionId => coded (sessionDelete calls sessionId host)
  | .traceSave held copied arguments =>
      coded (traceSave held copied arguments host)
  | .other call =>
      let ran := serviceStep platform clock host.2 call
      ((host.1, ran.1), .other ran.2)

/-! ### The layer as a client of the store -/

def integrationLayer (platform : Platform) :
    Layer Integrated HostCall ServiceCall ServiceAnswer HostReply where
  consult top call :=
    match call with
    | .init rootPath calls =>
        if top.initialized then .inr (.code .success)
        else
          .inl (.start
            (some (defConfig (some (effectiveRoot platform rootPath)))) calls)
    | .shutdown =>
        if top.initialized = false then .inr (.code .success) else .inl .stop
    | .exit => .inl .exit
    | .sessionSave calls arguments =>
        if top.initialized = false then .inr (.code .eNotInit)
        else
          match arguments.sessionId with
          | none => .inr (.code .eInval)
          | some sessionId =>
              .inl (.record .session
                (.add calls (some (sessionRecord sessionId arguments))))
    | .sessionDelete calls sessionId =>
        if top.initialized = false then .inr (.code .eNotInit)
        else
          match sessionId with
          | none => .inr (.code .eInval)
          | some sessionId =>
              .inl (.record .session (.delete calls (some sessionId)))
    | .traceSave held copied arguments =>
        if top.initialized = false then .inr (.code .eNotInit)
        else
          match arguments.traceId, arguments.spanId, arguments.name with
          | some traceId, some spanId, some name =>
              if savedEvents arguments.eventsJson ≠ none ∧ held = false then
                .inr (.code .eNoMem)
              else
                .inl (.buffer (.writeSpan copied
                  (some (savedSpan traceId spanId name arguments))))
          | _, _, _ => .inr (.code .eInval)
    | .other call => .inl call
  resume top call answer :=
    match call with
    | .init rootPath _ =>
        if answerError answer = .success then
          ({ initialized := true, rootPath := keptRoot platform rootPath },
            .code .success)
        else (top, .code .eIo)
    | .shutdown | .exit => (notIntegrated, .code .success)
    | .sessionSave _ _ | .sessionDelete _ _ | .traceSave _ _ _ =>
        (top, .code (.ofHeapstore (answerError answer)))
    | .other _ => (top, .other answer)

section Client

variable {platform : Platform} {clock : LocalClock}

theorem hostStep_layered (host : Host) (call : HostCall) :
    hostStep platform clock host call =
      layered (integrationLayer platform) (serviceStep platform clock) host
        call := by
  rcases host with ⟨top, process⟩
  cases call with
  | init rootPath calls =>
      simp only [hostStep, layered, integrationLayer, integrationInit]
      cases top.initialized with
      | true => rfl
      | false =>
          generalize ran : heapstoreInit platform
            (some (defConfig (some (effectiveRoot platform rootPath)))) calls
            process = started
          have below : serviceStep platform clock process (.start
              (some (defConfig (some (effectiveRoot platform rootPath))))
              calls) = (started.1, .code started.2) := by
            rw [← ran]
            rfl
          simp only [Bool.false_eq_true, if_false, below, answerError]
          by_cases succeeded : started.2 = .success
          · rw [if_neg (not_not.mpr succeeded), if_pos succeeded]
          · rw [if_pos succeeded, if_neg succeeded]
  | shutdown =>
      simp only [hostStep, layered, integrationLayer, integrationShutdown]
      cases top.initialized <;> rfl
  | exit => rfl
  | sessionSave calls arguments =>
      simp only [hostStep, layered, integrationLayer, sessionSave]
      cases top.initialized with
      | false => rfl
      | true => cases arguments.sessionId <;> rfl
  | sessionDelete calls sessionId =>
      simp only [hostStep, layered, integrationLayer, sessionDelete]
      cases top.initialized with
      | false => rfl
      | true => cases sessionId <;> rfl
  | traceSave held copied arguments =>
      simp only [hostStep, layered, integrationLayer, traceSave,
        syscallTraceSave]
      cases top.initialized with
      | false => rfl
      | true =>
          cases arguments.traceId with
          | none => rfl
          | some traceId =>
              cases arguments.spanId with
              | none => rfl
              | some spanId =>
                  cases arguments.name with
                  | none => rfl
                  | some name =>
                      simp only [Bool.true_eq_false, if_false]
                      split <;> rfl
  | other call => rfl

end Client

/-! ### What its callers are told -/

/-- The records after an exchange, as the caller understands it. -/
def told (maps : RecordMaps) (exchange : HostCall × HostReply) : RecordMaps :=
  match exchange with
  | (.sessionSave _ arguments, .code .success) =>
      match arguments.sessionId with
      | none => maps
      | some sessionId =>
          Function.update maps .session
            (@putRecord .session (maps .session)
              (sessionRecord sessionId arguments))
  | (.sessionDelete _ (some sessionId), .code .success) =>
      Function.update maps .session
        (Function.update (maps .session) sessionId none)
  | (.other call, .other answer) => acknowledge maps (call, answer)
  | _ => maps

/-- A call of other code that is no start and no stop, and that settles. -/
def Visits : ServiceCall → Prop
  | .start _ _ | .stop | .exit => False
  | call => Settles call

/-- Only the layer starts and stops the store, always on one root. -/
def Orderly (platform : Platform) (root : Bytes) : HostCall → Prop
  | .init rootPath _ =>
      printTo maxPathLen (effectiveRoot platform rootPath) = root
  | .other call => Visits call
  | _ => True

/-- The layer over a store that is up or down, on the store's root. -/
def integratedWhen (root : Bytes) (up : Bool) : Integrated :=
  if up then { initialized := true, rootPath := root } else notIntegrated

theorem integratedWhen_initialized (root : Bytes) (up : Bool) :
    (integratedWhen root up).initialized = up := by
  cases up <;> rfl

/-! ### The flag and the root of the store -/

/-- Only the layer starts and stops the store. -/
def Alone : HostCall → Prop
  | .other (.start _ _) | .other .stop | .other .exit => False
  | _ => True

/-- The layer has the flag of the store and, while it runs, its root. -/
def Follows (host : Host) : Prop :=
  host.1 = integratedWhen host.2.rootPath host.2.initialized

/-- The process after a call in which nobody starts or stops the store. -/
structure KeepsRoot (before after : Process) : Prop where
  initialized : after.initialized = before.initialized
  rootPath : after.rootPath = before.rootPath

section Following

variable {platform : Platform} {clock : LocalClock} {host : Host}

theorem Follows.flag (follows : Follows host) :
    host.1.initialized = host.2.initialized := by
  rw [show host.1 = _ from follows, integratedWhen_initialized]

theorem Follows.kept (follows : Follows host) {next : Process}
    (kept : KeepsRoot host.2 next) : Follows (host.1, next) := by
  unfold Follows
  rw [kept.initialized, kept.rootPath]
  exact follows

theorem keptRoot_eq (platform : Platform) (rootPath : Option Bytes) :
    keptRoot platform rootPath =
      printTo maxPathLen (effectiveRoot platform rootPath) := by
  have again : ∀ text : Bytes, printTo 512 text =
      printTo maxPathLen (printTo 512 text) := by
    intro text
    exact (printTo_of_fits (length_printTo_lt (by decide) text)).symm
  unfold keptRoot effectiveRoot
  cases rootPath with
  | some given => rfl
  | none =>
      simp only
      split
      · rfl
      · split
        · exact again _
        · exact again _

/-- A stage that fails takes the store down. -/
theorem stage_down {ran : Process × HeapstoreError} {undo : Process → Process}
    {next : Process → Process × HeapstoreError}
    (later : ∀ done, (next done).2 ≠ .success →
      (next done).1.initialized = false)
    (failed : (stage ran undo next).2 ≠ .success) :
    (stage ran undo next).1.initialized = false := by
  unfold stage at failed ⊢
  split
  · next succeeded =>
      rw [if_pos succeeded] at failed
      exact later _ failed
  · rfl

theorem startStages_down {calls : InitCalls} {process : Process}
    (failed : (startStages platform calls process).2 ≠ .success) :
    (startStages platform calls process).1.initialized = false := by
  refine stage_down ?_ failed
  intro migrated
  apply stage_down
  intro opened
  apply stage_down
  intro traced
  apply stage_down
  intro remembered
  apply stage_down
  intro logged reached
  exact absurd rfl reached

/-- A start that fails leaves a store down that was down. -/
theorem heapstoreInit_down {manager : Option HeapstoreConfig}
    {calls : InitCalls} {process : Process} (down : process.initialized = false)
    (failed : (heapstoreInit platform manager calls process).2 ≠ .success) :
    (heapstoreInit platform manager calls process).1.initialized = false := by
  rw [heapstoreInit_eq, down] at failed ⊢
  simp only [Bool.false_eq_true, if_false] at failed ⊢
  split
  · exact (congrArg Flags.store configure_flags).trans down
  · next created =>
      rw [if_neg created] at failed
      exact startStages_down failed

theorem integrationInit_follows (rootPath : Option Bytes) (calls : InitCalls)
    (follows : Follows host) :
    Follows (integrationInit platform rootPath calls host).1 := by
  unfold integrationInit
  split
  · exact follows
  · next down =>
      have stopped : host.2.initialized = false :=
        follows.flag.symm.trans (Bool.eq_false_iff.mpr down)
      simp only
      split
      · next failed =>
          have still := heapstoreInit_down stopped failed
          unfold Follows at follows ⊢
          rw [stopped] at follows
          rw [still]
          exact follows
      · next reached =>
          obtain ⟨version, migrated, opened, started⟩ :=
            heapstoreInit_started (not_not.mp reached)
          unfold Follows integratedWhen
          rw [started.running.1, started.rootPath, keptRoot_eq,
            configure_rootPath rfl]
          rfl

theorem integrationShutdown_follows (follows : Follows host) :
    Follows (integrationShutdown host) := by
  unfold integrationShutdown
  split
  · exact follows
  · have stopped : (heapstoreShutdown host.2).initialized = false := by
      unfold heapstoreShutdown
      cases running : host.2.initialized with
      | true => rfl
      | false => exact running
    unfold Follows
    rw [stopped]
    rfl

/-- The file of the database is all that the disk gains. -/
theorem filed_keepsRoot (process : Process) (registry : SqlRegistry) :
    KeepsRoot process (filed { process with registry := registry }) := by
  unfold filed
  split <;> exact ⟨rfl, rfl⟩

theorem sessionSave_follows (calls : ExecCalls) (arguments : SessionArguments)
    (follows : Follows host) :
    Follows (sessionSave calls arguments host).1 := by
  unfold sessionSave
  split
  · exact follows
  · split
    · exact follows
    · exact follows.kept (filed_keepsRoot host.2 _)

theorem sessionDelete_follows (calls : ExecCalls) (sessionId : Option Bytes)
    (follows : Follows host) :
    Follows (sessionDelete calls sessionId host).1 := by
  unfold sessionDelete
  split
  · exact follows
  · split
    · exact follows
    · exact follows.kept (filed_keepsRoot host.2 _)

theorem other_follows (call : ServiceCall) (alone : Alone (.other call))
    (follows : Follows host) :
    Follows (host.1, (serviceStep platform clock host.2 call).1) := by
  apply follows.kept
  cases call with
  | start manager calls => exact alone.elim
  | stop => exact alone.elim
  | exit => exact alone.elim
  | reload manager calls =>
      change KeepsRoot host.2 (heapstoreReloadConfig calls manager host.2).1
      unfold heapstoreReloadConfig
      split
      · exact ⟨rfl, rfl⟩
      · cases manager <;> exact ⟨rfl, rfl⟩
  | record kind call => exact filed_keepsRoot host.2 _
  | buffer call => exact ⟨rfl, rfl⟩

theorem hostStep_follows (call : HostCall) (follows : Follows host)
    (alone : Alone call) :
    Follows (hostStep platform clock host call).1 := by
  cases call with
  | init rootPath calls => exact integrationInit_follows rootPath calls follows
  | shutdown => exact integrationShutdown_follows follows
  | exit => exact rfl
  | sessionSave calls arguments =>
      exact sessionSave_follows calls arguments follows
  | sessionDelete calls sessionId =>
      exact sessionDelete_follows calls sessionId follows
  | traceSave held copied arguments => exact follows.kept ⟨rfl, rfl⟩
  | other call => exact other_follows call alone follows

end Following

/-- Over every run in which only the layer starts and stops the store, on
whatever roots, the layer follows it. -/
theorem layer_follows_store (platform : Platform) (clock : LocalClock)
    (disk : Disk) (calls : List HostCall)
    (alone : ∀ call ∈ calls, Alone call) :
    Follows (final (hostStep platform clock) (notIntegrated, freshProcess disk)
      calls) := by
  apply guarded_invariant (hostStep platform clock)
    (fun _ call => Alone call) Follows
    (fun _ call follows alone => hostStep_follows call follows alone)
  · rfl
  · rw [meets_iff_forall]
    rintro before call after rfl
    exact alone call (List.mem_append_right before List.mem_cons_self)

/-! ### What the registry acknowledges -/

/-- The layer has the flag of the store, and no batch is open. -/
structure InTouch (both : Integrated × StoreModel) : Prop where
  flag : both.1.initialized = both.2.up
  settled : both.2.shelf.working = none

/-- The layer stays in touch, and the call changes the records as its caller is
told. -/
structure Accounted (before : StoreModel) (call : HostCall) (reply : HostReply)
    (after : Integrated × StoreModel) : Prop where
  touch : InTouch after
  committed : after.2.shelf.committed =
    told before.shelf.committed (call, reply)

section Runs

variable {platform : Platform} {clock : LocalClock} {root : Bytes}
  {top later : Integrated} {model next : StoreModel} {reply : HostReply}

/-- A call that is no start and no stop leaves the store up or down. -/
theorem visits_up {call : ServiceCall} (visits : Visits call)
    {answer : ServiceAnswer}
    (permitted : serviceContract model call answer next) :
    next.up = model.up := by
  cases call with
  | start manager calls => exact visits.elim
  | stop => exact visits.elim
  | exit => exact visits.elim
  | reload manager calls => rw [permitted]
  | record kind call => rw [permitted.2]
  | buffer call =>
      obtain ⟨spans, _, same⟩ := permitted
      rw [same]

theorem visits_settles {call : ServiceCall} (visits : Visits call) :
    Settles call := by
  cases call with
  | start manager calls => exact visits.elim
  | stop => exact visits.elim
  | exit => exact visits.elim
  | reload manager calls => exact visits
  | record kind call => exact visits
  | buffer call => exact visits

/-- A call of the store keeps in touch, and is acknowledged. -/
theorem visits_exchange {call : ServiceCall} (visits : Visits call)
    {answer : ServiceAnswer} (touch : InTouch (top, model))
    (permitted : serviceContract model call answer next) :
    InTouch (top, next) ∧
      next.shelf.committed =
        acknowledge model.shelf.committed (call, answer) := by
  obtain ⟨settled, committed⟩ := acknowledged_exchange model call answer next
    touch.settled (visits_settles visits) permitted
  exact ⟨⟨touch.flag.trans (visits_up visits permitted).symm, settled⟩,
    committed⟩

/-- A call that the layer answers by itself. -/
theorem unasked_exchange {call : HostCall} {given : HostReply}
    (touch : InTouch (top, model))
    (answered : reply = given ∧ (later, next) = (top, model))
    (untold : told model.shelf.committed (call, given) =
      model.shelf.committed) :
    Accounted model call reply (later, next) := by
  obtain ⟨rfl, same⟩ := answered
  rw [same]
  exact ⟨touch, untold.symm⟩

theorem init_exchange (rootPath : Option Bytes) (calls : InitCalls)
    (touch : InTouch (top, model))
    (permitted : layeredContract (integrationLayer platform) serviceContract
      (top, model) (.init rootPath calls) reply (later, next)) :
    Accounted model (.init rootPath calls) reply (later, next) := by
  have flag : top.initialized = model.up := touch.flag
  simp only [layeredContract, integrationLayer, flag] at permitted
  cases running : model.up with
  | true =>
      simp only [running, if_true] at permitted
      exact unasked_exchange touch permitted rfl
  | false =>
      simp only [running, Bool.false_eq_true, if_false] at permitted
      obtain ⟨answer, allowed, resumed⟩ := permitted
      simp only [serviceContract, running, Bool.false_eq_true, if_false]
        at allowed
      rcases allowed with ⟨rfl, rfl⟩ | ⟨⟨error, failed, rfl⟩, rfl⟩
      · simp only [answerError, if_true] at resumed
        cases resumed
        exact ⟨⟨rfl, touch.settled⟩, rfl⟩
      · simp only [answerError, failed, if_false] at resumed
        cases resumed
        exact ⟨touch, rfl⟩

theorem shutdown_exchange (touch : InTouch (top, model))
    (permitted : layeredContract (integrationLayer platform) serviceContract
      (top, model) .shutdown reply (later, next)) :
    Accounted model .shutdown reply (later, next) := by
  have flag : top.initialized = model.up := touch.flag
  simp only [layeredContract, integrationLayer, flag] at permitted
  cases running : model.up with
  | false =>
      simp only [running, if_true] at permitted
      exact unasked_exchange touch permitted rfl
  | true =>
      simp only [running, Bool.true_eq_false, if_false] at permitted
      obtain ⟨answer, ⟨_, rfl⟩, resumed⟩ := permitted
      cases resumed
      exact ⟨⟨rfl, rfl⟩, rfl⟩

theorem exit_exchange
    (permitted : layeredContract (integrationLayer platform) serviceContract
      (top, model) .exit reply (later, next)) :
    Accounted model .exit reply (later, next) := by
  obtain ⟨answer, ⟨_, rfl⟩, resumed⟩ := permitted
  cases resumed
  exact ⟨⟨rfl, rfl⟩, rfl⟩

/-- A syscall on the sessions tells its caller what the registry acknowledges. -/
theorem session_exchange (call : HostCall) (record : RecordCall .session)
    (visits : Visits (.record .session record)) {answer : ServiceAnswer}
    (touch : InTouch (top, model))
    (permitted : serviceContract model (.record .session record) answer next)
    (succeeds : told model.shelf.committed (call, .code .success) =
      Function.update model.shelf.committed .session
        (record.effect (model.shelf.committed .session)))
    (fails : told model.shelf.committed (call, .code .eIo) =
      model.shelf.committed) :
    Accounted model call (.code (.ofHeapstore (answerError answer)))
      (top, next) := by
  obtain ⟨stays, committed⟩ := visits_exchange visits touch permitted
  refine ⟨stays, committed.trans ?_⟩
  rw [permitted.1]
  unfold acknowledge answerError SyscallError.ofHeapstore
  simp only
  split
  · exact succeeds.symm
  · exact fails.symm

theorem sessionSave_exchange (calls : ExecCalls) (arguments : SessionArguments)
    (touch : InTouch (top, model))
    (permitted : layeredContract (integrationLayer platform) serviceContract
      (top, model) (.sessionSave calls arguments) reply (later, next)) :
    Accounted model (.sessionSave calls arguments) reply (later, next) := by
  simp only [layeredContract, integrationLayer] at permitted
  cases running : top.initialized with
  | false =>
      simp only [running, if_true] at permitted
      exact unasked_exchange touch permitted rfl
  | true =>
      simp only [running, Bool.true_eq_false, if_false] at permitted
      cases given : arguments.sessionId with
      | none =>
          simp only [given] at permitted
          exact unasked_exchange touch permitted rfl
      | some sessionId =>
          simp only [given] at permitted
          obtain ⟨answer, allowed, resumed⟩ := permitted
          cases resumed
          apply session_exchange _ (.add calls
            (some (sessionRecord sessionId arguments))) trivial touch allowed
          · simp only [told, given]
            rfl
          · rfl

theorem sessionDelete_exchange (calls : ExecCalls) (sessionId : Option Bytes)
    (touch : InTouch (top, model))
    (permitted : layeredContract (integrationLayer platform) serviceContract
      (top, model) (.sessionDelete calls sessionId) reply (later, next)) :
    Accounted model (.sessionDelete calls sessionId) reply (later, next) := by
  simp only [layeredContract, integrationLayer] at permitted
  cases running : top.initialized with
  | false =>
      simp only [running, if_true] at permitted
      exact unasked_exchange touch permitted (by cases sessionId <;> rfl)
  | true =>
      simp only [running, Bool.true_eq_false, if_false] at permitted
      cases sessionId with
      | none => exact unasked_exchange touch permitted rfl
      | some sessionId =>
          obtain ⟨answer, allowed, resumed⟩ := permitted
          cases resumed
          exact session_exchange _ (.delete calls (some sessionId)) trivial
            touch allowed rfl rfl

/-- A trace that is saved goes to the span buffer. -/
theorem traceSave_asks {held copied : Bool} {arguments : TraceArguments}
    {operation : ServiceCall}
    (asked : (integrationLayer platform).consult top
      (.traceSave held copied arguments) = .inl operation) :
    ∃ call, operation = .buffer call := by
  simp only [integrationLayer] at asked
  split at asked
  · cases asked
  · split at asked
    · split at asked
      · cases asked
      · cases asked
        exact ⟨_, rfl⟩
    · cases asked

theorem told_traceSave (maps : RecordMaps) (held copied : Bool)
    (arguments : TraceArguments) (reply : HostReply) :
    told maps (.traceSave held copied arguments, reply) = maps := by
  cases reply with
  | code error => cases error <;> rfl
  | other answer => rfl

theorem traceSave_exchange (held copied : Bool) (arguments : TraceArguments)
    (touch : InTouch (top, model))
    (permitted : layeredContract (integrationLayer platform) serviceContract
      (top, model) (.traceSave held copied arguments) reply (later, next)) :
    Accounted model (.traceSave held copied arguments) reply (later, next) := by
  simp only [layeredContract] at permitted
  split at permitted
  · exact unasked_exchange touch permitted (told_traceSave _ _ _ _ _)
  · next operation asked =>
      obtain ⟨answer, allowed, resumed⟩ := permitted
      obtain ⟨call, rfl⟩ := traceSave_asks asked
      cases resumed
      obtain ⟨stays, committed⟩ := @visits_exchange top model next
        (.buffer call) trivial answer touch allowed
      exact ⟨stays, committed.trans (told_traceSave _ _ _ _ _).symm⟩

theorem other_exchange {call : ServiceCall} (visits : Visits call)
    (touch : InTouch (top, model))
    (permitted : layeredContract (integrationLayer platform) serviceContract
      (top, model) (.other call) reply (later, next)) :
    Accounted model (.other call) reply (later, next) := by
  obtain ⟨answer, allowed, resumed⟩ := permitted
  cases resumed
  obtain ⟨stays, committed⟩ := visits_exchange visits touch allowed
  exact ⟨stays, committed⟩

theorem orderly_exchange (both : Integrated × StoreModel) (call : HostCall)
    (reply : HostReply) (after : Integrated × StoreModel)
    (touch : InTouch both) (orderly : Orderly platform root call)
    (permitted : layeredContract (integrationLayer platform) serviceContract
      both call reply after) :
    Accounted both.2 call reply after := by
  cases call with
  | init rootPath calls => exact init_exchange rootPath calls touch permitted
  | shutdown => exact shutdown_exchange touch permitted
  | exit => exact exit_exchange permitted
  | sessionSave calls arguments =>
      exact sessionSave_exchange calls arguments touch permitted
  | sessionDelete calls sessionId =>
      exact sessionDelete_exchange calls sessionId touch permitted
  | traceSave held copied arguments =>
      exact traceSave_exchange held copied arguments touch permitted
  | other call => exact other_exchange orderly touch permitted

theorem orderly_alone {call : HostCall} (orderly : Orderly platform root call) :
    Alone call := by
  cases call with
  | other call =>
      cases call with
      | start manager calls => exact orderly
      | stop => exact orderly
      | exit => exact orderly
      | reload manager calls => trivial
      | record kind call => trivial
      | buffer call => trivial
  | init rootPath calls => trivial
  | shutdown => trivial
  | exit => trivial
  | sessionSave calls arguments => trivial
  | sessionDelete calls sessionId => trivial
  | traceSave held copied arguments => trivial

theorem orderly_guard {host : Host} {call : HostCall}
    (orderly : Orderly platform root call) :
    layeredGuard (integrationLayer platform) (StartsAt platform root) host
      call := by
  intro operation asked
  cases operation with
  | start manager calls =>
      cases call with
      | init rootPath given =>
          simp only [integrationLayer] at asked
          split at asked
          · cases asked
          · cases asked
            exact orderly
      | shutdown =>
          simp only [integrationLayer] at asked
          split at asked <;> cases asked
      | exit => cases asked
      | sessionSave given arguments =>
          simp only [integrationLayer] at asked
          split at asked
          · cases asked
          · split at asked <;> cases asked
      | sessionDelete given sessionId =>
          simp only [integrationLayer] at asked
          split at asked
          · cases asked
          · split at asked <;> cases asked
      | traceSave held copied arguments =>
          obtain ⟨_, same⟩ := traceSave_asks asked
          cases same
      | other call =>
          cases asked
          exact orderly.elim
  | stop => trivial
  | exit => trivial
  | reload manager calls => trivial
  | record kind call => trivial
  | buffer call => trivial

end Runs

/-- The contract of the store, with the layer in front, explains every run. -/
theorem layer_explained (platform : Platform) (clock : LocalClock)
    {root : Bytes} {disk : Disk} {maps : RecordMaps}
    (file : Filed (disk (registryPath platform root)) maps)
    {calls : List HostCall}
    (orderly : ∀ call ∈ calls, Orderly platform root call) :
    let start : Host := (notIntegrated, freshProcess disk)
    let last := final (hostStep platform clock) start calls
    ∃ model, Explains
      (layeredContract (integrationLayer platform) serviceContract)
      (notIntegrated, storedModel maps)
      (transcript (hostStep platform clock) start calls) model ∧
      last.1 = model.1 ∧
        Related (registryPath platform root) last.2 model.2 := by
  intro start last
  have same : hostStep platform clock =
      layered (integrationLayer platform) (serviceStep platform clock) :=
    funext fun host => funext fun call => hostStep_layered host call
  have guarded : Meets (hostStep platform clock)
      (layeredGuard (integrationLayer platform) (StartsAt platform root)) start
      calls := by
    rw [meets_iff_forall]
    rintro before call after rfl
    apply orderly_guard
    exact orderly call (List.mem_append_right before List.mem_cons_self)
  apply guarded_explains (hostStep platform clock)
    (layeredContract (integrationLayer platform) serviceContract)
    (layeredGuard (integrationLayer platform) (StartsAt platform root))
    (fun host model => host.1 = model.1 ∧
      Related (registryPath platform root) host.2 model.2)
    _ start _ calls ⟨rfl, related_fresh file⟩ guarded
  intro host model call related guarded
  rw [same]
  exact layered_permitted (integrationLayer platform)
    (serviceStep platform clock) serviceContract (StartsAt platform root)
    (Related (registryPath platform root))
    (fun _ _ call related here => service_permitted related call here)
    host model call related guarded

/-- Where only the layer starts and stops the store, always on one root, and no
batch fails to commit and to roll back, the layer has the flag and the root of
the store, and a running registry holds the sessions that callers were told
were saved and not deleted. -/
theorem saved_sessions_survive (platform : Platform) (clock : LocalClock)
    (root : Bytes) (disk : Disk) (maps : RecordMaps)
    (file : Filed (disk (registryPath platform root)) maps)
    (calls : List HostCall)
    (orderly : ∀ call ∈ calls, Orderly platform root call) (id : Bytes) :
    let start : Host := (notIntegrated, freshProcess disk)
    let last := final (hostStep platform clock) start calls
    last.1 = integratedWhen last.2.rootPath last.2.initialized ∧
      registryGetSession .ok (some id) true last.2.registry =
        if last.2.initialized then
          mapGet (some id) true
            ((transcript (hostStep platform clock) start calls).foldl told maps
              .session)
        else (.errNotInitialized, none) := by
  intro start last
  obtain ⟨model, explained, _, related⟩ :=
    layer_explained platform clock file orderly
  obtain ⟨touch, committed⟩ := explained.folds
    (fun both => both.2.shelf.committed) told InTouch
    (Orderly platform root)
    (by
      intro both call reply after touch orderly permitted
      have accounted := orderly_exchange both call reply after touch orderly
        permitted
      exact ⟨accounted.touch, accounted.committed⟩)
    (by
      intro exchange member
      apply orderly
      have listed := List.mem_map_of_mem (f := Prod.fst) member
      rwa [map_transcript] at listed)
    ⟨rfl, rfl⟩
  refine ⟨layer_follows_store platform clock disk calls fun call member =>
    orderly_alone (orderly call member), ?_⟩
  have read := related.read touch.settled .session id
  rw [committed] at read
  exact read

def savedArguments : SessionArguments where
  sessionId := some (ofString "s")
  metadata := some (ofString "m")
  createdNs := 1
  lastActiveNs := 2

/-- A session is saved, and the store stopped, started in vain, started and
killed before it is started again. -/
def savedSession : List HostCall :=
  [.init (some plainRoot) .ok, .sessionSave .ok savedArguments, .shutdown,
    .init (some plainRoot) { InitCalls.ok with traceAllocated := false },
    .init (some plainRoot) .ok, .exit, .init (some plainRoot) .ok]

theorem saved_sessions_survive_restarted :
    let last := final (hostStep plainPlatform gmtime)
      (notIntegrated, freshProcess fun _ => none) savedSession
    last.1 = { initialized := true, rootPath := plainRoot } ∧
      last.2.rootPath = plainRoot ∧
      registryGetSession .ok (some (ofString "s")) true last.2.registry =
        (.success, some (sessionRecord (ofString "s") savedArguments)) := by
  obtain ⟨follows, read⟩ := saved_sessions_survive plainPlatform gmtime
    plainRoot (fun _ => none) emptyRecords filed_missing savedSession
    (by
      intro call member
      simp only [savedSession, List.mem_cons, List.not_mem_nil, or_false]
        at member
      rcases member with rfl | rfl | rfl | rfl | rfl | rfl | rfl
      all_goals first | exact rfl | trivial)
    (ofString "s")
  exact ⟨follows.trans (by decide +kernel), by decide +kernel,
    read.trans (by decide +kernel)⟩

end Heapstore.Integration
