import A3sBox.Compat.Reconcile
import A3sBox.Compat.Routing.Lease

/-
  The lifecycle supervisor of the compatibility control plane (`control::supervisor`,
  `control::lifetime`): how it finishes the records an expiry claim advanced, and how it
  reconciles each live record with the runtime after a restart.

  Model. The runtime is the `ExecutionManager` facade, each call answered as the runtime
  answers it; the runtime envd initialisation over the port connector
  (`initialize_runtime_envd_for_lease`) is one more answer. The repository is its three
  calls on the store's rows. A maintenance item writes the rows only in `replace`, its
  last step, so every `?` before it returns with the rows as they were (`tryThen`). A
  record's envd mode, which the model's `SandboxRecord` leaves out and no lifecycle
  method writes, is a function of its id. `ResourceConfig` has the four fields
  `same_resources` compares, `timeout` among them. chrono's checked addition of seconds
  is the clock's `checkedAddSeconds`, `none` outside the range of `DateTime<Utc>`.
-/

namespace A3sBox.Compat

open A3sBox.Lib

/-! ## The runtime facade (`a3s_box_core::traits::execution`) -/

inductive ExecutionState where
  | created
  | creating
  | running
  | paused
  | stopped
  | failed
deriving DecidableEq

/-- `ExecutionStatus`: the current state and generation of one execution. -/
structure ExecutionStatus (Plan : Type) where
  executionId : ExecutionId
  generation : ExecutionGeneration
  state : ExecutionState
  plan : Plan

/-- `ExecutionReservation`: an execution created but not started. -/
structure ExecutionReservation (Plan Resources : Type) where
  executionId : ExecutionId
  generation : ExecutionGeneration
  plan : Plan
  resources : Resources
  createdAt : Timestamp

/-- `ReconcileOutcome`: what the runtime holds for an operation after a restart. -/
inductive ReconcileOutcome (Plan Resources : Type) where
  | absent
  | created (reservation : ExecutionReservation Plan Resources)
  | creating
  | ready (lease : ExecutionLease Plan Resources)
  | failed

inductive KillOutcome where
  | killed
  | alreadyStopped

inductive ExecutionManagerError where
  | invalidRequest (message : String)
  | notFound (executionId : ExecutionId)
  | conflict (executionId : ExecutionId) (message : String)
  | unavailable (message : String)
  | internal (message : String)
deriving DecidableEq

/-- The `Display` text of an `ExecutionManagerError`. -/
def ExecutionManagerError.display : ExecutionManagerError → String
  | .invalidRequest message => "invalid execution request: " ++ message
  | .notFound executionId => "execution not found: " ++ executionId.val
  | .conflict executionId message => "execution conflict for " ++ executionId.val ++ ": " ++ message
  | .unavailable message => "execution backend unavailable: " ++ message
  | .internal message => "execution lifecycle failed: " ++ message

/-- The calls of `ExecutionManager` that the supervisor makes, with the runtime's answers. -/
structure ExecutionManager (Plan Resources : Type) where
  start : ExecutionId → ExecutionGeneration →
    Except ExecutionManagerError (ExecutionLease Plan Resources)
  inspect : ExecutionId → Except ExecutionManagerError (ExecutionStatus Plan)
  pause : ExecutionId → ExecutionGeneration → Bool →
    Except ExecutionManagerError (ExecutionLease Plan Resources)
  resume : ExecutionId → ExecutionGeneration →
    Except ExecutionManagerError (ExecutionLease Plan Resources)
  kill : ExecutionId → ExecutionGeneration → Except ExecutionManagerError KillOutcome
  reconcile : OperationId → Except ExecutionManagerError (ReconcileOutcome Plan Resources)

/-! ## Resources and the ready lifetime -/

/-- The fields of `ResourceConfig` that the supervisor reads. -/
structure ResourceConfig where
  vcpus : Nat
  memoryMb : Nat
  diskMb : Nat
  timeout : Nat
deriving DecidableEq

/-- `same_resources`. -/
def sameResources (left right : ResourceConfig) : Bool :=
  left.vcpus == right.vcpus && left.memoryMb == right.memoryMb && left.diskMb == right.diskMb &&
    left.timeout == right.timeout

inductive ReadyLifetimeError where
  | timeoutTooLarge
  | expiryOverflow

def ReadyLifetimeError.display : ReadyLifetimeError → String
  | .timeoutTooLarge => "sandbox timeout exceeds the supported duration"
  | .expiryOverflow => "sandbox expiry exceeds the supported timestamp range"

/-- The supervisor's clock: `now()`, and chrono's `checked_add_signed(Duration::seconds(_))`
    on its time line. -/
structure Clock where
  now : Timestamp
  checkedAddSeconds : Timestamp → Int → Option Timestamp

/-- `ready_lifetime`: the usable lifetime starts when both the runtime and the control plane
    saw the sandbox ready, and lasts the timeout. -/
def readyLifetime (clock : Clock) (observedReadyAt runtimeStartedAt : Timestamp)
    (timeoutSeconds : Nat) : Except ReadyLifetimeError (Timestamp × Timestamp) := do
  let readyAt := max observedReadyAt runtimeStartedAt
  let timeoutSeconds ← okOr (SqliteSandboxRepository.i64TryFrom timeoutSeconds) .timeoutTooLarge
  let expiresAt ← okOr (clock.checkedAddSeconds readyAt timeoutSeconds) .expiryOverflow
  pure (readyAt, expiresAt)

/-! ## Results and the report -/

inductive MaintenanceDisposition where
  | completed
  | deferred
deriving DecidableEq

inductive MaintenanceItemError where
  | repository (error : RepositoryError)
  | execution (error : ExecutionManagerError)
  | lifecycle (error : LifecycleError)
  | inconsistent (message : String)
deriving DecidableEq

/-- The `Display` text of a `RepositoryError`. -/
def RepositoryError.display : RepositoryError → String
  | .duplicate sandboxId => "sandbox already exists: " ++ sandboxId.val
  | .unavailable message => "sandbox repository unavailable: " ++ message
  | .corrupt message => "sandbox repository contains invalid data: " ++ message

/-- The `Display` text of a `MaintenanceItemError`: the first three are transparent. -/
def MaintenanceItemError.display : MaintenanceItemError → String
  | .repository error => error.display
  | .execution error => error.display
  | .lifecycle error => error.display
  | .inconsistent message => "inconsistent runtime reconciliation evidence: " ++ message

abbrev MaintenanceItemResult (α : Type) := Except MaintenanceItemError α

inductive LifecycleSupervisorError where
  | repository (error : RepositoryError)

structure LifecycleMaintenanceFailure where
  sandboxId : SandboxId
  message : String
deriving DecidableEq

structure LifecycleMaintenanceReport where
  examined : Nat
  completed : Nat
  deferred : Nat
  failures : List LifecycleMaintenanceFailure
deriving DecidableEq

namespace LifecycleMaintenanceReport

/-- `LifecycleMaintenanceReport::default()`. -/
def empty : LifecycleMaintenanceReport := ⟨0, 0, 0, []⟩

/-- `observe`: count the item, and keep the text of its error. -/
def observe (report : LifecycleMaintenanceReport) (sandboxId : SandboxId)
    (result : MaintenanceItemResult MaintenanceDisposition) : LifecycleMaintenanceReport :=
  match result with
  | .ok .completed => { report with examined := report.examined + 1, completed := report.completed + 1 }
  | .ok .deferred => { report with examined := report.examined + 1, deferred := report.deferred + 1 }
  | .error error =>
    { report with
      examined := report.examined + 1
      failures := report.failures ++ [⟨sandboxId, error.display⟩] }

end LifecycleMaintenanceReport

/-! ## The supervisor -/

/-- The repository as the supervisor calls it, each call on the store's rows. -/
structure SandboxRepository (Plan Resources Route Mount : Type) where
  claimExpired : Timestamp → ℕ+ → List (SandboxRecord Plan Resources Route Mount) →
    Except RepositoryError (List (SandboxRecord Plan Resources Route Mount)) ×
      List (SandboxRecord Plan Resources Route Mount)
  listReconcilable : Option SandboxCursor → ℕ+ → List (SandboxRecord Plan Resources Route Mount) →
    Except RepositoryError (SandboxPage Plan Resources Route Mount)
  compareAndSwap : CompareAndSwap Plan Resources Route Mount

section Repositories

variable {Plan Resources Route Mount : Type} [DecidableEq Plan]

/-- `MemorySandboxRepository` behind the trait: `limit.get() as usize`. -/
def MemorySandboxRepository.repository : SandboxRepository Plan Resources Route Mount where
  claimExpired deadline limit := MemorySandboxRepository.claimExpired deadline limit
  listReconcilable after limit records := .ok (MemorySandboxRepository.listReconcilable after limit records)
  compareAndSwap := MemorySandboxRepository.compareAndSwap

/-- `SqliteSandboxRepository` behind the trait. -/
def SqliteSandboxRepository.repository (validateRoute : Route → Except String Unit)
    (validateMounts : List Mount → Except String Unit) {Day : Type} [LinearOrder Day]
    (julianday : Timestamp → Day) : SandboxRepository Plan Resources Route Mount where
  claimExpired deadline limit :=
    SqliteSandboxRepository.claimExpired validateRoute validateMounts deadline limit
  listReconcilable := SqliteSandboxRepository.listReconcilable validateRoute validateMounts julianday
  compareAndSwap := SqliteSandboxRepository.compareAndSwap validateRoute validateMounts

end Repositories

/-- `LifecycleSupervisor` and its dependencies: the repository, the runtime, the runtime envd
    initialisation of a lease for a sandbox, each sandbox's envd mode, and the clock. -/
structure LifecycleSupervisor (Plan Route Mount : Type) where
  repository : SandboxRepository Plan ResourceConfig Route Mount
  executions : ExecutionManager Plan ResourceConfig
  initializeRuntimeEnvd : ExecutionLease Plan ResourceConfig → SandboxId →
    Except ExecutionManagerError Unit
  envdMode : SandboxId → EnvdMode
  clock : Clock

/-- What one maintenance item returns, with the repository's rows after it. -/
abbrev MaintenanceStep (Plan Route Mount : Type) :=
  MaintenanceItemResult MaintenanceDisposition × List (SandboxRecord Plan ResourceConfig Route Mount)

namespace LifecycleSupervisor

variable {Plan Route Mount : Type} (supervisor : LifecycleSupervisor Plan Route Mount)

section Checks

variable [DecidableEq Plan] (record : SandboxRecord Plan ResourceConfig Route Mount)

/-- The execution mapping check shared by `ensure_created_reservation` and
    `ensure_kill_target`: no mapping yet, or the runtime's own. -/
def ensureMapping (executionId : ExecutionId) (generation : ExecutionGeneration) (message : String) :
    MaintenanceItemResult Unit :=
  match record.executionId, record.executionGeneration with
  | none, none => pure ()
  | some recorded, some recordedGeneration =>
    if recorded = executionId ∧ recordedGeneration = generation then pure ()
    else throw (.inconsistent message)
  | _, _ => throw (.inconsistent message)

/-- `ensure_created_reservation`. -/
def ensureCreatedReservation (reservation : ExecutionReservation Plan ResourceConfig) :
    MaintenanceItemResult Unit := do
  ensure (decide (record.plan = reservation.plan))
    (.inconsistent "created reservation plan differs from persisted sandbox")
  ensure (sameResources record.resources reservation.resources)
    (.inconsistent "created reservation resources differ from persisted sandbox")
  ensureMapping record reservation.executionId reservation.generation
    "created reservation differs from persisted execution mapping"

/-- `ensure_current_execution`. -/
def ensureCurrentExecution (lease : ExecutionLease Plan ResourceConfig) : MaintenanceItemResult Unit := do
  ensure (decide (record.executionId = some lease.executionId))
    (.inconsistent "runtime execution ID differs from persisted mapping")
  ensure (decide (record.executionGeneration = some lease.generation))
    (.inconsistent "runtime execution generation differs from persisted mapping")
  ensure (decide (record.plan = lease.plan))
    (.inconsistent "runtime execution plan differs from persisted mapping")

/-- `ensure_kill_target`. -/
def ensureKillTarget (lease : ExecutionLease Plan ResourceConfig) : MaintenanceItemResult Unit := do
  ensure (decide (record.plan = lease.plan))
    (.inconsistent "runtime execution plan differs from persisted kill target")
  ensureMapping record lease.executionId lease.generation
    "runtime execution differs from persisted kill target"

/-- `required_execution_id`. -/
def requiredExecutionId : MaintenanceItemResult ExecutionId :=
  okOr record.executionId
    (.inconsistent ("persisted state " ++ record.state.debugName ++ " has no execution ID"))

/-- `required_execution_generation`. -/
def requiredExecutionGeneration : MaintenanceItemResult ExecutionGeneration :=
  okOr record.executionGeneration
    (.inconsistent ("persisted state " ++ record.state.debugName ++ " has no execution generation"))

end Checks

/-- An item's end without a write. -/
def finish (result : MaintenanceItemResult MaintenanceDisposition)
    (rows : List (SandboxRecord Plan ResourceConfig Route Mount)) : MaintenanceStep Plan Route Mount :=
  (result, rows)

/-- `replace`: the compare-and-swap under the generation the item read; a lost race defers. -/
def replace (expected : SandboxGeneration) (replacement : SandboxRecord Plan ResourceConfig Route Mount)
    (rows : List (SandboxRecord Plan ResourceConfig Route Mount)) : MaintenanceStep Plan Route Mount :=
  let swapped := supervisor.repository.compareAndSwap replacement.sandboxId expected replacement rows
  (match swapped.1 with
    | .ok .updated => .ok .completed
    | .ok .notFound | .ok (.conflict _) => .ok .deferred
    | .error error => .error (.repository error), swapped.2)

section Items

variable [DecidableEq Plan] (record : SandboxRecord Plan ResourceConfig Route Mount)

/-- `publish_paused`. -/
def publishPaused (lease : ExecutionLease Plan ResourceConfig) :
    List (SandboxRecord Plan ResourceConfig Route Mount) → MaintenanceStep Plan Route Mount :=
  tryThen ((record.markPaused lease).mapError .lifecycle) fun (_, record') =>
    supervisor.replace record.generation record'

/-- `publish_failed`. -/
def publishFailed :
    List (SandboxRecord Plan ResourceConfig Route Mount) → MaintenanceStep Plan Route Mount :=
  tryThen ((record.markFailed .reconciliationFailed).mapError .lifecycle) fun (_, record') =>
    supervisor.replace record.generation record'

/-- `fail_runtime_envd_initialization`: kill the execution, fail the record, and report the
    readiness error (with the cleanup's) once the failure is stored. -/
def failRuntimeEnvdInitialization (lease : ExecutionLease Plan ResourceConfig)
    (readinessError : ExecutionManagerError) :
    List (SandboxRecord Plan ResourceConfig Route Mount) → MaintenanceStep Plan Route Mount :=
  let failure : ExecutionManagerError :=
    match supervisor.executions.kill lease.executionId lease.generation with
    | .ok _ => readinessError
    | .error cleanupError =>
      .internal (readinessError.display ++ "; recovered runtime envd cleanup failed: " ++
        cleanupError.display)
  tryThen ((record.markFailed .runtimeFailed).mapError .lifecycle) fun (_, record') rows =>
    let replaced := supervisor.replace record.generation record' rows
    (match replaced.1 with
      | .ok .deferred => .ok .deferred
      | .ok .completed => .error (.execution failure)
      | .error error => .error error, replaced.2)

/-- The envd check of `publish_running`: a runtime-envd sandbox being created, or resumed
    from a filesystem-only pause, gets its envd initialised first. -/
def initializesRuntimeEnvd : Bool :=
  supervisor.envdMode record.sandboxId == .runtime &&
    (record.state == .creating || (record.state == .resuming && !record.pausedWithMemory))

/-- The rest of `publish_running`: `mark_ready` with the ready lifetime for a created
    sandbox, `mark_running` otherwise. -/
def markRunningOrReady (lease : ExecutionLease Plan ResourceConfig) :
    List (SandboxRecord Plan ResourceConfig Route Mount) → MaintenanceStep Plan Route Mount :=
  if record.state == .creating then
    tryThen ((readyLifetime supervisor.clock supervisor.clock.now lease.startedAt
        record.resources.timeout).mapError fun error => .inconsistent error.display)
      fun (readyAt, expiresAt) =>
    tryThen ((record.markReady lease readyAt expiresAt).mapError .lifecycle) fun (_, record') =>
      supervisor.replace record.generation record'
  else
    tryThen ((record.markRunning lease).mapError .lifecycle) fun (_, record') =>
      supervisor.replace record.generation record'

/-- `publish_running`. -/
def publishRunning (lease : ExecutionLease Plan ResourceConfig) :
    List (SandboxRecord Plan ResourceConfig Route Mount) → MaintenanceStep Plan Route Mount :=
  if supervisor.initializesRuntimeEnvd record then
    match supervisor.initializeRuntimeEnvd lease record.sandboxId with
    | .error readinessError => supervisor.failRuntimeEnvdInitialization record lease readinessError
    | .ok () => supervisor.markRunningOrReady record lease
  else supervisor.markRunningOrReady record lease

/-- The kill of `finish_kill_with_target`: an execution already gone counts as killed. -/
def killTarget : Option (ExecutionId × ExecutionGeneration) → MaintenanceItemResult Unit
  | none => .ok ()
  | some (executionId, generation) =>
    match supervisor.executions.kill executionId generation with
    | .ok _ | .error (.notFound _) => .ok ()
    | .error error => .error (.execution error)

/-- `finish_kill_with_target`. -/
def finishKillWithTarget (target : Option (ExecutionId × ExecutionGeneration)) :
    List (SandboxRecord Plan ResourceConfig Route Mount) → MaintenanceStep Plan Route Mount :=
  tryThen (supervisor.killTarget target) fun () =>
  tryThen (record.markKilled.mapError .lifecycle) fun (_, record') =>
    supervisor.replace record.generation record'

/-- `finish_kill`: the recorded execution, when both its id and generation are recorded. -/
def finishKill : List (SandboxRecord Plan ResourceConfig Route Mount) → MaintenanceStep Plan Route Mount :=
  supervisor.finishKillWithTarget record
    (match record.executionId, record.executionGeneration with
      | some executionId, some generation => some (executionId, generation)
      | _, _ => none)

/-- `finish_missing`: the runtime has no execution; a kill is done, anything else failed. -/
def finishMissing : List (SandboxRecord Plan ResourceConfig Route Mount) → MaintenanceStep Plan Route Mount :=
  if record.state == .killing then
    tryThen (record.markKilled.mapError .lifecycle) fun (_, record') =>
      supervisor.replace record.generation record'
  else supervisor.publishFailed record

/-- `finish_pause`. -/
def finishPause : List (SandboxRecord Plan ResourceConfig Route Mount) → MaintenanceStep Plan Route Mount :=
  tryThen (requiredExecutionId record) fun executionId =>
  tryThen (requiredExecutionGeneration record) fun executionGeneration =>
    match supervisor.executions.pause executionId executionGeneration record.pausedWithMemory with
    | .ok lease => supervisor.publishPaused record lease
    | .error (.notFound _) => supervisor.publishFailed record
    | .error error => finish (.error (.execution error))

/-- `finish_resume`. -/
def finishResume : List (SandboxRecord Plan ResourceConfig Route Mount) → MaintenanceStep Plan Route Mount :=
  tryThen (requiredExecutionId record) fun executionId =>
  tryThen (requiredExecutionGeneration record) fun executionGeneration =>
    match supervisor.executions.resume executionId executionGeneration with
    | .ok lease => supervisor.publishRunning record lease
    | .error (.notFound _) => supervisor.publishFailed record
    | .error error => finish (.error (.execution error))

/-- `finish_claim`: a claimed record is Pausing or Killing. -/
def finishClaim : List (SandboxRecord Plan ResourceConfig Route Mount) → MaintenanceStep Plan Route Mount :=
  match record.state with
  | .pausing => supervisor.finishPause record
  | .killing => supervisor.finishKill record
  | state => finish (.error (.inconsistent ("expiry claim returned " ++ state.debugName)))

/-- `reconcile_created`: the runtime holds a reservation that was never started. -/
def reconcileCreated (reservation : ExecutionReservation Plan ResourceConfig) :
    List (SandboxRecord Plan ResourceConfig Route Mount) → MaintenanceStep Plan Route Mount :=
  tryThen (ensureCreatedReservation record reservation) fun () =>
    match record.state with
    | .creating =>
      tryThen ((supervisor.executions.start reservation.executionId reservation.generation).mapError
          .execution) fun lease =>
        if lease.executionId ≠ reservation.executionId ∨ lease.generation ≠ reservation.generation ∨
            lease.plan ≠ reservation.plan ∨ sameResources lease.resources reservation.resources = false then
          finish (.error (.inconsistent "created reservation and started execution disagree"))
        else supervisor.publishRunning record lease
    | .killing =>
      supervisor.finishKillWithTarget record (some (reservation.executionId, reservation.generation))
    | state =>
      finish (.error (.inconsistent ("persisted state " ++ state.debugName ++
        " disagrees with a created runtime reservation")))

/-- The state match of `reconcile_ready`, once the inspection agrees with the lease. -/
def reconcileInspected (lease : ExecutionLease Plan ResourceConfig) :
    ExecutionState → List (SandboxRecord Plan ResourceConfig Route Mount) → MaintenanceStep Plan Route Mount
  | .created => finish (.error (.inconsistent "ready reconciliation inspected a created execution"))
  | .creating =>
    match record.state with
    | .creating | .killing => finish (.ok .deferred)
    | state =>
      finish (.error (.inconsistent ("persisted state " ++ state.debugName ++
        " is ahead of inspected creating runtime")))
  | .stopped | .failed => supervisor.finishMissing record
  | .running =>
    match record.state with
    | .creating | .resuming => supervisor.publishRunning record lease
    | .running => tryThen (ensureCurrentExecution record lease) fun () => finish (.ok .completed)
    | .pausing => tryThen (ensureCurrentExecution record lease) fun () => supervisor.finishPause record
    | .killing =>
      tryThen (ensureKillTarget record lease) fun () =>
        supervisor.finishKillWithTarget record (some (lease.executionId, lease.generation))
    | state =>
      finish (.error (.inconsistent ("persisted state " ++ state.debugName ++
        " disagrees with running runtime")))
  | .paused =>
    match record.state with
    | .paused => tryThen (ensureCurrentExecution record lease) fun () => finish (.ok .completed)
    | .pausing => supervisor.publishPaused record lease
    | .resuming => tryThen (ensureCurrentExecution record lease) fun () => supervisor.finishResume record
    | .killing =>
      tryThen (ensureKillTarget record lease) fun () =>
        supervisor.finishKillWithTarget record (some (lease.executionId, lease.generation))
    | state =>
      finish (.error (.inconsistent ("persisted state " ++ state.debugName ++
        " disagrees with paused runtime")))

/-- `reconcile_ready`: the runtime has a lease; inspect its execution. -/
def reconcileReady (lease : ExecutionLease Plan ResourceConfig) :
    List (SandboxRecord Plan ResourceConfig Route Mount) → MaintenanceStep Plan Route Mount :=
  match supervisor.executions.inspect lease.executionId with
  | .error (.notFound _) => supervisor.finishMissing record
  | .error error => finish (.error (.execution error))
  | .ok status =>
    if status.executionId ≠ lease.executionId ∨ status.generation ≠ lease.generation ∨
        status.plan ≠ lease.plan then
      finish (.error (.inconsistent "reconcile lease and inspection status disagree"))
    else supervisor.reconcileInspected record lease status.state

/-- `reconcile_record`. -/
def reconcileRecord : List (SandboxRecord Plan ResourceConfig Route Mount) → MaintenanceStep Plan Route Mount :=
  tryThen ((supervisor.executions.reconcile record.operationId).mapError .execution) fun outcome =>
    match outcome with
    | .absent | .failed => supervisor.finishMissing record
    | .created reservation => supervisor.reconcileCreated record reservation
    | .creating =>
      match record.state with
      | .creating | .killing => finish (.ok .deferred)
      | state =>
        finish (.error (.inconsistent ("persisted state " ++ state.debugName ++
          " is ahead of a creating runtime")))
    | .ready lease => supervisor.reconcileReady record lease

end Items

section Loops

variable [DecidableEq Plan]

/-- The loop of `reap_expired` and of each page of `reconcile_startup`: every record's item runs
    on the rows the one before left, and its result goes to the report. -/
def observeAll
    (item : SandboxRecord Plan ResourceConfig Route Mount →
      List (SandboxRecord Plan ResourceConfig Route Mount) → MaintenanceStep Plan Route Mount) :
    List (SandboxRecord Plan ResourceConfig Route Mount) → LifecycleMaintenanceReport →
      List (SandboxRecord Plan ResourceConfig Route Mount) →
        LifecycleMaintenanceReport × List (SandboxRecord Plan ResourceConfig Route Mount)
  | [], report, rows => (report, rows)
  | record :: records, report, rows =>
    let step := item record rows
    observeAll item records (report.observe record.sandboxId step.1) step.2

/-- `reap_expired`: claim one bounded batch, then finish each claimed record. -/
def reapExpired (limit : ℕ+) (rows : List (SandboxRecord Plan ResourceConfig Route Mount)) :
    Except LifecycleSupervisorError LifecycleMaintenanceReport ×
      List (SandboxRecord Plan ResourceConfig Route Mount) :=
  let claimed := supervisor.repository.claimExpired supervisor.clock.now limit rows
  match claimed.1 with
  | .error error => (.error (.repository error), claimed.2)
  | .ok records =>
    let observed := observeAll supervisor.finishClaim records .empty claimed.2
    (.ok observed.1, observed.2)

end Loops

section Required

variable {record : SandboxRecord Plan ResourceConfig Route Mount}

theorem requiredExecutionId_eq_ok {executionId : ExecutionId}
    (h : requiredExecutionId record = .ok executionId) : record.executionId = some executionId :=
  okOr_eq_ok.mp h

theorem requiredExecutionGeneration_eq_ok {generation : ExecutionGeneration}
    (h : requiredExecutionGeneration record = .ok generation) :
    record.executionGeneration = some generation :=
  okOr_eq_ok.mp h

end Required

/-! ## What one item writes -/

section Writes

variable {record : SandboxRecord Plan ResourceConfig Route Mount}
  {rows rows' : List (SandboxRecord Plan ResourceConfig Route Mount)}
  {P Q : SandboxRecord Plan ResourceConfig Route Mount → Prop}

/-- What a maintenance item of `record` did to the rows: nothing, or one compare-and-swap, under
    the generation the item read, of a replacement with `P`. -/
def WritesAtMost (record : SandboxRecord Plan ResourceConfig Route Mount)
    (P : SandboxRecord Plan ResourceConfig Route Mount → Prop)
    (rows rows' : List (SandboxRecord Plan ResourceConfig Route Mount)) : Prop :=
  rows' = rows ∨ ∃ replacement, P replacement ∧
    rows' = (supervisor.repository.compareAndSwap replacement.sandboxId record.generation
      replacement rows).2

theorem WritesAtMost.refl : supervisor.WritesAtMost record P rows rows := .inl rfl

theorem WritesAtMost.mono (h : supervisor.WritesAtMost record P rows rows')
    (hPQ : ∀ r, P r → Q r) : supervisor.WritesAtMost record Q rows rows' := by
  rcases h with h | ⟨replacement, hP, h⟩
  · exact .inl h
  · exact .inr ⟨replacement, hPQ replacement hP, h⟩

theorem finish_writes (result : MaintenanceItemResult MaintenanceDisposition) :
    supervisor.WritesAtMost record P rows (finish result rows).2 := .inl rfl

theorem replace_writes {replacement : SandboxRecord Plan ResourceConfig Route Mount}
    (hP : P replacement) :
    supervisor.WritesAtMost record P rows (supervisor.replace record.generation replacement rows).2 :=
  .inr ⟨replacement, hP, rfl⟩

theorem tryThen_writes {α : Type} {x : MaintenanceItemResult α}
    {k : α → List (SandboxRecord Plan ResourceConfig Route Mount) → MaintenanceStep Plan Route Mount}
    (hk : ∀ a, x = .ok a → supervisor.WritesAtMost record P rows (k a rows).2) :
    supervisor.WritesAtMost record P rows (tryThen x k rows).2 := by
  cases x with
  | error e => exact .inl rfl
  | ok a => exact hk a rfl

end Writes

/-! ## The lifecycle calls that publish -/

/-- The lifecycle calls with which the supervisor publishes what it learnt: `mark_running` only
    on a record that is not being created, since `publish_running` takes `mark_ready` there. -/
inductive Publishing (record : SandboxRecord Plan ResourceConfig Route Mount) :
    SandboxCall Plan ResourceConfig → Prop
  | markKilled : Publishing record .markKilled
  | markFailed (failure : LifecycleFailure) : Publishing record (.markFailed failure)
  | markPaused (lease : ExecutionLease Plan ResourceConfig) : Publishing record (.markPaused lease)
  | markReady (lease : ExecutionLease Plan ResourceConfig) (readyAt expiresAt : Timestamp) :
    Publishing record (.markReady lease readyAt expiresAt)
  | markRunning (lease : ExecutionLease Plan ResourceConfig) (h : record.state ≠ .creating) :
    Publishing record (.markRunning lease)

/-- A replacement that one publishing call built from `record`. -/
def Rebuilt [DecidableEq Plan] (record replacement : SandboxRecord Plan ResourceConfig Route Mount) : Prop :=
  ∃ (call : SandboxCall Plan ResourceConfig) (next : SandboxGeneration),
    Publishing record call ∧ call.apply record = .ok (next, replacement)

section Rebuilt

variable [DecidableEq Plan] {record replacement : SandboxRecord Plan ResourceConfig Route Mount}
  {validateRoute : Route → Except String Unit} {validateMounts : List Mount → Except String Unit}

theorem Rebuilt.effect (h : Rebuilt record replacement) :
    ∃ next, CallEffect record replacement next := by
  obtain ⟨call, next, -, happly⟩ := h
  exact ⟨next, SandboxCall.apply_effect happly⟩

/-- A publishing call writes no timestamp before creation: `mark_running` keeps the start time
    of the resumed record it runs on. -/
theorem Publishing.notBeforeCreation {call : SandboxCall Plan ResourceConfig}
    {next : SandboxGeneration} (hwf : SandboxRecord.WellFormed validateRoute validateMounts record)
    (hcall : Publishing record call) (happly : call.apply record = .ok (next, replacement)) :
    call.NotBeforeCreation record := by
  cases hcall with
  | markRunning lease hcreating =>
    obtain ⟨hst, -⟩ := SandboxRecord.markRunning_eq_ok.mp happly
    have hresuming : record.state = .resuming := by
      simp only [List.mem_cons, List.not_mem_nil, or_false] at hst
      exact hst.resolve_left hcreating
    obtain ⟨startedAt, hstart, -⟩ := hwf.startedAt_of_requiresExecution (by rw [hresuming]; rfl)
    intro hnone
    rw [hstart] at hnone
    cases hnone
  | _ => trivial

theorem Rebuilt.wellFormed (hwf : SandboxRecord.WellFormed validateRoute validateMounts record)
    (h : Rebuilt record replacement) :
    SandboxRecord.WellFormed validateRoute validateMounts replacement := by
  obtain ⟨call, next, hcall, happly⟩ := h
  exact SandboxCall.apply_wellFormed hwf happly (hcall.notBeforeCreation hwf happly)

end Rebuilt

/-! ## The runtime's word -/

section Evidence

variable [DecidableEq Plan] (record : SandboxRecord Plan ResourceConfig Route Mount)

/-- The runtime has no live execution for the record's operation: none, a failed one, or one
    that its inspection finds gone, stopped or failed. -/
def ExecutionGone : Prop :=
  supervisor.executions.reconcile record.operationId = .ok .absent ∨
    supervisor.executions.reconcile record.operationId = .ok .failed ∨
    ∃ lease, supervisor.executions.reconcile record.operationId = .ok (.ready lease) ∧
      ((∃ missing, supervisor.executions.inspect lease.executionId = .error (.notFound missing)) ∨
        ∃ status, supervisor.executions.inspect lease.executionId = .ok status ∧
          (status.state = .stopped ∨ status.state = .failed))

/-- An execution the runtime reports for the record's operation, or the one the record names. -/
def KnownExecution (executionId : ExecutionId) (generation : ExecutionGeneration) : Prop :=
  (∃ reservation, supervisor.executions.reconcile record.operationId = .ok (.created reservation) ∧
      reservation.executionId = executionId ∧ reservation.generation = generation) ∨
    (∃ lease, supervisor.executions.reconcile record.operationId = .ok (.ready lease) ∧
      lease.executionId = executionId ∧ lease.generation = generation) ∨
    (record.executionId = some executionId ∧ record.executionGeneration = some generation)

/-- The runtime stopped the execution, or has none under that id. -/
def KillAcknowledged (executionId : ExecutionId) (generation : ExecutionGeneration) : Prop :=
  (∃ outcome, supervisor.executions.kill executionId generation = .ok outcome) ∨
    ∃ missing, supervisor.executions.kill executionId generation = .error (.notFound missing)

/-- The runtime's word that the execution of `lease` runs: inspected running once reconciliation
    found it ready, started from the reservation reconciliation found, or resumed from the
    recorded execution. -/
def RunningLease (lease : ExecutionLease Plan ResourceConfig) : Prop :=
  (supervisor.executions.reconcile record.operationId = .ok (.ready lease) ∧
      ∃ status, supervisor.executions.inspect lease.executionId = .ok status ∧ status.state = .running) ∨
    (∃ reservation, supervisor.executions.reconcile record.operationId = .ok (.created reservation) ∧
      supervisor.executions.start reservation.executionId reservation.generation = .ok lease) ∨
    ∃ executionId generation, record.executionId = some executionId ∧
      record.executionGeneration = some generation ∧
      supervisor.executions.resume executionId generation = .ok lease

/-- The runtime's word that the execution of `lease` is paused: inspected paused once
    reconciliation found it ready, or paused from the recorded execution. -/
def PausedLease (lease : ExecutionLease Plan ResourceConfig) : Prop :=
  (supervisor.executions.reconcile record.operationId = .ok (.ready lease) ∧
      ∃ status, supervisor.executions.inspect lease.executionId = .ok status ∧ status.state = .paused) ∨
    ∃ executionId generation, record.executionId = some executionId ∧
      record.executionGeneration = some generation ∧
      supervisor.executions.pause executionId generation record.pausedWithMemory = .ok lease

/-- A pause or a resume of the recorded execution found no execution. -/
def RecordedMissing : Prop :=
  ∃ executionId generation missing, record.executionId = some executionId ∧
    record.executionGeneration = some generation ∧
    (supervisor.executions.pause executionId generation record.pausedWithMemory =
        .error (.notFound missing) ∨
      supervisor.executions.resume executionId generation = .error (.notFound missing))

/-- Why a record may be marked Killed: the runtime has no execution, the runtime acknowledged the
    kill of a known one, or the record names no execution to kill. -/
def KillEvidence : Prop :=
  supervisor.ExecutionGone record ∨
    (∃ executionId generation, supervisor.KnownExecution record executionId generation ∧
      supervisor.KillAcknowledged executionId generation) ∨
    record.executionId = none ∨ record.executionGeneration = none

/-- Why a record may be marked Failed: the runtime has no execution, a pause or resume found
    none, or a running lease's envd could not be initialised. -/
def FailEvidence : Prop :=
  supervisor.ExecutionGone record ∨ supervisor.RecordedMissing record ∨
    ∃ lease error, supervisor.RunningLease record lease ∧
      supervisor.initializeRuntimeEnvd lease record.sandboxId = .error error

/-- What the runtime said before the supervisor published a replacement, for each state it can
    publish: Running and Paused name the execution of a lease the runtime answered with (and a
    runtime envd that had to come up did); Killed only follows Killing; Failed never does. -/
structure Vouched (replacement : SandboxRecord Plan ResourceConfig Route Mount) : Prop where
  running : replacement.state = .running → ∃ lease, replacement.executionId = some lease.executionId ∧
    replacement.executionGeneration = some lease.generation ∧ supervisor.RunningLease record lease ∧
    (supervisor.initializesRuntimeEnvd record = true →
      supervisor.initializeRuntimeEnvd lease record.sandboxId = .ok ())
  paused : replacement.state = .paused → ∃ lease, replacement.executionId = some lease.executionId ∧
    replacement.executionGeneration = some lease.generation ∧ supervisor.PausedLease record lease
  killed : replacement.state = .killed → record.state = .killing ∧ supervisor.KillEvidence record
  failed : replacement.state = .failed → record.state ≠ .killing ∧ supervisor.FailEvidence record

/-- A write the supervisor may make for `record`. -/
def Sound (replacement : SandboxRecord Plan ResourceConfig Route Mount) : Prop :=
  Rebuilt record replacement ∧ supervisor.Vouched record replacement

end Evidence

theorem killTarget_acknowledged {target : Option (ExecutionId × ExecutionGeneration)} {u : Unit}
    (h : supervisor.killTarget target = .ok u) {executionId : ExecutionId}
    {generation : ExecutionGeneration} (htarget : target = some (executionId, generation)) :
    supervisor.KillAcknowledged executionId generation := by
  subst htarget
  cases hkill : supervisor.executions.kill executionId generation with
  | ok outcome => exact .inl ⟨outcome, hkill⟩
  | error error =>
    cases error with
    | notFound missing => exact .inr ⟨missing, hkill⟩
    | _ => simp [killTarget, hkill] at h

/-! ## Every write of an item is sound -/

section Sound

variable [DecidableEq Plan] {record replacement : SandboxRecord Plan ResourceConfig Route Mount}
  {rows : List (SandboxRecord Plan ResourceConfig Route Mount)} {next : SandboxGeneration}
  {lease : ExecutionLease Plan ResourceConfig}

theorem sound_of_markKilled (h : record.markKilled = .ok (next, replacement))
    (hwhy : supervisor.KillEvidence record) : supervisor.Sound record replacement := by
  obtain ⟨hst, -, rfl⟩ := SandboxRecord.markKilled_eq_ok.mp h
  exact ⟨⟨.markKilled, next, .markKilled, h⟩,
    { running := fun h => nomatch h
      paused := fun h => nomatch h
      killed := fun _ => ⟨hst, hwhy⟩
      failed := fun h => nomatch h }⟩

theorem sound_of_markFailed {failure : LifecycleFailure}
    (h : record.markFailed failure = .ok (next, replacement))
    (hwhy : supervisor.FailEvidence record) : supervisor.Sound record replacement := by
  obtain ⟨hst, -, rfl⟩ := SandboxRecord.markFailed_eq_ok.mp h
  -- `mark_failed` refuses a record that is being killed
  have hnotKilling : record.state ≠ .killing := by
    intro hk
    rw [hk] at hst
    simp at hst
  exact ⟨⟨.markFailed failure, next, .markFailed failure, h⟩,
    { running := fun h => nomatch h
      paused := fun h => nomatch h
      killed := fun h => nomatch h
      failed := fun _ => ⟨hnotKilling, hwhy⟩ }⟩

theorem sound_of_markPaused (h : record.markPaused lease = .ok (next, replacement))
    (hlease : supervisor.PausedLease record lease) : supervisor.Sound record replacement := by
  obtain ⟨-, -, -, rfl⟩ := SandboxRecord.markPaused_eq_ok.mp h
  exact ⟨⟨.markPaused lease, next, .markPaused lease, h⟩,
    { running := fun h => nomatch h
      paused := fun _ => ⟨lease, rfl, rfl, hlease⟩
      killed := fun h => nomatch h
      failed := fun h => nomatch h }⟩

section Running

variable (hlease : supervisor.RunningLease record lease)
  (henvd : supervisor.initializesRuntimeEnvd record = true →
    supervisor.initializeRuntimeEnvd lease record.sandboxId = .ok ())
include hlease henvd

theorem sound_of_markReady {readyAt expiresAt : Timestamp}
    (h : record.markReady lease readyAt expiresAt = .ok (next, replacement)) :
    supervisor.Sound record replacement := by
  obtain ⟨-, -, -, -, -, rfl⟩ := SandboxRecord.markReady_eq_ok.mp h
  exact ⟨⟨.markReady lease readyAt expiresAt, next, .markReady lease readyAt expiresAt, h⟩,
    { running := fun _ => ⟨lease, rfl, rfl, hlease, henvd⟩
      paused := fun h => nomatch h
      killed := fun h => nomatch h
      failed := fun h => nomatch h }⟩

theorem sound_of_markRunning (hcreating : record.state ≠ .creating)
    (h : record.markRunning lease = .ok (next, replacement)) :
    supervisor.Sound record replacement := by
  obtain ⟨-, -, -, rfl⟩ := SandboxRecord.markRunning_eq_ok.mp h
  exact ⟨⟨.markRunning lease, next, .markRunning lease hcreating, h⟩,
    { running := fun _ => ⟨lease, rfl, rfl, hlease, henvd⟩
      paused := fun h => nomatch h
      killed := fun h => nomatch h
      failed := fun h => nomatch h }⟩

end Running

theorem publishPaused_sound (hlease : supervisor.PausedLease record lease) :
    supervisor.WritesAtMost record (supervisor.Sound record) rows
      (supervisor.publishPaused record lease rows).2 :=
  tryThen_writes supervisor fun ⟨_, _⟩ h =>
    replace_writes supervisor (sound_of_markPaused supervisor (mapError_eq_ok.mp h) hlease)

theorem publishFailed_sound (hwhy : supervisor.FailEvidence record) :
    supervisor.WritesAtMost record (supervisor.Sound record) rows
      (supervisor.publishFailed record rows).2 :=
  tryThen_writes supervisor fun ⟨_, _⟩ h =>
    replace_writes supervisor (sound_of_markFailed supervisor (mapError_eq_ok.mp h) hwhy)

theorem failRuntimeEnvdInitialization_sound {readinessError : ExecutionManagerError}
    (hwhy : supervisor.FailEvidence record) :
    supervisor.WritesAtMost record (supervisor.Sound record) rows
      (supervisor.failRuntimeEnvdInitialization record lease readinessError rows).2 :=
  tryThen_writes supervisor fun ⟨_, _⟩ h =>
    replace_writes supervisor (sound_of_markFailed supervisor (mapError_eq_ok.mp h) hwhy)

theorem markRunningOrReady_sound (hlease : supervisor.RunningLease record lease)
    (henvd : supervisor.initializesRuntimeEnvd record = true →
      supervisor.initializeRuntimeEnvd lease record.sandboxId = .ok ()) :
    supervisor.WritesAtMost record (supervisor.Sound record) rows
      (supervisor.markRunningOrReady record lease rows).2 := by
  unfold markRunningOrReady
  split
  · exact tryThen_writes supervisor fun ⟨_, _⟩ _ => tryThen_writes supervisor fun ⟨_, _⟩ h =>
      replace_writes supervisor (sound_of_markReady supervisor hlease henvd (mapError_eq_ok.mp h))
  · rename_i hcreating
    exact tryThen_writes supervisor fun ⟨_, _⟩ h =>
      replace_writes supervisor
        (sound_of_markRunning supervisor hlease henvd (by simpa using hcreating) (mapError_eq_ok.mp h))

theorem publishRunning_sound (hlease : supervisor.RunningLease record lease) :
    supervisor.WritesAtMost record (supervisor.Sound record) rows
      (supervisor.publishRunning record lease rows).2 := by
  unfold publishRunning
  split
  · cases hinit : supervisor.initializeRuntimeEnvd lease record.sandboxId with
    | error readinessError =>
      exact failRuntimeEnvdInitialization_sound supervisor (.inr (.inr ⟨lease, readinessError, hlease, hinit⟩))
    | ok u => exact markRunningOrReady_sound supervisor hlease fun _ => hinit
  · rename_i hskip
    exact markRunningOrReady_sound supervisor hlease fun h => absurd h hskip

theorem finishKillWithTarget_sound {target : Option (ExecutionId × ExecutionGeneration)}
    (hknown : ∀ executionId generation, target = some (executionId, generation) →
      supervisor.KnownExecution record executionId generation)
    (hnone : target = none → record.executionId = none ∨ record.executionGeneration = none) :
    supervisor.WritesAtMost record (supervisor.Sound record) rows
      (supervisor.finishKillWithTarget record target rows).2 :=
  tryThen_writes supervisor fun _ hkill => tryThen_writes supervisor fun ⟨_, _⟩ h =>
    replace_writes supervisor (sound_of_markKilled supervisor (mapError_eq_ok.mp h) (by
      cases htarget : target with
      | none => exact .inr (.inr (hnone htarget))
      | some t =>
        obtain ⟨executionId, generation⟩ := t
        exact .inr (.inl ⟨executionId, generation, hknown _ _ htarget,
          killTarget_acknowledged supervisor hkill htarget⟩)))

theorem finishKill_sound :
    supervisor.WritesAtMost record (supervisor.Sound record) rows (supervisor.finishKill record rows).2 := by
  unfold finishKill
  -- the target is the recorded execution when both halves are recorded
  cases hid : record.executionId with
  | none => exact finishKillWithTarget_sound supervisor (fun _ _ h => nomatch h) fun _ => .inl hid
  | some executionId =>
    cases hgen : record.executionGeneration with
    | none => exact finishKillWithTarget_sound supervisor (fun _ _ h => nomatch h) fun _ => .inr hgen
    | some generation =>
      refine finishKillWithTarget_sound supervisor (fun _ _ h => ?_) fun h => nomatch h
      cases h
      exact .inr (.inr ⟨hid, hgen⟩)

theorem finishMissing_sound (hgone : supervisor.ExecutionGone record) :
    supervisor.WritesAtMost record (supervisor.Sound record) rows
      (supervisor.finishMissing record rows).2 := by
  unfold finishMissing
  split
  · exact tryThen_writes supervisor fun ⟨_, _⟩ h =>
      replace_writes supervisor (sound_of_markKilled supervisor (mapError_eq_ok.mp h) (.inl hgone))
  · exact publishFailed_sound supervisor (.inl hgone)

theorem finishPause_sound :
    supervisor.WritesAtMost record (supervisor.Sound record) rows (supervisor.finishPause record rows).2 := by
  unfold finishPause
  refine tryThen_writes supervisor fun executionId hid =>
    tryThen_writes supervisor fun generation hgen => ?_
  have hid := requiredExecutionId_eq_ok hid
  have hgen := requiredExecutionGeneration_eq_ok hgen
  cases hpause : supervisor.executions.pause executionId generation record.pausedWithMemory with
  | ok lease => exact publishPaused_sound supervisor (.inr ⟨executionId, generation, hid, hgen, hpause⟩)
  | error error =>
    cases error with
    | notFound missing =>
      exact publishFailed_sound supervisor
        (.inr (.inl ⟨executionId, generation, missing, hid, hgen, .inl hpause⟩))
    | _ => exact finish_writes supervisor _

theorem finishResume_sound :
    supervisor.WritesAtMost record (supervisor.Sound record) rows (supervisor.finishResume record rows).2 := by
  unfold finishResume
  refine tryThen_writes supervisor fun executionId hid =>
    tryThen_writes supervisor fun generation hgen => ?_
  have hid := requiredExecutionId_eq_ok hid
  have hgen := requiredExecutionGeneration_eq_ok hgen
  cases hresume : supervisor.executions.resume executionId generation with
  | ok lease =>
    exact publishRunning_sound supervisor (.inr (.inr ⟨executionId, generation, hid, hgen, hresume⟩))
  | error error =>
    cases error with
    | notFound missing =>
      exact publishFailed_sound supervisor
        (.inr (.inl ⟨executionId, generation, missing, hid, hgen, .inr hresume⟩))
    | _ => exact finish_writes supervisor _

theorem finishClaim_sound :
    supervisor.WritesAtMost record (supervisor.Sound record) rows (supervisor.finishClaim record rows).2 := by
  unfold finishClaim
  cases hstate : record.state with
  | pausing => exact finishPause_sound supervisor
  | killing => exact finishKill_sound supervisor
  | _ => exact finish_writes supervisor _

theorem reconcileCreated_sound {reservation : ExecutionReservation Plan ResourceConfig}
    (hcreated : supervisor.executions.reconcile record.operationId = .ok (.created reservation)) :
    supervisor.WritesAtMost record (supervisor.Sound record) rows
      (supervisor.reconcileCreated record reservation rows).2 := by
  unfold reconcileCreated
  refine tryThen_writes supervisor fun _ _ => ?_
  cases hstate : record.state with
  | creating =>
    refine tryThen_writes supervisor fun lease hstart => ?_
    split
    · exact finish_writes supervisor _
    · exact publishRunning_sound supervisor (.inr (.inl ⟨reservation, hcreated, mapError_eq_ok.mp hstart⟩))
  | killing =>
    refine finishKillWithTarget_sound supervisor (fun _ _ h => ?_) fun h => nomatch h
    cases h
    exact .inl ⟨reservation, hcreated, rfl, rfl⟩
  | _ => exact finish_writes supervisor _

/-- The arms of `reconcile_ready` on the inspected state, given the inspection. -/
theorem reconcileInspected_sound {state : ExecutionState}
    (hready : supervisor.executions.reconcile record.operationId = .ok (.ready lease))
    (hstatus : ∃ status, supervisor.executions.inspect lease.executionId = .ok status ∧
      status.state = state) :
    supervisor.WritesAtMost record (supervisor.Sound record) rows
      (supervisor.reconcileInspected record lease state rows).2 := by
  obtain ⟨status, hinspect, hstate⟩ := hstatus
  -- a kill of the inspected lease's execution is a kill of a known execution
  have hknown : ∀ executionId generation,
      some (lease.executionId, lease.generation) = some (executionId, generation) →
        supervisor.KnownExecution record executionId generation := fun _ _ h => by
    cases h
    exact .inr (.inl ⟨lease, hready, rfl, rfl⟩)
  cases state with
  | created => exact finish_writes supervisor _
  | creating =>
    unfold reconcileInspected
    cases record.state <;> exact finish_writes supervisor _
  | stopped =>
    exact finishMissing_sound supervisor (.inr (.inr ⟨lease, hready, .inr ⟨status, hinspect, .inl hstate⟩⟩))
  | failed =>
    exact finishMissing_sound supervisor (.inr (.inr ⟨lease, hready, .inr ⟨status, hinspect, .inr hstate⟩⟩))
  | running =>
    unfold reconcileInspected
    cases hrecord : record.state with
    | creating | resuming => exact publishRunning_sound supervisor (.inl ⟨hready, status, hinspect, hstate⟩)
    | running => exact tryThen_writes supervisor fun _ _ => finish_writes supervisor _
    | pausing => exact tryThen_writes supervisor fun _ _ => finishPause_sound supervisor
    | killing =>
      exact tryThen_writes supervisor fun _ _ =>
        finishKillWithTarget_sound supervisor hknown fun h => nomatch h
    | _ => exact finish_writes supervisor _
  | paused =>
    unfold reconcileInspected
    cases hrecord : record.state with
    | paused => exact tryThen_writes supervisor fun _ _ => finish_writes supervisor _
    | pausing => exact publishPaused_sound supervisor (.inl ⟨hready, status, hinspect, hstate⟩)
    | resuming => exact tryThen_writes supervisor fun _ _ => finishResume_sound supervisor
    | killing =>
      exact tryThen_writes supervisor fun _ _ =>
        finishKillWithTarget_sound supervisor hknown fun h => nomatch h
    | _ => exact finish_writes supervisor _

theorem reconcileReady_sound
    (hready : supervisor.executions.reconcile record.operationId = .ok (.ready lease)) :
    supervisor.WritesAtMost record (supervisor.Sound record) rows
      (supervisor.reconcileReady record lease rows).2 := by
  unfold reconcileReady
  cases hinspect : supervisor.executions.inspect lease.executionId with
  | error error =>
    cases error with
    | notFound missing =>
      exact finishMissing_sound supervisor (.inr (.inr ⟨lease, hready, .inl ⟨missing, hinspect⟩⟩))
    | _ => exact finish_writes supervisor _
  | ok status =>
    dsimp only
    split
    · exact finish_writes supervisor _
    · exact reconcileInspected_sound supervisor hready ⟨status, hinspect, rfl⟩

theorem reconcileRecord_sound :
    supervisor.WritesAtMost record (supervisor.Sound record) rows
      (supervisor.reconcileRecord record rows).2 := by
  unfold reconcileRecord
  refine tryThen_writes supervisor fun outcome houtcome => ?_
  have hreconcile := mapError_eq_ok.mp houtcome
  cases outcome with
  | absent => exact finishMissing_sound supervisor (.inl hreconcile)
  | failed => exact finishMissing_sound supervisor (.inr (.inl hreconcile))
  | created reservation => exact reconcileCreated_sound supervisor hreconcile
  | creating => cases record.state <;> exact finish_writes supervisor _
  | ready lease => exact reconcileReady_sound supervisor hreconcile

end Sound

end LifecycleSupervisor

/-! ## The repositories' compare-and-swaps are fenced -/

section Fenced

variable {Plan Resources Route Mount : Type}

/-- A compare-and-swap that writes only over a stored record of the expected generation. -/
def Fenced (cas : CompareAndSwap Plan Resources Route Mount) : Prop :=
  ∀ sandboxId expected replacement rows,
    (cas sandboxId expected replacement rows).2 = rows ∨
      ∃ current, findKey SandboxRecord.sandboxId sandboxId rows = some current ∧
        current.generation = expected ∧
        (cas sandboxId expected replacement rows).2 =
          replaceKey SandboxRecord.sandboxId sandboxId replacement rows

theorem MemorySandboxRepository.compareAndSwap_fenced :
    Fenced (MemorySandboxRepository.compareAndSwap : CompareAndSwap Plan Resources Route Mount) := by
  intro sandboxId expected replacement records
  unfold MemorySandboxRepository.compareAndSwap
  split
  · exact .inl rfl
  · split
    · exact .inl rfl
    · rename_i current hfound
      split
      · exact .inl rfl
      · rename_i hgen
        exact .inr ⟨current, hfound, not_not.mp hgen, rfl⟩

theorem SqliteSandboxRepository.compareAndSwap_fenced (validateRoute : Route → Except String Unit)
    (validateMounts : List Mount → Except String Unit) :
    Fenced (SqliteSandboxRepository.compareAndSwap validateRoute validateMounts :
      CompareAndSwap Plan Resources Route Mount) := by
  intro sandboxId expected replacement rows
  unfold SqliteSandboxRepository.compareAndSwap
  split
  · exact .inl rfl
  · rename_i expectedRow hcheck
    split
    · rename_i rows' hupdate
      obtain ⟨⟨current, hfound, hgen⟩, rfl⟩ := SqliteSandboxRepository.updateAtGeneration_eq_some hupdate
      -- the `UPDATE` matched the generation `checkReplacement` converted
      refine .inr ⟨current, hfound, ?_, rfl⟩
      ext
      rw [hgen, SqliteSandboxRepository.checkReplacement_eq_ok hcheck]
    · split <;> exact .inl rfl

end Fenced

namespace LifecycleSupervisor

section Effect

variable {Plan Route Mount : Type} [DecidableEq Plan] {supervisor : LifecycleSupervisor Plan Route Mount}
  {validateRoute : Route → Except String Unit} {validateMounts : List Mount → Except String Unit}
  {record : SandboxRecord Plan ResourceConfig Route Mount}
  {rows rows' : List (SandboxRecord Plan ResourceConfig Route Mount)}

/-- What one item of `record` did to the rows: nothing; or it found `record`'s id stored at the
    generation it had read, and replaced that record by a lifecycle successor of `record` that
    passes `validate_persisted_record`. -/
def FencedUpdate (validateRoute : Route → Except String Unit)
    (validateMounts : List Mount → Except String Unit)
    (record : SandboxRecord Plan ResourceConfig Route Mount)
    (rows rows' : List (SandboxRecord Plan ResourceConfig Route Mount)) : Prop :=
  rows' = rows ∨ ∃ current replacement next,
    findKey SandboxRecord.sandboxId record.sandboxId rows = some current ∧
      current.generation = record.generation ∧ CallEffect record replacement next ∧
      SandboxRecord.WellFormed validateRoute validateMounts replacement ∧
      rows' = replaceKey SandboxRecord.sandboxId record.sandboxId replacement rows

theorem WritesAtMost.fencedUpdate (hcas : Fenced supervisor.repository.compareAndSwap)
    (hwf : SandboxRecord.WellFormed validateRoute validateMounts record)
    (h : supervisor.WritesAtMost record (supervisor.Sound record) rows rows') :
    FencedUpdate validateRoute validateMounts record rows rows' := by
  rcases h with h | ⟨replacement, ⟨hrebuilt, -⟩, rfl⟩
  · exact .inl h
  obtain ⟨next, heffect⟩ := hrebuilt.effect
  -- the swap is keyed by the replacement's id, which is the record's
  have hid : replacement.sandboxId = record.sandboxId :=
    congrArg SandboxRecord.Fixed.sandboxId heffect.fixed_eq
  rw [hid]
  rcases hcas record.sandboxId record.generation replacement rows with hsame | ⟨current, hfound, hgen, hwrite⟩
  · exact .inl hsame
  · exact .inr ⟨current, replacement, next, hfound, hgen, heffect, hrebuilt.wellFormed hwf, hwrite⟩

end Effect

end LifecycleSupervisor

/-! ## What `reconcile_record` and `finish_claim` write -/

section Items

variable {Plan Route Mount : Type} [DecidableEq Plan]

open LifecycleSupervisor in
/-- Every change that `reconcile_record` or `finish_claim` makes to the rows is one
    compare-and-swap, under the generation it read, of a record rebuilt by a publishing
    lifecycle call, in a state the runtime vouched for. -/
theorem supervisor_writes_vouched (supervisor : LifecycleSupervisor Plan Route Mount)
    (record : SandboxRecord Plan ResourceConfig Route Mount)
    (rows : List (SandboxRecord Plan ResourceConfig Route Mount)) :
    supervisor.WritesAtMost record (supervisor.Sound record) rows
        (supervisor.reconcileRecord record rows).2 ∧
      supervisor.WritesAtMost record (supervisor.Sound record) rows
        (supervisor.finishClaim record rows).2 :=
  ⟨reconcileRecord_sound supervisor, finishClaim_sound supervisor⟩

open LifecycleSupervisor in
/-- On a fenced repository, `reconcile_record` and `finish_claim` change a store only by replacing
    the record they read, when it is still stored at the generation they read, by a lifecycle
    successor that stays valid. -/
theorem supervisor_items_fenced (supervisor : LifecycleSupervisor Plan Route Mount)
    (validateRoute : Route → Except String Unit) (validateMounts : List Mount → Except String Unit)
    (hcas : Fenced supervisor.repository.compareAndSwap)
    (record : SandboxRecord Plan ResourceConfig Route Mount)
    (hwf : SandboxRecord.WellFormed validateRoute validateMounts record)
    (rows : List (SandboxRecord Plan ResourceConfig Route Mount)) :
    FencedUpdate validateRoute validateMounts record rows (supervisor.reconcileRecord record rows).2 ∧
      FencedUpdate validateRoute validateMounts record rows (supervisor.finishClaim record rows).2 :=
  ⟨(reconcileRecord_sound supervisor).fencedUpdate hcas hwf,
    (finishClaim_sound supervisor).fencedUpdate hcas hwf⟩

end Items

/-! ## A supervisor on fixed inputs -/

/-- Sandbox `sbx-r`, running execution `exec-r` since 20. -/
def reconciledRecord : SandboxRecord Unit ResourceConfig Unit Unit where
  sandboxId := ⟨"sbx-r", rfl⟩
  operationId := ⟨"op-r", rfl⟩
  ownerId := "owner"
  executionId := some ⟨"exec-r", rfl⟩
  executionGeneration := some .initial
  generation := ⟨7, Nat.succ_pos 6, Nat.le_of_lt_succ (by norm_num [u64Max])⟩
  templateId := "base"
  plan := ()
  resources := ⟨1, 512, 4096, 60⟩
  lifecycle := ⟨.kill, false, true⟩
  state := .running
  pausedWithMemory := true
  createdAt := 10
  startedAt := some 20
  expiresAt := 100
  envdVersion := "0.1.0"
  routing := ()
  volumeMounts := []
  failure := none

/-- A runtime that holds `exec-r` ready but finds it stopped when inspected. -/
def stoppedExecutions : ExecutionManager Unit ResourceConfig where
  start _ _ := .error (.unavailable "staged start")
  inspect executionId := .ok ⟨executionId, .initial, .stopped, ()⟩
  pause _ _ _ := .error (.unavailable "pause")
  resume _ _ := .error (.unavailable "resume")
  kill _ _ := .ok .killed
  reconcile _ := .ok (.ready ⟨⟨"exec-r", rfl⟩, .initial, (), ⟨1, 512, 4096, 60⟩, 20⟩)

/-- A supervisor over the memory repository and that runtime. -/
def stoppedSupervisor : LifecycleSupervisor Unit Unit Unit :=
  ⟨MemorySandboxRepository.repository, stoppedExecutions, fun _ _ => .ok (), fun _ => .broker,
    ⟨30, fun readyAt seconds => some (readyAt + seconds)⟩⟩

theorem stopped_items_fenced :
    Fenced stoppedSupervisor.repository.compareAndSwap ∧
      SandboxRecord.WellFormed acceptAll acceptAll reconciledRecord ∧
      (LifecycleSupervisor.FencedUpdate acceptAll acceptAll reconciledRecord [reconciledRecord]
          (stoppedSupervisor.reconcileRecord reconciledRecord [reconciledRecord]).2 ∧
        LifecycleSupervisor.FencedUpdate acceptAll acceptAll reconciledRecord [reconciledRecord]
          (stoppedSupervisor.finishClaim reconciledRecord [reconciledRecord]).2) :=
  have hwf : SandboxRecord.WellFormed acceptAll acceptAll reconciledRecord :=
    SandboxRecord.validatePersisted_eq_ok.mp
      (show SandboxRecord.validatePersisted acceptAll acceptAll reconciledRecord = .ok () by decide)
  ⟨MemorySandboxRepository.compareAndSwap_fenced, hwf,
    supervisor_items_fenced stoppedSupervisor acceptAll acceptAll
      MemorySandboxRepository.compareAndSwap_fenced reconciledRecord hwf [reconciledRecord]⟩

/-- The stopped execution fails the running record, which the swap stores. -/
example : (stoppedSupervisor.reconcileRecord reconciledRecord [reconciledRecord]).1 = .ok .completed ∧
    (stoppedSupervisor.reconcileRecord reconciledRecord [reconciledRecord]).2.map
      (fun record => (record.state, record.failure, record.generation.get)) =
      [(.failed, some .reconciliationFailed, 8)] := by
  decide

end A3sBox.Compat
