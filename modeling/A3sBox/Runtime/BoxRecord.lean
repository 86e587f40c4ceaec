import A3sBox.Runtime.ManagedState
import A3sBox.Lib.Fallible

/-
  The persisted record of a local execution (`box_record.rs`).

  `BoxRecord` keeps the fields that the modelled functions read or write: the identity
  and status, the process fields the CLI reconcile pass rewrites, the restart-policy
  fields it reads, and the optional `ManagedExecutionMetadata` of a managed execution.
  The creation request is `CreateExecutionRequest Config Policy`: `Config` stands for
  `BoxConfig` and `Policy` for `ExecutionRecordPolicy`. The runtime never looks inside
  either. It compares requests through `serde_json::to_value` (equality of the
  persisted form, the `DecidableEq` instances here), and passes `config` to
  `resolve_execution`, a parameter `resolve` of the validators.

  `validatePendingOperation` is cut along its five checks (consistency table, restart,
  snapshot, kill, cold pause); `validatePendingOperation_eq_ok` reassembles them and
  `validatePendingOperation_of_none` is the case of a stable state. `managedState` is
  `BoxRecord::managed_state`.
-/

namespace A3sBox.Runtime

open A3sBox.Lib ManagedExecutionState

/-- The creation intent persisted with a managed execution. -/
structure CreateExecutionRequest (Config Policy : Type) where
  externalSandboxId : String
  config : Config
  labels : List (String × String)
  policy : Policy
  rootfsSnapshotId : Option ExecutionSnapshotId
deriving DecidableEq

/-- Durable lifecycle metadata for an execution owned by `ExecutionManager`.
    (`finished_at` is read by no modelled function and left out.) -/
structure ManagedExecutionMetadata (Config Policy Plan : Type) where
  operationId : OperationId
  generation : ExecutionGeneration
  request : CreateExecutionRequest Config Policy
  plan : Plan
  pendingOperation : Option ManagedExecutionOperation
  lastRestart : Option ManagedRestartCompletion
  pausedWithMemory : Bool
deriving DecidableEq

/-- Metadata record for a single local box execution. -/
structure BoxRecord (Config Policy Plan : Type) where
  id : String
  status : String
  pid : Option Nat
  pidStartTime : Option Nat
  exitCode : Option Int
  boxDir : String
  autoRemove : Bool
  restartPolicy : String
  stoppedByUser : Bool
  restartCount : Nat
  maxRestartCount : Nat
  healthStatus : String
  healthRetries : Nat
  managedExecution : Option (ManagedExecutionMetadata Config Policy Plan)
deriving DecidableEq

variable {Config Policy Plan : Type}

/-! ## `validate_pending_operation` -/

/-- `validate_stop_timeout`: the timeout must survive `checked_mul(1_000)` in `u64`. -/
def validateStopTimeout (timeoutSecs : Option Nat) : Except String Unit :=
  ensure (!timeoutSecs.any fun timeout => u64Max < timeout * 1000)
    (stateError "managed stop timeout is too large")

/-- `next_generation`. -/
def nextGeneration (generation : ExecutionGeneration) : Except String ExecutionGeneration :=
  match generation.checkedSucc with
  | some next => .ok next
  | none => .error (stateError "execution generation is exhausted")

/-- The `consistent` table: the pending operation each state must carry. -/
def pendingConsistent : ManagedExecutionState → Option ManagedExecutionOperation → Bool
  | starting, some .start => true
  | pausing, some (.pause _) => true
  | resuming, some .resume => true
  | snapshotting, some (.snapshot _ _) => true
  | killing, some (.kill _ _) => true
  | removing, some .remove => true
  | restartStopping, some (.restart _ _ _ _) | restartStarting, some (.restart _ _ _ _) => true
  | creating, none | created, none | running, none | paused, none | stopped, none
  | failed, none => true
  | _, _ => false

/-- The stable states a restart may start from. -/
def isStableRestartSource : ManagedExecutionState → Bool
  | created | running | paused | stopped | failed => true
  | _ => false

/-- The generation a restart phase must carry: the source generation while stopping,
    the next one while starting. -/
def restartExpectedGeneration (state : ManagedExecutionState)
    (sourceGeneration : ExecutionGeneration) : Except String ExecutionGeneration :=
  match state with
  | restartStopping => .ok sourceGeneration
  | restartStarting => nextGeneration sourceGeneration
  | _ => .error (stateError "restart operation is attached to a non-restart state")

/-- The restart check: a stable source, the generation fixed by the restart phase,
    and a bounded stop timeout. -/
def validateRestartOperation (state : ManagedExecutionState) (generation : ExecutionGeneration) :
    Option ManagedExecutionOperation → Except String Unit
  | some (.restart _ sourceGeneration sourceState stopTimeoutSecs) => do
    ensure (isStableRestartSource sourceState) (stateError "restart source state is not stable")
    let expected ← restartExpectedGeneration state sourceGeneration
    ensure (generation == expected) (stateError
      s!"restart state {state} has generation {generation.get}, expected {expected.get}")
    validateStopTimeout stopTimeoutSecs
  | _ => .ok ()

/-- The snapshot check: only `snapshotting`, from `running` or `paused`. -/
def validateSnapshotOperation (state : ManagedExecutionState) :
    Option ManagedExecutionOperation → Except String Unit
  | some (.snapshot _ sourceState) =>
    ensure (state == snapshotting && (sourceState == running || sourceState == paused))
      (stateError "snapshot operation has an invalid source state")
  | _ => .ok ()

/-- The kill check: a positive signal and a bounded timeout. -/
def validateKillOperation : Option ManagedExecutionOperation → Except String Unit
  | some (.kill signal timeoutSecs) => do
    ensure (!signal.any (· ≤ 0)) (stateError "kill signal must be positive")
    validateStopTimeout timeoutSecs
  | _ => .ok ()

/-- `valid_cold_pause_state`: where a filesystem-only pause may be retained. -/
def validColdPauseState : ManagedExecutionState → Option ManagedExecutionOperation → Bool
  | pausing, some (.pause keepMemory) => !keepMemory
  | paused, _ | resuming, _ => true
  | snapshotting, some (.snapshot _ sourceState) => sourceState == paused
  -- These transitions may be claimed from a cold-paused execution.
  | killing, _ | removing, _ => true
  | restartStopping, some (.restart _ _ sourceState _) => sourceState == paused
  | _, _ => false

/-- `validate_pending_operation`. The cold-pause rule applies only when
    `paused_with_memory` is false. -/
def validatePendingOperation (state : ManagedExecutionState)
    (metadata : ManagedExecutionMetadata Config Policy Plan) : Except String Unit := do
  let operation := metadata.pendingOperation
  ensure (pendingConsistent state operation)
    (stateError s!"managed execution state {state} has inconsistent pending operation")
  validateRestartOperation state metadata.generation operation
  validateSnapshotOperation state operation
  validateKillOperation operation
  ensure (metadata.pausedWithMemory || validColdPauseState state operation)
    (stateError s!"managed execution state {state} cannot retain a filesystem-only pause")

theorem validatePendingOperation_eq_ok {state : ManagedExecutionState}
    {metadata : ManagedExecutionMetadata Config Policy Plan} :
    validatePendingOperation state metadata = .ok () ↔
      pendingConsistent state metadata.pendingOperation = true ∧
      validateRestartOperation state metadata.generation metadata.pendingOperation = .ok () ∧
      validateSnapshotOperation state metadata.pendingOperation = .ok () ∧
      validateKillOperation metadata.pendingOperation = .ok () ∧
      (metadata.pausedWithMemory || validColdPauseState state metadata.pendingOperation) =
        true := by
  simp [validatePendingOperation]

/-- With no pending operation only the consistency table and the cold-pause rule
    remain: a stable state, and a filesystem-only pause only while `paused`. -/
theorem validatePendingOperation_of_none {state : ManagedExecutionState}
    {metadata : ManagedExecutionMetadata Config Policy Plan}
    (hnone : metadata.pendingOperation = none) :
    validatePendingOperation state metadata = .ok () ↔
      pendingConsistent state none = true ∧
        (metadata.pausedWithMemory = true ∨ state = paused) := by
  rw [validatePendingOperation_eq_ok, hnone]
  cases state <;> simp [pendingConsistent, validateRestartOperation, validateSnapshotOperation,
    validateKillOperation, validColdPauseState]

theorem nextGeneration_eq_ok {generation next : ExecutionGeneration} :
    nextGeneration generation = .ok next ↔ next.get = generation.get + 1 := by
  unfold nextGeneration
  cases h : generation.checkedSucc with
  | none =>
    have hmax := ExecutionGeneration.checkedSucc_eq_none_iff.mp h
    have hle := next.le_max
    simp only [reduceCtorEq, false_iff]
    omega
  | some g =>
    have hg := ExecutionGeneration.checkedSucc_eq_some_iff.mp h
    simp only [Except.ok.injEq]
    exact ⟨fun h => h ▸ hg, fun h => ExecutionGeneration.ext_get (hg.trans h.symm)⟩

/-- The restart check of a restart operation, as its three conditions. -/
theorem validateRestartOperation_restart {state : ManagedExecutionState}
    {generation sourceGeneration : ExecutionGeneration} {operationId : OperationId}
    {sourceState : ManagedExecutionState} {stopTimeoutSecs : Option Nat} :
    validateRestartOperation state generation
        (some (.restart operationId sourceGeneration sourceState stopTimeoutSecs)) = .ok () ↔
      isStableRestartSource sourceState = true ∧
        (∃ expected, restartExpectedGeneration state sourceGeneration = .ok expected ∧
          generation = expected) ∧
        validateStopTimeout stopTimeoutSecs = .ok () := by
  simp [validateRestartOperation, bind_eq_ok]

/-! ## `ManagedExecutionMetadata::validate` and `managed_state` -/

/-- `ManagedExecutionMetadata::validate`, with `resolve` for `resolve_execution`. -/
def ManagedExecutionMetadata.validate [DecidableEq Plan] (resolve : Config → Except String Plan)
    (metadata : ManagedExecutionMetadata Config Policy Plan) : Except String Unit := do
  ensure (!isBlank metadata.request.externalSandboxId)
    (stateError "managed execution has an empty external sandbox ID")
  let resolved ← resolve metadata.request.config
  ensure (resolved == metadata.plan)
    (stateError "managed execution plan does not match its persisted creation request")
  match metadata.lastRestart with
  | some completed =>
    let expectedTarget ← nextGeneration completed.sourceGeneration
    ensure (completed.targetGeneration == expectedTarget)
      (stateError s!"completed restart {completed.operationId} has inconsistent generations")
    validateStopTimeout completed.stopTimeoutSecs
  | none => pure ()

section Validate

variable [DecidableEq Plan] {resolve : Config → Except String Plan}

theorem ManagedExecutionMetadata.validate_eq_ok
    {metadata : ManagedExecutionMetadata Config Policy Plan} :
    metadata.validate resolve = .ok () ↔
      isBlank metadata.request.externalSandboxId = false ∧
        resolve metadata.request.config = .ok metadata.plan ∧
        ∀ completed, metadata.lastRestart = some completed →
          (∃ expected, nextGeneration completed.sourceGeneration = .ok expected ∧
            completed.targetGeneration = expected) ∧
          validateStopTimeout completed.stopTimeoutSecs = .ok () := by
  unfold ManagedExecutionMetadata.validate
  cases metadata.lastRestart with
  | none => simp [bind_eq_ok]
  | some completed => simp [bind_eq_ok]

/-- The metadata check reads only the request, the plan and the last restart. -/
theorem ManagedExecutionMetadata.validate_congr
    {metadata metadata' : ManagedExecutionMetadata Config Policy Plan}
    (hrequest : metadata'.request = metadata.request) (hplan : metadata'.plan = metadata.plan)
    (hlast : metadata'.lastRestart = metadata.lastRestart) :
    metadata'.validate resolve = metadata.validate resolve := by
  unfold ManagedExecutionMetadata.validate
  rw [hrequest, hplan, hlast]

end Validate

/-- `BoxRecord::managed_state`: `none` for a legacy record; for a managed record the
    parsed status, once its pending operation is consistent with it. -/
def BoxRecord.managedState (record : BoxRecord Config Policy Plan) :
    Except String (Option ManagedExecutionState) :=
  match record.managedExecution with
  | none => .ok none
  | some metadata => do
    let state ← fromStatus record.status
    validatePendingOperation state metadata
    pure (some state)

theorem BoxRecord.managedState_eq_some {record : BoxRecord Config Policy Plan}
    {state : ManagedExecutionState} :
    record.managedState = .ok (some state) ↔
      ∃ metadata, record.managedExecution = some metadata ∧
        fromStatus record.status = .ok state ∧
        validatePendingOperation state metadata = .ok () := by
  unfold BoxRecord.managedState
  cases hm : record.managedExecution with
  | none => simp
  | some metadata =>
    simp only [bind_eq_ok, pure_eq_ok, Option.some.injEq]
    constructor
    · rintro ⟨st, hs, u, hv, rfl⟩
      exact ⟨metadata, rfl, hs, hv⟩
    · rintro ⟨_, ⟨⟩, hs, hv⟩
      exact ⟨state, hs, (), hv, rfl⟩

/-- A managed record's state parses to a state, never to `none`. -/
theorem BoxRecord.managedState_isOk {record : BoxRecord Config Policy Plan}
    {metadata : ManagedExecutionMetadata Config Policy Plan}
    (hm : record.managedExecution = some metadata) :
    record.managedState.isOk = true ↔ ∃ state, record.managedState = .ok (some state) := by
  unfold BoxRecord.managedState
  rw [hm]
  cases hs : fromStatus record.status with
  | error e => simp [Except.isOk, Except.toBool]
  | ok st =>
    cases hv : validatePendingOperation st metadata <;>
      simp [hv, Except.isOk, Except.toBool, Functor.map, Except.map]

end A3sBox.Runtime
