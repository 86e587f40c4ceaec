import A3sBox.Core.Execution

/-
  The durable lifecycle of a managed execution (`box_record.rs`,
  `managed_execution_store.rs`).

  * `ManagedExecutionState`: the fourteen persisted states, written to
    `BoxRecord::status` by `asStatus` and read back by `fromStatus`, which also accepts
    the legacy spelling `dead` for `failed` (`fromStatus_asStatus`, `asStatus_injective`).
  * `legalTransition`: the edge table of `transition_generation`; `bumpsGeneration`: its
    three edges that advance the generation. No legal edge is a self-loop
    (`legalTransition_irrefl`) and none leaves `removing` (`legalTransition_removing`).
  * `ManagedExecutionOperation`: the backend side effect claimed with a transitional
    state, and `ManagedRestartCompletion`, the record of the last finished restart.
-/

namespace A3sBox.Runtime

/-- Durable lifecycle state for an execution owned by `ExecutionManager`. -/
inductive ManagedExecutionState where
  | creating
  | created
  | starting
  | running
  | pausing
  | paused
  | resuming
  | snapshotting
  | killing
  | restartStopping
  | restartStarting
  | removing
  | stopped
  | failed
deriving DecidableEq, Repr

namespace ManagedExecutionState

/-- Canonical value written to `BoxRecord::status`. -/
def asStatus : ManagedExecutionState → String
  | creating => "creating"
  | created => "created"
  | starting => "starting"
  | running => "running"
  | pausing => "pausing"
  | paused => "paused"
  | resuming => "resuming"
  | snapshotting => "snapshotting"
  | killing => "killing"
  | restartStopping => "restart_stopping"
  | restartStarting => "restart_starting"
  | removing => "removing"
  | stopped => "stopped"
  | failed => "failed"

instance : ToString ManagedExecutionState := ⟨asStatus⟩

/-- `BoxError::StateError(message)`, as displayed. -/
def stateError (message : String) : String := s!"VM state error: {message}"

/-- Parse a persisted managed lifecycle state. -/
def fromStatus (status : String) : Except String ManagedExecutionState :=
  match status with
  | "creating" => .ok creating
  | "created" => .ok created
  | "starting" => .ok starting
  | "running" => .ok running
  | "pausing" => .ok pausing
  | "paused" => .ok paused
  | "resuming" => .ok resuming
  | "snapshotting" => .ok snapshotting
  | "killing" => .ok killing
  | "restart_stopping" => .ok restartStopping
  | "restart_starting" => .ok restartStarting
  | "removing" => .ok removing
  | "stopped" => .ok stopped
  | "dead" | "failed" => .ok failed
  | other => .error (stateError s!"unknown managed execution state: {other}")

/-- Whether host resources may still belong to this execution. -/
def keepsResources : ManagedExecutionState → Bool
  | creating | created | stopped | failed => false
  | _ => true

/-- Whether no further lifecycle operation can revive this execution. -/
def isTerminal : ManagedExecutionState → Bool
  | stopped | failed => true
  | _ => false

@[simp] theorem fromStatus_asStatus (st : ManagedExecutionState) :
    fromStatus st.asStatus = .ok st := by
  cases st <;> rfl

theorem asStatus_injective {st st' : ManagedExecutionState} (h : st.asStatus = st'.asStatus) :
    st = st' := by
  have h' := congrArg fromStatus h
  simpa using h'

theorem fromStatus_dead : fromStatus "dead" = .ok failed := rfl

/-! ## The edge table of `transition_generation` -/

/-- The `legal` table of `transition_generation`. -/
def legalTransition : ManagedExecutionState → ManagedExecutionState → Bool
  | creating, created | creating, starting | creating, killing | creating, stopped
  | creating, failed => true
  | created, starting | created, killing | created, restartStopping | created, stopped
  | created, failed => true
  | starting, created | starting, creating | starting, running | starting, killing
  | starting, stopped | starting, failed => true
  | running, pausing | running, snapshotting | running, killing | running, restartStopping
  | running, stopped | running, failed => true
  | pausing, paused | pausing, running | pausing, killing | pausing, stopped
  | pausing, failed => true
  | paused, resuming | paused, snapshotting | paused, killing | paused, restartStopping
  | paused, stopped | paused, failed => true
  | resuming, running | resuming, paused | resuming, killing | resuming, stopped
  | resuming, failed => true
  | snapshotting, running | snapshotting, paused | snapshotting, stopped
  | snapshotting, failed => true
  | killing, stopped | killing, failed => true
  | stopped, restartStopping | failed, restartStopping => true
  | restartStopping, restartStarting => true
  | restartStarting, running | restartStarting, failed => true
  | _, _ => false

/-- The edges on which `transition_generation` increments the generation. -/
def bumpsGeneration : ManagedExecutionState → ManagedExecutionState → Bool
  | pausing, paused | resuming, running | restartStopping, restartStarting => true
  | _, _ => false

/-- The edges `begin_remove` takes: `{created, stopped, failed} -> removing`. -/
def removeTransition (src dst : ManagedExecutionState) : Bool :=
  dst == removing && (src == created || src == stopped || src == failed)

theorem legalTransition_irrefl (st : ManagedExecutionState) : legalTransition st st = false := by
  cases st <;> rfl

theorem legalTransition_removing (st : ManagedExecutionState) :
    legalTransition removing st = false := by
  cases st <;> rfl

theorem legalTransition_to_removing (st : ManagedExecutionState) :
    legalTransition st removing = false := by
  cases st <;> rfl

theorem bumpsGeneration_legal {src dst : ManagedExecutionState}
    (h : bumpsGeneration src dst = true) : legalTransition src dst = true := by
  cases src <;> cases dst <;> simp_all [bumpsGeneration, legalTransition]

end ManagedExecutionState

/-! ## Pending operations -/

/-- Recoverable backend operation associated with a transitional state. -/
inductive ManagedExecutionOperation where
  | start
  | pause (keepMemory : Bool)
  | resume
  | snapshot (snapshotId : ExecutionSnapshotId) (sourceState : ManagedExecutionState)
  | kill (signal : Option Int) (timeoutSecs : Option Nat)
  | remove
  | restart (operationId : OperationId) (sourceGeneration : ExecutionGeneration)
      (sourceState : ManagedExecutionState) (stopTimeoutSecs : Option Nat)
deriving DecidableEq

/-- Durable result of the most recent restart operation. -/
inductive ManagedRestartOutcome where
  | running
  | failed
deriving DecidableEq, Repr

/-- Restart identity retained after its transitional state has completed. -/
structure ManagedRestartCompletion where
  operationId : OperationId
  sourceGeneration : ExecutionGeneration
  targetGeneration : ExecutionGeneration
  outcome : ManagedRestartOutcome
  stopTimeoutSecs : Option Nat
deriving DecidableEq

end A3sBox.Runtime
