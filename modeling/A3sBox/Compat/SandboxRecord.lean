import A3sBox.Lib.Fallible
import A3sBox.Core.Execution

/-
  The sandbox record of the E2B compatibility control plane (`control::model`,
  `control::validation`).

  `SandboxRecord` keeps the fields that its lifecycle methods and
  `validate_persisted_record` read or write. The resolved plan, the resource
  configuration, the route policy and the volume mounts are type parameters: the
  methods compare the plan for equality and copy the resources, and the validator
  hands the other two to their own checks (`validateRoute`, `validateMounts`), which no
  method can affect since none writes those fields. A `DateTime<Utc>` is an instant on
  an integer time line (`Timestamp`); only its order is used.

  A method taking `&mut self` is a function returning the new record with its result.
  Every `?` of every method stands before its first assignment, so a method that fails
  has written nothing; `SandboxRecord.WellFormed` states the checks of
  `validate_persisted_record` as fields (`validatePersistedRecord_eq_ok`).
-/

namespace A3sBox.Compat

open A3sBox.Lib

/-- `DateTime<Utc>`. -/
abbrev Timestamp := Int

inductive LifecycleState where
  | creating
  | running
  | pausing
  | paused
  | resuming
  | killing
  | killed
  | failed
deriving DecidableEq, Repr

/-- The `Debug` name of a state, as the validator's messages print it. -/
def LifecycleState.debugName : LifecycleState → String
  | .creating => "Creating"
  | .running => "Running"
  | .pausing => "Pausing"
  | .paused => "Paused"
  | .resuming => "Resuming"
  | .killing => "Killing"
  | .killed => "Killed"
  | .failed => "Failed"

instance : ToString LifecycleState := ⟨LifecycleState.debugName⟩

/-- States that hold a runtime execution: `Running | Pausing | Paused | Resuming`. -/
def LifecycleState.requiresExecution : LifecycleState → Bool
  | .running | .pausing | .paused | .resuming => true
  | _ => false

/-- States in which a filesystem-only pause may be recorded: `Pausing | Paused | Resuming`. -/
def LifecycleState.allowsColdPause : LifecycleState → Bool
  | .pausing | .paused | .resuming => true
  | _ => false

/-- States that may keep a failure category: `Failed | Killing | Killed`. -/
def LifecycleState.retainsFailure : LifecycleState → Bool
  | .failed | .killing | .killed => true
  | _ => false

inductive OnTimeoutAction where
  | kill
  | pause
deriving DecidableEq, Repr

structure LifecyclePolicy where
  onTimeout : OnTimeoutAction
  autoResume : Bool
  keepMemoryOnPause : Bool
deriving DecidableEq, Repr

inductive LifecycleFailure where
  | policyRejected
  | runtimeFailed
  | reconciliationFailed
deriving DecidableEq, Repr

inductive LifecycleError where
  | invalidIdentity (message : String)
  | invalidExpiry
  | invalidCredentialMaterial
  | invalidTransition (source : LifecycleState) (allowed : List LifecycleState)
  | generationExhausted
  | executionPlanMismatch
  | executionIdentityMismatch
  | executionGenerationMismatch
  | missingExecution
  | invalidPersistedState (message : String)
deriving DecidableEq, Repr

/-- `is_sandbox_id_alphanumeric`: an ASCII lowercase letter or digit. -/
def isSandboxIdAlphanumeric (c : Char) : Bool := c.isLower || c.isDigit

/-- The check of `SandboxId::new`: 1 to 48 lowercase DNS-label characters that start and
    end alphanumeric. The source checks bytes; every byte it accepts is ASCII, so a
    string with another character fails both forms, and on ASCII strings characters
    are bytes. -/
def isValidSandboxId (value : String) : Bool :=
  let bytes := value.toList
  !bytes.isEmpty && bytes.length ≤ 48 && bytes.head?.any isSandboxIdAlphanumeric &&
    bytes.getLast?.any isSandboxIdAlphanumeric &&
    bytes.all fun byte => isSandboxIdAlphanumeric byte || byte == '-'

structure SandboxId where
  val : String
  valid : isValidSandboxId val = true
deriving DecidableEq

/-- `SandboxId::new`. -/
def SandboxId.new (value : String) : Except LifecycleError SandboxId :=
  if h : isValidSandboxId value then .ok ⟨value, h⟩
  else .error (.invalidIdentity "sandbox ID must be 1-48 lowercase DNS-label characters")

instance : ToString SandboxId := ⟨SandboxId.val⟩

/-- The optimistic-concurrency generation of a sandbox record: a nonzero `u64`. -/
@[ext] structure SandboxGeneration where
  get : Nat
  pos : 0 < get
  le_max : get ≤ u64Max

/-- Generations are equal when their values are. -/
instance : DecidableEq SandboxGeneration := fun a b =>
  decidable_of_iff (a.get = b.get) ⟨SandboxGeneration.ext, congrArg SandboxGeneration.get⟩

/-- `SandboxGeneration::INITIAL`. -/
def SandboxGeneration.initial : SandboxGeneration := ⟨1, Nat.one_pos, one_le_u64Max⟩

/-- `SandboxGeneration::next`: `checked_add(1)`, or `GenerationExhausted`. -/
def SandboxGeneration.next (g : SandboxGeneration) : Except LifecycleError SandboxGeneration :=
  if h : g.get + 1 ≤ u64Max then .ok ⟨g.get + 1, Nat.succ_pos _, h⟩ else .error .generationExhausted

@[simp] theorem SandboxGeneration.initial_get : SandboxGeneration.initial.get = 1 := rfl

theorem SandboxGeneration.next_eq_ok {g g' : SandboxGeneration} :
    g.next = .ok g' ↔ g'.get = g.get + 1 := by
  unfold SandboxGeneration.next
  constructor
  · intro h
    split at h
    · cases h
      rfl
    · cases h
  · intro h
    have hle : g.get + 1 ≤ u64Max := h ▸ g'.le_max
    rw [dif_pos hle]
    exact congrArg Except.ok (SandboxGeneration.ext h.symm)

theorem SandboxGeneration.next_eq_error {g : SandboxGeneration} {e : LifecycleError} :
    g.next = .error e ↔ g.get = u64Max ∧ e = .generationExhausted := by
  unfold SandboxGeneration.next
  have := g.le_max
  split
  · simp only [reduceCtorEq, false_iff, not_and]
    omega
  · simp only [Except.error.injEq]
    constructor
    · intro h
      exact ⟨by omega, h.symm⟩
    · intro h
      exact h.2.symm

/-- The lease a runtime returns for a started, resumed or paused execution
    (`a3s_box_core::ExecutionLease`). -/
structure ExecutionLease (Plan Resources : Type) where
  executionId : ExecutionId
  generation : ExecutionGeneration
  plan : Plan
  resources : Resources
  startedAt : Timestamp

/-- `SandboxRecord`, without the fields that none of the modelled functions reads
    (metadata, envd mode, runtime environment, `secure`, internet access, credentials). -/
structure SandboxRecord (Plan Resources Route Mount : Type) where
  sandboxId : SandboxId
  operationId : OperationId
  ownerId : String
  executionId : Option ExecutionId
  executionGeneration : Option ExecutionGeneration
  generation : SandboxGeneration
  templateId : String
  plan : Plan
  resources : Resources
  lifecycle : LifecyclePolicy
  state : LifecycleState
  pausedWithMemory : Bool
  createdAt : Timestamp
  startedAt : Option Timestamp
  expiresAt : Timestamp
  envdVersion : String
  routing : Route
  volumeMounts : List Mount
  failure : Option LifecycleFailure
deriving DecidableEq

namespace SandboxRecord

variable {Plan Resources Route Mount : Type}

section Methods

variable [DecidableEq Plan]

/-- `public_state`. -/
def publicState? (self : SandboxRecord Plan Resources Route Mount) : Option LifecycleState :=
  match self.state with
  | .running => some .running
  | .paused => some .paused
  | _ => none

/-- `is_terminal`. -/
def isTerminal (self : SandboxRecord Plan Resources Route Mount) : Bool :=
  match self.state with
  | .killed | .failed => true
  | _ => false

/-- `require_state`. -/
def requireState (self : SandboxRecord Plan Resources Route Mount)
    (allowed : List LifecycleState) : Except LifecycleError Unit :=
  ensure (allowed.contains self.state) (.invalidTransition self.state allowed)

/-- `validate_execution_lease`: the lease must carry the record's plan, the recorded
    execution identity if there is one, and a newer execution generation. -/
def validateExecutionLease (self : SandboxRecord Plan Resources Route Mount)
    (lease : ExecutionLease Plan Resources) : Except LifecycleError Unit := do
  ensure (decide (lease.plan = self.plan)) .executionPlanMismatch
  ensure (!self.executionId.any fun executionId => decide (executionId ≠ lease.executionId))
    .executionIdentityMismatch
  ensure (!self.executionGeneration.any fun generation => decide (lease.generation.get ≤ generation.get))
    .executionGenerationMismatch

/-- `transition`: guard the state, bump the generation, move to `target`. -/
def transition (self : SandboxRecord Plan Resources Route Mount)
    (allowed : List LifecycleState) (target : LifecycleState) :
    Except LifecycleError (SandboxGeneration × SandboxRecord Plan Resources Route Mount) := do
  self.requireState allowed
  let next ← self.generation.next
  pure (next, { self with state := target, generation := next })

/-- `mark_running`. The start time is `started_at.get_or_insert(lease.started_at)`. -/
def markRunning (self : SandboxRecord Plan Resources Route Mount)
    (lease : ExecutionLease Plan Resources) :
    Except LifecycleError (SandboxGeneration × SandboxRecord Plan Resources Route Mount) := do
  self.requireState [.creating, .resuming]
  self.validateExecutionLease lease
  let next ← self.generation.next
  pure (next, { self with
    executionId := some lease.executionId
    executionGeneration := some lease.generation
    resources := lease.resources
    startedAt := some (self.startedAt.getD lease.startedAt)
    state := .running
    pausedWithMemory := true
    failure := none
    generation := next })

/-- `mark_ready`. -/
def markReady (self : SandboxRecord Plan Resources Route Mount)
    (lease : ExecutionLease Plan Resources) (readyAt expiresAt : Timestamp) :
    Except LifecycleError (SandboxGeneration × SandboxRecord Plan Resources Route Mount) := do
  self.requireState [.creating]
  self.validateExecutionLease lease
  ensure (!(decide (readyAt < self.createdAt) || decide (expiresAt < readyAt))) .invalidExpiry
  let next ← self.generation.next
  pure (next, { self with
    executionId := some lease.executionId
    executionGeneration := some lease.generation
    resources := lease.resources
    startedAt := some readyAt
    expiresAt := expiresAt
    state := .running
    pausedWithMemory := true
    failure := none
    generation := next })

/-- `begin_pause`. -/
def beginPause (self : SandboxRecord Plan Resources Route Mount) (keepMemory : Bool) :
    Except LifecycleError (SandboxGeneration × SandboxRecord Plan Resources Route Mount) := do
  let (generation, record) ← self.transition [.running] .pausing
  pure (generation, { record with pausedWithMemory := keepMemory })

/-- `mark_paused`. -/
def markPaused (self : SandboxRecord Plan Resources Route Mount)
    (lease : ExecutionLease Plan Resources) :
    Except LifecycleError (SandboxGeneration × SandboxRecord Plan Resources Route Mount) := do
  self.requireState [.pausing]
  self.validateExecutionLease lease
  let next ← self.generation.next
  pure (next, { self with
    executionId := some lease.executionId
    executionGeneration := some lease.generation
    resources := lease.resources
    startedAt := some (self.startedAt.getD lease.startedAt)
    state := .paused
    generation := next })

/-- `abort_pause`. -/
def abortPause (self : SandboxRecord Plan Resources Route Mount) :
    Except LifecycleError (SandboxGeneration × SandboxRecord Plan Resources Route Mount) := do
  let (generation, record) ← self.transition [.pausing] .running
  pure (generation, { record with pausedWithMemory := true })

/-- `begin_resume`. -/
def beginResume (self : SandboxRecord Plan Resources Route Mount) :
    Except LifecycleError (SandboxGeneration × SandboxRecord Plan Resources Route Mount) := do
  ensure (!(self.executionId.isNone || self.executionGeneration.isNone)) .missingExecution
  self.transition [.paused] .resuming

/-- `abort_resume`. -/
def abortResume (self : SandboxRecord Plan Resources Route Mount) :
    Except LifecycleError (SandboxGeneration × SandboxRecord Plan Resources Route Mount) :=
  self.transition [.resuming] .paused

/-- `begin_kill`. -/
def beginKill (self : SandboxRecord Plan Resources Route Mount) :
    Except LifecycleError (SandboxGeneration × SandboxRecord Plan Resources Route Mount) := do
  let (generation, record) ←
    self.transition [.creating, .running, .pausing, .paused, .resuming, .failed] .killing
  pure (generation, { record with pausedWithMemory := true })

/-- `mark_killed`. -/
def markKilled (self : SandboxRecord Plan Resources Route Mount) :
    Except LifecycleError (SandboxGeneration × SandboxRecord Plan Resources Route Mount) := do
  let (generation, record) ← self.transition [.killing] .killed
  pure (generation, { record with pausedWithMemory := true })

/-- `mark_failed`. -/
def markFailed (self : SandboxRecord Plan Resources Route Mount) (failure : LifecycleFailure) :
    Except LifecycleError (SandboxGeneration × SandboxRecord Plan Resources Route Mount) := do
  self.requireState [.creating, .running, .pausing, .paused, .resuming]
  let next ← self.generation.next
  pure (next, { self with
    state := .failed
    pausedWithMemory := true
    failure := some failure
    generation := next })

/-- `replace_expiry`. -/
def replaceExpiry (self : SandboxRecord Plan Resources Route Mount) (expiresAt : Timestamp) :
    Except LifecycleError (SandboxGeneration × SandboxRecord Plan Resources Route Mount) := do
  self.requireState [.running, .paused]
  let next ← self.generation.next
  pure (next, { self with expiresAt := expiresAt, generation := next })

end Methods

/-! ## `validate_persisted_record` -/

section Validation

variable (validateRoute : Route → Except String Unit)
  (validateMounts : List Mount → Except String Unit)

/-- `validate_persisted_record`, with the route policy's and the mount list's own checks. -/
def validatePersisted (record : SandboxRecord Plan Resources Route Mount) :
    Except LifecycleError Unit := do
  ensure (!(isBlank record.ownerId || isBlank record.templateId || isBlank record.envdVersion))
    (.invalidPersistedState "owner ID, template ID, and envd version must be non-empty")
  ensure (!decide (record.expiresAt < record.createdAt)) .invalidExpiry
  (validateRoute record.routing).mapError fun error =>
    .invalidPersistedState s!"invalid route policy: {error}"
  (validateMounts record.volumeMounts).mapError fun error =>
    .invalidPersistedState s!"invalid volume mounts: {error}"
  ensure (record.executionId.isSome == record.executionGeneration.isSome)
    (.invalidPersistedState "execution ID and generation must be present together")
  ensure (!(record.state.requiresExecution && record.executionId.isNone))
    (.invalidPersistedState s!"state {record.state} requires a runtime execution")
  ensure (!(record.executionId.isSome && record.startedAt.isNone))
    (.invalidPersistedState "a runtime execution requires a start timestamp")
  ensure (!(!record.pausedWithMemory && !record.state.allowsColdPause))
    (.invalidPersistedState s!"state {record.state} cannot retain a filesystem-only pause")
  ensure (!record.startedAt.any fun startedAt => decide (startedAt < record.createdAt))
    (.invalidPersistedState "sandbox start timestamp precedes creation")
  ensure (!(record.state == .failed && record.failure.isNone))
    (.invalidPersistedState "failed sandbox is missing its failure category")
  ensure (!(record.failure.isSome && !record.state.retainsFailure))
    (.invalidPersistedState "non-failed sandbox retains a failure category")

/-- The checks of `validate_persisted_record`, one field each. -/
structure WellFormed (record : SandboxRecord Plan Resources Route Mount) : Prop where
  ownerNonblank : isBlank record.ownerId = false
  templateNonblank : isBlank record.templateId = false
  envdNonblank : isBlank record.envdVersion = false
  expiryAfterCreation : record.createdAt ≤ record.expiresAt
  routeValid : validateRoute record.routing = .ok ()
  mountsValid : validateMounts record.volumeMounts = .ok ()
  executionPaired : record.executionId.isSome = record.executionGeneration.isSome
  executionPresent : record.state.requiresExecution = true → record.executionId.isSome = true
  startedWithExecution : record.executionId.isSome = true → record.startedAt.isSome = true
  coldPauseState : record.pausedWithMemory = false → record.state.allowsColdPause = true
  startedAfterCreation : ∀ startedAt, record.startedAt = some startedAt → record.createdAt ≤ startedAt
  failedHasCategory : record.state = .failed → record.failure.isSome = true
  failureState : record.failure.isSome = true → record.state.retainsFailure = true

variable {validateRoute : Route → Except String Unit}
  {validateMounts : List Mount → Except String Unit}

theorem validatePersisted_eq_ok {record : SandboxRecord Plan Resources Route Mount} {u : Unit} :
    validatePersisted validateRoute validateMounts record = .ok u ↔
      WellFormed validateRoute validateMounts record := by
  simp only [validatePersisted, bind_unit_eq_ok, ensure_eq_ok, mapError_eq_ok]
  simp [or_iff_not_imp_left, Option.any_eq_false, and_assoc, Option.ne_none_iff_isSome]
  constructor
  · rintro ⟨ho, ht, he, hexp, hroute, hmounts, hpair, hexec, hstart, hcold, hafter, hfailed, hfailure⟩
    exact ⟨ho, ht, he, hexp, hroute, hmounts, hpair, hexec, hstart, hcold, hafter, hfailed, hfailure⟩
  · rintro ⟨ho, ht, he, hexp, hroute, hmounts, hpair, hexec, hstart, hcold, hafter, hfailed, hfailure⟩
    exact ⟨ho, ht, he, hexp, hroute, hmounts, hpair, hexec, hstart, hcold, hafter, hfailed, hfailure⟩

end Validation

/-! ## One lemma per method -/

section Spec

variable {record record' : SandboxRecord Plan Resources Route Mount} {next : SandboxGeneration}
  {allowed : List LifecycleState} {target : LifecycleState}

theorem requireState_eq_ok {u : Unit} :
    record.requireState allowed = .ok u ↔ record.state ∈ allowed := by
  simp [requireState]

theorem requireState_eq_error {e : LifecycleError} :
    record.requireState allowed = .error e ↔
      record.state ∉ allowed ∧ e = .invalidTransition record.state allowed := by
  simp [requireState, ensure_eq_error]

theorem transition_eq_ok :
    record.transition allowed target = .ok (next, record') ↔
      record.state ∈ allowed ∧ next.get = record.generation.get + 1 ∧
      { record with state := target, generation := next } = record' := by
  simp [transition, bind_eq_ok, map_eq_ok, requireState_eq_ok, SandboxGeneration.next_eq_ok]

theorem beginPause_eq_ok {keepMemory : Bool} :
    record.beginPause keepMemory = .ok (next, record') ↔
      record.state = .running ∧ next.get = record.generation.get + 1 ∧
      { record with state := .pausing, pausedWithMemory := keepMemory, generation := next } = record' := by
  simp [beginPause, map_eq_ok, Prod.exists, transition_eq_ok, and_assoc]

theorem abortPause_eq_ok :
    record.abortPause = .ok (next, record') ↔
      record.state = .pausing ∧ next.get = record.generation.get + 1 ∧
      { record with state := .running, pausedWithMemory := true, generation := next } = record' := by
  simp [abortPause, map_eq_ok, Prod.exists, transition_eq_ok, and_assoc]

theorem beginResume_eq_ok :
    record.beginResume = .ok (next, record') ↔
      record.executionId.isSome ∧ record.executionGeneration.isSome ∧ record.state = .paused ∧
      next.get = record.generation.get + 1 ∧
      { record with state := .resuming, generation := next } = record' := by
  simp [beginResume, bind_eq_ok, transition_eq_ok, and_assoc]

theorem abortResume_eq_ok :
    record.abortResume = .ok (next, record') ↔
      record.state = .resuming ∧ next.get = record.generation.get + 1 ∧
      { record with state := .paused, generation := next } = record' := by
  simp [abortResume, transition_eq_ok]

theorem beginKill_eq_ok :
    record.beginKill = .ok (next, record') ↔
      record.state ∈ [.creating, .running, .pausing, .paused, .resuming, .failed] ∧
      next.get = record.generation.get + 1 ∧
      { record with state := .killing, pausedWithMemory := true, generation := next } = record' := by
  simp [beginKill, map_eq_ok, Prod.exists, transition_eq_ok, and_assoc]

theorem markKilled_eq_ok :
    record.markKilled = .ok (next, record') ↔
      record.state = .killing ∧ next.get = record.generation.get + 1 ∧
      { record with state := .killed, pausedWithMemory := true, generation := next } = record' := by
  simp [markKilled, map_eq_ok, Prod.exists, transition_eq_ok, and_assoc]

theorem markFailed_eq_ok {failure : LifecycleFailure} :
    record.markFailed failure = .ok (next, record') ↔
      record.state ∈ [.creating, .running, .pausing, .paused, .resuming] ∧
      next.get = record.generation.get + 1 ∧
      { record with
        state := .failed
        pausedWithMemory := true
        failure := some failure
        generation := next } = record' := by
  simp [markFailed, bind_eq_ok, map_eq_ok, requireState_eq_ok, SandboxGeneration.next_eq_ok]

theorem replaceExpiry_eq_ok {expiresAt : Timestamp} :
    record.replaceExpiry expiresAt = .ok (next, record') ↔
      record.state ∈ [.running, .paused] ∧ next.get = record.generation.get + 1 ∧
      { record with expiresAt := expiresAt, generation := next } = record' := by
  simp [replaceExpiry, bind_eq_ok, map_eq_ok, requireState_eq_ok, SandboxGeneration.next_eq_ok]

variable [DecidableEq Plan] {lease : ExecutionLease Plan Resources}

theorem validateExecutionLease_eq_ok {u : Unit} :
    record.validateExecutionLease lease = .ok u ↔
      lease.plan = record.plan ∧
      (∀ executionId, record.executionId = some executionId → executionId = lease.executionId) ∧
      (∀ generation, record.executionGeneration = some generation →
        generation.get < lease.generation.get) := by
  cases hid : record.executionId <;> cases hgen : record.executionGeneration <;>
    simp [validateExecutionLease, hid, hgen]


theorem markRunning_eq_ok :
    record.markRunning lease = .ok (next, record') ↔
      record.state ∈ [.creating, .resuming] ∧ record.validateExecutionLease lease = .ok () ∧
      next.get = record.generation.get + 1 ∧
      { record with
        executionId := some lease.executionId
        executionGeneration := some lease.generation
        resources := lease.resources
        startedAt := some (record.startedAt.getD lease.startedAt)
        state := .running
        pausedWithMemory := true
        failure := none
        generation := next } = record' := by
  simp [markRunning, bind_eq_ok, map_eq_ok, requireState_eq_ok, SandboxGeneration.next_eq_ok,
    Unique.exists_iff]

theorem markReady_eq_ok {readyAt expiresAt : Timestamp} :
    record.markReady lease readyAt expiresAt = .ok (next, record') ↔
      record.state = .creating ∧ record.validateExecutionLease lease = .ok () ∧
      record.createdAt ≤ readyAt ∧ readyAt ≤ expiresAt ∧
      next.get = record.generation.get + 1 ∧
      { record with
        executionId := some lease.executionId
        executionGeneration := some lease.generation
        resources := lease.resources
        startedAt := some readyAt
        expiresAt := expiresAt
        state := .running
        pausedWithMemory := true
        failure := none
        generation := next } = record' := by
  simp [markReady, bind_eq_ok, map_eq_ok, requireState_eq_ok, SandboxGeneration.next_eq_ok,
    Unique.exists_iff, and_assoc]

theorem markPaused_eq_ok :
    record.markPaused lease = .ok (next, record') ↔
      record.state = .pausing ∧ record.validateExecutionLease lease = .ok () ∧
      next.get = record.generation.get + 1 ∧
      { record with
        executionId := some lease.executionId
        executionGeneration := some lease.generation
        resources := lease.resources
        startedAt := some (record.startedAt.getD lease.startedAt)
        state := .paused
        generation := next } = record' := by
  simp [markPaused, bind_eq_ok, map_eq_ok, requireState_eq_ok, SandboxGeneration.next_eq_ok,
    Unique.exists_iff]

end Spec

end SandboxRecord

end A3sBox.Compat
