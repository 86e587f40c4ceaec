import A3sBox.Compat.SandboxRecord

/-
  The lifecycle of a sandbox record: what every successful method call does to it.

  `LifecycleState.Step` is the lifecycle graph: the edges Creating → {Running, Killing,
  Failed}, Running → {Pausing, Killing, Failed}, Pausing → {Paused, Running, Killing,
  Failed}, Paused → {Resuming, Killing, Failed}, Resuming → {Running, Paused, Killing,
  Failed}, Failed → Killing, Killing → Killed, and the self-loops of `replace_expiry` on
  Running and Paused. Killed has no way out (`reflTransGen_killed`).

  `SandboxCall` is one call of the eleven methods. Every successful call raises the
  generation by exactly one, moves along the graph and leaves the fields no method
  writes alone (`CallEffect`, `SandboxCall.apply_effect`). It also keeps
  `validate_persisted_record`, but only if the timestamps it writes do not precede
  creation: `mark_running` takes the lease's start time when none is recorded, and
  `replace_expiry` takes any expiry, and neither compares it with `created_at`
  (`SandboxCall.NotBeforeCreation`). Over a run, a record whose generation did not move
  did not change (`run_generation_eq`), which is what a compare-and-swap on the
  generation relies on.
-/

namespace A3sBox.Compat

open A3sBox.Lib

/-! ## The lifecycle graph -/

/-- The edges between distinct states that some method takes. -/
def LifecycleState.canMoveTo : LifecycleState → LifecycleState → Bool
  | .creating, .running | .creating, .killing | .creating, .failed => true
  | .running, .pausing | .running, .killing | .running, .failed => true
  | .pausing, .paused | .pausing, .running | .pausing, .killing | .pausing, .failed => true
  | .paused, .resuming | .paused, .killing | .paused, .failed => true
  | .resuming, .running | .resuming, .paused | .resuming, .killing | .resuming, .failed => true
  | .failed, .killing => true
  | .killing, .killed => true
  | _, _ => false

/-- One move of the lifecycle: an edge, or `replace_expiry` staying Running or Paused. -/
def LifecycleState.Step (source target : LifecycleState) : Prop :=
  source.canMoveTo target = true ∨ (target = source ∧ (source = .running ∨ source = .paused))

namespace LifecycleState

theorem step_of_mem {source : LifecycleState} {allowed : List LifecycleState}
    (target : LifecycleState) (h : source ∈ allowed) (hall : ∀ s ∈ allowed, s.canMoveTo target = true) :
    source.Step target :=
  .inl (hall source h)

theorem not_step_killed (target : LifecycleState) : ¬ LifecycleState.killed.Step target := by
  rintro (h | ⟨_, h | h⟩)
  · cases target <;> cases h
  · cases h
  · cases h

/-- Killed is absorbing: every sequence of moves from it stays there. -/
theorem reflTransGen_killed {target : LifecycleState}
    (h : Relation.ReflTransGen LifecycleState.Step .killed target) : target = .killed := by
  induction h with
  | refl => rfl
  | tail _ hstep ih =>
    subst ih
    exact absurd hstep (not_step_killed _)

/-- A move that keeps the execution and failure checks of `validate_persisted_record` on
    a record whose execution and failure category stay as they are. -/
def keepsChecks (source target : LifecycleState) : Bool :=
  (!target.requiresExecution || source.requiresExecution) && target != .failed &&
    (!source.retainsFailure || target.retainsFailure)

theorem keepsChecks_killing (source : LifecycleState) : source.keepsChecks .killing = true := by
  cases source <;> rfl

end LifecycleState

namespace SandboxRecord

variable {Plan Resources Route Mount : Type}

/-- The fields that no lifecycle method writes. -/
structure Fixed (Plan Route Mount : Type) where
  sandboxId : SandboxId
  operationId : OperationId
  ownerId : String
  templateId : String
  plan : Plan
  lifecycle : LifecyclePolicy
  createdAt : Timestamp
  envdVersion : String
  routing : Route
  volumeMounts : List Mount

def fixed (record : SandboxRecord Plan Resources Route Mount) : Fixed Plan Route Mount :=
  ⟨record.sandboxId, record.operationId, record.ownerId, record.templateId, record.plan,
    record.lifecycle, record.createdAt, record.envdVersion, record.routing, record.volumeMounts⟩

/-! ## Updates that keep `validate_persisted_record` -/

section Preservation

variable {validateRoute : Route → Except String Unit}
  {validateMounts : List Mount → Except String Unit}
  {record : SandboxRecord Plan Resources Route Mount}

theorem WellFormed.failure_eq_none (hwf : WellFormed validateRoute validateMounts record)
    (h : record.state.retainsFailure = false) : record.failure = none := by
  cases hf : record.failure with
  | none => rfl
  | some failure =>
    have := hwf.failureState (by simp [hf])
    rw [h] at this
    cases this

theorem WellFormed.startedAt_of_requiresExecution
    (hwf : WellFormed validateRoute validateMounts record)
    (h : record.state.requiresExecution = true) :
    ∃ startedAt, record.startedAt = some startedAt ∧ record.createdAt ≤ startedAt := by
  obtain ⟨startedAt, hs⟩ := Option.isSome_iff_exists.mp
    (hwf.startedWithExecution (hwf.executionPresent h))
  exact ⟨startedAt, hs, hwf.startedAfterCreation startedAt hs⟩

/-- A move that `keepsChecks`, with a cold-pause flag that the target allows. -/
theorem WellFormed.moveTo (hwf : WellFormed validateRoute validateMounts record)
    {target : LifecycleState} {pausedWithMemory : Bool} {generation : SandboxGeneration}
    (hmove : record.state.keepsChecks target = true)
    (hcold : pausedWithMemory = false → target.allowsColdPause = true) :
    WellFormed validateRoute validateMounts
      { record with state := target, pausedWithMemory := pausedWithMemory, generation := generation } := by
  simp only [LifecycleState.keepsChecks, Bool.and_eq_true, Bool.or_eq_true, Bool.not_eq_true',
    bne_iff_ne, ne_eq] at hmove
  obtain ⟨⟨hexec, hfailed⟩, hfailure⟩ := hmove
  refine { hwf with
    executionPresent := fun h => hwf.executionPresent ?_
    coldPauseState := hcold
    failedHasCategory := fun h => absurd h hfailed
    failureState := fun h => ?_ }
  · rcases hexec with h' | h'
    · simp [h'] at h
    · exact h'
  · rcases hfailure with h' | h'
    · exact absurd (hwf.failureState h) (by simp [h'])
    · exact h'

/-- The record a lease-taking method writes: the lease's execution, a start time and an
    expiry that do not precede creation, and a target state. -/
theorem WellFormed.attachExecution (hwf : WellFormed validateRoute validateMounts record)
    {executionId : ExecutionId} {executionGeneration : ExecutionGeneration}
    {resources : Resources} {startedAt expiresAt : Timestamp} {state : LifecycleState}
    {pausedWithMemory : Bool} {failure : Option LifecycleFailure} {generation : SandboxGeneration}
    (hstart : record.createdAt ≤ startedAt) (hexpiry : record.createdAt ≤ expiresAt)
    (hcold : pausedWithMemory = false → state.allowsColdPause = true)
    (hfailed : state = .failed → failure.isSome = true)
    (hfailure : failure.isSome = true → state.retainsFailure = true) :
    WellFormed validateRoute validateMounts
      { record with
        executionId := some executionId
        executionGeneration := some executionGeneration
        resources := resources
        startedAt := some startedAt
        expiresAt := expiresAt
        state := state
        pausedWithMemory := pausedWithMemory
        failure := failure
        generation := generation } :=
  { hwf with
    expiryAfterCreation := hexpiry
    executionPaired := rfl
    executionPresent := fun _ => rfl
    startedWithExecution := fun _ => rfl
    coldPauseState := hcold
    startedAfterCreation := fun t ht => by
      cases ht
      exact hstart
    failedHasCategory := hfailed
    failureState := hfailure }

end Preservation

end SandboxRecord

/-! ## One call of a lifecycle method -/

/-- A call of one of the lifecycle methods of `SandboxRecord`, with its arguments. -/
inductive SandboxCall (Plan Resources : Type) where
  | markRunning (lease : ExecutionLease Plan Resources)
  | markReady (lease : ExecutionLease Plan Resources) (readyAt expiresAt : Timestamp)
  | beginPause (keepMemory : Bool)
  | markPaused (lease : ExecutionLease Plan Resources)
  | abortPause
  | beginResume
  | abortResume
  | beginKill
  | markKilled
  | markFailed (failure : LifecycleFailure)
  | replaceExpiry (expiresAt : Timestamp)

namespace SandboxCall

variable {Plan Resources Route Mount : Type}

section Apply

variable [DecidableEq Plan]

def apply : SandboxCall Plan Resources → SandboxRecord Plan Resources Route Mount →
    Except LifecycleError (SandboxGeneration × SandboxRecord Plan Resources Route Mount)
  | .markRunning lease, record => record.markRunning lease
  | .markReady lease readyAt expiresAt, record => record.markReady lease readyAt expiresAt
  | .beginPause keepMemory, record => record.beginPause keepMemory
  | .markPaused lease, record => record.markPaused lease
  | .abortPause, record => record.abortPause
  | .beginResume, record => record.beginResume
  | .abortResume, record => record.abortResume
  | .beginKill, record => record.beginKill
  | .markKilled, record => record.markKilled
  | .markFailed failure, record => record.markFailed failure
  | .replaceExpiry expiresAt, record => record.replaceExpiry expiresAt

/-- The call on a record in place (`&mut self`): the result, and the record afterwards.
    Every `?` of every method stands before its first write, so a failed call has
    written nothing. -/
def run (call : SandboxCall Plan Resources) (record : SandboxRecord Plan Resources Route Mount) :
    Except LifecycleError SandboxGeneration × SandboxRecord Plan Resources Route Mount :=
  atomically call.apply record

end Apply

/-- The timestamps a call writes do not precede the record's creation: the lease's start
    time when `mark_running` records it, and the new expiry of `replace_expiry`. -/
def NotBeforeCreation (record : SandboxRecord Plan Resources Route Mount) :
    SandboxCall Plan Resources → Prop
  | .markRunning lease => record.startedAt = none → record.createdAt ≤ lease.startedAt
  | .replaceExpiry expiresAt => record.createdAt ≤ expiresAt
  | _ => True

/-- Every timestamp a call carries for `mark_running` or `replace_expiry` is at or after
    `time`. -/
def NotBefore (time : Timestamp) : SandboxCall Plan Resources → Prop
  | .markRunning lease => time ≤ lease.startedAt
  | .replaceExpiry expiresAt => time ≤ expiresAt
  | _ => True

theorem NotBefore.notBeforeCreation {record : SandboxRecord Plan Resources Route Mount}
    {call : SandboxCall Plan Resources} (h : call.NotBefore record.createdAt) :
    call.NotBeforeCreation record := by
  cases call with
  | markRunning lease => exact fun _ => h
  | replaceExpiry expiresAt => exact h
  | _ => trivial

end SandboxCall

/-- Once a record holds an execution, a later record holds the same execution identity
    with a generation at least as large: a stale runtime lease is never recorded. -/
def ExecutionFence {Plan Resources Route Mount : Type}
    (record record' : SandboxRecord Plan Resources Route Mount) : Prop :=
  ∀ executionId generation, record.executionId = some executionId →
    record.executionGeneration = some generation →
      record'.executionId = some executionId ∧
        ∃ generation', record'.executionGeneration = some generation' ∧
          generation.get ≤ generation'.get

namespace ExecutionFence

variable {Plan Resources Route Mount : Type} {a b c : SandboxRecord Plan Resources Route Mount}

theorem of_unchanged (hid : b.executionId = a.executionId)
    (hgen : b.executionGeneration = a.executionGeneration) : ExecutionFence a b :=
  fun _ generation hida hgena => ⟨hid.trans hida, generation, hgen.trans hgena, le_refl _⟩

theorem trans (hab : ExecutionFence a b) (hbc : ExecutionFence b c) : ExecutionFence a c := by
  intro executionId generation hida hgena
  obtain ⟨hidb, generation', hgenb, hle⟩ := hab executionId generation hida hgena
  obtain ⟨hidc, generation'', hgenc, hle'⟩ := hbc executionId generation' hidb hgenb
  exact ⟨hidc, generation'', hgenc, le_trans hle hle'⟩

/-- A lease accepted by `validate_execution_lease` and then recorded. -/
theorem of_lease [DecidableEq Plan] {lease : ExecutionLease Plan Resources}
    (hlease : a.validateExecutionLease lease = .ok ())
    (hid : b.executionId = some lease.executionId)
    (hgen : b.executionGeneration = some lease.generation) : ExecutionFence a b := by
  obtain ⟨-, hsame, hnewer⟩ := SandboxRecord.validateExecutionLease_eq_ok.mp hlease
  intro executionId generation hida hgena
  rw [hsame executionId hida] at *
  exact ⟨hid, lease.generation, hgen, le_of_lt (hnewer generation hgena)⟩

end ExecutionFence

/-- What one successful call does: the generation it returns is the next one and is
    stored, the state takes a lifecycle move, no fixed field changes, and the recorded
    execution is fenced. -/
structure CallEffect {Plan Resources Route Mount : Type}
    (record record' : SandboxRecord Plan Resources Route Mount) (next : SandboxGeneration) :
    Prop where
  next_get : next.get = record.generation.get + 1
  generation_eq : record'.generation = next
  step : record.state.Step record'.state
  fixed_eq : record'.fixed = record.fixed
  execution : ExecutionFence record record'

namespace SandboxCall

variable {Plan Resources Route Mount : Type} [DecidableEq Plan]
  {record record' : SandboxRecord Plan Resources Route Mount} {next : SandboxGeneration}

open SandboxRecord in
theorem apply_effect {call : SandboxCall Plan Resources}
    (h : call.apply record = .ok (next, record')) : CallEffect record record' next := by
  cases call with
  | markRunning lease =>
    obtain ⟨hst, hlease, hnext, rfl⟩ := markRunning_eq_ok.mp h
    exact ⟨hnext, rfl, LifecycleState.step_of_mem .running hst (by decide), rfl,
      .of_lease hlease rfl rfl⟩
  | markReady lease readyAt expiresAt =>
    obtain ⟨hst, hlease, -, -, hnext, rfl⟩ := markReady_eq_ok.mp h
    exact ⟨hnext, rfl, .inl (by rw [hst]; rfl), rfl, .of_lease hlease rfl rfl⟩
  | beginPause keepMemory =>
    obtain ⟨hst, hnext, rfl⟩ := beginPause_eq_ok.mp h
    exact ⟨hnext, rfl, .inl (by rw [hst]; rfl), rfl, .of_unchanged rfl rfl⟩
  | markPaused lease =>
    obtain ⟨hst, hlease, hnext, rfl⟩ := markPaused_eq_ok.mp h
    exact ⟨hnext, rfl, .inl (by rw [hst]; rfl), rfl, .of_lease hlease rfl rfl⟩
  | abortPause =>
    obtain ⟨hst, hnext, rfl⟩ := abortPause_eq_ok.mp h
    exact ⟨hnext, rfl, .inl (by rw [hst]; rfl), rfl, .of_unchanged rfl rfl⟩
  | beginResume =>
    obtain ⟨-, -, hst, hnext, rfl⟩ := beginResume_eq_ok.mp h
    exact ⟨hnext, rfl, .inl (by rw [hst]; rfl), rfl, .of_unchanged rfl rfl⟩
  | abortResume =>
    obtain ⟨hst, hnext, rfl⟩ := abortResume_eq_ok.mp h
    exact ⟨hnext, rfl, .inl (by rw [hst]; rfl), rfl, .of_unchanged rfl rfl⟩
  | beginKill =>
    obtain ⟨hst, hnext, rfl⟩ := beginKill_eq_ok.mp h
    exact ⟨hnext, rfl, LifecycleState.step_of_mem .killing hst (by decide), rfl,
      .of_unchanged rfl rfl⟩
  | markKilled =>
    obtain ⟨hst, hnext, rfl⟩ := markKilled_eq_ok.mp h
    exact ⟨hnext, rfl, .inl (by rw [hst]; rfl), rfl, .of_unchanged rfl rfl⟩
  | markFailed failure =>
    obtain ⟨hst, hnext, rfl⟩ := markFailed_eq_ok.mp h
    exact ⟨hnext, rfl, LifecycleState.step_of_mem .failed hst (by decide), rfl,
      .of_unchanged rfl rfl⟩
  | replaceExpiry expiresAt =>
    obtain ⟨hst, hnext, rfl⟩ := replaceExpiry_eq_ok.mp h
    -- `replace_expiry` keeps the state: the self-loop of Running or Paused
    exact ⟨hnext, rfl, .inr ⟨rfl, by simpa using hst⟩, rfl, .of_unchanged rfl rfl⟩

section Preserve

variable {validateRoute : Route → Except String Unit}
  {validateMounts : List Mount → Except String Unit}

open SandboxRecord in
/-- A successful call keeps `validate_persisted_record` when the timestamps it writes do
    not precede creation. -/
theorem apply_wellFormed {call : SandboxCall Plan Resources}
    (hwf : WellFormed validateRoute validateMounts record)
    (h : call.apply record = .ok (next, record')) (htime : call.NotBeforeCreation record) :
    WellFormed validateRoute validateMounts record' := by
  cases call with
  | markRunning lease =>
    obtain ⟨-, -, -, rfl⟩ := markRunning_eq_ok.mp h
    -- `get_or_insert` keeps a recorded start; only a fresh one comes from the lease
    have hstart : record.createdAt ≤ record.startedAt.getD lease.startedAt := by
      cases hs : record.startedAt with
      | none => exact htime hs
      | some startedAt => exact hwf.startedAfterCreation startedAt hs
    exact hwf.attachExecution hstart hwf.expiryAfterCreation (by decide) (by decide) (by decide)
  | markReady lease readyAt expiresAt =>
    obtain ⟨-, -, hready, hexpiry, -, rfl⟩ := markReady_eq_ok.mp h
    exact hwf.attachExecution hready (le_trans hready hexpiry) (by decide) (by decide) (by decide)
  | beginPause keepMemory =>
    obtain ⟨hst, -, rfl⟩ := beginPause_eq_ok.mp h
    exact hwf.moveTo (by rw [hst]; rfl) fun _ => rfl
  | markPaused lease =>
    obtain ⟨hst, -, -, rfl⟩ := markPaused_eq_ok.mp h
    -- a pausing record holds an execution, hence its start time
    obtain ⟨startedAt, hs, hstart⟩ := hwf.startedAt_of_requiresExecution (by rw [hst]; rfl)
    have hfailure := hwf.failure_eq_none (by rw [hst]; rfl)
    rw [hs]
    exact hwf.attachExecution hstart hwf.expiryAfterCreation (fun _ => rfl)
      (fun h => absurd h (by decide)) (by simp [hfailure])
  | abortPause =>
    obtain ⟨hst, -, rfl⟩ := abortPause_eq_ok.mp h
    exact hwf.moveTo (by rw [hst]; rfl) (by decide)
  | beginResume =>
    obtain ⟨-, -, hst, -, rfl⟩ := beginResume_eq_ok.mp h
    exact hwf.moveTo (by rw [hst]; rfl) fun _ => rfl
  | abortResume =>
    obtain ⟨hst, -, rfl⟩ := abortResume_eq_ok.mp h
    exact hwf.moveTo (by rw [hst]; rfl) fun _ => rfl
  | beginKill =>
    obtain ⟨-, -, rfl⟩ := beginKill_eq_ok.mp h
    exact hwf.moveTo (LifecycleState.keepsChecks_killing _) (by decide)
  | markKilled =>
    obtain ⟨hst, -, rfl⟩ := markKilled_eq_ok.mp h
    exact hwf.moveTo (by rw [hst]; rfl) (by decide)
  | markFailed failure =>
    obtain ⟨-, -, rfl⟩ := markFailed_eq_ok.mp h
    exact { hwf with
      executionPresent := fun h => by cases h
      coldPauseState := fun h => by cases h
      failedHasCategory := fun _ => rfl
      failureState := fun _ => rfl }
  | replaceExpiry expiresAt =>
    obtain ⟨-, -, rfl⟩ := replaceExpiry_eq_ok.mp h
    exact { hwf with expiryAfterCreation := htime }

end Preserve

theorem run_of_error {call : SandboxCall Plan Resources} {e : LifecycleError}
    (h : (call.run record).1 = .error e) : (call.run record).2 = record :=
  atomically_error_state h

theorem apply_of_run {call : SandboxCall Plan Resources}
    (h : (call.run record).1 = .ok next) : call.apply record = .ok (next, (call.run record).2) :=
  atomically_ok h

end SandboxCall

/-- What one call of a lifecycle method promises on a record that passes
    `validate_persisted_record`. -/
structure CallContract {Plan Resources Route Mount : Type} [DecidableEq Plan]
    (validateRoute : Route → Except String Unit) (validateMounts : List Mount → Except String Unit)
    (call : SandboxCall Plan Resources) (record : SandboxRecord Plan Resources Route Mount) :
    Prop where
  /-- A failed call leaves the record as it was. -/
  unchanged_of_error : ∀ e, (call.run record).1 = .error e → (call.run record).2 = record
  /-- A successful call returns and stores the next generation, takes a lifecycle move
      and keeps every field that no method writes. -/
  effect_of_ok : ∀ next, (call.run record).1 = .ok next → CallEffect record (call.run record).2 next
  /-- A successful call whose written timestamps do not precede creation keeps the
      record valid. -/
  valid_of_ok : ∀ next, (call.run record).1 = .ok next → call.NotBeforeCreation record →
    SandboxRecord.validatePersisted validateRoute validateMounts (call.run record).2 = .ok ()

/-! ## A sandbox on fixed inputs -/

/-- The checks of a route policy and a mount list that accept everything. -/
def acceptAll {α : Type} (_ : α) : Except String Unit := .ok ()

def sampleLease (startedAt : Timestamp) : ExecutionLease Unit Unit :=
  ⟨⟨"exec-1", by decide⟩, .initial, (), (), startedAt⟩

/-- A sandbox being created at time 10, expiring at 100. -/
def creatingRecord : SandboxRecord Unit Unit Unit Unit where
  sandboxId := ⟨"sbx-1", by decide⟩
  operationId := ⟨"op-1", by decide⟩
  ownerId := "owner"
  executionId := none
  executionGeneration := none
  generation := .initial
  templateId := "base"
  plan := ()
  resources := ()
  lifecycle := ⟨.kill, false, true⟩
  state := .creating
  pausedWithMemory := true
  createdAt := 10
  startedAt := none
  expiresAt := 100
  envdVersion := "0.1.0"
  routing := ()
  volumeMounts := []
  failure := none

/-- The same sandbox running since time 20. -/
def runningRecord : SandboxRecord Unit Unit Unit Unit :=
  { creatingRecord with
    executionId := some ⟨"exec-1", by decide⟩
    executionGeneration := some .initial
    startedAt := some 20
    state := .running
    generation := ⟨2, by decide, by decide⟩ }

section Contract

variable {Plan Resources Route Mount : Type} [DecidableEq Plan]

theorem sandbox_call_contract (validateRoute : Route → Except String Unit)
    (validateMounts : List Mount → Except String Unit)
    (call : SandboxCall Plan Resources) (record : SandboxRecord Plan Resources Route Mount)
    (hvalid : SandboxRecord.validatePersisted validateRoute validateMounts record = .ok ()) :
    CallContract validateRoute validateMounts call record where
  unchanged_of_error _ h := SandboxCall.run_of_error h
  effect_of_ok _ h := SandboxCall.apply_effect (SandboxCall.apply_of_run h)
  valid_of_ok _ h htime :=
    SandboxRecord.validatePersisted_eq_ok.mpr
      (SandboxCall.apply_wellFormed (SandboxRecord.validatePersisted_eq_ok.mp hvalid)
        (SandboxCall.apply_of_run h) htime)

end Contract

theorem kill_creating_contract :
    SandboxRecord.validatePersisted acceptAll acceptAll creatingRecord = .ok () ∧
      CallContract acceptAll acceptAll (SandboxCall.beginKill : SandboxCall Unit Unit)
        creatingRecord :=
  ⟨by decide, sandbox_call_contract acceptAll acceptAll .beginKill creatingRecord (by decide)⟩

/-- `mark_running` records a lease that started before the sandbox was created, and
    `replace_expiry` an expiry before creation: both succeed on a valid record and leave
    one that `validate_persisted_record` rejects. -/
theorem early_timestamps_break_persisted_record :
    SandboxRecord.validatePersisted acceptAll acceptAll creatingRecord = .ok () ∧
    (∃ next record', creatingRecord.markRunning (sampleLease 5) = .ok (next, record') ∧
      SandboxRecord.validatePersisted acceptAll acceptAll record' =
        .error (.invalidPersistedState "sandbox start timestamp precedes creation")) ∧
    SandboxRecord.validatePersisted acceptAll acceptAll runningRecord = .ok () ∧
    (∃ next record', runningRecord.replaceExpiry 5 = .ok (next, record') ∧
      SandboxRecord.validatePersisted acceptAll acceptAll record' = .error .invalidExpiry) :=
  ⟨by decide, ⟨_, _, rfl, by decide⟩, by decide, ⟨_, _, rfl, by decide⟩⟩

/-! ## Runs of calls -/

/-- What a sequence of calls did to a record: the fixed fields are kept, the state took
    lifecycle moves, the recorded execution stayed fenced, the generation never went
    down, and a record whose generation is back where it started has not changed. -/
structure RunEffect {Plan Resources Route Mount : Type}
    (record final : SandboxRecord Plan Resources Route Mount) : Prop where
  fixed_eq : final.fixed = record.fixed
  steps : Relation.ReflTransGen LifecycleState.Step record.state final.state
  execution : ExecutionFence record final
  generation_le : record.generation.get ≤ final.generation.get
  eq_of_generation_eq : final.generation = record.generation → final = record

namespace RunEffect

variable {Plan Resources Route Mount : Type} {a b c : SandboxRecord Plan Resources Route Mount}

theorem refl (record : SandboxRecord Plan Resources Route Mount) : RunEffect record record :=
  ⟨rfl, .refl, .of_unchanged rfl rfl, le_refl _, fun _ => rfl⟩

theorem trans (hab : RunEffect a b) (hbc : RunEffect b c) : RunEffect a c where
  fixed_eq := hbc.fixed_eq.trans hab.fixed_eq
  steps := hab.steps.trans hbc.steps
  execution := hab.execution.trans hbc.execution
  generation_le := le_trans hab.generation_le hbc.generation_le
  eq_of_generation_eq hca := by
    -- the generation never goes down, so it also stood still up to `b`
    have hba : b.generation = a.generation := by
      ext
      have hget := congrArg SandboxGeneration.get hca
      have hab_le := hab.generation_le
      have hbc_le := hbc.generation_le
      omega
    rw [hbc.eq_of_generation_eq (hca.trans hba.symm), hab.eq_of_generation_eq hba]

end RunEffect

theorem CallEffect.runEffect {Plan Resources Route Mount : Type}
    {record record' : SandboxRecord Plan Resources Route Mount} {next : SandboxGeneration}
    (h : CallEffect record record' next) : RunEffect record record' where
  fixed_eq := h.fixed_eq
  steps := .single h.step
  execution := h.execution
  generation_le := by
    rw [h.generation_eq, h.next_get]
    omega
  eq_of_generation_eq hg := by
    have hget := congrArg SandboxGeneration.get (hg.symm.trans h.generation_eq)
    rw [h.next_get] at hget
    omega

section Runs

variable {Plan Resources Route Mount : Type} [DecidableEq Plan]
  {validateRoute : Route → Except String Unit} {validateMounts : List Mount → Except String Unit}

/-- The record after one call, failed or not. -/
def sandboxStep (record : SandboxRecord Plan Resources Route Mount)
    (call : SandboxCall Plan Resources) : SandboxRecord Plan Resources Route Mount :=
  (call.run record).2

theorem sandboxStep_effect (record : SandboxRecord Plan Resources Route Mount)
    (call : SandboxCall Plan Resources) : RunEffect record (sandboxStep record call) := by
  unfold sandboxStep
  cases hrun : (call.run record).1 with
  | error e =>
    rw [SandboxCall.run_of_error hrun]
    exact .refl record
  | ok next =>
    exact (SandboxCall.apply_effect (SandboxCall.apply_of_run hrun)).runEffect

theorem sandboxStep_wellFormed {record : SandboxRecord Plan Resources Route Mount}
    {call : SandboxCall Plan Resources}
    (hwf : SandboxRecord.WellFormed validateRoute validateMounts record)
    (htime : call.NotBeforeCreation record) :
    SandboxRecord.WellFormed validateRoute validateMounts (sandboxStep record call) := by
  unfold sandboxStep
  cases hrun : (call.run record).1 with
  | error e =>
    rw [SandboxCall.run_of_error hrun]
    exact hwf
  | ok next => exact SandboxCall.apply_wellFormed hwf (SandboxCall.apply_of_run hrun) htime

theorem foldl_sandboxStep_effect (calls : List (SandboxCall Plan Resources))
    (record : SandboxRecord Plan Resources Route Mount) :
    RunEffect record (calls.foldl sandboxStep record) := by
  induction calls generalizing record with
  | nil => exact .refl record
  | cons call calls ih => exact (sandboxStep_effect record call).trans (ih _)

/-- Calls whose timestamps are at or after creation keep the record valid; creation time
    is fixed, so one bound serves the whole run. -/
theorem foldl_sandboxStep_wellFormed (calls : List (SandboxCall Plan Resources))
    {record : SandboxRecord Plan Resources Route Mount}
    (hwf : SandboxRecord.WellFormed validateRoute validateMounts record)
    (htime : ∀ call ∈ calls, call.NotBefore record.createdAt) :
    SandboxRecord.WellFormed validateRoute validateMounts (calls.foldl sandboxStep record) := by
  induction calls generalizing record with
  | nil => exact hwf
  | cons call calls ih =>
    have hcreated : (sandboxStep record call).createdAt = record.createdAt :=
      congrArg SandboxRecord.Fixed.createdAt (sandboxStep_effect record call).fixed_eq
    refine ih (sandboxStep_wellFormed hwf (htime call (by simp)).notBeforeCreation) ?_
    intro call' hmem
    rw [hcreated]
    exact htime call' (List.mem_cons_of_mem _ hmem)

theorem sandbox_run_fenced (validateRoute : Route → Except String Unit)
    (validateMounts : List Mount → Except String Unit)
    (calls : List (SandboxCall Plan Resources)) (record : SandboxRecord Plan Resources Route Mount)
    (hvalid : SandboxRecord.validatePersisted validateRoute validateMounts record = .ok ())
    (htime : ∀ call ∈ calls, call.NotBefore record.createdAt) :
    SandboxRecord.validatePersisted validateRoute validateMounts
        (calls.foldl sandboxStep record) = .ok () ∧
      RunEffect record (calls.foldl sandboxStep record) :=
  ⟨SandboxRecord.validatePersisted_eq_ok.mpr
      (foldl_sandboxStep_wellFormed calls (SandboxRecord.validatePersisted_eq_ok.mp hvalid) htime),
    foldl_sandboxStep_effect calls record⟩

/-- Start, extend, kill and reap the created sandbox. -/
def sampleRun : List (SandboxCall Unit Unit) :=
  [.markRunning (sampleLease 20), .replaceExpiry 200, .beginKill, .markKilled]

theorem sample_run_fenced :
    SandboxRecord.validatePersisted acceptAll acceptAll
        (sampleRun.foldl sandboxStep creatingRecord) = .ok () ∧
      RunEffect creatingRecord (sampleRun.foldl sandboxStep creatingRecord) :=
  sandbox_run_fenced acceptAll acceptAll sampleRun creatingRecord (by decide)
    (by simp [sampleRun, SandboxCall.NotBefore, sampleLease, creatingRecord])

/-- Every call on a killed record fails, so no run changes it. -/
theorem killed_run_unchanged (calls : List (SandboxCall Plan Resources))
    (record : SandboxRecord Plan Resources Route Mount) (hkilled : record.state = .killed) :
    calls.foldl sandboxStep record = record := by
  induction calls with
  | nil => rfl
  | cons call calls ih =>
    have hstep : sandboxStep record call = record := by
      unfold sandboxStep
      cases hrun : (call.run record).1 with
      | error e => exact SandboxCall.run_of_error hrun
      | ok next =>
        have hmove := (SandboxCall.apply_effect (SandboxCall.apply_of_run hrun)).step
        rw [hkilled] at hmove
        exact absurd hmove (LifecycleState.not_step_killed _)
    rw [List.foldl_cons, hstep, ih]

theorem killed_sample_unchanged :
    sampleRun.foldl sandboxStep { creatingRecord with state := .killed } =
      { creatingRecord with state := .killed } :=
  killed_run_unchanged sampleRun _ rfl

end Runs


end A3sBox.Compat
