import Mathlib
import A3sBox.Compat.SupervisorRuns

/-
  The control service's lifecycle operations: `pause`, `kill`, `connect`, `resume`,
  `set_timeout` and `refresh_timeout` of `ControlService`.

  Model. An operation is a computation in `ServiceM`, an `ExceptT` over the store's rows: it
  reads a record through `get`, moves its own copy through the record's lifecycle methods
  (`lifecycle`, the `?` of `record.begin_pause(..)?` and the rest) and writes each step back
  with `replace`, a compare-and-swap at the generation it last held. A failure returns with
  what the earlier writes left in the store, as the source's `?` does. The runtime is the
  supervisor's oracle (`ExecutionManager`), and so are the envd mode of a sandbox and the
  initialisation of a runtime envd. `connect` returns the record and the disposition; the
  access tokens it resolves last, after every write, are left out.

  A fixed-field swap never changes the fixed fields of the record found under an id
  (`Swaps.findKey_fixed`). So a record read from a store keeps agreeing with every store a run
  of swaps reaches from it (`Swaps.agrees_iff`), and a compare-and-swap of a record that agrees
  with the store is a fixed-field swap (`swaps_of_agrees`). A lifecycle method keeps the fixed
  fields, so what it returns agrees wherever the record it was given did.

  Proved: each operation meets a triple whose pre- and postcondition say that the store is a
  run of fixed-field swaps away from the one it started in (`pause_spec`, …, `kill_spec`), so
  every sequence of calls, from every store and whatever each returns, moves the store by such a
  run (`callAll_swaps`). The control service is thus a writer of the environment of the startup
  reconciliation, and `reconcile_startup` among any schedule of its calls visits every live
  record once (`startup_among_service_calls`). What each write is, a lifecycle successor of the
  record it replaces, is proved in `ServiceOutcomes`.
-/

namespace A3sBox.Compat

open A3sBox.Lib Std.Do

set_option mvcgen.warning false

/-! ## Runs of fixed-field swaps -/

section Swaps

variable {Plan Resources Route Mount : Type} {cas : CompareAndSwap Plan Resources Route Mount}

/-- A run of fixed-field swaps. -/
def Swaps (cas : CompareAndSwap Plan Resources Route Mount)
    (rows rows' : List (SandboxRecord Plan Resources Route Mount)) : Prop :=
  Relation.ReflTransGen (FixedFieldSwap cas) rows rows'

@[grind .] theorem Swaps.refl (rows : List (SandboxRecord Plan Resources Route Mount)) :
    Swaps cas rows rows :=
  Relation.ReflTransGen.refl

@[grind →] theorem Swaps.trans {rows rows' rows'' : List (SandboxRecord Plan Resources Route Mount)}
    (h : Swaps cas rows rows') (h' : Swaps cas rows' rows'') : Swaps cas rows rows'' :=
  Relation.ReflTransGen.trans h h'

/-- The record stored under `record`'s id, if any, has `record`'s fixed fields. -/
def Agrees (rows : List (SandboxRecord Plan Resources Route Mount))
    (record : SandboxRecord Plan Resources Route Mount) : Prop :=
  ∀ fixed, (findKey SandboxRecord.sandboxId record.sandboxId rows).map SandboxRecord.fixed = some fixed →
    fixed = record.fixed

theorem agrees_of_findKey {rows : List (SandboxRecord Plan Resources Route Mount)}
    {sandboxId : SandboxId} {record : SandboxRecord Plan Resources Route Mount}
    (h : findKey SandboxRecord.sandboxId sandboxId rows = some record) : Agrees rows record := by
  intro fixed hfixed
  rw [(findKey_eq_some h).2, h, Option.map_some, Option.some.injEq] at hfixed
  exact hfixed.symm

/-- A record with the fixed fields of one that agrees with the store agrees with it. -/
theorem Agrees.of_fixed_eq {rows : List (SandboxRecord Plan Resources Route Mount)}
    {record record' : SandboxRecord Plan Resources Route Mount} (ha : Agrees rows record)
    (h : record'.fixed = record.fixed) : Agrees rows record' := by
  have hid : record'.sandboxId = record.sandboxId := congrArg SandboxRecord.Fixed.sandboxId h
  intro fixed hfixed
  rw [hid] at hfixed
  exact (ha fixed hfixed).trans h.symm

variable (hcas : Overwrites cas)
include hcas

/-- A fixed-field swap keeps the fixed fields of the record found under every id. -/
theorem FixedFieldSwap.findKey_fixed {rows rows' : List (SandboxRecord Plan Resources Route Mount)}
    (h : FixedFieldSwap cas rows rows') (sandboxId : SandboxId) :
    (findKey SandboxRecord.sandboxId sandboxId rows').map SandboxRecord.fixed =
      (findKey SandboxRecord.sandboxId sandboxId rows).map SandboxRecord.fixed := by
  obtain ⟨key, expected, current, replacement, hfind, hfixed, rfl⟩ := h
  have hkey : replacement.sandboxId = key :=
    (congrArg SandboxRecord.Fixed.sandboxId hfixed).trans (findKey_eq_some hfind).2
  rcases hcas key expected replacement rows with hsame | hwrite
  · rw [hsame]
  · rw [hwrite]
    -- the swapped id now finds the replacement, every other id what it found before
    by_cases hid : sandboxId = key
    · subst hid
      rw [findKey_replaceKey hkey ⟨current, findKey_eq_some hfind⟩, hfind, Option.map_some,
        Option.map_some, hfixed]
    · rw [findKey_replaceKey_of_ne hkey hid]

theorem Swaps.findKey_fixed {rows rows' : List (SandboxRecord Plan Resources Route Mount)}
    (h : Swaps cas rows rows') (sandboxId : SandboxId) :
    (findKey SandboxRecord.sandboxId sandboxId rows').map SandboxRecord.fixed =
      (findKey SandboxRecord.sandboxId sandboxId rows).map SandboxRecord.fixed := by
  induction h with
  | refl => rfl
  | tail _ hstep ih => exact (FixedFieldSwap.findKey_fixed hcas hstep sandboxId).trans ih

/-- A record agrees with a store exactly when it agrees with a store a run of swaps reaches
    from it, or from which one reaches it. -/
theorem Swaps.agrees_iff {rows rows' : List (SandboxRecord Plan Resources Route Mount)}
    {record : SandboxRecord Plan Resources Route Mount} (h : Swaps cas rows rows') :
    Agrees rows' record ↔ Agrees rows record := by
  unfold Agrees
  rw [Swaps.findKey_fixed hcas h]

/-- The compare-and-swap of a record that agrees with the store is a fixed-field swap; with no
    record under its id it writes nothing. -/
theorem swaps_of_agrees {rows : List (SandboxRecord Plan Resources Route Mount)}
    {record : SandboxRecord Plan Resources Route Mount} (ha : Agrees rows record)
    (expected : SandboxGeneration) :
    Swaps cas rows (cas record.sandboxId expected record rows).2 := by
  cases hfind : findKey SandboxRecord.sandboxId record.sandboxId rows with
  | none =>
    rcases hcas record.sandboxId expected record rows with hsame | hwrite
    · rw [hsame]
      exact Swaps.refl rows
    · rw [hwrite, replaceKey_of_forall_ne (findKey_eq_none.mp hfind)]
      exact Swaps.refl rows
  | some current =>
    have hfixed : current.fixed = record.fixed := ha current.fixed (by rw [hfind, Option.map_some])
    exact .single ⟨record.sandboxId, expected, current, record, hfind, hfixed.symm, rfl⟩

end Swaps

/-! ## The control service -/

/-- `ControlServiceError`, with the errors of the calls the lifecycle operations make. -/
inductive ControlServiceError where
  | invalidRequest (message : String)
  | notFound (sandboxId : SandboxId)
  | conflict (sandboxId : SandboxId)
  | repository (error : RepositoryError)
  | execution (error : ExecutionManagerError)
  | lifecycle (error : LifecycleError)

/-- `ConnectionDisposition`. -/
inductive ConnectionDisposition where
  | created
  | alreadyRunning
  | resumed
deriving DecidableEq

/-- The repository as the control service calls it: `get`, and the supervisor's calls. -/
structure ServiceRepository (Plan Resources Route Mount : Type) extends
    SandboxRepository Plan Resources Route Mount where
  get : SandboxId → List (SandboxRecord Plan Resources Route Mount) →
    Except RepositoryError (Option (SandboxRecord Plan Resources Route Mount))

section Repositories

variable {Plan Resources Route Mount : Type} [DecidableEq Plan]

/-- `MemorySandboxRepository::get`: the record under the id, cloned. -/
def MemorySandboxRepository.get (sandboxId : SandboxId)
    (records : List (SandboxRecord Plan Resources Route Mount)) :
    Option (SandboxRecord Plan Resources Route Mount) :=
  findKey SandboxRecord.sandboxId sandboxId records

/-- `SqliteSandboxRepository::get`: the row under the id, deserialized. -/
def SqliteSandboxRepository.get (validateRoute : Route → Except String Unit)
    (validateMounts : List Mount → Except String Unit) (sandboxId : SandboxId)
    (rows : List (SandboxRecord Plan Resources Route Mount)) :
    Except RepositoryError (Option (SandboxRecord Plan Resources Route Mount)) :=
  match findKey SandboxRecord.sandboxId sandboxId rows with
  | none => .ok none
  | some row => (SqliteSandboxRepository.deserializeRecord validateRoute validateMounts row).map some

/-- `MemorySandboxRepository` behind the trait. -/
def MemorySandboxRepository.serviceRepository : ServiceRepository Plan Resources Route Mount :=
  { MemorySandboxRepository.repository with
    get := fun sandboxId records => .ok (MemorySandboxRepository.get sandboxId records) }

/-- `SqliteSandboxRepository` behind the trait. -/
def SqliteSandboxRepository.serviceRepository (validateRoute : Route → Except String Unit)
    (validateMounts : List Mount → Except String Unit) {Day : Type} [LinearOrder Day]
    (julianday : Timestamp → Day) : ServiceRepository Plan Resources Route Mount :=
  { SqliteSandboxRepository.repository validateRoute validateMounts julianday with
    get := SqliteSandboxRepository.get validateRoute validateMounts }

omit [DecidableEq Plan] in
/-- Both repositories' `get` return the record stored under the id. -/
theorem MemorySandboxRepository.get_found {sandboxId : SandboxId}
    {records : List (SandboxRecord Plan Resources Route Mount)}
    {record : SandboxRecord Plan Resources Route Mount}
    (h : (MemorySandboxRepository.serviceRepository.get sandboxId records :
      Except RepositoryError _) = .ok (some record)) :
    findKey SandboxRecord.sandboxId sandboxId records = some record :=
  have hget : (Except.ok (MemorySandboxRepository.get sandboxId records) : Except RepositoryError _) =
      .ok (some record) := h
  Except.ok.inj hget

omit [DecidableEq Plan] in
theorem SqliteSandboxRepository.get_found {validateRoute : Route → Except String Unit}
    {validateMounts : List Mount → Except String Unit} {sandboxId : SandboxId}
    {rows : List (SandboxRecord Plan Resources Route Mount)}
    {record : SandboxRecord Plan Resources Route Mount}
    (h : SqliteSandboxRepository.get validateRoute validateMounts sandboxId rows = .ok (some record)) :
    findKey SandboxRecord.sandboxId sandboxId rows = some record := by
  unfold SqliteSandboxRepository.get at h
  cases hfind : findKey SandboxRecord.sandboxId sandboxId rows with
  | none =>
    rw [hfind] at h
    cases h
  | some row =>
    rw [hfind] at h
    obtain ⟨deserialized, hdeserialized, hsome⟩ := map_eq_ok.mp h
    simp only [SqliteSandboxRepository.deserializeRecord, bind_unit_eq_ok, pure_eq_ok] at hdeserialized
    rw [← Option.some.inj hsome, ← hdeserialized.2]

end Repositories

/-- `ControlService` and the dependencies its lifecycle operations call: the repository, the
    runtime, the clock, each sandbox's envd mode and the runtime envd initialisation. -/
structure ControlService (Plan Route Mount : Type) where
  repository : ServiceRepository Plan ResourceConfig Route Mount
  executions : ExecutionManager Plan ResourceConfig
  clock : Clock
  envdMode : SandboxId → EnvdMode
  initializeRuntimeEnvd : ExecutionLease Plan ResourceConfig → SandboxId →
    Except ExecutionManagerError Unit

/-- A computation of the control service on the store's rows. -/
abbrev ServiceM (Plan Route Mount : Type) :=
  ExceptT ControlServiceError (StateM (List (SandboxRecord Plan ResourceConfig Route Mount)))

namespace ControlService

variable {Plan Route Mount : Type} [DecidableEq Plan] (service : ControlService Plan Route Mount)

/-- A `Result` returned with `?`. -/
def ofExcept {α : Type} (x : Except ControlServiceError α) : ServiceM Plan Route Mount α :=
  match x with
  | .ok a => pure a
  | .error error => throw error

/-- `self.repository.get(sandbox_id).await?`. -/
def getRecord (sandboxId : SandboxId) :
    ServiceM Plan Route Mount (Option (SandboxRecord Plan ResourceConfig Route Mount)) := do
  let rows ← get
  ofExcept ((service.repository.get sandboxId rows).mapError .repository)

/-- `self.repository.compare_and_swap(..).await?`: the swap writes the rows it returns. -/
def compareAndSwap (sandboxId : SandboxId) (expected : SandboxGeneration)
    (replacement : SandboxRecord Plan ResourceConfig Route Mount) :
    ServiceM Plan Route Mount CompareAndSwapResult := do
  let rows ← get
  let swapped := service.repository.compareAndSwap sandboxId expected replacement rows
  set swapped.2
  ofExcept (swapped.1.mapError .repository)

/-- A lifecycle method on the operation's copy of the record, `record.begin_pause(..)?` and the
    rest: the record afterwards. -/
def lifecycle (call : SandboxCall Plan ResourceConfig)
    (record : SandboxRecord Plan ResourceConfig Route Mount) :
    ServiceM Plan Route Mount (SandboxRecord Plan ResourceConfig Route Mount) :=
  match call.apply record with
  | .ok (_, record) => pure record
  | .error error => throw (.lifecycle error)

/-- `require_visible`: a record of the owner in a public state. -/
def requireVisible (ownerId : String) (sandboxId : SandboxId) :
    ServiceM Plan Route Mount (SandboxRecord Plan ResourceConfig Route Mount) := do
  let some record ← service.getRecord sandboxId | throw (.notFound sandboxId)
  if record.ownerId ≠ ownerId ∨ record.publicState?.isNone then throw (.notFound sandboxId)
  pure record

/-- `replace`: a compare-and-swap that must update. -/
def replace (expected : SandboxGeneration) (replacement : SandboxRecord Plan ResourceConfig Route Mount) :
    ServiceM Plan Route Mount Unit := do
  let sandboxId := replacement.sandboxId
  match ← service.compareAndSwap sandboxId expected replacement with
  | .updated => pure ()
  | .notFound => throw (.notFound sandboxId)
  | .conflict _ => throw (.conflict sandboxId)

/-- `expiry_from(self.clock.now(), timeout_seconds)`. -/
def expiryFrom (timeoutSeconds : Nat) : Except ControlServiceError Timestamp :=
  ((readyLifetime service.clock service.clock.now service.clock.now timeoutSeconds).map Prod.snd).mapError
    fun error => .invalidRequest error.display

/-- `pause`. -/
def pause (ownerId : String) (sandboxId : SandboxId) (keepMemory : Bool) :
    ServiceM Plan Route Mount Unit := do
  let record ← service.requireVisible ownerId sandboxId
  if record.state ≠ .running then throw (.conflict sandboxId)
  let executionId ← ofExcept (okOr record.executionId (.conflict sandboxId))
  let executionGeneration ← ofExcept (okOr record.executionGeneration (.conflict sandboxId))
  let expected := record.generation
  let record ← lifecycle (.beginPause keepMemory) record
  service.replace expected record
  match service.executions.pause executionId executionGeneration keepMemory with
  | .error error =>
    let expected := record.generation
    let record ← lifecycle .abortPause record
    service.replace expected record
    throw (.execution error)
  | .ok lease =>
    let expected := record.generation
    let record ← lifecycle (.markPaused lease) record
    service.replace expected record

/-- The `Paused` arm of `connect`: resume the recorded execution, initialise a runtime envd
    after a cold resume, and publish the record running. -/
def resumePaused (sandboxId : SandboxId) (record : SandboxRecord Plan ResourceConfig Route Mount) :
    ServiceM Plan Route Mount (SandboxRecord Plan ResourceConfig Route Mount) := do
  let coldResume := !record.pausedWithMemory
  let executionId ← ofExcept (okOr record.executionId (.conflict sandboxId))
  let executionGeneration ← ofExcept (okOr record.executionGeneration (.conflict sandboxId))
  let expected := record.generation
  let record ← lifecycle .beginResume record
  service.replace expected record
  match service.executions.resume executionId executionGeneration with
  | .error error =>
    let expected := record.generation
    let record ← lifecycle .abortResume record
    service.replace expected record
    throw (.execution error)
  | .ok lease =>
    if coldResume && service.envdMode record.sandboxId == .runtime then
      match service.initializeRuntimeEnvd lease record.sandboxId with
      | .error readinessError =>
        let cleanup := service.executions.kill lease.executionId lease.generation
        let expected := record.generation
        let record ← lifecycle (.markFailed .runtimeFailed) record
        service.replace expected record
        throw (.execution (match cleanup with
          | .ok _ => readinessError
          | .error cleanupError => .internal (readinessError.display ++
              "; cold-resume runtime cleanup failed: " ++ cleanupError.display)))
      | .ok () => pure ()
    let expected := record.generation
    let record ← lifecycle (.markRunning lease) record
    service.replace expected record
    pure record

/-- `connect`: a running record as it is, a paused one resumed; then the expiry pushed out to
    the timeout from now if that is later. -/
def connect (ownerId : String) (sandboxId : SandboxId) (timeoutSeconds : Nat) :
    ServiceM Plan Route Mount (SandboxRecord Plan ResourceConfig Route Mount × ConnectionDisposition) := do
  let record ← service.requireVisible ownerId sandboxId
  let (record, disposition) ← match record.state with
    | .running => pure (record, ConnectionDisposition.alreadyRunning)
    | .paused => do
      let record ← service.resumePaused sandboxId record
      pure (record, ConnectionDisposition.resumed)
    | _ => throw (.conflict sandboxId)
  let refreshedExpiry ← ofExcept (service.expiryFrom timeoutSeconds)
  let record ← if record.expiresAt < refreshedExpiry then do
      let expected := record.generation
      let record ← lifecycle (.replaceExpiry refreshedExpiry) record
      service.replace expected record
      pure record
    else pure record
  pure (record, disposition)

/-- `resume`: `connect` on a paused record, refusing an `autoPause` the policy does not have. -/
def resume (ownerId : String) (sandboxId : SandboxId) (timeoutSeconds : Nat) (autoPause : Bool) :
    ServiceM Plan Route Mount (SandboxRecord Plan ResourceConfig Route Mount × ConnectionDisposition) := do
  let record ← service.requireVisible ownerId sandboxId
  if record.state ≠ .paused then throw (.conflict sandboxId)
  if autoPause ∧ record.lifecycle.onTimeout ≠ .pause then
    throw (.invalidRequest "autoPause cannot change the sandbox lifecycle policy during resume")
  service.connect ownerId sandboxId timeoutSeconds

/-- `set_timeout`. -/
def setTimeout (ownerId : String) (sandboxId : SandboxId) (timeoutSeconds : Nat) :
    ServiceM Plan Route Mount Unit := do
  let record ← service.requireVisible ownerId sandboxId
  let expected := record.generation
  let expiresAt ← ofExcept (service.expiryFrom timeoutSeconds)
  let record ← lifecycle (.replaceExpiry expiresAt) record
  service.replace expected record

/-- `refresh_timeout`: only an expiry later than the record's is written. -/
def refreshTimeout (ownerId : String) (sandboxId : SandboxId) (timeoutSeconds : Nat) :
    ServiceM Plan Route Mount Unit := do
  let record ← service.requireVisible ownerId sandboxId
  let refreshedExpiry ← ofExcept (service.expiryFrom timeoutSeconds)
  if refreshedExpiry ≤ record.expiresAt then return ()
  let expected := record.generation
  let record ← lifecycle (.replaceExpiry refreshedExpiry) record
  service.replace expected record

/-- `kill`: a foreign, missing or finished record is left alone; otherwise the record is marked
    Killing, the runtime's execution killed, and the record marked Killed. -/
def kill (ownerId : String) (sandboxId : SandboxId) : ServiceM Plan Route Mount Bool := do
  let some record ← service.getRecord sandboxId | return false
  if record.ownerId ≠ ownerId ∨ record.isTerminal then return false
  let execution := match record.executionId, record.executionGeneration with
    | some executionId, some generation => some (executionId, generation)
    | _, _ => none
  let expected := record.generation
  let record ← lifecycle .beginKill record
  service.replace expected record
  if let some (executionId, generation) := execution then
    let _ ← ofExcept ((service.executions.kill executionId generation).mapError .execution)
  let expected := record.generation
  let record ← lifecycle .markKilled record
  service.replace expected record
  return true

/-! ## Every write is a fixed-field swap

Each spec says that a call keeps the store reached from `initial` by a run of swaps, and what
it returns agrees with `initial`. Each proof hands `mvcgen` the specs of the helpers it calls,
which it strings together, and the conditions it leaves are closed by the transitivity of
`Swaps` and by `Swaps.agrees_iff`. -/

section Swapping

variable (hcas : Overwrites service.repository.compareAndSwap)
  (hget : ∀ sandboxId rows record, service.repository.get sandboxId rows = .ok (some record) →
    findKey SandboxRecord.sandboxId sandboxId rows = some record)
  (initial : List (SandboxRecord Plan ResourceConfig Route Mount))

omit [DecidableEq Plan] in
include hcas hget in
theorem getRecord_spec (sandboxId : SandboxId) :
    ⦃fun s => ⌜Swaps service.repository.compareAndSwap initial s⌝⦄
    service.getRecord sandboxId
    ⦃post⟨fun found s => ⌜Swaps service.repository.compareAndSwap initial s ∧
        ∀ record, found = some record → Agrees initial record⌝,
      fun _ s => ⌜Swaps service.repository.compareAndSwap initial s⌝⟩⦄ := by
  mvcgen [getRecord, ofExcept]
  rename_i rows hrows found hfound
  refine ⟨hrows, fun record hrecord => ?_⟩
  subst hrecord
  -- `get` returned the record stored under the id, which agrees with the store
  have hstored := hget sandboxId rows record (mapError_eq_ok.mp hfound)
  exact (Swaps.agrees_iff hcas hrows).mp (agrees_of_findKey hstored)

theorem lifecycle_spec (call : SandboxCall Plan ResourceConfig)
    (record : SandboxRecord Plan ResourceConfig Route Mount) :
    ⦃fun s => ⌜Swaps service.repository.compareAndSwap initial s ∧ Agrees initial record⌝⦄
    lifecycle call record
    ⦃post⟨fun record' s => ⌜Swaps service.repository.compareAndSwap initial s ∧ Agrees initial record'⌝,
      fun _ s => ⌜Swaps service.repository.compareAndSwap initial s⌝⟩⦄ := by
  mvcgen [lifecycle]
  · -- a lifecycle method keeps the fixed fields
    rename_i next record' hcall rows hrows
    exact ⟨hrows.1, hrows.2.of_fixed_eq (SandboxCall.apply_effect hcall).fixed_eq⟩
  · rename_i error hcall rows hrows
    exact hrows.1

omit [DecidableEq Plan] in
include hcas in
theorem replace_spec (expected : SandboxGeneration)
    (replacement : SandboxRecord Plan ResourceConfig Route Mount) :
    ⦃fun s => ⌜Swaps service.repository.compareAndSwap initial s ∧ Agrees initial replacement⌝⦄
    service.replace expected replacement
    ⦃post⟨fun _ s => ⌜Swaps service.repository.compareAndSwap initial s⌝,
      fun _ s => ⌜Swaps service.repository.compareAndSwap initial s⌝⟩⦄ := by
  mvcgen [replace, compareAndSwap, ofExcept]
  -- whatever the swap answers, it wrote at most the replacement over a record it agrees with
  all_goals
    obtain ⟨hrows, hagrees⟩ := ‹Swaps _ initial _ ∧ Agrees initial replacement›
    exact hrows.trans (swaps_of_agrees hcas ((Swaps.agrees_iff hcas hrows).mpr hagrees) expected)

omit [DecidableEq Plan] in
include hcas hget in
theorem requireVisible_spec (ownerId : String) (sandboxId : SandboxId) :
    ⦃fun s => ⌜Swaps service.repository.compareAndSwap initial s⌝⦄
    service.requireVisible ownerId sandboxId
    ⦃post⟨fun record s => ⌜Swaps service.repository.compareAndSwap initial s ∧ Agrees initial record⌝,
      fun _ s => ⌜Swaps service.repository.compareAndSwap initial s⌝⟩⦄ := by
  have hgetRecord := getRecord_spec service hcas hget
  mvcgen [requireVisible, hgetRecord]
  all_goals grind [Swaps.agrees_iff]

include hcas hget in
theorem pause_spec (ownerId : String) (sandboxId : SandboxId) (keepMemory : Bool) :
    ⦃fun s => ⌜Swaps service.repository.compareAndSwap initial s⌝⦄
    service.pause ownerId sandboxId keepMemory
    ⦃post⟨fun _ s => ⌜Swaps service.repository.compareAndSwap initial s⌝,
      fun _ s => ⌜Swaps service.repository.compareAndSwap initial s⌝⟩⦄ := by
  have hrequireVisible := requireVisible_spec service hcas hget
  have hlifecycle := lifecycle_spec service
  have hreplace := replace_spec service hcas
  mvcgen [pause, ofExcept, hrequireVisible, hlifecycle, hreplace]
  all_goals grind [Swaps.agrees_iff]

include hcas in
theorem resumePaused_spec (sandboxId : SandboxId) (record : SandboxRecord Plan ResourceConfig Route Mount) :
    ⦃fun s => ⌜Swaps service.repository.compareAndSwap initial s ∧ Agrees initial record⌝⦄
    service.resumePaused sandboxId record
    ⦃post⟨fun record' s => ⌜Swaps service.repository.compareAndSwap initial s ∧ Agrees initial record'⌝,
      fun _ s => ⌜Swaps service.repository.compareAndSwap initial s⌝⟩⦄ := by
  have hlifecycle := lifecycle_spec service
  have hreplace := replace_spec service hcas
  mvcgen [resumePaused, ofExcept, hlifecycle, hreplace]
  all_goals grind [Swaps.agrees_iff]

include hcas hget in
theorem connect_spec (ownerId : String) (sandboxId : SandboxId) (timeoutSeconds : Nat) :
    ⦃fun s => ⌜Swaps service.repository.compareAndSwap initial s⌝⦄
    service.connect ownerId sandboxId timeoutSeconds
    ⦃post⟨fun _ s => ⌜Swaps service.repository.compareAndSwap initial s⌝,
      fun _ s => ⌜Swaps service.repository.compareAndSwap initial s⌝⟩⦄ := by
  have hrequireVisible := requireVisible_spec service hcas hget
  have hresumePaused := resumePaused_spec service hcas
  have hlifecycle := lifecycle_spec service
  have hreplace := replace_spec service hcas
  mvcgen [connect, ofExcept, hrequireVisible, hresumePaused, hlifecycle, hreplace]
  all_goals grind [Swaps.agrees_iff]

include hcas hget in
theorem resume_spec (ownerId : String) (sandboxId : SandboxId) (timeoutSeconds : Nat) (autoPause : Bool) :
    ⦃fun s => ⌜Swaps service.repository.compareAndSwap initial s⌝⦄
    service.resume ownerId sandboxId timeoutSeconds autoPause
    ⦃post⟨fun _ s => ⌜Swaps service.repository.compareAndSwap initial s⌝,
      fun _ s => ⌜Swaps service.repository.compareAndSwap initial s⌝⟩⦄ := by
  have hrequireVisible := requireVisible_spec service hcas hget
  have hconnect := connect_spec service hcas hget
  mvcgen [resume, hrequireVisible, hconnect]
  all_goals grind [Swaps.agrees_iff]

include hcas hget in
theorem setTimeout_spec (ownerId : String) (sandboxId : SandboxId) (timeoutSeconds : Nat) :
    ⦃fun s => ⌜Swaps service.repository.compareAndSwap initial s⌝⦄
    service.setTimeout ownerId sandboxId timeoutSeconds
    ⦃post⟨fun _ s => ⌜Swaps service.repository.compareAndSwap initial s⌝,
      fun _ s => ⌜Swaps service.repository.compareAndSwap initial s⌝⟩⦄ := by
  have hrequireVisible := requireVisible_spec service hcas hget
  have hlifecycle := lifecycle_spec service
  have hreplace := replace_spec service hcas
  mvcgen [setTimeout, ofExcept, hrequireVisible, hlifecycle, hreplace]
  all_goals grind [Swaps.agrees_iff]

include hcas hget in
theorem refreshTimeout_spec (ownerId : String) (sandboxId : SandboxId) (timeoutSeconds : Nat) :
    ⦃fun s => ⌜Swaps service.repository.compareAndSwap initial s⌝⦄
    service.refreshTimeout ownerId sandboxId timeoutSeconds
    ⦃post⟨fun _ s => ⌜Swaps service.repository.compareAndSwap initial s⌝,
      fun _ s => ⌜Swaps service.repository.compareAndSwap initial s⌝⟩⦄ := by
  have hrequireVisible := requireVisible_spec service hcas hget
  have hlifecycle := lifecycle_spec service
  have hreplace := replace_spec service hcas
  mvcgen [refreshTimeout, ofExcept, hrequireVisible, hlifecycle, hreplace]
  all_goals grind [Swaps.agrees_iff]

include hcas hget in
theorem kill_spec (ownerId : String) (sandboxId : SandboxId) :
    ⦃fun s => ⌜Swaps service.repository.compareAndSwap initial s⌝⦄
    service.kill ownerId sandboxId
    ⦃post⟨fun _ s => ⌜Swaps service.repository.compareAndSwap initial s⌝,
      fun _ s => ⌜Swaps service.repository.compareAndSwap initial s⌝⟩⦄ := by
  have hgetRecord := getRecord_spec service hcas hget
  have hlifecycle := lifecycle_spec service
  have hreplace := replace_spec service hcas
  mvcgen [kill, ofExcept, hgetRecord, hlifecycle, hreplace]
  all_goals grind [Swaps.agrees_iff]

end Swapping

end ControlService

/-! ## Calls of the service among the supervisor's steps -/

/-- A call of the control service's lifecycle API. -/
inductive ServiceCall where
  | pause (ownerId : String) (sandboxId : SandboxId) (keepMemory : Bool)
  | kill (ownerId : String) (sandboxId : SandboxId)
  | connect (ownerId : String) (sandboxId : SandboxId) (timeoutSeconds : Nat)
  | resume (ownerId : String) (sandboxId : SandboxId) (timeoutSeconds : Nat) (autoPause : Bool)
  | setTimeout (ownerId : String) (sandboxId : SandboxId) (timeoutSeconds : Nat)
  | refreshTimeout (ownerId : String) (sandboxId : SandboxId) (timeoutSeconds : Nat)

namespace ControlService

variable {Plan Route Mount : Type} [DecidableEq Plan] (service : ControlService Plan Route Mount)

/-- The rows after a call, whatever it returned. -/
def call (call : ServiceCall) (rows : List (SandboxRecord Plan ResourceConfig Route Mount)) :
    List (SandboxRecord Plan ResourceConfig Route Mount) :=
  match call with
  | .pause ownerId sandboxId keepMemory => ((service.pause ownerId sandboxId keepMemory).run.run rows).2
  | .kill ownerId sandboxId => ((service.kill ownerId sandboxId).run.run rows).2
  | .connect ownerId sandboxId timeoutSeconds =>
    ((service.connect ownerId sandboxId timeoutSeconds).run.run rows).2
  | .resume ownerId sandboxId timeoutSeconds autoPause =>
    ((service.resume ownerId sandboxId timeoutSeconds autoPause).run.run rows).2
  | .setTimeout ownerId sandboxId timeoutSeconds =>
    ((service.setTimeout ownerId sandboxId timeoutSeconds).run.run rows).2
  | .refreshTimeout ownerId sandboxId timeoutSeconds =>
    ((service.refreshTimeout ownerId sandboxId timeoutSeconds).run.run rows).2

/-- The rows after the calls, one after the other. -/
def callAll (calls : List ServiceCall) (rows : List (SandboxRecord Plan ResourceConfig Route Mount)) :
    List (SandboxRecord Plan ResourceConfig Route Mount) :=
  calls.foldl (fun rows call => service.call call rows) rows

variable {service} (hcas : Overwrites service.repository.compareAndSwap)
  (hget : ∀ sandboxId rows record, service.repository.get sandboxId rows = .ok (some record) →
    findKey SandboxRecord.sandboxId sandboxId rows = some record)
include hcas hget

/-- A call, from every store, moves it by a run of fixed-field swaps. -/
theorem call_swaps (call : ServiceCall) (rows : List (SandboxRecord Plan ResourceConfig Route Mount)) :
    Swaps service.repository.compareAndSwap rows (service.call call rows) := by
  cases call with
  | pause ownerId sandboxId keepMemory =>
    exact triple_run_state (pause_spec service hcas hget rows ownerId sandboxId keepMemory) (Swaps.refl rows)
  | kill ownerId sandboxId =>
    exact triple_run_state (kill_spec service hcas hget rows ownerId sandboxId) (Swaps.refl rows)
  | connect ownerId sandboxId timeoutSeconds =>
    exact triple_run_state (connect_spec service hcas hget rows ownerId sandboxId timeoutSeconds)
      (Swaps.refl rows)
  | resume ownerId sandboxId timeoutSeconds autoPause =>
    exact triple_run_state
      (resume_spec service hcas hget rows ownerId sandboxId timeoutSeconds autoPause) (Swaps.refl rows)
  | setTimeout ownerId sandboxId timeoutSeconds =>
    exact triple_run_state (setTimeout_spec service hcas hget rows ownerId sandboxId timeoutSeconds)
      (Swaps.refl rows)
  | refreshTimeout ownerId sandboxId timeoutSeconds =>
    exact triple_run_state (refreshTimeout_spec service hcas hget rows ownerId sandboxId timeoutSeconds)
      (Swaps.refl rows)

/-- Any sequence of calls moves the store by a run of fixed-field swaps. -/
theorem callAll_swaps (calls : List ServiceCall)
    (rows : List (SandboxRecord Plan ResourceConfig Route Mount)) :
    Swaps service.repository.compareAndSwap rows (service.callAll calls rows) := by
  induction calls generalizing rows with
  | nil => exact Swaps.refl rows
  | cons call calls ih => exact (call_swaps hcas hget call rows).trans (ih (service.call call rows))

omit hcas hget in
/-- `callAll_swaps` for a service over a given repository. -/
theorem callAll_swaps_of_repository {repository : ServiceRepository Plan ResourceConfig Route Mount}
    (hrepo : service.repository = repository) (hcas : Overwrites repository.compareAndSwap)
    (hget : ∀ sandboxId rows record, repository.get sandboxId rows = .ok (some record) →
      findKey SandboxRecord.sandboxId sandboxId rows = some record)
    (calls : List ServiceCall) (rows : List (SandboxRecord Plan ResourceConfig Route Mount)) :
    Swaps repository.compareAndSwap rows (service.callAll calls rows) := by
  subst hrepo
  exact callAll_swaps hcas hget calls rows

end ControlService

section Repositories

variable {Plan Route Mount : Type} [DecidableEq Plan] {service : ControlService Plan Route Mount}

/-- The calls of a service over the memory repository are runs of its fixed-field swaps. -/
theorem MemorySandboxRepository.service_swaps
    (hrepo : service.repository = MemorySandboxRepository.serviceRepository)
    (calls : List ServiceCall) (rows : List (SandboxRecord Plan ResourceConfig Route Mount)) :
    Swaps MemorySandboxRepository.compareAndSwap rows (service.callAll calls rows) :=
  ControlService.callAll_swaps_of_repository hrepo memory_overwrites
    (fun _ _ _ h => MemorySandboxRepository.get_found h) calls rows

/-- The calls of a service over the SQLite repository are runs of its fixed-field swaps. -/
theorem SqliteSandboxRepository.service_swaps {validateRoute : Route → Except String Unit}
    {validateMounts : List Mount → Except String Unit} {Day : Type} [LinearOrder Day]
    {julianday : Timestamp → Day}
    (hrepo : service.repository =
      SqliteSandboxRepository.serviceRepository validateRoute validateMounts julianday)
    (calls : List ServiceCall) (rows : List (SandboxRecord Plan ResourceConfig Route Mount)) :
    Swaps (SqliteSandboxRepository.compareAndSwap validateRoute validateMounts) rows
      (service.callAll calls rows) :=
  ControlService.callAll_swaps_of_repository hrepo (sqlite_overwrites validateRoute validateMounts)
    (fun _ _ _ h => SqliteSandboxRepository.get_found h) calls rows

end Repositories

/-- The control service beside `stoppedSupervisor`, over its repository and runtime. -/
def stoppedService : ControlService Unit Unit Unit :=
  ⟨MemorySandboxRepository.serviceRepository, stoppedExecutions,
    ⟨30, fun readyAt seconds => some (readyAt + seconds)⟩, fun _ => .broker, fun _ _ => .ok ()⟩

/-- The owner's pause of `sbx-r`, keeping its memory. -/
def ownerPause : ServiceCall := .pause "owner" reconciledRecord.sandboxId true

/-- The runtime of `stoppedExecutions` refuses the pause: it is written and undone, and the record
    is running again, two generations on. -/
example : (stoppedService.call ownerPause [reconciledRecord]).map
    (fun record => (record.state, record.generation.get)) = [(.running, 9)] := by
  decide

/-- The runtime of `stoppedExecutions` with a pause that succeeds: `exec-r` at its second
    generation. -/
def pausingExecutions : ExecutionManager Unit ResourceConfig :=
  { stoppedExecutions with
    pause := fun executionId _ _ =>
      .ok ⟨executionId, ⟨2, Nat.zero_lt_two, two_le_u64Max⟩, (), ⟨1, 512, 4096, 60⟩, 20⟩ }

/-- The control service of `stoppedService` over that runtime. -/
def pausingService : ControlService Unit Unit Unit :=
  { stoppedService with executions := pausingExecutions }

/-- Its pause of `sbx-r` is written and marked: the record is paused, two generations on. -/
example : (pausingService.call ownerPause [reconciledRecord]).map
    (fun record => (record.state, record.generation.get)) = [(.paused, 9)] := by
  decide

/-- `reconcile_startup` among the control service's calls, over the memory and the SQLite
    repository: before each step of the supervisor the service makes the calls `schedule n`. From
    rows with distinct ids (valid ones for SQLite) and with more fuel than records, the loop
    returns a report, its pages visit every live record once, and the report examined each record
    of them once, each completed, deferred or failed. -/
theorem startup_among_service_calls {Plan Route Mount : Type} [DecidableEq Plan] (pageSize : ℕ+)
    (initial : List (SandboxRecord Plan ResourceConfig Route Mount))
    (hnd : (initial.map SandboxRecord.sandboxId).Nodup) (fuel : ℕ) (hfuel : initial.length < fuel)
    (schedule : ℕ → List ServiceCall) :
    (∀ (supervisor : LifecycleSupervisor Plan Route Mount) (service : ControlService Plan Route Mount),
      supervisor.repository = MemorySandboxRepository.repository →
      service.repository = MemorySandboxRepository.serviceRepository →
      supervisor.VisitsAmongWriters (fun n rows => service.callAll (schedule n) rows) pageSize fuel
        initial) ∧
    (∀ (validateRoute : Route → Except String Unit) (validateMounts : List Mount → Except String Unit)
      (Day : Type) [LinearOrder Day] (julianday : Timestamp → Day)
      (supervisor : LifecycleSupervisor Plan Route Mount) (service : ControlService Plan Route Mount),
      supervisor.repository = SqliteSandboxRepository.repository validateRoute validateMounts julianday →
      service.repository = SqliteSandboxRepository.serviceRepository validateRoute validateMounts julianday →
      (∀ r ∈ initial, SqliteSandboxRepository.validateRecord validateRoute validateMounts r = .ok ()) →
      supervisor.VisitsAmongWriters (fun n rows => service.callAll (schedule n) rows) pageSize fuel
        initial) := by
  -- the service's calls are the fixed-field swaps of the loop's environment
  constructor
  · intro supervisor service hsupervisor hservice
    exact MemorySandboxRepository.startup_visits hsupervisor hnd
      (fun n => MemorySandboxRepository.service_swaps hservice (schedule n)) hfuel
  · intro validateRoute validateMounts Day _ julianday supervisor service hsupervisor hservice hvalid
    exact SqliteSandboxRepository.startup_visits hsupervisor hnd hvalid
      (fun n => SqliteSandboxRepository.service_swaps hservice (schedule n)) hfuel

/-- The startup reconciliation of `sbx-r` with the owner's pause, which the runtime of
    `pausingService` grants, before each of its steps. -/
theorem paused_startup_among_service_calls :
    ([reconciledRecord].map SandboxRecord.sandboxId).Nodup ∧ [reconciledRecord].length < 2 ∧
      stoppedSupervisor.VisitsAmongWriters (fun _ rows => pausingService.callAll [ownerPause] rows) 1 2
        [reconciledRecord] :=
  ⟨List.nodup_singleton _, Nat.lt_succ_self 1,
    (startup_among_service_calls 1 [reconciledRecord] (List.nodup_singleton _) 2 (Nat.lt_succ_self 1)
      fun _ => [ownerPause]).1 stoppedSupervisor pausingService rfl rfl⟩

end A3sBox.Compat
