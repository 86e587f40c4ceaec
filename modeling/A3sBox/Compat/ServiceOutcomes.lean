import Mathlib
import A3sBox.Compat.Service

/-
  What the control service's operations leave in the store.

  Model. The operations of `ControlService` as `Service` has them, now specified by what each
  helper does to the store exactly. A read and a lifecycle method leave the store as it was;
  `replace` writes its replacement over the stored record when the repository answers
  `updated`, and writes nothing otherwise (`Reports`, which the memory and the SQLite
  compare-and-swap satisfy). What a lifecycle method leaves in the fields the service reads next
  is summarised per call (`SandboxCall.target`, `expiryAfter`, `memoryAfter`), and which errors
  come from the runtime is `ControlServiceError.isExecution`.

  Every write of an operation replaces the record stored under its sandbox by a lifecycle
  successor of it (`Successor`: what a lifecycle method returns from it). `set_timeout` writes
  the caller's expiry; every other write keeps the expiry, except that `connect`, `resume` and
  `refresh_timeout` may move the expiry of their own sandbox later (`Advances`). A run of writes
  of one kind is `Writes`, and the runs of `Advances` keep every stored record, with its fixed
  fields and an expiry no earlier, equal unless a call refreshed it (`Keeps`).

  Proved, for the memory and the SQLite repository:
  * every run of calls, from every store and whatever each call returns, writes only lifecycle
    successors over the records stored under their ids (`service_calls_swap`);
  * a run of calls without `set_timeout` keeps every stored record with its fixed fields and an
    expiry no earlier, the same one unless a call of the run was a `connect`, `resume` or
    `refresh_timeout` of its sandbox (`service_calls_keep_expiry`);
  * `pause` that returns leaves the record paused with the memory asked for, and one that fails
    in the runtime leaves it running again (`pause_ends_paused_or_running`);
  * `connect` returns the record stored for the sandbox, running, with an expiry no earlier than
    the one asked for; it says it was already running exactly when it was, and resumed exactly
    when it was paused, after the runtime resumed its execution
    (`connect_returns_running_record`);
  * `kill` that answers `true` leaves the record killed, one that answers `false` writes
    nothing, and one that fails in the runtime leaves it killing (`kill_ends_killed`).
-/

namespace A3sBox.Compat

open A3sBox.Lib Std.Do

set_option mvcgen.warning false

/-! ## What a lifecycle method writes -/

namespace SandboxCall

variable {Plan Resources : Type}

/-- The state a successful call leaves on a record that was in `state`. -/
@[grind] def target : SandboxCall Plan Resources → LifecycleState → LifecycleState
  | .markRunning _, _ => .running
  | .markReady _ _ _, _ => .running
  | .beginPause _, _ => .pausing
  | .markPaused _, _ => .paused
  | .abortPause, _ => .running
  | .beginResume, _ => .resuming
  | .abortResume, _ => .paused
  | .beginKill, _ => .killing
  | .markKilled, _ => .killed
  | .markFailed _, _ => .failed
  | .replaceExpiry _, state => state

/-- The expiry a successful call leaves on a record that expired at `expiresAt`: the one that
    `mark_ready` and `replace_expiry` are given, the old one otherwise. -/
@[grind] def expiryAfter : SandboxCall Plan Resources → Timestamp → Timestamp
  | .markRunning _, expiresAt => expiresAt
  | .markReady _ _ expiresAt, _ => expiresAt
  | .beginPause _, expiresAt => expiresAt
  | .markPaused _, expiresAt => expiresAt
  | .abortPause, expiresAt => expiresAt
  | .beginResume, expiresAt => expiresAt
  | .abortResume, expiresAt => expiresAt
  | .beginKill, expiresAt => expiresAt
  | .markKilled, expiresAt => expiresAt
  | .markFailed _, expiresAt => expiresAt
  | .replaceExpiry expiresAt, _ => expiresAt

/-- `paused_with_memory` after a successful call on a record where it was `memory`. -/
@[grind] def memoryAfter : SandboxCall Plan Resources → Bool → Bool
  | .markRunning _, _ => true
  | .markReady _ _ _, _ => true
  | .beginPause keepMemory, _ => keepMemory
  | .markPaused _, memory => memory
  | .abortPause, _ => true
  | .beginResume, memory => memory
  | .abortResume, memory => memory
  | .beginKill, _ => true
  | .markKilled, _ => true
  | .markFailed _, _ => true
  | .replaceExpiry _, memory => memory

open SandboxRecord in
/-- What a successful call leaves in the state, the expiry and `paused_with_memory`. -/
theorem apply_summary {Route Mount : Type} [DecidableEq Plan] {call : SandboxCall Plan Resources}
    {record record' : SandboxRecord Plan Resources Route Mount} {next : SandboxGeneration}
    (h : call.apply record = .ok (next, record')) :
    record'.state = call.target record.state ∧
      record'.expiresAt = call.expiryAfter record.expiresAt ∧
      record'.pausedWithMemory = call.memoryAfter record.pausedWithMemory := by
  cases call with
  | markRunning lease =>
    obtain ⟨-, -, -, rfl⟩ := markRunning_eq_ok.mp h
    exact ⟨rfl, rfl, rfl⟩
  | markReady lease readyAt expiresAt =>
    obtain ⟨-, -, -, -, -, rfl⟩ := markReady_eq_ok.mp h
    exact ⟨rfl, rfl, rfl⟩
  | beginPause keepMemory =>
    obtain ⟨-, -, rfl⟩ := beginPause_eq_ok.mp h
    exact ⟨rfl, rfl, rfl⟩
  | markPaused lease =>
    obtain ⟨-, -, -, rfl⟩ := markPaused_eq_ok.mp h
    exact ⟨rfl, rfl, rfl⟩
  | abortPause =>
    obtain ⟨-, -, rfl⟩ := abortPause_eq_ok.mp h
    exact ⟨rfl, rfl, rfl⟩
  | beginResume =>
    obtain ⟨-, -, -, -, rfl⟩ := beginResume_eq_ok.mp h
    exact ⟨rfl, rfl, rfl⟩
  | abortResume =>
    obtain ⟨-, -, rfl⟩ := abortResume_eq_ok.mp h
    exact ⟨rfl, rfl, rfl⟩
  | beginKill =>
    obtain ⟨-, -, rfl⟩ := beginKill_eq_ok.mp h
    exact ⟨rfl, rfl, rfl⟩
  | markKilled =>
    obtain ⟨-, -, rfl⟩ := markKilled_eq_ok.mp h
    exact ⟨rfl, rfl, rfl⟩
  | markFailed failure =>
    obtain ⟨-, -, rfl⟩ := markFailed_eq_ok.mp h
    exact ⟨rfl, rfl, rfl⟩
  | replaceExpiry expiresAt =>
    obtain ⟨-, -, rfl⟩ := replaceExpiry_eq_ok.mp h
    exact ⟨rfl, rfl, rfl⟩

end SandboxCall

/-- `ControlServiceError::Execution`, an error of the runtime. -/
@[grind] def ControlServiceError.isExecution : ControlServiceError → Bool
  | .invalidRequest _ => false
  | .notFound _ => false
  | .conflict _ => false
  | .repository _ => false
  | .execution _ => true
  | .lifecycle _ => false

/-- An error of the repository is not one of the runtime. -/
theorem ControlServiceError.isExecution_of_mapError {α : Type} {x : Except RepositoryError α}
    {error : ControlServiceError} (h : x.mapError .repository = .error error) :
    error.isExecution = false := by
  obtain ⟨_, -, rfl⟩ := mapError_eq_error.mp h
  rfl

/-! ## Compare-and-swaps that report their write -/

section Reports

variable {Plan Resources Route Mount : Type}

/-- A compare-and-swap that answers `updated` exactly when it wrote the replacement over a
    stored record, and otherwise leaves the rows. -/
def Reports (cas : CompareAndSwap Plan Resources Route Mount) : Prop :=
  ∀ sandboxId expected replacement rows,
    ((cas sandboxId expected replacement rows).1 = .ok .updated →
      (findKey SandboxRecord.sandboxId sandboxId rows).isSome ∧
        (cas sandboxId expected replacement rows).2 =
          replaceKey SandboxRecord.sandboxId sandboxId replacement rows) ∧
    ((cas sandboxId expected replacement rows).1 ≠ .ok .updated →
      (cas sandboxId expected replacement rows).2 = rows)

theorem MemorySandboxRepository.compareAndSwap_reports :
    Reports (MemorySandboxRepository.compareAndSwap : CompareAndSwap Plan Resources Route Mount) := by
  intro sandboxId expected replacement records
  unfold MemorySandboxRepository.compareAndSwap
  split
  · exact ⟨fun h => (by cases h), fun _ => rfl⟩
  · split
    · exact ⟨fun h => (by cases h), fun _ => rfl⟩
    · rename_i current hfound
      split
      · exact ⟨fun h => (by cases h), fun _ => rfl⟩
      · exact ⟨fun _ => ⟨by rw [hfound]; rfl, rfl⟩, fun h => absurd rfl h⟩

theorem SqliteSandboxRepository.compareAndSwap_reports (validateRoute : Route → Except String Unit)
    (validateMounts : List Mount → Except String Unit) :
    Reports (SqliteSandboxRepository.compareAndSwap validateRoute validateMounts :
      CompareAndSwap Plan Resources Route Mount) := by
  intro sandboxId expected replacement rows
  unfold SqliteSandboxRepository.compareAndSwap
  split
  · exact ⟨fun h => (by cases h), fun _ => rfl⟩
  · split
    · -- the guarded `UPDATE` matched the stored row
      rename_i rows' hupdate
      obtain ⟨⟨current, hfound, -⟩, rfl⟩ := SqliteSandboxRepository.updateAtGeneration_eq_some hupdate
      exact ⟨fun _ => ⟨by rw [hfound]; rfl, rfl⟩, fun h => absurd rfl h⟩
    · split <;> exact ⟨fun h => (by cases h), fun _ => rfl⟩

end Reports

/-! ## Writes of lifecycle successors -/

section Writes

variable {Plan Resources Route Mount : Type}

/-- A lifecycle successor of a record: what one of its lifecycle methods returns from it. -/
def Successor [DecidableEq Plan] (record record' : SandboxRecord Plan Resources Route Mount) : Prop :=
  ∃ (call : SandboxCall Plan Resources) (next : SandboxGeneration), call.apply record = .ok (next, record')

@[grind →] theorem Successor.of_apply [DecidableEq Plan] {call : SandboxCall Plan Resources}
    {next : SandboxGeneration} {record record' : SandboxRecord Plan Resources Route Mount}
    (h : call.apply record = .ok (next, record')) : Successor record record' :=
  ⟨call, next, h⟩

/-- A lifecycle successor has the record's fixed fields. -/
theorem Successor.fixed_eq [DecidableEq Plan] {record record' : SandboxRecord Plan Resources Route Mount}
    (h : Successor record record') : record'.fixed = record.fixed := by
  obtain ⟨call, next, hcall⟩ := h
  exact (SandboxCall.apply_effect hcall).fixed_eq

/-- What a write of the control service other than `set_timeout`'s makes of the record it
    replaces: a lifecycle successor at the same expiry, or at a later one when `refreshed` holds
    of the sandbox. -/
@[grind] def Advances [DecidableEq Plan] (refreshed : SandboxId → Prop)
    (record record' : SandboxRecord Plan Resources Route Mount) : Prop :=
  Successor record record' ∧
    (record'.expiresAt = record.expiresAt ∨
      refreshed record.sandboxId ∧ record.expiresAt < record'.expiresAt)

/-- What a run of such writes keeps of a record it finds: its fixed fields, an expiry no earlier,
    and the same expiry unless `refreshed` holds of its sandbox. -/
def Keeps (refreshed : SandboxId → Prop) (record record' : SandboxRecord Plan Resources Route Mount) :
    Prop :=
  record'.fixed = record.fixed ∧ record.expiresAt ≤ record'.expiresAt ∧
    (¬refreshed record.sandboxId → record'.expiresAt = record.expiresAt)

variable {refreshed : SandboxId → Prop}

theorem Keeps.refl (record : SandboxRecord Plan Resources Route Mount) :
    Keeps refreshed record record :=
  ⟨rfl, le_refl _, fun _ => rfl⟩

theorem Keeps.trans {a b c : SandboxRecord Plan Resources Route Mount} (hab : Keeps refreshed a b)
    (hbc : Keeps refreshed b c) : Keeps refreshed a c := by
  obtain ⟨hfixed, hle, heq⟩ := hab
  obtain ⟨hfixed', hle', heq'⟩ := hbc
  -- the sandbox of `b` is that of `a`, so what `refreshed` says of it is the same
  have hid : b.sandboxId = a.sandboxId := congrArg SandboxRecord.Fixed.sandboxId hfixed
  refine ⟨hfixed'.trans hfixed, le_trans hle hle', fun hnot => ?_⟩
  rw [heq' (hid ▸ hnot), heq hnot]

theorem Advances.keeps [DecidableEq Plan] {a b : SandboxRecord Plan Resources Route Mount}
    (h : Advances refreshed a b) : Keeps refreshed a b := by
  obtain ⟨hsuccessor, hexpiry⟩ := h
  refine ⟨hsuccessor.fixed_eq, ?_, fun hnot => ?_⟩
  · rcases hexpiry with heq | ⟨-, hlt⟩
    · exact heq.ge
    · exact hlt.le
  · rcases hexpiry with heq | ⟨hrefreshed, -⟩
    · exact heq
    · exact absurd hrefreshed hnot

/-- A write over the record stored under the replacement's sandbox, of a replacement that
    `allowed` relates to that record. -/
def Write (allowed : SandboxRecord Plan Resources Route Mount → SandboxRecord Plan Resources Route Mount → Prop)
    (rows rows' : List (SandboxRecord Plan Resources Route Mount)) : Prop :=
  ∃ current replacement,
    findKey SandboxRecord.sandboxId replacement.sandboxId rows = some current ∧
      allowed current replacement ∧
      rows' = replaceKey SandboxRecord.sandboxId replacement.sandboxId replacement rows

/-- A run of such writes. -/
def Writes (allowed : SandboxRecord Plan Resources Route Mount → SandboxRecord Plan Resources Route Mount → Prop)
    (rows rows' : List (SandboxRecord Plan Resources Route Mount)) : Prop :=
  Relation.ReflTransGen (Write allowed) rows rows'

variable {allowed allowed' : SandboxRecord Plan Resources Route Mount → SandboxRecord Plan Resources Route Mount → Prop}
  {rows rows' rows'' : List (SandboxRecord Plan Resources Route Mount)}

@[grind .] theorem Writes.refl (rows : List (SandboxRecord Plan Resources Route Mount)) :
    Writes allowed rows rows :=
  Relation.ReflTransGen.refl

@[grind →] theorem Writes.trans (h : Writes allowed rows rows') (h' : Writes allowed rows' rows'') :
    Writes allowed rows rows'' :=
  Relation.ReflTransGen.trans h h'

@[grind →] theorem Write.writes (h : Write allowed rows rows') : Writes allowed rows rows' :=
  Relation.ReflTransGen.single h

/-- A run of writes of one kind is a run of writes of a wider kind. -/
theorem Writes.mono (hallowed : ∀ a b, allowed a b → allowed' a b) (h : Writes allowed rows rows') :
    Writes allowed' rows rows' := by
  induction h with
  | refl => exact Writes.refl _
  | tail _ hstep ih =>
    obtain ⟨current, replacement, hfound, hallow, rfl⟩ := hstep
    exact ih.trans (Write.writes ⟨current, replacement, hfound, hallowed _ _ hallow, rfl⟩)

variable {K : SandboxRecord Plan Resources Route Mount → SandboxRecord Plan Resources Route Mount → Prop}
  (hrefl : ∀ a, K a a) (hK : ∀ a b, allowed a b → K a b)
include hrefl hK

theorem Write.survives (h : Write allowed rows rows') : Survives SandboxRecord.sandboxId K rows rows' := by
  obtain ⟨current, replacement, hfound, hallow, rfl⟩ := h
  refine survives_replaceKey hrefl rfl fun stored hstored => ?_
  rw [hfound] at hstored
  cases hstored
  exact hK _ _ hallow

/-- A run of writes keeps every stored record, related by `K` to what it was, when `K` holds of
    each write and composes. -/
theorem Writes.survives (htrans : ∀ a b c, K a b → K b c → K a c) (h : Writes allowed rows rows') :
    Survives SandboxRecord.sandboxId K rows rows' := by
  induction h with
  | refl => exact Survives.refl hrefl
  | tail _ hstep ih => exact ih.trans htrans (hstep.survives hrefl hK)

omit hrefl hK

/-- A swap that answers `updated` wrote its replacement over the stored record, which is then
    the replacement; it is a write of `allowed` when `allowed` relates whatever it replaces to
    it. -/
theorem Reports.write {cas : CompareAndSwap Plan Resources Route Mount} (hrep : Reports cas)
    {expected : SandboxGeneration} {replacement : SandboxRecord Plan Resources Route Mount}
    (h : (cas replacement.sandboxId expected replacement rows).1 = .ok .updated)
    (hallowed : ∀ current, findKey SandboxRecord.sandboxId replacement.sandboxId rows = some current →
      allowed current replacement) :
    Write allowed rows (cas replacement.sandboxId expected replacement rows).2 ∧
      findKey SandboxRecord.sandboxId replacement.sandboxId
        (cas replacement.sandboxId expected replacement rows).2 = some replacement := by
  obtain ⟨hsome, hrows⟩ := (hrep _ _ _ _).1 h
  obtain ⟨current, hfound⟩ := Option.isSome_iff_exists.mp hsome
  obtain ⟨hmem, hkey⟩ := findKey_eq_some hfound
  refine ⟨⟨current, replacement, hfound, hallowed current hfound, hrows⟩, ?_⟩
  rw [hrows]
  exact findKey_replaceKey rfl ⟨current, hmem, hkey⟩

end Writes

/-- The runtime resumed the execution a record holds. -/
def ResumedBy {Plan Route Mount : Type} (executions : ExecutionManager Plan ResourceConfig)
    (record : SandboxRecord Plan ResourceConfig Route Mount) : Prop :=
  ∃ executionId generation lease, record.executionId = some executionId ∧
    record.executionGeneration = some generation ∧ executions.resume executionId generation = .ok lease

@[grind →] theorem ResumedBy.intro {Plan Route Mount : Type}
    {executions : ExecutionManager Plan ResourceConfig}
    {record : SandboxRecord Plan ResourceConfig Route Mount} {executionId : ExecutionId}
    {generation : ExecutionGeneration} {lease : ExecutionLease Plan ResourceConfig}
    (hid : record.executionId = some executionId) (hgen : record.executionGeneration = some generation)
    (hresume : executions.resume executionId generation = .ok lease) : ResumedBy executions record :=
  ⟨executionId, generation, lease, hid, hgen, hresume⟩

/-! ## The operations, exactly

Each spec starts from the store `initial`. A read and a lifecycle method end in `initial`, and
`replace` ends in a write of its replacement or, when it fails, in `initial`. Each operation's
proof hands `mvcgen` the specs of the helpers it calls, `replace`'s at the kind of write the
operation makes; what it leaves are conditions on the records the helpers return, which `grind`
closes from the per-call summaries: every write of an operation replaces the record the operation
read, or the one it wrote last. -/

namespace ControlService

variable {Plan Route Mount : Type} [DecidableEq Plan] (service : ControlService Plan Route Mount)

section Exact

variable (hrep : Reports service.repository.compareAndSwap)
  (hget : ∀ sandboxId rows record, service.repository.get sandboxId rows = .ok (some record) →
    findKey SandboxRecord.sandboxId sandboxId rows = some record)
  (initial : List (SandboxRecord Plan ResourceConfig Route Mount))

omit [DecidableEq Plan] in
include hget in
theorem getRecord_stored (sandboxId : SandboxId) :
    ⦃fun s => ⌜s = initial⌝⦄
    service.getRecord sandboxId
    ⦃post⟨fun found s => ⌜s = initial ∧
        (found.isSome → findKey SandboxRecord.sandboxId sandboxId initial = found)⌝,
      fun error s => ⌜s = initial ∧ error.isExecution = false⌝⟩⦄ := by
  mvcgen [getRecord, ofExcept]
  · rename_i rows hrows found hfound
    subst hrows
    refine ⟨rfl, fun hsome => ?_⟩
    obtain ⟨record, rfl⟩ := Option.isSome_iff_exists.mp hsome
    exact hget sandboxId rows record (mapError_eq_ok.mp hfound)
  · rename_i rows hrows error herror
    exact ⟨hrows, ControlServiceError.isExecution_of_mapError herror⟩

theorem lifecycle_summary (call : SandboxCall Plan ResourceConfig)
    (record : SandboxRecord Plan ResourceConfig Route Mount) :
    ⦃fun s => ⌜s = initial⌝⦄
    lifecycle call record
    ⦃post⟨fun record' s => ⌜s = initial ∧ Successor record record' ∧
        record'.sandboxId = record.sandboxId ∧
        record'.state = call.target record.state ∧
        record'.expiresAt = call.expiryAfter record.expiresAt ∧
        record'.pausedWithMemory = call.memoryAfter record.pausedWithMemory⌝,
      fun error s => ⌜s = initial ∧ error.isExecution = false⌝⟩⦄ := by
  mvcgen [lifecycle]
  rename_i next record' hcall rows hrows
  exact ⟨hrows, Successor.of_apply hcall,
    congrArg SandboxRecord.Fixed.sandboxId (SandboxCall.apply_effect hcall).fixed_eq,
    SandboxCall.apply_summary hcall⟩

omit [DecidableEq Plan] in
include hrep in
theorem replace_writes
    (allowed : SandboxRecord Plan ResourceConfig Route Mount →
      SandboxRecord Plan ResourceConfig Route Mount → Prop)
    (expected : SandboxGeneration) (replacement : SandboxRecord Plan ResourceConfig Route Mount) :
    ⦃fun s => ⌜s = initial ∧ ∀ current,
      findKey SandboxRecord.sandboxId replacement.sandboxId initial = some current →
        allowed current replacement⌝⦄
    service.replace expected replacement
    ⦃post⟨fun _ s => ⌜Write allowed initial s ∧
        findKey SandboxRecord.sandboxId replacement.sandboxId s = some replacement⌝,
      fun error s => ⌜s = initial ∧ error.isExecution = false⌝⟩⦄ := by
  mvcgen [replace, compareAndSwap, ofExcept]
  · -- `updated`: the write the repository reports
    rename_i rows hpre swapped result hresult hupdated
    obtain ⟨rfl, hallowed⟩ := hpre
    exact hrep.write (hupdated ▸ mapError_eq_ok.mp hresult) hallowed
  -- any other answer writes nothing
  · rename_i rows hpre swapped result hresult hnotFound
    refine ⟨hpre.1 ▸ (hrep _ _ _ _).2 ?_, rfl⟩
    rw [mapError_eq_ok.mp hresult, hnotFound]
    exact fun h => by cases h
  · rename_i rows hpre swapped result hresult generation hconflict
    refine ⟨hpre.1 ▸ (hrep _ _ _ _).2 ?_, rfl⟩
    rw [mapError_eq_ok.mp hresult, hconflict]
    exact fun h => by cases h
  · rename_i rows hpre swapped error herror
    obtain ⟨_, hswap, rfl⟩ := mapError_eq_error.mp herror
    refine ⟨hpre.1 ▸ (hrep _ _ _ _).2 ?_, rfl⟩
    rw [hswap]
    exact fun h => by cases h

omit [DecidableEq Plan] in
include hget in
theorem requireVisible_stored (ownerId : String) (sandboxId : SandboxId) :
    ⦃fun s => ⌜s = initial⌝⦄
    service.requireVisible ownerId sandboxId
    ⦃post⟨fun record s => ⌜s = initial ∧
        findKey SandboxRecord.sandboxId sandboxId initial = some record ∧
        record.ownerId = ownerId ∧ record.publicState?.isNone = false⌝,
      fun error s => ⌜s = initial ∧ error.isExecution = false⌝⟩⦄ := by
  have hgetRecord := getRecord_stored service hget
  mvcgen [requireVisible, hgetRecord]
  all_goals grind

include hrep hget in
/-- `set_timeout` writes a lifecycle successor, at the caller's expiry. -/
theorem setTimeout_outcome (ownerId : String) (sandboxId : SandboxId) (timeoutSeconds : Nat) :
    ⦃fun s => ⌜s = initial⌝⦄
    service.setTimeout ownerId sandboxId timeoutSeconds
    ⦃post⟨fun _ s => ⌜Writes Successor initial s⌝, fun _ s => ⌜Writes Successor initial s⌝⟩⦄ := by
  have hrequireVisible := requireVisible_stored service hget
  have hlifecycle := @lifecycle_summary Plan Route Mount _
  have hreplace := fun initial => replace_writes service hrep initial Successor
  mvcgen [setTimeout, ofExcept, hrequireVisible, hlifecycle, hreplace]
  all_goals grind [→ findKey_eq_some]

/-! The other operations write `Advances refreshed`, for any `refreshed` that holds of the
sandbox of a `connect`, `resume` or `refresh_timeout`. -/

variable (refreshed : SandboxId → Prop)

include hrep hget in
theorem pause_outcome (ownerId : String) (sandboxId : SandboxId) (keepMemory : Bool) :
    ⦃fun s => ⌜s = initial⌝⦄
    service.pause ownerId sandboxId keepMemory
    ⦃post⟨fun _ s => ⌜Writes (Advances refreshed) initial s ∧
        (findKey SandboxRecord.sandboxId sandboxId s).isSome ∧
        ∀ record, findKey SandboxRecord.sandboxId sandboxId s = some record →
          record.state = .paused ∧ record.pausedWithMemory = keepMemory⌝,
      fun error s => ⌜Writes (Advances refreshed) initial s ∧ (error.isExecution →
        (findKey SandboxRecord.sandboxId sandboxId s).isSome ∧
        ∀ record, findKey SandboxRecord.sandboxId sandboxId s = some record →
          record.state = .running)⌝⟩⦄ := by
  have hrequireVisible := requireVisible_stored service hget
  have hlifecycle := @lifecycle_summary Plan Route Mount _
  have hreplace := fun initial => replace_writes service hrep initial (Advances refreshed)
  mvcgen [pause, ofExcept, hrequireVisible, hlifecycle, hreplace]
  -- the record found under `sandboxId` has that id, and each write keeps it: a replacement is
  -- found where its predecessor was
  all_goals grind [→ findKey_eq_some]

include hrep in
theorem resumePaused_outcome (sandboxId : SandboxId)
    (record : SandboxRecord Plan ResourceConfig Route Mount) :
    ⦃fun s => ⌜s = initial ∧ findKey SandboxRecord.sandboxId sandboxId initial = some record⌝⦄
    service.resumePaused sandboxId record
    ⦃post⟨fun record' s => ⌜Writes (Advances refreshed) initial s ∧
        findKey SandboxRecord.sandboxId sandboxId s = some record' ∧ record'.state = .running ∧
        ResumedBy service.executions record⌝,
      fun _ s => ⌜Writes (Advances refreshed) initial s⌝⟩⦄ := by
  have hlifecycle := @lifecycle_summary Plan Route Mount _
  have hreplace := fun initial => replace_writes service hrep initial (Advances refreshed)
  mvcgen [resumePaused, ofExcept, hlifecycle, hreplace]
  -- the execution it resumed is the one the record holds
  all_goals grind [→ findKey_eq_some, okOr_eq_ok]

include hrep hget in
theorem connect_outcome (ownerId : String) (sandboxId : SandboxId) (timeoutSeconds : Nat)
    (hrefreshed : refreshed sandboxId) :
    ⦃fun s => ⌜s = initial⌝⦄
    service.connect ownerId sandboxId timeoutSeconds
    ⦃post⟨fun connection s => ⌜Writes (Advances refreshed) initial s ∧
        findKey SandboxRecord.sandboxId sandboxId s = some connection.1 ∧
        connection.1.state = .running ∧
        (∀ expiry, service.expiryFrom timeoutSeconds = .ok expiry → expiry ≤ connection.1.expiresAt) ∧
        ∀ current, findKey SandboxRecord.sandboxId sandboxId initial = some current →
          (connection.2 = .alreadyRunning ↔ current.state = .running) ∧
          (connection.2 = .resumed ↔ current.state = .paused) ∧
          (connection.2 = .resumed → ResumedBy service.executions current)⌝,
      fun _ s => ⌜Writes (Advances refreshed) initial s⌝⟩⦄ := by
  have hrequireVisible := requireVisible_stored service hget
  have hresumePaused := fun initial => resumePaused_outcome service hrep initial refreshed
  have hlifecycle := @lifecycle_summary Plan Route Mount _
  have hreplace := fun initial => replace_writes service hrep initial (Advances refreshed)
  mvcgen [connect, ofExcept, hrequireVisible, hresumePaused, hlifecycle, hreplace]
  all_goals grind [→ findKey_eq_some]

include hrep hget in
theorem kill_outcome (ownerId : String) (sandboxId : SandboxId) :
    ⦃fun s => ⌜s = initial⌝⦄
    service.kill ownerId sandboxId
    ⦃post⟨fun killed s => ⌜Writes (Advances refreshed) initial s ∧ (killed = false → s = initial) ∧
        (killed = true → (findKey SandboxRecord.sandboxId sandboxId s).isSome ∧
          ∀ record, findKey SandboxRecord.sandboxId sandboxId s = some record →
            record.state = .killed)⌝,
      fun error s => ⌜Writes (Advances refreshed) initial s ∧ (error.isExecution →
        (findKey SandboxRecord.sandboxId sandboxId s).isSome ∧
        ∀ record, findKey SandboxRecord.sandboxId sandboxId s = some record →
          record.state = .killing)⌝⟩⦄ := by
  have hgetRecord := getRecord_stored service hget
  have hlifecycle := @lifecycle_summary Plan Route Mount _
  have hreplace := fun initial => replace_writes service hrep initial (Advances refreshed)
  mvcgen [kill, ofExcept, hgetRecord, hlifecycle, hreplace]
  all_goals grind [→ findKey_eq_some]

include hrep hget in
theorem resume_outcome (ownerId : String) (sandboxId : SandboxId) (timeoutSeconds : Nat)
    (autoPause : Bool) (hrefreshed : refreshed sandboxId) :
    ⦃fun s => ⌜s = initial⌝⦄
    service.resume ownerId sandboxId timeoutSeconds autoPause
    ⦃post⟨fun connection s => ⌜Writes (Advances refreshed) initial s ∧
        findKey SandboxRecord.sandboxId sandboxId s = some connection.1 ∧
        connection.1.state = .running ∧
        ∀ expiry, service.expiryFrom timeoutSeconds = .ok expiry → expiry ≤ connection.1.expiresAt⌝,
      fun _ s => ⌜Writes (Advances refreshed) initial s⌝⟩⦄ := by
  have hrequireVisible := requireVisible_stored service hget
  have hconnect := fun initial =>
    connect_outcome service hrep hget initial refreshed ownerId sandboxId timeoutSeconds hrefreshed
  mvcgen [resume, hrequireVisible, hconnect]
  all_goals grind [→ findKey_eq_some]

include hrep hget in
theorem refreshTimeout_outcome (ownerId : String) (sandboxId : SandboxId) (timeoutSeconds : Nat)
    (hrefreshed : refreshed sandboxId) :
    ⦃fun s => ⌜s = initial⌝⦄
    service.refreshTimeout ownerId sandboxId timeoutSeconds
    ⦃post⟨fun _ s => ⌜Writes (Advances refreshed) initial s ∧
        (findKey SandboxRecord.sandboxId sandboxId s).isSome ∧
        ∀ record, findKey SandboxRecord.sandboxId sandboxId s = some record →
          ∀ expiry, service.expiryFrom timeoutSeconds = .ok expiry → expiry ≤ record.expiresAt⌝,
      fun _ s => ⌜Writes (Advances refreshed) initial s⌝⟩⦄ := by
  have hrequireVisible := requireVisible_stored service hget
  have hlifecycle := @lifecycle_summary Plan Route Mount _
  have hreplace := fun initial => replace_writes service hrep initial (Advances refreshed)
  mvcgen [refreshTimeout, ofExcept, hrequireVisible, hlifecycle, hreplace]
  all_goals grind [→ findKey_eq_some]

end Exact

end ControlService

/-! ## Runs of calls -/

/-- Whether the call is `set_timeout`, the one call whose write may bring an expiry forward. -/
def ServiceCall.setsTimeout : ServiceCall → Bool
  | .pause _ _ _ => false
  | .kill _ _ => false
  | .connect _ _ _ => false
  | .resume _ _ _ _ => false
  | .setTimeout _ _ _ => true
  | .refreshTimeout _ _ _ => false

/-- Whether the call may move the expiry of the sandbox `sandboxId` later: a `connect`, `resume`
    or `refresh_timeout` of that sandbox. -/
def ServiceCall.refreshes : ServiceCall → SandboxId → Bool
  | .pause _ _ _, _ => false
  | .kill _ _, _ => false
  | .connect _ target _, sandboxId => target == sandboxId
  | .resume _ target _ _, sandboxId => target == sandboxId
  | .setTimeout _ _ _, _ => false
  | .refreshTimeout _ target _, sandboxId => target == sandboxId

/-- A record stored for a sandbox, from its presence and what every stored record satisfies. -/
theorem exists_stored {Plan Resources Route Mount : Type}
    {rows : List (SandboxRecord Plan Resources Route Mount)} {sandboxId : SandboxId}
    {P : SandboxRecord Plan Resources Route Mount → Prop}
    (hsome : (findKey SandboxRecord.sandboxId sandboxId rows).isSome)
    (hall : ∀ record, findKey SandboxRecord.sandboxId sandboxId rows = some record → P record) :
    ∃ record, findKey SandboxRecord.sandboxId sandboxId rows = some record ∧ P record := by
  obtain ⟨record, hrecord⟩ := Option.isSome_iff_exists.mp hsome
  exact ⟨record, hrecord, hall record hrecord⟩

namespace ControlService

variable {Plan Route Mount : Type} [DecidableEq Plan] {service : ControlService Plan Route Mount}
  (hrep : Reports service.repository.compareAndSwap)
  (hget : ∀ sandboxId rows record, service.repository.get sandboxId rows = .ok (some record) →
    findKey SandboxRecord.sandboxId sandboxId rows = some record)
include hrep hget

/-- A call other than `set_timeout`, from every store and whatever it returns, is a run of writes
    of lifecycle successors that keep every expiry but that of a sandbox the call refreshes, which
    they may move later. -/
theorem call_advances (call : ServiceCall) (hcall : call.setsTimeout = false)
    (refreshed : SandboxId → Prop)
    (hrefreshed : ∀ sandboxId, call.refreshes sandboxId = true → refreshed sandboxId)
    (rows : List (SandboxRecord Plan ResourceConfig Route Mount)) :
    Writes (Advances refreshed) rows (service.call call rows) := by
  cases call with
  | pause ownerId sandboxId keepMemory =>
    exact triple_run_state_of
      (pause_outcome service hrep hget rows refreshed ownerId sandboxId keepMemory)
      (fun _ _ h => h.1) (fun _ _ h => h.1) rfl
  | kill ownerId sandboxId =>
    exact triple_run_state_of (kill_outcome service hrep hget rows refreshed ownerId sandboxId)
      (fun _ _ h => h.1) (fun _ _ h => h.1) rfl
  | connect ownerId sandboxId timeoutSeconds =>
    -- the sandbox a call connects to is one it refreshes
    have hown := hrefreshed sandboxId (by simp [ServiceCall.refreshes])
    exact triple_run_state_of
      (connect_outcome service hrep hget rows refreshed ownerId sandboxId timeoutSeconds hown)
      (fun _ _ h => h.1) (fun _ _ h => h) rfl
  | resume ownerId sandboxId timeoutSeconds autoPause =>
    have hown := hrefreshed sandboxId (by simp [ServiceCall.refreshes])
    exact triple_run_state_of
      (resume_outcome service hrep hget rows refreshed ownerId sandboxId timeoutSeconds autoPause hown)
      (fun _ _ h => h.1) (fun _ _ h => h) rfl
  | setTimeout ownerId sandboxId timeoutSeconds => cases hcall
  | refreshTimeout ownerId sandboxId timeoutSeconds =>
    have hown := hrefreshed sandboxId (by simp [ServiceCall.refreshes])
    exact triple_run_state_of
      (refreshTimeout_outcome service hrep hget rows refreshed ownerId sandboxId timeoutSeconds hown)
      (fun _ _ h => h.1) (fun _ _ h => h) rfl

/-- A sequence of calls without `set_timeout` is a run of such writes, where only a call that
    refreshes a sandbox moves its expiry. -/
theorem callAll_advances (calls : List ServiceCall)
    (hcalls : ∀ call ∈ calls, call.setsTimeout = false) (refreshed : SandboxId → Prop)
    (hrefreshed : ∀ call ∈ calls, ∀ sandboxId, call.refreshes sandboxId = true → refreshed sandboxId)
    (rows : List (SandboxRecord Plan ResourceConfig Route Mount)) :
    Writes (Advances refreshed) rows (service.callAll calls rows) := by
  induction calls generalizing rows with
  | nil => exact Writes.refl rows
  | cons call calls ih =>
    exact (call_advances hrep hget call (hcalls call List.mem_cons_self) refreshed
        (hrefreshed call List.mem_cons_self) rows).trans
      (ih (fun call' hcall' => hcalls call' (List.mem_cons_of_mem call hcall'))
        (fun call' hcall' => hrefreshed call' (List.mem_cons_of_mem call hcall')) (service.call call rows))

/-- Every call, from every store and whatever it returns, is a run of writes of lifecycle
    successors. -/
theorem call_successors (call : ServiceCall) (rows : List (SandboxRecord Plan ResourceConfig Route Mount)) :
    Writes Successor rows (service.call call rows) := by
  cases call with
  | setTimeout ownerId sandboxId timeoutSeconds =>
    exact triple_run_state (setTimeout_outcome service hrep hget rows ownerId sandboxId timeoutSeconds) rfl
  | _ =>
    -- the other calls write successors, at whatever expiry
    exact (call_advances hrep hget _ rfl (fun _ => True) (fun _ _ => trivial) rows).mono
      fun _ _ h => h.1

/-- Every sequence of calls is a run of writes of lifecycle successors. -/
theorem callAll_successors (calls : List ServiceCall)
    (rows : List (SandboxRecord Plan ResourceConfig Route Mount)) :
    Writes Successor rows (service.callAll calls rows) := by
  induction calls generalizing rows with
  | nil => exact Writes.refl rows
  | cons call calls ih => exact (call_successors hrep hget call rows).trans (ih (service.call call rows))

/-- A sequence of calls without `set_timeout` keeps every stored record, with its fixed fields,
    an expiry no earlier, and the same expiry unless a call of the sequence refreshes its
    sandbox. -/
theorem callAll_keep_expiry (calls : List ServiceCall)
    (hcalls : ∀ call ∈ calls, call.setsTimeout = false)
    (rows : List (SandboxRecord Plan ResourceConfig Route Mount)) (sandboxId : SandboxId)
    (record : SandboxRecord Plan ResourceConfig Route Mount)
    (hfound : findKey SandboxRecord.sandboxId sandboxId rows = some record) :
    ∃ record', findKey SandboxRecord.sandboxId sandboxId (service.callAll calls rows) = some record' ∧
      record'.fixed = record.fixed ∧ record.expiresAt ≤ record'.expiresAt ∧
      ((∀ call ∈ calls, call.refreshes sandboxId = false) → record'.expiresAt = record.expiresAt) := by
  have hwrites := callAll_advances hrep hget calls hcalls
    (fun sandboxId => ∃ call ∈ calls, call.refreshes sandboxId = true)
    (fun call hcall _ hrefresh => ⟨call, hcall, hrefresh⟩) rows
  obtain ⟨record', hfound', hfixed, hle, heq⟩ :=
    hwrites.survives Keeps.refl (fun _ _ h => h.keeps) (fun _ _ _ => Keeps.trans) sandboxId record hfound
  refine ⟨record', hfound', hfixed, hle, fun hnone => heq ?_⟩
  -- no call refreshes the record's sandbox, which is `sandboxId`
  rintro ⟨call, hcall, hrefresh⟩
  rw [(findKey_eq_some hfound).2, hnone call hcall] at hrefresh
  cases hrefresh

end ControlService

/-! ## What `pause`, `connect` and `kill` promise -/

section Promises

variable {Plan Route Mount : Type}

/-- What a run of `pause` promises: when it returns, the sandbox's record is paused with the
    memory asked for; when the runtime fails, the record is running again. -/
def PauseEnds (sandboxId : SandboxId) (keepMemory : Bool)
    (run : Except ControlServiceError Unit × List (SandboxRecord Plan ResourceConfig Route Mount)) :
    Prop :=
  (run.1 = .ok () → ∃ record, findKey SandboxRecord.sandboxId sandboxId run.2 = some record ∧
      record.state = .paused ∧ record.pausedWithMemory = keepMemory) ∧
    ∀ failure, run.1 = .error (.execution failure) →
      ∃ record, findKey SandboxRecord.sandboxId sandboxId run.2 = some record ∧
        record.state = .running

/-- What a run of `connect` from `rows` promises when it returns: the record it returns is the
    one stored for the sandbox, running, with an expiry no earlier than the `requested` one; it
    answers `AlreadyRunning` exactly when the record it found was running, and `Resumed` exactly
    when that record was paused, after `executions` resumed its execution. -/
def ConnectEnds (executions : ExecutionManager Plan ResourceConfig) (sandboxId : SandboxId)
    (requested : Except ControlServiceError Timestamp)
    (rows : List (SandboxRecord Plan ResourceConfig Route Mount))
    (run : Except ControlServiceError (SandboxRecord Plan ResourceConfig Route Mount ×
      ConnectionDisposition) × List (SandboxRecord Plan ResourceConfig Route Mount)) : Prop :=
  ∀ record disposition, run.1 = .ok (record, disposition) →
    findKey SandboxRecord.sandboxId sandboxId run.2 = some record ∧ record.state = .running ∧
      (∀ expiry, requested = .ok expiry → expiry ≤ record.expiresAt) ∧
      ∀ current, findKey SandboxRecord.sandboxId sandboxId rows = some current →
        (disposition = .alreadyRunning ↔ current.state = .running) ∧
        (disposition = .resumed ↔ current.state = .paused) ∧
        (disposition = .resumed → ResumedBy executions current)

/-- What a run of `kill` from `rows` promises: `true` leaves the record killed, `false` leaves
    the rows, and a failure of the runtime leaves the record killing, for the supervisor's
    `finish_kill`. -/
def KillEnds (sandboxId : SandboxId) (rows : List (SandboxRecord Plan ResourceConfig Route Mount))
    (run : Except ControlServiceError Bool × List (SandboxRecord Plan ResourceConfig Route Mount)) :
    Prop :=
  (run.1 = .ok true → ∃ record, findKey SandboxRecord.sandboxId sandboxId run.2 = some record ∧
      record.state = .killed) ∧
    (run.1 = .ok false → run.2 = rows) ∧
    ∀ failure, run.1 = .error (.execution failure) →
      ∃ record, findKey SandboxRecord.sandboxId sandboxId run.2 = some record ∧
        record.state = .killing

end Promises

namespace ControlService

variable {Plan Route Mount : Type} [DecidableEq Plan] {service : ControlService Plan Route Mount}
  (hrep : Reports service.repository.compareAndSwap)
  (hget : ∀ sandboxId rows record, service.repository.get sandboxId rows = .ok (some record) →
    findKey SandboxRecord.sandboxId sandboxId rows = some record)
  (rows : List (SandboxRecord Plan ResourceConfig Route Mount))
include hrep hget

theorem pause_ends (ownerId : String) (sandboxId : SandboxId) (keepMemory : Bool) :
    PauseEnds sandboxId keepMemory ((service.pause ownerId sandboxId keepMemory).run.run rows) := by
  obtain ⟨hok, herr⟩ := triple_run (pause_outcome service hrep hget rows (fun _ => False) ownerId sandboxId keepMemory) rfl
  refine ⟨fun hpaused => ?_, fun failure hfailed => ?_⟩
  · obtain ⟨-, hsome, hall⟩ := hok () hpaused
    exact exists_stored hsome hall
  · obtain ⟨-, hrunning⟩ := herr _ hfailed
    obtain ⟨hsome, hall⟩ := hrunning rfl
    exact exists_stored hsome hall

theorem connect_ends (ownerId : String) (sandboxId : SandboxId) (timeoutSeconds : Nat) :
    ConnectEnds service.executions sandboxId (service.expiryFrom timeoutSeconds) rows
      ((service.connect ownerId sandboxId timeoutSeconds).run.run rows) := by
  obtain ⟨hok, -⟩ := triple_run (connect_outcome service hrep hget rows (fun _ => True) ownerId sandboxId timeoutSeconds trivial) rfl
  intro record disposition hconnected
  exact (hok _ hconnected).2

theorem kill_ends (ownerId : String) (sandboxId : SandboxId) :
    KillEnds sandboxId rows ((service.kill ownerId sandboxId).run.run rows) := by
  obtain ⟨hok, herr⟩ := triple_run (kill_outcome service hrep hget rows (fun _ => False) ownerId sandboxId) rfl
  refine ⟨fun hkilled => ?_, fun hleft => (hok false hleft).2.1 rfl, fun failure hfailed => ?_⟩
  · obtain ⟨hsome, hall⟩ := (hok true hkilled).2.2 rfl
    exact exists_stored hsome hall
  · obtain ⟨hsome, hall⟩ := (herr _ hfailed).2 rfl
    exact exists_stored hsome hall

end ControlService

/-! ## The memory and the SQLite repository -/

section Repositories

variable {Plan Route Mount : Type} [DecidableEq Plan] {service : ControlService Plan Route Mount}

omit [DecidableEq Plan] in
theorem MemorySandboxRepository.service_reports
    (hrepo : service.repository = MemorySandboxRepository.serviceRepository) :
    Reports service.repository.compareAndSwap := by
  rw [hrepo]
  exact MemorySandboxRepository.compareAndSwap_reports

omit [DecidableEq Plan] in
theorem MemorySandboxRepository.service_get
    (hrepo : service.repository = MemorySandboxRepository.serviceRepository)
    (sandboxId : SandboxId) (rows : List (SandboxRecord Plan ResourceConfig Route Mount))
    (record : SandboxRecord Plan ResourceConfig Route Mount)
    (h : service.repository.get sandboxId rows = .ok (some record)) :
    findKey SandboxRecord.sandboxId sandboxId rows = some record :=
  MemorySandboxRepository.get_found (hrepo ▸ h)

omit [DecidableEq Plan] in
theorem SqliteSandboxRepository.service_reports {validateRoute : Route → Except String Unit}
    {validateMounts : List Mount → Except String Unit} {Day : Type} [LinearOrder Day]
    {julianday : Timestamp → Day}
    (hrepo : service.repository =
      SqliteSandboxRepository.serviceRepository validateRoute validateMounts julianday) :
    Reports service.repository.compareAndSwap := by
  rw [hrepo]
  exact SqliteSandboxRepository.compareAndSwap_reports validateRoute validateMounts

omit [DecidableEq Plan] in
theorem SqliteSandboxRepository.service_get {validateRoute : Route → Except String Unit}
    {validateMounts : List Mount → Except String Unit} {Day : Type} [LinearOrder Day]
    {julianday : Timestamp → Day}
    (hrepo : service.repository =
      SqliteSandboxRepository.serviceRepository validateRoute validateMounts julianday)
    (sandboxId : SandboxId) (rows : List (SandboxRecord Plan ResourceConfig Route Mount))
    (record : SandboxRecord Plan ResourceConfig Route Mount)
    (h : service.repository.get sandboxId rows = .ok (some record)) :
    findKey SandboxRecord.sandboxId sandboxId rows = some record :=
  SqliteSandboxRepository.get_found (hrepo ▸ h)

end Repositories

/-! ## The service over its repositories -/

/-- The control service over the memory and the SQLite repository: every sequence of calls of
    its lifecycle API (`pause`, `kill`, `connect`, `resume`, `set_timeout`, `refresh_timeout`),
    from every store and whatever each call returns, changes the store only by compare-and-swaps
    of records with the fixed fields of those they replace, and each of its writes replaces the
    record stored under its id by a lifecycle successor of it. -/
theorem service_calls_swap {Plan Route Mount : Type} [DecidableEq Plan] :
    (∀ service : ControlService Plan Route Mount,
      service.repository = MemorySandboxRepository.serviceRepository →
      ∀ calls rows, Swaps service.repository.compareAndSwap rows (service.callAll calls rows) ∧
        Writes Successor rows (service.callAll calls rows)) ∧
    (∀ (validateRoute : Route → Except String Unit) (validateMounts : List Mount → Except String Unit)
      (Day : Type) [LinearOrder Day] (julianday : Timestamp → Day)
      (service : ControlService Plan Route Mount),
      service.repository = SqliteSandboxRepository.serviceRepository validateRoute validateMounts julianday →
      ∀ calls rows, Swaps service.repository.compareAndSwap rows (service.callAll calls rows) ∧
        Writes Successor rows (service.callAll calls rows)) := by
  constructor
  · intro service hrepo calls rows
    exact ⟨ControlService.callAll_swaps (hrepo ▸ memory_overwrites)
        (MemorySandboxRepository.service_get hrepo) calls rows,
      ControlService.callAll_successors (MemorySandboxRepository.service_reports hrepo)
        (MemorySandboxRepository.service_get hrepo) calls rows⟩
  · intro validateRoute validateMounts Day _ julianday service hrepo calls rows
    exact ⟨ControlService.callAll_swaps (hrepo ▸ sqlite_overwrites validateRoute validateMounts)
        (SqliteSandboxRepository.service_get hrepo) calls rows,
      ControlService.callAll_successors (SqliteSandboxRepository.service_reports hrepo)
        (SqliteSandboxRepository.service_get hrepo) calls rows⟩

/-- The refused pause of `sbx-r` is written and undone: two compare-and-swaps of lifecycle
    successors. -/
theorem stopped_pause_swaps :
    Swaps stoppedService.repository.compareAndSwap [reconciledRecord]
        (stoppedService.callAll [ownerPause] [reconciledRecord]) ∧
      Writes Successor [reconciledRecord] (stoppedService.callAll [ownerPause] [reconciledRecord]) :=
  service_calls_swap.1 stoppedService rfl [ownerPause] [reconciledRecord]

/-- The control service over the memory and the SQLite repository: every sequence of calls
    without `set_timeout`, from every store and whatever each call returns, keeps every stored
    record, with its fixed fields and an expiry no earlier; the expiry stays the same unless a
    call of the sequence is a `connect`, `resume` or `refresh_timeout` of its sandbox. -/
theorem service_calls_keep_expiry {Plan Route Mount : Type} [DecidableEq Plan] :
    (∀ service : ControlService Plan Route Mount,
      service.repository = MemorySandboxRepository.serviceRepository →
      ∀ calls, (∀ call ∈ calls, call.setsTimeout = false) →
      ∀ rows sandboxId record, findKey SandboxRecord.sandboxId sandboxId rows = some record →
        ∃ record', findKey SandboxRecord.sandboxId sandboxId (service.callAll calls rows) = some record' ∧
          record'.fixed = record.fixed ∧ record.expiresAt ≤ record'.expiresAt ∧
          ((∀ call ∈ calls, call.refreshes sandboxId = false) → record'.expiresAt = record.expiresAt)) ∧
    (∀ (validateRoute : Route → Except String Unit) (validateMounts : List Mount → Except String Unit)
      (Day : Type) [LinearOrder Day] (julianday : Timestamp → Day)
      (service : ControlService Plan Route Mount),
      service.repository = SqliteSandboxRepository.serviceRepository validateRoute validateMounts julianday →
      ∀ calls, (∀ call ∈ calls, call.setsTimeout = false) →
      ∀ rows sandboxId record, findKey SandboxRecord.sandboxId sandboxId rows = some record →
        ∃ record', findKey SandboxRecord.sandboxId sandboxId (service.callAll calls rows) = some record' ∧
          record'.fixed = record.fixed ∧ record.expiresAt ≤ record'.expiresAt ∧
          ((∀ call ∈ calls, call.refreshes sandboxId = false) → record'.expiresAt = record.expiresAt)) := by
  constructor
  · intro service hrepo calls hcalls rows sandboxId record hfound
    exact ControlService.callAll_keep_expiry (MemorySandboxRepository.service_reports hrepo)
      (MemorySandboxRepository.service_get hrepo) calls hcalls rows sandboxId record hfound
  · intro validateRoute validateMounts Day _ julianday service hrepo calls hcalls rows sandboxId record
      hfound
    exact ControlService.callAll_keep_expiry (SqliteSandboxRepository.service_reports hrepo)
      (SqliteSandboxRepository.service_get hrepo) calls hcalls rows sandboxId record hfound

/-- The refused pause of `sbx-r` keeps its record, and its expiry. -/
theorem stopped_pause_keeps_expiry :
    (∀ call ∈ [ownerPause], call.setsTimeout = false) ∧
      findKey SandboxRecord.sandboxId reconciledRecord.sandboxId [reconciledRecord] =
        some reconciledRecord ∧
      ∃ record', findKey SandboxRecord.sandboxId reconciledRecord.sandboxId
          (stoppedService.callAll [ownerPause] [reconciledRecord]) = some record' ∧
        record'.fixed = reconciledRecord.fixed ∧ reconciledRecord.expiresAt ≤ record'.expiresAt ∧
        ((∀ call ∈ [ownerPause], call.refreshes reconciledRecord.sandboxId = false) →
          record'.expiresAt = reconciledRecord.expiresAt) :=
  have hcalls : ∀ call ∈ [ownerPause], call.setsTimeout = false := by decide
  have hfound : findKey SandboxRecord.sandboxId reconciledRecord.sandboxId [reconciledRecord] =
      some reconciledRecord := rfl
  ⟨hcalls, hfound, service_calls_keep_expiry.1 stoppedService rfl [ownerPause] hcalls
    [reconciledRecord] _ _ hfound⟩

/-- `pause` over the memory and the SQLite repository, from every store: when it returns, the
    sandbox's record is paused with the memory asked for; when the runtime fails, the record is
    running again. -/
theorem pause_ends_paused_or_running {Plan Route Mount : Type} [DecidableEq Plan] :
    (∀ service : ControlService Plan Route Mount,
      service.repository = MemorySandboxRepository.serviceRepository →
      ∀ ownerId sandboxId keepMemory rows,
        PauseEnds sandboxId keepMemory ((service.pause ownerId sandboxId keepMemory).run.run rows)) ∧
    (∀ (validateRoute : Route → Except String Unit) (validateMounts : List Mount → Except String Unit)
      (Day : Type) [LinearOrder Day] (julianday : Timestamp → Day)
      (service : ControlService Plan Route Mount),
      service.repository = SqliteSandboxRepository.serviceRepository validateRoute validateMounts julianday →
      ∀ ownerId sandboxId keepMemory rows,
        PauseEnds sandboxId keepMemory ((service.pause ownerId sandboxId keepMemory).run.run rows)) := by
  constructor
  · intro service hrepo ownerId sandboxId keepMemory rows
    exact ControlService.pause_ends (MemorySandboxRepository.service_reports hrepo)
      (MemorySandboxRepository.service_get hrepo) rows ownerId sandboxId keepMemory
  · intro validateRoute validateMounts Day _ julianday service hrepo ownerId sandboxId keepMemory rows
    exact ControlService.pause_ends (SqliteSandboxRepository.service_reports hrepo)
      (SqliteSandboxRepository.service_get hrepo) rows ownerId sandboxId keepMemory

/-- The refused pause of `sbx-r` leaves it running. -/
theorem stopped_pause_ends :
    PauseEnds reconciledRecord.sandboxId true
      ((stoppedService.pause "owner" reconciledRecord.sandboxId true).run.run [reconciledRecord]) :=
  pause_ends_paused_or_running.1 stoppedService rfl "owner" reconciledRecord.sandboxId true
    [reconciledRecord]

/-- `connect` over the memory and the SQLite repository, from every store: what it returns is
    the record stored for the sandbox, running, with an expiry no earlier than the one asked for;
    it answers `AlreadyRunning` exactly when the record it found was running, and `Resumed`
    exactly when that record was paused, after the runtime resumed its execution. -/
theorem connect_returns_running_record {Plan Route Mount : Type} [DecidableEq Plan] :
    (∀ service : ControlService Plan Route Mount,
      service.repository = MemorySandboxRepository.serviceRepository →
      ∀ ownerId sandboxId timeoutSeconds rows,
        ConnectEnds service.executions sandboxId (service.expiryFrom timeoutSeconds) rows
          ((service.connect ownerId sandboxId timeoutSeconds).run.run rows)) ∧
    (∀ (validateRoute : Route → Except String Unit) (validateMounts : List Mount → Except String Unit)
      (Day : Type) [LinearOrder Day] (julianday : Timestamp → Day)
      (service : ControlService Plan Route Mount),
      service.repository = SqliteSandboxRepository.serviceRepository validateRoute validateMounts julianday →
      ∀ ownerId sandboxId timeoutSeconds rows,
        ConnectEnds service.executions sandboxId (service.expiryFrom timeoutSeconds) rows
          ((service.connect ownerId sandboxId timeoutSeconds).run.run rows)) := by
  constructor
  · intro service hrepo ownerId sandboxId timeoutSeconds rows
    exact ControlService.connect_ends (MemorySandboxRepository.service_reports hrepo)
      (MemorySandboxRepository.service_get hrepo) rows ownerId sandboxId timeoutSeconds
  · intro validateRoute validateMounts Day _ julianday service hrepo ownerId sandboxId timeoutSeconds
      rows
    exact ControlService.connect_ends (SqliteSandboxRepository.service_reports hrepo)
      (SqliteSandboxRepository.service_get hrepo) rows ownerId sandboxId timeoutSeconds

/-- The owner's connection to the running `sbx-r` for a minute. -/
theorem stopped_connect_ends :
    ConnectEnds stoppedService.executions reconciledRecord.sandboxId (stoppedService.expiryFrom 60)
      [reconciledRecord]
      ((stoppedService.connect "owner" reconciledRecord.sandboxId 60).run.run [reconciledRecord]) :=
  connect_returns_running_record.1 stoppedService rfl "owner" reconciledRecord.sandboxId 60
    [reconciledRecord]

/-- The record `sbx-r` is running and expires after the minute asked for, so the connection
    writes nothing and answers that it was already running. -/
example : ((stoppedService.connect "owner" reconciledRecord.sandboxId 60).run.run
    [reconciledRecord]).1.toOption.map Prod.snd = some .alreadyRunning := by
  decide

/-- `kill` over the memory and the SQLite repository, from every store: `true` leaves the record
    killed, `false` leaves the store as it was, and a failure of the runtime leaves the record
    killing. -/
theorem kill_ends_killed {Plan Route Mount : Type} [DecidableEq Plan] :
    (∀ service : ControlService Plan Route Mount,
      service.repository = MemorySandboxRepository.serviceRepository →
      ∀ ownerId sandboxId rows,
        KillEnds sandboxId rows ((service.kill ownerId sandboxId).run.run rows)) ∧
    (∀ (validateRoute : Route → Except String Unit) (validateMounts : List Mount → Except String Unit)
      (Day : Type) [LinearOrder Day] (julianday : Timestamp → Day)
      (service : ControlService Plan Route Mount),
      service.repository = SqliteSandboxRepository.serviceRepository validateRoute validateMounts julianday →
      ∀ ownerId sandboxId rows,
        KillEnds sandboxId rows ((service.kill ownerId sandboxId).run.run rows)) := by
  constructor
  · intro service hrepo ownerId sandboxId rows
    exact ControlService.kill_ends (MemorySandboxRepository.service_reports hrepo)
      (MemorySandboxRepository.service_get hrepo) rows ownerId sandboxId
  · intro validateRoute validateMounts Day _ julianday service hrepo ownerId sandboxId rows
    exact ControlService.kill_ends (SqliteSandboxRepository.service_reports hrepo)
      (SqliteSandboxRepository.service_get hrepo) rows ownerId sandboxId

/-- The owner's kill of `sbx-r`, which the runtime acknowledges. -/
theorem stopped_kill_ends :
    KillEnds reconciledRecord.sandboxId [reconciledRecord]
      ((stoppedService.kill "owner" reconciledRecord.sandboxId).run.run [reconciledRecord]) :=
  kill_ends_killed.1 stoppedService rfl "owner" reconciledRecord.sandboxId [reconciledRecord]

/-- The kill answers `true` and leaves `sbx-r` killed, two generations on. -/
example : ((stoppedService.kill "owner" reconciledRecord.sandboxId).run.run
    [reconciledRecord]).2.map (fun record => (record.state, record.generation.get)) =
      [(.killed, 9)] := by
  decide

end A3sBox.Compat
