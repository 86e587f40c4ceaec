import A3sBox.Runtime.BoxState

/-
  Durable generation-fenced transitions for managed executions
  (`managed_execution_store.rs`).

  Every operation is a transaction of `BoxStateStore`: the body reads the records,
  returns its result and the records to write, and `BoxStateStore.transact` stores them
  only when the file is valid before and after (`validateManagedRecords`). The bodies
  are written out as `reserveBody`, `beginRemoveBody`, `finishRemoveBody` and
  `transitionWithBody`, each with one inversion lemma that says everything a successful
  run of it can do; the proofs about runs of the store use only those lemmas.

  `transitionWithBody` checks generation and state before it calls the caller's update,
  then checks that the update kept the execution ID and the creation identity, and then
  writes the new status, the generation of `transitionGeneration`, the completed restart
  and the pending operation of the new state. The update is an arbitrary function of
  the record, as the Rust closure is.

  Not modelled: the path of the state file and the lock (one state list stands for the
  file), and the serialisation failure of `serde_json::to_value` in
  `same_creation_intent`, which cannot happen for these types.
-/

namespace A3sBox.Runtime

open A3sBox.Lib ManagedExecutionState

/-- Fail-closed errors from managed lifecycle persistence. -/
inductive ManagedExecutionStoreError where
  | io (message : String)
  | notFound (executionId : ExecutionId)
  | unmanaged (executionId : ExecutionId)
  | conflict (executionId : ExecutionId) (message : String)
  | invalidRecord (message : String)
  | invalidTransition (executionId : ExecutionId) (fromState toState : ManagedExecutionState)
deriving DecidableEq

/-- Result of reserving an idempotent create operation. -/
inductive ManagedExecutionReservation (Config Policy Plan : Type) where
  | reserved (record : BoxRecord Config Policy Plan)
  | existing (record : BoxRecord Config Policy Plan)
deriving DecidableEq

variable {Config Policy Plan : Type}

/-- The records a store operation reads and writes, and its typed result. -/
abbrev StoreResult (Config Policy Plan R : Type) :=
  Except ManagedExecutionStoreError R × List (BoxRecord Config Policy Plan)

section Store

variable [DecidableEq Config] [DecidableEq Policy] [DecidableEq Plan]
  (resolve : Config → Except String Plan)

/-- `BoxStateStore::transact`: a validated transaction whose load and write errors are
    `ManagedExecutionStoreError::Io`. -/
def BoxStateStore.transact {R : Type}
    (body : List (BoxRecord Config Policy Plan) →
      Except ManagedExecutionStoreError (R × List (BoxRecord Config Policy Plan)))
    (records : List (BoxRecord Config Policy Plan)) : StoreResult Config Policy Plan R :=
  Lib.transact (validateManagedRecords resolve) .io body records

/-- `record.managed_state().map_err(InvalidRecord)?.ok_or_else(Unmanaged)?`: the state
    of the record an operation found, which must be managed. -/
def requireManagedState (executionId : ExecutionId) (record : BoxRecord Config Policy Plan) :
    Except ManagedExecutionStoreError ManagedExecutionState := do
  let state ← record.managedState.mapError .invalidRecord
  okOr state (.unmanaged executionId)

/-- `same_creation_intent`: equal persisted requests and equal plans. -/
def sameCreationIntent (left right : ManagedExecutionMetadata Config Policy Plan) : Bool :=
  left.request == right.request && left.plan == right.plan

/-- `transition_generation`: reject an edge outside the table, and advance the
    generation on the three completing edges. -/
def transitionGeneration (executionId : ExecutionId) (fromState toState : ManagedExecutionState)
    (current : ExecutionGeneration) : Except ManagedExecutionStoreError ExecutionGeneration := do
  ensure (legalTransition fromState toState) (.invalidTransition executionId fromState toState)
  if bumpsGeneration fromState toState then
    okOr current.checkedSucc (.invalidRecord s!"execution {executionId} generation is exhausted")
  else
    pure current

/-- `validate_new_record`. -/
def validateNewRecord (record : BoxRecord Config Policy Plan) :
    Except ManagedExecutionStoreError ExecutionId := do
  let executionId ← (ExecutionId.new record.id).mapError .invalidRecord
  let metadata ← okOr record.managedExecution (.unmanaged executionId)
  (metadata.validate resolve).mapError .invalidRecord
  let state ← requireManagedState executionId record
  ensure (state == created)
    (.invalidRecord s!"new execution {executionId} must be created, found {state}")
  ensure (metadata.generation == ExecutionGeneration.initial) (.invalidRecord
    s!"new execution {executionId} must start at generation {ExecutionGeneration.initial.get}")
  pure executionId

/-! ## `reserve` -/

/-- The transaction of `reserve`: an existing operation is answered from the file, a
    new one is appended unless its execution ID is taken. -/
def reserveBody (executionId : ExecutionId) (record : BoxRecord Config Policy Plan)
    (incoming : ManagedExecutionMetadata Config Policy Plan)
    (records : List (BoxRecord Config Policy Plan)) :
    Except ManagedExecutionStoreError
      (ManagedExecutionReservation Config Policy Plan × List (BoxRecord Config Policy Plan)) :=
  match BoxStateStore.findByOperationId records incoming.operationId with
  | some existing => do
    let existingId ← (ExecutionId.new existing.id).mapError .invalidRecord
    let existingMetadata ← okOr existing.managedExecution (.unmanaged existingId)
    ensure (sameCreationIntent existingMetadata incoming) (.conflict existingId
      s!"operation {incoming.operationId} was already reserved with different creation intent")
    pure (.existing existing, records)
  | none => do
    ensure (BoxStateStore.findById records executionId.val).isNone
      (.conflict executionId "execution ID is already present")
    pure (.reserved record, records ++ [record])

/-- `ManagedExecutionStore::reserve`. The record is checked before the file is opened;
    its status is then reset to `created`. -/
def reserve (record : BoxRecord Config Policy Plan) (records : List (BoxRecord Config Policy Plan)) :
    StoreResult Config Policy Plan (ManagedExecutionReservation Config Policy Plan) :=
  match validateNewRecord resolve record with
  | .error error => (.error error, records)
  | .ok executionId =>
    let record := { record with status := created.asStatus }
    match record.managedExecution with
    | none => (.error (.unmanaged executionId), records)
    | some incoming =>
      BoxStateStore.transact resolve (reserveBody executionId record incoming) records

/-! ## `begin_remove` and `finish_remove` -/

/-- The record `begin_remove` writes: `removing`, with the remove operation pending. -/
def BoxRecord.claimRemoval (record : BoxRecord Config Policy Plan)
    (metadata : ManagedExecutionMetadata Config Policy Plan) : BoxRecord Config Policy Plan :=
  { record with
    status := removing.asStatus
    managedExecution := some { metadata with pendingOperation := some .remove } }

/-- The transaction of `begin_remove`. -/
def beginRemoveBody (executionId : ExecutionId) (expectedGeneration : ExecutionGeneration)
    (records : List (BoxRecord Config Policy Plan)) :
    Except ManagedExecutionStoreError
      (Option (BoxRecord Config Policy Plan) × List (BoxRecord Config Policy Plan)) :=
  match BoxStateStore.findById records executionId.val with
  | none => pure (none, records)
  | some record => do
    let state ← requireManagedState executionId record
    let metadata ← okOr record.managedExecution (.unmanaged executionId)
    ensure (metadata.generation == expectedGeneration) (.conflict executionId
      s!"expected generation {expectedGeneration.get}, found {metadata.generation.get}")
    match state with
    -- A retry observes its own claim.
    | removing => pure (some record, records)
    | created | stopped | failed =>
      let claimed := BoxRecord.claimRemoval record metadata
      pure (some claimed, BoxStateStore.replaceById records executionId.val claimed)
    | _ => .error (.conflict executionId s!"cannot remove execution in state {state}")

/-- `ManagedExecutionStore::begin_remove`. -/
def beginRemove (executionId : ExecutionId) (expectedGeneration : ExecutionGeneration)
    (records : List (BoxRecord Config Policy Plan)) :
    StoreResult Config Policy Plan (Option (BoxRecord Config Policy Plan)) :=
  BoxStateStore.transact resolve (beginRemoveBody executionId expectedGeneration) records

/-- The transaction of `finish_remove`. -/
def finishRemoveBody (executionId : ExecutionId) (expectedGeneration : ExecutionGeneration)
    (records : List (BoxRecord Config Policy Plan)) :
    Except ManagedExecutionStoreError (Bool × List (BoxRecord Config Policy Plan)) :=
  match BoxStateStore.findById records executionId.val with
  | none => pure (false, records)
  | some record => do
    let state ← requireManagedState executionId record
    let metadata ← okOr record.managedExecution (.unmanaged executionId)
    ensure (metadata.generation == expectedGeneration && state == removing) (.conflict executionId
      s!"expected removing generation {expectedGeneration.get}, found {state} generation {metadata.generation.get}")
    let removal := BoxStateStore.removeById records executionId.val
    pure (removal.2, removal.1)

/-- `ManagedExecutionStore::finish_remove`. -/
def finishRemove (executionId : ExecutionId) (expectedGeneration : ExecutionGeneration)
    (records : List (BoxRecord Config Policy Plan)) : StoreResult Config Policy Plan Bool :=
  BoxStateStore.transact resolve (finishRemoveBody executionId expectedGeneration) records

/-! ## `transition_with` -/

/-- The `last_restart` record written when a restart finishes in `running` or `failed`. -/
def completeRestart (executionId : ExecutionId) (expectedState nextState : ManagedExecutionState)
    (nextGeneration : ExecutionGeneration) (metadata : ManagedExecutionMetadata Config Policy Plan) :
    Except ManagedExecutionStoreError (ManagedExecutionMetadata Config Policy Plan) :=
  if expectedState == restartStarting && (nextState == running || nextState == failed) then
    match metadata.pendingOperation with
    | some (.restart operationId sourceGeneration _ stopTimeoutSecs) =>
      pure { metadata with
        lastRestart := some
          { operationId, sourceGeneration, targetGeneration := nextGeneration,
            outcome := if nextState == running then .running else .failed, stopTimeoutSecs } }
    | _ => .error (.invalidRecord
      s!"restart completion for {executionId} has no persisted restart intent")
  else
    pure metadata

/-- The pending operation written with the new state: the intent the caller stored for
    it where the state needs one, the default where it has one, none in a stable state. -/
def nextPendingOperation (executionId : ExecutionId) :
    ManagedExecutionState → Option ManagedExecutionOperation →
      Except ManagedExecutionStoreError (Option ManagedExecutionOperation)
  | starting, _ => pure (some .start)
  | pausing, some (.pause keepMemory) => pure (some (.pause keepMemory))
  | pausing, _ => pure (some (.pause false))
  | resuming, _ => pure (some .resume)
  | snapshotting, some (.snapshot snapshotId sourceState) =>
    pure (some (.snapshot snapshotId sourceState))
  | snapshotting, _ => .error (.invalidRecord
    s!"snapshot transition for {executionId} has no persisted snapshot intent")
  | killing, some (.kill signal timeoutSecs) => pure (some (.kill signal timeoutSecs))
  | killing, _ => pure (some (.kill none none))
  | removing, _ => pure (some .remove)
  | restartStopping, some (.restart operationId sourceGeneration sourceState stopTimeoutSecs)
  | restartStarting, some (.restart operationId sourceGeneration sourceState stopTimeoutSecs) =>
    pure (some (.restart operationId sourceGeneration sourceState stopTimeoutSecs))
  | restartStopping, _ | restartStarting, _ => .error (.invalidRecord
    s!"restart transition for {executionId} has no persisted restart intent")
  | creating, _ | created, _ | running, _ | paused, _ | stopped, _ | failed, _ => pure none

/-- The transaction of `transition_with`. -/
def transitionWithBody (executionId : ExecutionId) (expectedGeneration : ExecutionGeneration)
    (expectedState nextState : ManagedExecutionState)
    (update : BoxRecord Config Policy Plan → BoxRecord Config Policy Plan)
    (records : List (BoxRecord Config Policy Plan)) :
    Except ManagedExecutionStoreError
      (BoxRecord Config Policy Plan × List (BoxRecord Config Policy Plan)) := do
  let record ← okOr (BoxStateStore.findById records executionId.val) (.notFound executionId)
  let actualState ← requireManagedState executionId record
  let metadata ← okOr record.managedExecution (.unmanaged executionId)
  ensure (metadata.generation == expectedGeneration && actualState == expectedState)
    (.conflict executionId
      s!"expected {expectedState} generation {expectedGeneration.get}, found {actualState} generation {metadata.generation.get}")
  let nextGeneration ← transitionGeneration executionId expectedState nextState expectedGeneration
  -- The caller's update runs only after the fence; `metadata` is the original metadata.
  let updated := update record
  ensure (updated.id == executionId.val)
    (.invalidRecord s!"transition changed execution ID {executionId}")
  let updatedMetadata ← okOr updated.managedExecution (.unmanaged executionId)
  ensure (updatedMetadata.operationId == metadata.operationId &&
      sameCreationIntent updatedMetadata metadata)
    (.invalidRecord s!"transition changed creation identity for {executionId}")
  let completed ← completeRestart executionId expectedState nextState nextGeneration
    { updatedMetadata with generation := nextGeneration }
  let pendingOperation ← nextPendingOperation executionId nextState completed.pendingOperation
  let written := { updated with
    status := nextState.asStatus
    managedExecution := some { completed with pendingOperation } }
  pure (written, BoxStateStore.replaceById records executionId.val written)

/-- `ManagedExecutionStore::transition_with`. -/
def transitionWith (executionId : ExecutionId) (expectedGeneration : ExecutionGeneration)
    (expectedState nextState : ManagedExecutionState)
    (update : BoxRecord Config Policy Plan → BoxRecord Config Policy Plan)
    (records : List (BoxRecord Config Policy Plan)) :
    StoreResult Config Policy Plan (BoxRecord Config Policy Plan) :=
  BoxStateStore.transact resolve
    (transitionWithBody executionId expectedGeneration expectedState nextState update) records

/-- `ManagedExecutionStore::transition`: `transition_with` and an update that does
    nothing. -/
def transition (executionId : ExecutionId) (expectedGeneration : ExecutionGeneration)
    (expectedState nextState : ManagedExecutionState)
    (records : List (BoxRecord Config Policy Plan)) :
    StoreResult Config Policy Plan (BoxRecord Config Policy Plan) :=
  transitionWith resolve executionId expectedGeneration expectedState nextState id records

/-! ## Reads -/

/-- `ManagedExecutionStore::get`: the record with the ID, which must be managed. -/
def get (executionId : ExecutionId) (records : List (BoxRecord Config Policy Plan)) :
    Except ManagedExecutionStoreError (Option (BoxRecord Config Policy Plan)) := do
  (validateManagedRecords resolve records).mapError .io
  match BoxStateStore.findById records executionId.val with
  | none => pure none
  | some record =>
    if record.managedExecution.isNone then .error (.unmanaged executionId)
    else pure (some record)

/-- `ManagedExecutionStore::list`: the managed records, in file order. -/
def list (records : List (BoxRecord Config Policy Plan)) :
    Except ManagedExecutionStoreError (List (BoxRecord Config Policy Plan)) := do
  (validateManagedRecords resolve records).mapError .io
  pure (records.filter fun record => record.managedExecution.isSome)

/-- `ManagedExecutionStore::get_by_operation_id`. -/
def getByOperationId (operationId : OperationId) (records : List (BoxRecord Config Policy Plan)) :
    Except ManagedExecutionStoreError (Option (BoxRecord Config Policy Plan)) := do
  (validateManagedRecords resolve records).mapError .io
  pure (BoxStateStore.findByOperationId records operationId)


end Store

/-! ## What each transaction body can do -/

variable {executionId : ExecutionId} {records records' : List (BoxRecord Config Policy Plan)}
  {record : BoxRecord Config Policy Plan} {metadata : ManagedExecutionMetadata Config Policy Plan}

theorem requireManagedState_eq_ok {state : ManagedExecutionState} :
    requireManagedState executionId record = .ok state ↔ record.managedState = .ok (some state) := by
  unfold requireManagedState
  cases record.managedState with
  | error e => simp [Except.mapError]
  | ok r => cases r <;> simp [Except.mapError]

theorem transitionGeneration_eq_ok {fromState toState : ManagedExecutionState}
    {current next : ExecutionGeneration} :
    transitionGeneration executionId fromState toState current = .ok next ↔
      legalTransition fromState toState = true ∧
        next.get = current.get + (if bumpsGeneration fromState toState then 1 else 0) := by
  unfold transitionGeneration
  cases hb : bumpsGeneration fromState toState with
  | true => simp [ExecutionGeneration.checkedSucc_eq_some_iff]
  | false =>
    simp only [bind_unit_eq_ok, ensure_eq_ok, Bool.false_eq_true, if_false, pure_eq_ok,
      Nat.add_zero]
    exact and_congr_right fun _ =>
      ⟨fun h => h ▸ rfl, fun h => ExecutionGeneration.ext_get h.symm⟩

/-- A completing edge fails at `u64::MAX`, after the edge itself was accepted. -/
theorem transitionGeneration_exhausted {fromState toState : ManagedExecutionState}
    {current : ExecutionGeneration} (hlegal : legalTransition fromState toState = true)
    (hbump : bumpsGeneration fromState toState = true) (hmax : current.get = u64Max) :
    transitionGeneration executionId fromState toState current =
      .error (.invalidRecord s!"execution {executionId} generation is exhausted") := by
  have hnone : current.checkedSucc = none := ExecutionGeneration.checkedSucc_eq_none_iff.mpr hmax
  simp [transitionGeneration, hlegal, hbump, hnone, ensure]

theorem transitionGeneration_exists {fromState toState : ManagedExecutionState}
    {current : ExecutionGeneration} (hlegal : legalTransition fromState toState = true)
    (hroom : bumpsGeneration fromState toState = true → current.get < u64Max) :
    ∃ next, transitionGeneration executionId fromState toState current = .ok next := by
  cases hb : bumpsGeneration fromState toState with
  | false => exact ⟨current, transitionGeneration_eq_ok.mpr ⟨hlegal, by simp [hb]⟩⟩
  | true =>
    have hlt : current.get + 1 ≤ u64Max := hroom hb
    exact ⟨⟨current.get + 1, Nat.succ_pos _, hlt⟩, transitionGeneration_eq_ok.mpr ⟨hlegal, by simp [hb]⟩⟩

theorem beginRemoveBody_eq_ok {g : ExecutionGeneration} {out : Option (BoxRecord Config Policy Plan)}
    (h : beginRemoveBody executionId g records = .ok (out, records')) :
    records' = records ∨
      ∃ record metadata state, BoxStateStore.findById records executionId.val = some record ∧
        record.managedExecution = some metadata ∧ record.managedState = .ok (some state) ∧
        metadata.generation = g ∧ removeTransition state removing = true ∧
        out = some (BoxRecord.claimRemoval record metadata) ∧
        records' = BoxStateStore.replaceById records executionId.val
          (BoxRecord.claimRemoval record metadata) := by
  unfold beginRemoveBody at h
  cases hfind : BoxStateStore.findById records executionId.val with
  | none =>
    simp only [hfind, pure_eq_ok, Prod.mk.injEq] at h
    exact .inl h.2.symm
  | some record =>
    simp only [hfind, bind_eq_ok, Unique.exists_iff, okOr_eq_ok, ensure_eq_ok, beq_iff_eq,
      requireManagedState_eq_ok] at h
    obtain ⟨state, hst, metadata, hm, hg, h⟩ := h
    -- Only `removing` (unchanged) and the three terminal states (claimed) succeed.
    cases state <;> simp only [pure_eq_ok, Prod.mk.injEq, reduceCtorEq] at h
    case removing => exact .inl h.2.symm
    all_goals exact .inr ⟨record, metadata, _, rfl, hm, hst, hg, rfl, h.1.symm, h.2.symm⟩

theorem finishRemoveBody_eq_ok {g : ExecutionGeneration} {out : Bool}
    (h : finishRemoveBody executionId g records = .ok (out, records')) :
    records' = records ∨
      ∃ record metadata, BoxStateStore.findById records executionId.val = some record ∧
        record.managedExecution = some metadata ∧ record.managedState = .ok (some removing) ∧
        metadata.generation = g ∧ out = true ∧
        records' = eraseKey BoxRecord.id executionId.val records := by
  unfold finishRemoveBody at h
  cases hfind : BoxStateStore.findById records executionId.val with
  | none =>
    simp only [hfind, pure_eq_ok, Prod.mk.injEq] at h
    exact .inl h.2.symm
  | some record =>
    simp only [hfind, bind_eq_ok, Unique.exists_iff, okOr_eq_ok, ensure_eq_ok, Bool.and_eq_true,
      beq_iff_eq, requireManagedState_eq_ok, pure_eq_ok, Prod.mk.injEq] at h
    obtain ⟨state, hst, metadata, hm, ⟨hg, rfl⟩, hout, rfl⟩ := h
    have hlt : (eraseKey BoxRecord.id executionId.val records).length < records.length :=
      length_eraseKey_lt_iff.mpr ⟨record, (findKey_eq_some hfind).1, (findKey_eq_some hfind).2⟩
    refine .inr ⟨record, metadata, rfl, hm, hst, hg, ?_, rfl⟩
    simpa [BoxStateStore.removeById, hlt] using hout.symm

theorem completeRestart_eq_ok {expectedState nextState : ManagedExecutionState}
    {nextGeneration : ExecutionGeneration} {completed : ManagedExecutionMetadata Config Policy Plan}
    (h : completeRestart executionId expectedState nextState nextGeneration metadata = .ok completed) :
    ∃ lastRestart, completed = { metadata with lastRestart } := by
  unfold completeRestart at h
  split at h
  · split at h
    · exact ⟨_, (pure_eq_ok.mp h).symm⟩
    · cases h
  · exact ⟨metadata.lastRestart, (pure_eq_ok.mp h).symm⟩

theorem completeRestart_of_not_completing {expectedState nextState : ManagedExecutionState}
    {next : ExecutionGeneration}
    (h : ¬(expectedState = restartStarting ∧ (nextState = running ∨ nextState = failed))) :
    completeRestart executionId expectedState nextState next metadata = .ok metadata := by
  have hb : (expectedState == restartStarting && (nextState == running || nextState == failed)) =
      false := by
    simpa using h
  simp [completeRestart, hb, pure, Except.pure]

theorem completeRestart_of_restart {expectedState nextState : ManagedExecutionState}
    {next sourceGeneration : ExecutionGeneration} {operationId : OperationId}
    {sourceState : ManagedExecutionState} {stopTimeoutSecs : Option Nat}
    (hstate : expectedState = restartStarting) (hnext : nextState = running ∨ nextState = failed)
    (hop : metadata.pendingOperation =
      some (.restart operationId sourceGeneration sourceState stopTimeoutSecs)) :
    completeRestart executionId expectedState nextState next metadata =
      .ok { metadata with
        lastRestart := some
          { operationId, sourceGeneration, targetGeneration := next,
            outcome := if nextState == running then .running else .failed, stopTimeoutSecs } } := by
  have hb : (expectedState == restartStarting && (nextState == running || nextState == failed)) =
      true := by
    rcases hnext with h | h <;> simp [hstate, h]
  simp only [completeRestart, hb, if_true, hop]
  rfl

section Validated

variable [DecidableEq Plan] (resolve : Config → Except String Plan)

theorem validateNewRecord_eq_ok (h : validateNewRecord resolve record = .ok executionId) :
    executionId.val = record.id ∧ ∃ metadata, record.managedExecution = some metadata ∧
      metadata.validate resolve = .ok () ∧ record.managedState = .ok (some created) ∧
      metadata.generation = ExecutionGeneration.initial := by
  simp only [validateNewRecord, bind_eq_ok, Unique.exists_iff, okOr_eq_ok, ensure_eq_ok,
    mapError_eq_ok, pure_eq_ok, beq_iff_eq, requireManagedState_eq_ok] at h
  obtain ⟨newId, hid, metadata, hm, hv, state, hst, rfl, hgen, rfl⟩ := h
  exact ⟨ExecutionId.new_eq_ok hid, metadata, hm, hv, hst, hgen⟩

end Validated

section Intent

variable [DecidableEq Config] [DecidableEq Policy] [DecidableEq Plan]

/-- An operation ID already in the file is answered from the file. -/
theorem reserveBody_of_existing {incoming : ManagedExecutionMetadata Config Policy Plan}
    {existing : BoxRecord Config Policy Plan} {existingId : ExecutionId}
    {existingMetadata : ManagedExecutionMetadata Config Policy Plan}
    (hop : BoxStateStore.findByOperationId records incoming.operationId = some existing)
    (hid : ExecutionId.new existing.id = .ok existingId)
    (hm : existing.managedExecution = some existingMetadata) :
    reserveBody executionId record incoming records =
      if sameCreationIntent existingMetadata incoming then .ok (.existing existing, records)
      else .error (.conflict existingId
        s!"operation {incoming.operationId} was already reserved with different creation intent") := by
  unfold reserveBody
  rw [hop]
  cases hsame : sameCreationIntent existingMetadata incoming <;>
    simp [hid, hm, hsame, Except.mapError, ensure]

/-- A new operation ID is appended unless its execution ID is taken. -/
theorem reserveBody_of_new {incoming : ManagedExecutionMetadata Config Policy Plan}
    (hop : BoxStateStore.findByOperationId records incoming.operationId = none) :
    reserveBody executionId record incoming records =
      if (BoxStateStore.findById records executionId.val).isNone then
        .ok (.reserved record, records ++ [record])
      else .error (.conflict executionId "execution ID is already present") := by
  unfold reserveBody
  rw [hop]
  cases (BoxStateStore.findById records executionId.val).isNone <;> simp [ensure]

theorem reserveBody_eq_ok {incoming : ManagedExecutionMetadata Config Policy Plan}
    {out : ManagedExecutionReservation Config Policy Plan}
    (h : reserveBody executionId record incoming records = .ok (out, records')) :
    (∃ existing, BoxStateStore.findByOperationId records incoming.operationId = some existing ∧
        out = .existing existing ∧ records' = records) ∨
      (BoxStateStore.findByOperationId records incoming.operationId = none ∧
        BoxStateStore.findById records executionId.val = none ∧ out = .reserved record ∧
        records' = records ++ [record]) := by
  cases hop : BoxStateStore.findByOperationId records incoming.operationId with
  | some existing =>
    left
    unfold reserveBody at h
    rw [hop] at h
    simp only [bind_eq_ok, Unique.exists_iff, okOr_eq_ok, mapError_eq_ok, pure_eq_ok,
      Prod.mk.injEq] at h
    obtain ⟨_, _, _, _, _, rfl, rfl⟩ := h
    exact ⟨existing, rfl, rfl, rfl⟩
  | none =>
    right
    rw [reserveBody_of_new hop] at h
    cases hid : BoxStateStore.findById records executionId.val with
    | some _ => simp [hid] at h
    | none =>
      simp only [hid, Option.isNone_none, if_true, Except.ok.injEq, Prod.mk.injEq] at h
      exact ⟨rfl, rfl, h.1.symm, h.2.symm⟩

/-- A successful transition found the record at the expected generation and state,
    took a legal edge, and wrote back under the same ID a record with the new status,
    the generation of the edge and the creation identity it had. -/
theorem transitionWithBody_eq_ok {g : ExecutionGeneration}
    {expectedState nextState : ManagedExecutionState}
    {update : BoxRecord Config Policy Plan → BoxRecord Config Policy Plan}
    {out : BoxRecord Config Policy Plan}
    (h : transitionWithBody executionId g expectedState nextState update records =
      .ok (out, records')) :
    ∃ record metadata, BoxStateStore.findById records executionId.val = some record ∧
      record.managedExecution = some metadata ∧
      record.managedState = .ok (some expectedState) ∧ metadata.generation = g ∧
      legalTransition expectedState nextState = true ∧
      out.id = executionId.val ∧ out.status = nextState.asStatus ∧
      (∃ written, out.managedExecution = some written ∧
        written.operationId = metadata.operationId ∧ written.request = metadata.request ∧
        written.plan = metadata.plan ∧
        written.generation.get = g.get + (if bumpsGeneration expectedState nextState then 1 else 0)) ∧
      records' = BoxStateStore.replaceById records executionId.val out := by
  simp only [transitionWithBody, bind_eq_ok, Unique.exists_iff, okOr_eq_ok, ensure_eq_ok,
    Bool.and_eq_true, beq_iff_eq, requireManagedState_eq_ok, pure_eq_ok, Prod.mk.injEq] at h
  obtain ⟨record, hfind, state, hst, metadata, hm, ⟨hg, rfl⟩, next, hnext, hid,
    updated, hupdated, ⟨hop, hsame⟩, completed, hcompleted, pending, -, rfl, rfl⟩ := h
  obtain ⟨hlegal, hgen⟩ := transitionGeneration_eq_ok.mp hnext
  obtain ⟨lastRestart, rfl⟩ := completeRestart_eq_ok hcompleted
  simp only [sameCreationIntent, Bool.and_eq_true, beq_iff_eq] at hsame
  refine ⟨record, metadata, hfind, hm, hst, hg, hlegal, hid, rfl, ⟨_, rfl, hop, hsame.1,
    hsame.2, hgen⟩, rfl⟩

theorem sameCreationIntent_self (metadata : ManagedExecutionMetadata Config Policy Plan) :
    sameCreationIntent metadata metadata = true := by
  simp [sameCreationIntent]

/-- A record found at another generation or state is rejected before the update runs. -/
theorem transitionWithBody_of_stale {g : ExecutionGeneration}
    {expectedState nextState state : ManagedExecutionState}
    {update : BoxRecord Config Policy Plan → BoxRecord Config Policy Plan}
    (hfind : BoxStateStore.findById records executionId.val = some record)
    (hm : record.managedExecution = some metadata) (hst : record.managedState = .ok (some state))
    (hstale : metadata.generation ≠ g ∨ state ≠ expectedState) :
    transitionWithBody executionId g expectedState nextState update records =
      .error (.conflict executionId
        s!"expected {expectedState} generation {g.get}, found {state} generation {metadata.generation.get}") := by
  have hreq : requireManagedState executionId record = .ok state := requireManagedState_eq_ok.mpr hst
  have hcheck : (metadata.generation == g && state == expectedState) = false := by
    rcases hstale with h | h <;> simp [h]
  unfold transitionWithBody
  simp only [hfind, okOr_some, ok_bind, hreq, hm, hcheck, ensure_false, error_bind]

/-- Past the fence and the identity checks, a transition writes the completed restart
    and the pending operation of the new state. -/
theorem transitionWithBody_of_fenced {g next : ExecutionGeneration}
    {expectedState nextState : ManagedExecutionState}
    {update : BoxRecord Config Policy Plan → BoxRecord Config Policy Plan}
    {updated : ManagedExecutionMetadata Config Policy Plan}
    (hfind : BoxStateStore.findById records executionId.val = some record)
    (hm : record.managedExecution = some metadata)
    (hst : record.managedState = .ok (some expectedState)) (hg : metadata.generation = g)
    (hnext : transitionGeneration executionId expectedState nextState g = .ok next)
    (hid : (update record).id = executionId.val)
    (hupdated : (update record).managedExecution = some updated)
    (hop : updated.operationId = metadata.operationId)
    (hsame : sameCreationIntent updated metadata = true) :
    transitionWithBody executionId g expectedState nextState update records = (do
      let completed ← completeRestart executionId expectedState nextState next
        { updated with generation := next }
      let pendingOperation ← nextPendingOperation executionId nextState completed.pendingOperation
      let written := { update record with
        status := nextState.asStatus
        managedExecution := some { completed with pendingOperation } }
      pure (written, BoxStateStore.replaceById records executionId.val written)) := by
  have hreq : requireManagedState executionId record = .ok expectedState :=
    requireManagedState_eq_ok.mpr hst
  unfold transitionWithBody
  simp only [hfind, okOr_some, ok_bind, hreq, hm, hg, beq_self_eq_true, Bool.and_self, ensure_true,
    hnext, hid, hupdated, hop, hsame]

end Intent


end A3sBox.Runtime
