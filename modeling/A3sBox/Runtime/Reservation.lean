import A3sBox.Runtime.StoreRuns

/-
  Idempotent reservation (`ManagedExecutionStore::reserve`).

  `reserve_outcomes` gives the four answers of `reserve` on a valid file for a record
  that passes `validate_new_record`: the existing record for a retry with the same
  intent, a conflict for another intent or a taken execution ID, and otherwise one
  appended `created` record. The record is checked before the file is read, so a record
  that fails `validate_new_record` is refused whatever the file holds
  (`reserve_rejects_retry_not_created`). `reserve_run_unique`: any sequence of reserves
  keeps the file valid and the operation IDs and execution IDs distinct, from a valid
  file whose execution IDs are distinct; the file itself checks only the former.
-/

namespace A3sBox.Runtime

open A3sBox.Lib ManagedExecutionState

variable {Config Policy Plan : Type} [DecidableEq Config] [DecidableEq Policy] [DecidableEq Plan]
  (resolve : Config → Except String Plan)

omit [DecidableEq Config] [DecidableEq Policy] in
/-- A managed record of a valid file has a well-formed execution ID. -/
theorem executionId_new_of_valid {records : List (BoxRecord Config Policy Plan)}
    {record : BoxRecord Config Policy Plan} {metadata : ManagedExecutionMetadata Config Policy Plan}
    (hvalid : validateManagedRecords resolve records = .ok ()) (hr : record ∈ records)
    (hm : record.managedExecution = some metadata) :
    ∃ executionId, ExecutionId.new record.id = .ok executionId := by
  have hrecord := ((validateManagedRecords_eq_ok resolve).mp hvalid).1 record hr
  have hblank := ((validateManagedRecord_eq_ok resolve).mp hrecord metadata hm).2.1
  exact ⟨_, ExecutionId.new_of_nonblank hblank⟩

omit [DecidableEq Config] [DecidableEq Policy] in
/-- The record `reserve` appends passes the file's check. -/
theorem validateManagedRecord_reserved {record : BoxRecord Config Policy Plan}
    {executionId : ExecutionId} {incoming : ManagedExecutionMetadata Config Policy Plan}
    (hnew : validateNewRecord resolve record = .ok executionId)
    (hm : record.managedExecution = some incoming) :
    validateManagedRecord resolve { record with status := created.asStatus } = .ok () := by
  obtain ⟨hid, metadata, hm', hmvalid, hst, -⟩ := validateNewRecord_eq_ok resolve hnew
  rw [hm] at hm'
  cases hm'
  obtain ⟨_, hm'', -, hpending⟩ := BoxRecord.managedState_eq_some.mp hst
  rw [hm] at hm''
  cases hm''
  refine (validateManagedRecord_eq_ok resolve).mpr fun metadata' hm' => ?_
  have hmeta : metadata' = incoming := Option.some.inj (hm'.symm.trans hm)
  subst hmeta
  refine ⟨hmvalid, ?_, created,
    BoxRecord.managedState_eq_some.mpr ⟨_, hm, fromStatus_asStatus created, hpending⟩⟩
  show isBlank record.id = false
  rw [← hid]
  exact executionId.nonblank

/-- Idempotent reservation: on a valid file, a record that passes `validate_new_record`
    gets the existing record back, unchanged file, when its operation is already reserved
    with the same intent; a conflict, unchanged file, when it is reserved with another
    intent, or when the operation is new but the execution ID is taken; and otherwise
    the record itself, its status reset to `created`, is appended at the initial
    generation. -/
theorem reserve_outcomes (records : List (BoxRecord Config Policy Plan))
    (record : BoxRecord Config Policy Plan) (executionId : ExecutionId)
    (incoming : ManagedExecutionMetadata Config Policy Plan)
    (hvalid : validateManagedRecords resolve records = .ok ())
    (hnew : validateNewRecord resolve record = .ok executionId)
    (hm : record.managedExecution = some incoming) :
    let result := reserve resolve record records
    (∀ existing existingMetadata,
      BoxStateStore.findByOperationId records incoming.operationId = some existing →
      existing.managedExecution = some existingMetadata →
        (sameCreationIntent existingMetadata incoming = true →
          result = (.ok (.existing existing), records)) ∧
        (sameCreationIntent existingMetadata incoming = false →
          (∃ existingId message, result.1 = .error (.conflict existingId message)) ∧
            result.2 = records)) ∧
    (BoxStateStore.findByOperationId records incoming.operationId = none →
      (BoxStateStore.findById records record.id).isSome →
        (∃ message, result.1 = .error (.conflict executionId message)) ∧ result.2 = records) ∧
    (BoxStateStore.findByOperationId records incoming.operationId = none →
      BoxStateStore.findById records record.id = none →
        ∃ written, result = (.ok (.reserved written), records ++ [written]) ∧
          written = { record with status := created.asStatus } ∧
          written.managedState = .ok (some created) ∧
          written.managedExecution.map (·.generation) = some ExecutionGeneration.initial) := by
  intro result
  obtain ⟨hid, metadata, hm', -, hst, hgen⟩ := validateNewRecord_eq_ok resolve hnew
  rw [hm] at hm'
  cases hm'
  -- `reserve` runs its transaction on the record reset to `created`.
  have hresult : result = BoxStateStore.transact resolve
      (reserveBody executionId { record with status := created.asStatus } incoming) records := by
    show reserve resolve record records = _
    unfold reserve
    rw [hnew]
    simp only [hm]
  rw [hresult]
  refine ⟨?_, ?_, ?_⟩
  · intro existing existingMetadata hop hem
    have hmem := (BoxStateStore.findByOperationId_eq_some hop).1
    obtain ⟨existingId, hexistingId⟩ := executionId_new_of_valid resolve hvalid hmem hem
    have hbody : reserveBody executionId { record with status := created.asStatus } incoming
        records = _ :=
      reserveBody_of_existing hop hexistingId hem
    constructor
    · intro hsame
      rw [if_pos hsame] at hbody
      exact transact_of_body_ok hvalid hbody hvalid
    · intro hsame
      rw [if_neg (by simp [hsame])] at hbody
      rw [BoxStateStore.transact, transact_of_body_error hvalid hbody]
      exact ⟨⟨existingId, _, rfl⟩, rfl⟩
  · intro hop htaken
    have hbody : reserveBody executionId { record with status := created.asStatus } incoming
        records = _ :=
      reserveBody_of_new hop
    rw [hid, if_neg (by simp [Option.isSome_iff_ne_none.mp htaken])] at hbody
    rw [BoxStateStore.transact, transact_of_body_error hvalid hbody]
    exact ⟨⟨_, rfl⟩, rfl⟩
  · intro hop hfree
    have hbody : reserveBody executionId { record with status := created.asStatus } incoming
        records = _ :=
      reserveBody_of_new hop
    rw [hid, if_pos (by simp [hfree])] at hbody
    have hvalid' : validateManagedRecords resolve
        (records ++ [{ record with status := created.asStatus }]) = .ok () :=
      validateManagedRecords_append resolve hvalid (validateManagedRecord_reserved resolve hnew hm)
        fun metadata' hm' => by
          rw [show metadata' = incoming from Option.some.inj (hm'.symm.trans hm)]
          exact hop
    rw [BoxStateStore.transact, transact_of_body_ok hvalid hbody hvalid']
    exact ⟨_, rfl, rfl, managedState_of_status resolve hvalid'
      (List.mem_append_right _ (List.mem_singleton_self _)) hm rfl, by simp [hm, hgen]⟩

/-- Any sequence of reserves, from a valid file with distinct execution IDs, keeps the
    file valid and the operation IDs and execution IDs distinct. -/
theorem reserve_run_unique (calls : List (BoxRecord Config Policy Plan)) :
    ∀ records : List (BoxRecord Config Policy Plan),
      validateManagedRecords resolve records = .ok () → (records.map BoxRecord.id).Nodup →
      let final := calls.foldl (fun records record => (reserve resolve record records).2) records
      validateManagedRecords resolve final = .ok () ∧ (managedOperationIds final).Nodup ∧
        (final.map BoxRecord.id).Nodup := by
  induction calls with
  | nil =>
    intro records hvalid hids
    exact ⟨hvalid, ((validateManagedRecords_eq_ok resolve).mp hvalid).2, hids⟩
  | cons record calls ih =>
    intro records hvalid hids
    have hstep : StoreEffect (.reserve record) records (reserve resolve record records).2 ∧
        (validateManagedRecords resolve records = .ok () →
          validateManagedRecords resolve (reserve resolve record records).2 = .ok ()) :=
      reserve_effect
    exact ih _ (hstep.2 hvalid) (hstep.1.nodup hids)

/-- Idempotent reservation, for records that pass `validate_new_record` and files whose
    execution IDs are distinct: the four outcomes of one `reserve`, and the distinctness
    of operation IDs and execution IDs over any sequence of reserves. -/
theorem reserve_idempotent :
    (∀ (records : List (BoxRecord Config Policy Plan)) (record : BoxRecord Config Policy Plan)
      (executionId : ExecutionId) (incoming : ManagedExecutionMetadata Config Policy Plan),
      validateManagedRecords resolve records = .ok () →
      validateNewRecord resolve record = .ok executionId →
      record.managedExecution = some incoming →
      let result := reserve resolve record records
      (∀ existing existingMetadata,
        BoxStateStore.findByOperationId records incoming.operationId = some existing →
        existing.managedExecution = some existingMetadata →
          (sameCreationIntent existingMetadata incoming = true →
            result = (.ok (.existing existing), records)) ∧
          (sameCreationIntent existingMetadata incoming = false →
            (∃ existingId message, result.1 = .error (.conflict existingId message)) ∧
              result.2 = records)) ∧
      (BoxStateStore.findByOperationId records incoming.operationId = none →
        (BoxStateStore.findById records record.id).isSome →
          (∃ message, result.1 = .error (.conflict executionId message)) ∧ result.2 = records) ∧
      (BoxStateStore.findByOperationId records incoming.operationId = none →
        BoxStateStore.findById records record.id = none →
          ∃ written, result = (.ok (.reserved written), records ++ [written]) ∧
            written = { record with status := created.asStatus } ∧
            written.managedState = .ok (some created) ∧
            written.managedExecution.map (·.generation) = some ExecutionGeneration.initial)) ∧
    (∀ (calls records : List (BoxRecord Config Policy Plan)),
      validateManagedRecords resolve records = .ok () → (records.map BoxRecord.id).Nodup →
      let final := calls.foldl (fun records record => (reserve resolve record records).2) records
      validateManagedRecords resolve final = .ok () ∧ (managedOperationIds final).Nodup ∧
        (final.map BoxRecord.id).Nodup) :=
  ⟨reserve_outcomes resolve, fun calls => reserve_run_unique resolve calls⟩

theorem reserve_idempotent_retry :
    (validateManagedRecords unitResolve [sampleRecord] = .ok () ∧
      validateNewRecord unitResolve sampleRecord = .ok sampleExecutionId) ∧
    (let result := reserve unitResolve sampleRecord [sampleRecord];
      (∀ existing existingMetadata,
        BoxStateStore.findByOperationId [sampleRecord] sampleMetadata.operationId = some existing →
        existing.managedExecution = some existingMetadata →
          (sameCreationIntent existingMetadata sampleMetadata = true →
            result = (.ok (.existing existing), [sampleRecord])) ∧
          (sameCreationIntent existingMetadata sampleMetadata = false →
            (∃ existingId message, result.1 = .error (.conflict existingId message)) ∧
              result.2 = [sampleRecord])) ∧
      (BoxStateStore.findByOperationId [sampleRecord] sampleMetadata.operationId = none →
        (BoxStateStore.findById [sampleRecord] sampleRecord.id).isSome →
          (∃ message, result.1 = .error (.conflict sampleExecutionId message)) ∧
            result.2 = [sampleRecord]) ∧
      (BoxStateStore.findByOperationId [sampleRecord] sampleMetadata.operationId = none →
        BoxStateStore.findById [sampleRecord] sampleRecord.id = none →
          ∃ written, result = (.ok (.reserved written), [sampleRecord] ++ [written]) ∧
            written = { sampleRecord with status := created.asStatus } ∧
            written.managedState = .ok (some created) ∧
            written.managedExecution.map (·.generation) = some ExecutionGeneration.initial)) :=
  have hvalid : validateManagedRecords unitResolve [sampleRecord] = .ok () := by decide
  have hnew : validateNewRecord unitResolve sampleRecord = .ok sampleExecutionId := by decide
  ⟨⟨hvalid, hnew⟩, (reserve_idempotent unitResolve).1 [sampleRecord] sampleRecord sampleExecutionId
    sampleMetadata hvalid hnew rfl⟩

/-- A retry of the sample operation with the same request and plan, sent as `stopped`. -/
def stoppedRetry : BoxRecord Unit Unit Unit := { sampleRecord with status := stopped.asStatus }

/-- The operation is reserved with the same intent, yet the retry is neither answered
    with the existing record nor a conflict: `validate_new_record` refuses it first. -/
theorem reserve_rejects_retry_not_created :
    BoxStateStore.findByOperationId [sampleRecord] sampleOperationId = some sampleRecord ∧
      stoppedRetry.managedExecution = some sampleMetadata ∧
      sameCreationIntent sampleMetadata sampleMetadata = true ∧
      reserve unitResolve stoppedRetry [sampleRecord] =
        (.error (.invalidRecord "new execution box-1 must be created, found stopped"),
          [sampleRecord]) := by
  decide

end A3sBox.Runtime
