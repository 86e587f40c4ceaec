import A3sBox.Runtime.BoxRecord
import A3sBox.Lib.KeyedList

/-
  The durable state file `boxes.json` (`box_state.rs`).

  `BoxStateStore` holds the records in persistence order; lookups and writes are the
  keyed-list operations of `A3sBox.Lib.KeyedList` on the `id` column. Only the first
  record with an id is ever found or rewritten: the file itself does not require ids to
  be distinct.

  `validateManagedRecords` is the check run on every load and every write. It validates
  each managed record on its own (`validateManagedRecord`) and rejects a repeated
  managed operation ID; `validateManagedRecords_eq_ok` states it as those two facts.
  `BoxStateStore.transact` is `modify_with_policy` with `ReturnError`: `Lib.transact`
  with this check, so a failing closure or an invalid result writes nothing.
  File-system failures of the lock, read and durable rename are not modelled; the
  rename is atomic, so they too leave the file as it was.
-/

namespace A3sBox.Runtime

open A3sBox.Lib

variable {Config Policy Plan : Type}

namespace BoxStateStore

/-- `find_by_id`. -/
def findById (records : List (BoxRecord Config Policy Plan)) (id : String) :
    Option (BoxRecord Config Policy Plan) :=
  findKey BoxRecord.id id records

/-- `find_by_id_mut`, written through: the first record with the id becomes `record`. -/
def replaceById (records : List (BoxRecord Config Policy Plan)) (id : String)
    (record : BoxRecord Config Policy Plan) : List (BoxRecord Config Policy Plan) :=
  replaceKey BoxRecord.id id record records

/-- `remove_by_id`: the records without the id, and whether one was removed. -/
def removeById (records : List (BoxRecord Config Policy Plan)) (id : String) :
    List (BoxRecord Config Policy Plan) × Bool :=
  (eraseKey BoxRecord.id id records, decide ((eraseKey BoxRecord.id id records).length <
    records.length))

/-- `find_by_operation_id`: the first managed record created by the operation. -/
def findByOperationId (records : List (BoxRecord Config Policy Plan))
    (operationId : OperationId) : Option (BoxRecord Config Policy Plan) :=
  records.find? fun record => record.managedExecution.any (·.operationId == operationId)

theorem findByOperationId_eq_some {records : List (BoxRecord Config Policy Plan)}
    {operationId : OperationId} {record : BoxRecord Config Policy Plan}
    (h : findByOperationId records operationId = some record) :
    record ∈ records ∧ ∃ metadata, record.managedExecution = some metadata ∧
      metadata.operationId = operationId := by
  unfold findByOperationId at h
  refine ⟨List.mem_of_find?_eq_some h, ?_⟩
  have hp := List.find?_some h
  cases hm : record.managedExecution with
  | none => simp [hm] at hp
  | some metadata =>
    simp only [hm, Option.any_some, beq_iff_eq] at hp
    exact ⟨metadata, rfl, hp⟩

theorem findByOperationId_eq_none {records : List (BoxRecord Config Policy Plan)}
    {operationId : OperationId} :
    findByOperationId records operationId = none ↔
      ∀ record ∈ records, ∀ metadata, record.managedExecution = some metadata →
        metadata.operationId ≠ operationId := by
  unfold findByOperationId
  rw [List.find?_eq_none]
  constructor
  · intro h record hr metadata hm heq
    have := h record hr
    simp [hm, heq] at this
  · intro h record hr
    cases hm : record.managedExecution with
    | none => simp
    | some metadata => simpa using h record hr metadata hm

end BoxStateStore

/-! ## `validate_managed_records` -/

section Validation

variable [DecidableEq Plan] (resolve : Config → Except String Plan)

/-- The checks `validate_managed_records` makes of one managed record: its metadata,
    its execution ID and its lifecycle state. -/
def validateManagedRecord (record : BoxRecord Config Policy Plan) : Except String Unit :=
  match record.managedExecution with
  | none => .ok ()
  | some metadata => do
    (metadata.validate resolve).mapError
      fun error => s!"invalid managed execution {record.id}: {error}"
    let _ ← (ExecutionId.new record.id).mapError
      fun error => s!"invalid managed execution {record.id}: {error}"
    let _ ← record.managedState.mapError
      fun error => s!"invalid managed execution {record.id}: {error}"
    pure ()

/-- `validate_managed_records`, with `seen` the operation IDs inserted so far. -/
def validateManagedRecordsFrom :
    List OperationId → List (BoxRecord Config Policy Plan) → Except String Unit
  | _, [] => .ok ()
  | seen, record :: rest =>
    match record.managedExecution with
    | none => validateManagedRecordsFrom seen rest
    | some metadata => do
      validateManagedRecord resolve record
      ensure (!seen.contains metadata.operationId)
        s!"duplicate managed operation ID: {metadata.operationId}"
      validateManagedRecordsFrom (metadata.operationId :: seen) rest

/-- `validate_managed_records`. -/
def validateManagedRecords (records : List (BoxRecord Config Policy Plan)) : Except String Unit :=
  validateManagedRecordsFrom resolve [] records

/-- The operation IDs of the managed records, in order. -/
def managedOperationIds (records : List (BoxRecord Config Policy Plan)) : List OperationId :=
  records.filterMap fun record => record.managedExecution.map (·.operationId)

theorem validateManagedRecord_eq_ok {record : BoxRecord Config Policy Plan} :
    validateManagedRecord resolve record = .ok () ↔
      ∀ metadata, record.managedExecution = some metadata →
        metadata.validate resolve = .ok () ∧ isBlank record.id = false ∧
          ∃ state, record.managedState = .ok (some state) := by
  unfold validateManagedRecord
  cases hm : record.managedExecution with
  | none => simp
  | some metadata =>
    simp only [Option.some.injEq, forall_eq', ← BoxRecord.managedState_isOk hm,
      ← Bool.not_eq_true', ← ExecutionId.new_isOk]
    cases hv : metadata.validate resolve with
    | error e => simp [Except.mapError]
    | ok u =>
      cases hid : ExecutionId.new record.id with
      | error e => simp [Except.mapError, Except.isOk, Except.toBool]
      | ok eid =>
        cases hs : record.managedState <;>
          simp [Except.mapError, Except.isOk, Except.toBool]

theorem validateManagedRecordsFrom_eq_ok {seen : List OperationId}
    {records : List (BoxRecord Config Policy Plan)} :
    validateManagedRecordsFrom resolve seen records = .ok () ↔
      (∀ record ∈ records, validateManagedRecord resolve record = .ok ()) ∧
        (managedOperationIds records).Nodup ∧
        ∀ operationId ∈ managedOperationIds records, operationId ∉ seen := by
  induction records generalizing seen with
  | nil => simp [validateManagedRecordsFrom, managedOperationIds]
  | cons record rest ih =>
    cases hm : record.managedExecution with
    | none =>
      have hrec : validateManagedRecord resolve record = .ok () := by
        simp [validateManagedRecord, hm]
      simp [validateManagedRecordsFrom, hm, ih, managedOperationIds, hrec]
    | some metadata =>
      have hids : managedOperationIds (record :: rest) =
          metadata.operationId :: managedOperationIds rest := by
        simp [managedOperationIds, hm]
      rw [hids]
      simp only [validateManagedRecordsFrom, hm, bind_unit_eq_ok, ensure_eq_ok, ih,
        List.nodup_cons, List.mem_cons, forall_eq_or_imp, not_or, Bool.not_eq_true',
        List.contains_eq_mem, decide_eq_false_iff_not]
      constructor
      · rintro ⟨hr, hseen, hrest, hnd, hfresh⟩
        exact ⟨⟨hr, hrest⟩, ⟨fun h => (hfresh _ h).1 rfl, hnd⟩, hseen,
          fun o ho => (hfresh o ho).2⟩
      · rintro ⟨⟨hr, hrest⟩, ⟨hnotin, hnd⟩, hseen, hfresh⟩
        refine ⟨hr, hseen, hrest, hnd, fun o ho => ⟨?_, hfresh o ho⟩⟩
        rintro rfl
        exact hnotin ho

/-- The state file is valid exactly when every managed record is valid on its own and
    no managed operation ID repeats. -/
theorem validateManagedRecords_eq_ok {records : List (BoxRecord Config Policy Plan)} :
    validateManagedRecords resolve records = .ok () ↔
      (∀ record ∈ records, validateManagedRecord resolve record = .ok ()) ∧
        (managedOperationIds records).Nodup := by
  simp [validateManagedRecords, validateManagedRecordsFrom_eq_ok]

/-- Two records agree on what the check reads: the ID, the status and the managed
    metadata. -/
def CheckedAlike (record record' : BoxRecord Config Policy Plan) : Prop :=
  record.id = record'.id ∧ record.status = record'.status ∧
    record.managedExecution = record'.managedExecution

omit [DecidableEq Plan] in
theorem BoxRecord.managedState_congr {record record' : BoxRecord Config Policy Plan}
    (h : CheckedAlike record record') : record.managedState = record'.managedState := by
  obtain ⟨-, hs, hm⟩ := h
  unfold BoxRecord.managedState
  rw [hs, hm]

theorem validateManagedRecord_congr {record record' : BoxRecord Config Policy Plan}
    (h : CheckedAlike record record') :
    validateManagedRecord resolve record = validateManagedRecord resolve record' := by
  have hstate := BoxRecord.managedState_congr h
  obtain ⟨hid, -, hm⟩ := h
  unfold validateManagedRecord
  rw [hid, hm, hstate]

/-- The check reads nothing of a record but its ID, status and managed metadata. -/
theorem validateManagedRecordsFrom_congr {seen : List OperationId}
    {records records' : List (BoxRecord Config Policy Plan)}
    (h : List.Forall₂ CheckedAlike records records') :
    validateManagedRecordsFrom resolve seen records =
      validateManagedRecordsFrom resolve seen records' := by
  induction h generalizing seen with
  | nil => rfl
  | @cons record record' rest rest' halike _ ih =>
    have hrecord := validateManagedRecord_congr resolve halike
    obtain ⟨-, -, hm⟩ := halike
    unfold validateManagedRecordsFrom
    rw [hm]
    cases record'.managedExecution with
    | none => exact ih
    | some metadata => simp only [hrecord, ih]

variable {records : List (BoxRecord Config Policy Plan)} {record : BoxRecord Config Policy Plan}

/-- Every managed record of a valid file has a lifecycle state. -/
theorem managedState_of_valid (hvalid : validateManagedRecords resolve records = .ok ())
    (hr : record ∈ records) {metadata : ManagedExecutionMetadata Config Policy Plan}
    (hm : record.managedExecution = some metadata) :
    ∃ state, record.managedState = .ok (some state) :=
  ((validateManagedRecord_eq_ok resolve).mp
    ((validateManagedRecords_eq_ok resolve).mp hvalid |>.1 record hr) metadata hm).2.2

/-- In a valid file the state of a managed record is the one its status names. -/
theorem managedState_of_status (hvalid : validateManagedRecords resolve records = .ok ())
    (hr : record ∈ records) {metadata : ManagedExecutionMetadata Config Policy Plan}
    (hm : record.managedExecution = some metadata) {state : ManagedExecutionState}
    (hs : record.status = state.asStatus) : record.managedState = .ok (some state) := by
  obtain ⟨state', hst⟩ := managedState_of_valid resolve hvalid hr hm
  obtain ⟨_, _, hparse, _⟩ := BoxRecord.managedState_eq_some.mp hst
  rw [hs, ManagedExecutionState.fromStatus_asStatus] at hparse
  cases hparse
  exact hst

/-- Appending a valid record with a new operation ID keeps the file valid. -/
theorem validateManagedRecords_append (hvalid : validateManagedRecords resolve records = .ok ())
    (hrecord : validateManagedRecord resolve record = .ok ())
    (hfresh : ∀ metadata, record.managedExecution = some metadata →
      BoxStateStore.findByOperationId records metadata.operationId = none) :
    validateManagedRecords resolve (records ++ [record]) = .ok () := by
  obtain ⟨hall, hnd⟩ := (validateManagedRecords_eq_ok resolve).mp hvalid
  refine (validateManagedRecords_eq_ok resolve).mpr ⟨?_, ?_⟩
  · intro r hr
    rcases List.mem_append.mp hr with hr | hr
    · exact hall r hr
    · rw [List.mem_singleton.mp hr]
      exact hrecord
  · unfold managedOperationIds at hnd ⊢
    rw [List.filterMap_append, List.nodup_append]
    refine ⟨hnd, ?_, ?_⟩
    · cases hm : record.managedExecution <;> simp [hm]
    · intro a ha b hb hab
      cases hm : record.managedExecution with
      | none => simp [hm] at hb
      | some metadata =>
        simp only [List.filterMap_cons, List.filterMap_nil, hm, Option.map_some,
          List.mem_singleton] at hb
        obtain ⟨r, hr, hra⟩ := List.mem_filterMap.mp ha
        cases hmr : r.managedExecution with
        | none => simp [hmr] at hra
        | some rm =>
          simp only [hmr, Option.map_some, Option.some.injEq] at hra
          exact BoxStateStore.findByOperationId_eq_none.mp (hfresh metadata hm) r hr rm hmr
            (by rw [hra, hab, hb])

/-- Rewriting a record into a valid one with the same operation ID keeps the file
    valid. -/
theorem validateManagedRecords_replaceById (hvalid : validateManagedRecords resolve records = .ok ())
    {key : String} {old : BoxRecord Config Policy Plan}
    (hfind : BoxStateStore.findById records key = some old)
    (hrecord : validateManagedRecord resolve record = .ok ())
    (hsame : record.managedExecution.map (·.operationId) = old.managedExecution.map (·.operationId)) :
    validateManagedRecords resolve (BoxStateStore.replaceById records key record) = .ok () := by
  obtain ⟨hall, hnd⟩ := (validateManagedRecords_eq_ok resolve).mp hvalid
  refine (validateManagedRecords_eq_ok resolve).mpr ⟨?_, ?_⟩
  · intro r hr
    rcases mem_replaceKey hr with rfl | hr
    · exact hrecord
    · exact hall r hr
  · have hids : managedOperationIds (BoxStateStore.replaceById records key record) =
        managedOperationIds records :=
      filterMap_replaceKey fun z hz => by
        rw [show z = old from Option.some.inj (hz.symm.trans hfind), hsame]
    rw [hids]
    exact hnd

end Validation

end A3sBox.Runtime
