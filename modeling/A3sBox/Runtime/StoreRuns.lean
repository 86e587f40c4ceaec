import A3sBox.Runtime.ManagedExecutionStore
import A3sBox.Lib.Runs

/-
  Runs of the managed execution store.

  A run is any sequence of `StoreCall`s (`reserve`, `transition`, `transition_with` with
  any update, `begin_remove`, `finish_remove`) applied to the state file, starting from
  an empty one. `StoreEffect` says once what one call can do to the file: nothing, append
  one `created` record with a new ID, rewrite the record of one ID along one
  `LifecycleStep`, or erase the ID of one `removing` record. `StoreCall.run_effect`
  proves that every call has such an effect from a state that satisfies
  `StoreInvariant` (a valid file with distinct IDs), and keeps the invariant; all
  statements about runs follow from the effect alone.

  `LifecycleStep` is the specification of what may happen to one record: it stays, or
  it takes one edge of `transition_generation` with the generation advanced exactly on
  the completing edges, or one `begin_remove` edge with the generation kept, and in
  both cases keeps its ID, operation ID, request and plan.
-/

namespace A3sBox.Runtime

open A3sBox.Lib ManagedExecutionState

variable {Config Policy Plan : Type}

/-- One call of the store's mutating API. -/
inductive StoreCall (Config Policy Plan : Type) where
  | reserve (record : BoxRecord Config Policy Plan)
  | transition (executionId : ExecutionId) (expectedGeneration : ExecutionGeneration)
      (expectedState nextState : ManagedExecutionState)
  | transitionWith (executionId : ExecutionId) (expectedGeneration : ExecutionGeneration)
      (expectedState nextState : ManagedExecutionState)
      (update : BoxRecord Config Policy Plan → BoxRecord Config Policy Plan)
  | beginRemove (executionId : ExecutionId) (expectedGeneration : ExecutionGeneration)
  | finishRemove (executionId : ExecutionId) (expectedGeneration : ExecutionGeneration)

/-- The value a call returns. -/
inductive StoreOutput (Config Policy Plan : Type) where
  | reservation (reservation : ManagedExecutionReservation Config Policy Plan)
  | record (record : BoxRecord Config Policy Plan)
  | removal (record : Option (BoxRecord Config Policy Plan))
  | removed (removed : Bool)

/-- The result of an operation, with its value wrapped. -/
def mapOutput {R R' : Type} (f : R → R') (result : StoreResult Config Policy Plan R) :
    StoreResult Config Policy Plan R' :=
  (f <$> result.1, result.2)

@[simp] theorem mapOutput_snd {R R' : Type} (f : R → R') (result : StoreResult Config Policy Plan R) :
    (mapOutput f result).2 = result.2 := rfl

/-! ## What may happen to one record -/

/-- One call's effect on one persisted record, seen through its ID. -/
def LifecycleStep (record record' : BoxRecord Config Policy Plan) : Prop :=
  record' = record ∨
    ∃ metadata metadata' state state',
      record.managedExecution = some metadata ∧ record'.managedExecution = some metadata' ∧
      record.managedState = .ok (some state) ∧ record'.managedState = .ok (some state') ∧
      record'.id = record.id ∧ metadata'.operationId = metadata.operationId ∧
      metadata'.request = metadata.request ∧ metadata'.plan = metadata.plan ∧
      ((legalTransition state state' = true ∧
          metadata'.generation.get =
            metadata.generation.get + (if bumpsGeneration state state' then 1 else 0)) ∨
        (removeTransition state state' = true ∧ metadata'.generation = metadata.generation))

theorem LifecycleStep.refl (record : BoxRecord Config Policy Plan) : LifecycleStep record record :=
  .inl rfl

/-- No step leaves `removing`. -/
theorem LifecycleStep.of_removing {record record' : BoxRecord Config Policy Plan}
    (h : LifecycleStep record record') (hst : record.managedState = .ok (some removing)) :
    record' = record := by
  rcases h with h | ⟨_, _, state, state', _, _, hs, _, _, _, _, _, hedge⟩
  · exact h
  · have hstate : state = removing := by
      rw [hst] at hs
      exact (Option.some.inj (Except.ok.inj hs)).symm
    subst hstate
    rcases hedge with ⟨hlegal, _⟩ | ⟨hremove, _⟩
    · rw [legalTransition_removing] at hlegal
      cases hlegal
    · simp [removeTransition] at hremove

/-- The call removes the record: `finish_remove` of its ID at its generation, while it
    is `removing`. -/
def StoreCall.Removes : StoreCall Config Policy Plan → BoxRecord Config Policy Plan → Prop
  | .finishRemove executionId expectedGeneration, record =>
    executionId.val = record.id ∧ record.managedState = .ok (some removing) ∧
      record.managedExecution.map (·.generation) = some expectedGeneration
  | _, _ => False

/-- The call reserves the record: `reserve` of it, written `created` at the initial
    generation. -/
def StoreCall.Reserves : StoreCall Config Policy Plan → BoxRecord Config Policy Plan → Prop
  | .reserve record, written =>
    written = { record with status := created.asStatus } ∧
      written.managedState = .ok (some created) ∧
      written.managedExecution.map (·.generation) = some ExecutionGeneration.initial
  | _, _ => False

/-! ## What one call can do to the file -/

/-- The write a call makes, as a keyed-list operation on the ID column. -/
inductive StoreEffect : StoreCall Config Policy Plan → List (BoxRecord Config Policy Plan) →
    List (BoxRecord Config Policy Plan) → Prop
  | unchanged {call records} : StoreEffect call records records
  | append {records} (record written : BoxRecord Config Policy Plan) :
      BoxStateStore.findById records written.id = none →
      StoreCall.Reserves (.reserve record) written →
      StoreEffect (.reserve record) records (records ++ [written])
  | rewrite {call records} (key : String) (old new : BoxRecord Config Policy Plan) :
      BoxStateStore.findById records key = some old → new.id = key → LifecycleStep old new →
      StoreEffect call records (BoxStateStore.replaceById records key new)
  | erase {records} (executionId : ExecutionId) (expectedGeneration : ExecutionGeneration)
      (old : BoxRecord Config Policy Plan) :
      BoxStateStore.findById records executionId.val = some old →
      StoreCall.Removes (.finishRemove executionId expectedGeneration) old →
      StoreEffect (.finishRemove executionId expectedGeneration) records
        (eraseKey BoxRecord.id executionId.val records)

section Effect

variable {call : StoreCall Config Policy Plan} {records records' : List (BoxRecord Config Policy Plan)}

theorem StoreEffect.lifecycle (h : StoreEffect call records records')
    (hnd : (records.map BoxRecord.id).Nodup) :
    ∀ record ∈ records, ∀ record' ∈ records', record'.id = record.id →
      LifecycleStep record record' := by
  cases h with
  | unchanged =>
    intro record hr record' hr' hid
    rw [List.inj_on_of_nodup_map hnd hr' hr hid]
    exact LifecycleStep.refl _
  | append record written hfresh _ => exact rel_append LifecycleStep.refl hnd hfresh
  | rewrite key old new hfind hid hstep => exact rel_replaceKey LifecycleStep.refl hnd hfind hid hstep
  | erase executionId expectedGeneration old _ _ => exact rel_eraseKey LifecycleStep.refl hnd

/-- A record that is gone after the call was removed by it. -/
theorem StoreEffect.removes (h : StoreEffect call records records')
    (hnd : (records.map BoxRecord.id).Nodup) :
    ∀ record ∈ records, (∀ record' ∈ records', record'.id ≠ record.id) → call.Removes record := by
  intro record hr hgone
  cases h with
  | unchanged => exact absurd rfl (hgone record hr)
  | append _ _ _ _ => exact absurd rfl (hgone record (List.mem_append_left _ hr))
  | rewrite key old new _ hid _ =>
    obtain ⟨b, hb, hbk⟩ := exists_key_replaceKey hid hr
    exact absurd hbk (hgone b hb)
  | erase executionId expectedGeneration old hfind hremoves =>
    have hkey : record.id = executionId.val := key_eq_of_forall_ne_eraseKey hr hgone
    obtain ⟨hold, hold_id⟩ := findKey_eq_some hfind
    have hrecord : record = old :=
      List.inj_on_of_nodup_map hnd hr hold (hkey.trans hold_id.symm)
    rw [hrecord]
    exact hremoves

/-- A record that is new after the call was reserved by it. -/
theorem StoreEffect.reserves (h : StoreEffect call records records') :
    ∀ record' ∈ records', (∀ record ∈ records, record.id ≠ record'.id) → call.Reserves record' := by
  intro record' hr' hnew
  cases h with
  | unchanged => exact absurd rfl (hnew record' hr')
  | append record written _ hreserves =>
    rcases List.mem_append.mp hr' with hr' | hr'
    · exact absurd rfl (hnew record' hr')
    · rw [List.mem_singleton.mp hr']
      exact hreserves
  | rewrite key old new hfind hid _ =>
    obtain ⟨a, ha, hak⟩ := exists_key_of_mem_replaceKey hfind hid hr'
    exact absurd hak (hnew a ha)
  | erase _ _ _ _ _ => exact absurd rfl (hnew record' (mem_eraseKey.mp hr').1)

theorem StoreEffect.nodup (h : StoreEffect call records records')
    (hnd : (records.map BoxRecord.id).Nodup) : (records'.map BoxRecord.id).Nodup := by
  cases h with
  | unchanged => exact hnd
  | append _ _ hfresh _ => exact nodup_append_fresh hnd hfresh
  | rewrite key old new _ hid _ => exact (map_replaceKey hid).symm ▸ hnd
  | erase _ _ _ _ _ => exact nodup_eraseKey hnd

/-- The record a store operation wrote back is a member of the file. -/
theorem mem_replaceById_written {records : List (BoxRecord Config Policy Plan)} {key : String}
    {old written : BoxRecord Config Policy Plan}
    (hfind : BoxStateStore.findById records key = some old) (hid : written.id = key) :
    written ∈ BoxStateStore.replaceById records key written :=
  mem_replaceKey_self hid ⟨old, (findKey_eq_some hfind).1, (findKey_eq_some hfind).2⟩

end Effect

/-! ## Every call has an effect -/

section Runs

variable [DecidableEq Config] [DecidableEq Policy] [DecidableEq Plan]
  (resolve : Config → Except String Plan)

/-- Run one call on the file. -/
def StoreCall.run : StoreCall Config Policy Plan → List (BoxRecord Config Policy Plan) →
    StoreResult Config Policy Plan (StoreOutput Config Policy Plan)
  | .reserve record, records => mapOutput .reservation (Runtime.reserve resolve record records)
  | .transition executionId expectedGeneration expectedState nextState, records =>
    mapOutput .record (Runtime.transition resolve executionId expectedGeneration expectedState nextState
      records)
  | .transitionWith executionId expectedGeneration expectedState nextState update, records =>
    mapOutput .record (Runtime.transitionWith resolve executionId expectedGeneration expectedState
      nextState update records)
  | .beginRemove executionId expectedGeneration, records =>
    mapOutput .removal (Runtime.beginRemove resolve executionId expectedGeneration records)
  | .finishRemove executionId expectedGeneration, records =>
    mapOutput .removed (Runtime.finishRemove resolve executionId expectedGeneration records)

/-- The file after one call. -/
def storeStep (records : List (BoxRecord Config Policy Plan)) (call : StoreCall Config Policy Plan) :
    List (BoxRecord Config Policy Plan) :=
  (call.run resolve records).2

/-- The file after a run from an empty file. -/
def runCalls (calls : List (StoreCall Config Policy Plan)) : List (BoxRecord Config Policy Plan) :=
  calls.foldl (storeStep resolve) []

/-- The invariant of every file a run reaches. -/
structure StoreInvariant (records : List (BoxRecord Config Policy Plan)) : Prop where
  valid : validateManagedRecords resolve records = .ok ()
  idsNodup : (records.map BoxRecord.id).Nodup

omit [DecidableEq Config] [DecidableEq Policy] in
theorem StoreInvariant.empty : StoreInvariant resolve ([] : List (BoxRecord Config Policy Plan)) :=
  ⟨(validateManagedRecords_eq_ok resolve).mpr ⟨by simp, by simp [managedOperationIds]⟩, by simp⟩

variable {resolve}

/-- A failed call writes nothing. -/
theorem StoreCall.run_error_state {call : StoreCall Config Policy Plan}
    {records : List (BoxRecord Config Policy Plan)} {error : ManagedExecutionStoreError}
    (h : (call.run resolve records).1 = .error error) : (call.run resolve records).2 = records := by
  cases call with
  | reserve record =>
    simp only [StoreCall.run, mapOutput, map_eq_error] at h ⊢
    unfold Runtime.reserve at h ⊢
    cases hnew : validateNewRecord resolve record with
    | error e => rfl
    | ok executionId =>
      simp only [hnew] at h ⊢
      cases hm : record.managedExecution with
      | none => simp
      | some incoming =>
        simp only [hm] at h ⊢
        exact transact_error_state h
  | transition =>
    simp only [StoreCall.run, mapOutput, map_eq_error] at h ⊢
    exact transact_error_state h
  | transitionWith =>
    simp only [StoreCall.run, mapOutput, map_eq_error] at h ⊢
    exact transact_error_state h
  | beginRemove =>
    simp only [StoreCall.run, mapOutput, map_eq_error] at h ⊢
    exact transact_error_state h
  | finishRemove =>
    simp only [StoreCall.run, mapOutput, map_eq_error] at h ⊢
    exact transact_error_state h

omit [DecidableEq Config] [DecidableEq Policy] in
/-- A transaction whose successful bodies have an effect has that effect, and keeps the
    file valid. -/
theorem transact_effect {R : Type} {call : StoreCall Config Policy Plan}
    {body : List (BoxRecord Config Policy Plan) →
      Except ManagedExecutionStoreError (R × List (BoxRecord Config Policy Plan))}
    {records : List (BoxRecord Config Policy Plan)}
    (heffect : ∀ out records', body records = .ok (out, records') →
      validateManagedRecords resolve records' = .ok () → StoreEffect call records records') :
    StoreEffect call records (BoxStateStore.transact resolve body records).2 ∧
      (validateManagedRecords resolve records = .ok () →
        validateManagedRecords resolve (BoxStateStore.transact resolve body records).2 = .ok ()) := by
  rcases @transact_state_cases _ _ _ (validateManagedRecords resolve) .io body records with
    hsame | ⟨hok, hvalid'⟩
  · unfold BoxStateStore.transact
    rw [hsame]
    exact ⟨.unchanged, id⟩
  · obtain ⟨out, hout⟩ : ∃ out, (Lib.transact (validateManagedRecords resolve) .io body records).1 =
        .ok out := by
      cases hres : (Lib.transact (validateManagedRecords resolve) .io body records).1 with
      | error e => simp [hres, Except.isOk, Except.toBool] at hok
      | ok out => exact ⟨out, rfl⟩
    obtain ⟨-, hbody, -⟩ := transact_ok hout
    exact ⟨heffect _ _ hbody hvalid', fun _ => hvalid'⟩

theorem transitionWith_effect {call : StoreCall Config Policy Plan}
    {records : List (BoxRecord Config Policy Plan)} {executionId : ExecutionId}
    {expectedGeneration : ExecutionGeneration} {expectedState nextState : ManagedExecutionState}
    {update : BoxRecord Config Policy Plan → BoxRecord Config Policy Plan} :
    StoreEffect call records (transitionWith resolve executionId expectedGeneration expectedState
      nextState update records).2 ∧
      (validateManagedRecords resolve records = .ok () →
        validateManagedRecords resolve (transitionWith resolve executionId expectedGeneration
          expectedState nextState update records).2 = .ok ()) := by
  refine transact_effect fun out records' hbody hvalid' => ?_
  obtain ⟨record, metadata, hfind, hm, hst, hg, hlegal, hid, hstatus,
    ⟨written, hw, hop, hrequest, hplan, hgen⟩, rfl⟩ := transitionWithBody_eq_ok hbody
  have hwst : out.managedState = .ok (some nextState) :=
    managedState_of_status resolve hvalid' (mem_replaceById_written hfind hid) hw hstatus
  refine .rewrite _ record out hfind hid (.inr ⟨metadata, written, expectedState, nextState, hm, hw,
    hst, hwst, hid.trans (findKey_eq_some hfind).2.symm, hop, hrequest, hplan, .inl ⟨hlegal, ?_⟩⟩)
  rw [hg]
  exact hgen

omit [DecidableEq Config] [DecidableEq Policy] in
theorem beginRemove_effect {records : List (BoxRecord Config Policy Plan)}
    {executionId : ExecutionId} {expectedGeneration : ExecutionGeneration} :
    StoreEffect (.beginRemove executionId expectedGeneration) records
        (beginRemove resolve executionId expectedGeneration records).2 ∧
      (validateManagedRecords resolve records = .ok () →
        validateManagedRecords resolve (beginRemove resolve executionId expectedGeneration
          records).2 = .ok ()) := by
  refine transact_effect fun out records' hbody hvalid' => ?_
  rcases beginRemoveBody_eq_ok hbody with rfl | ⟨record, metadata, state, hfind, hm, hst, hg,
    hremove, -, rfl⟩
  · exact .unchanged
  · have hid : (BoxRecord.claimRemoval record metadata).id = executionId.val :=
      (findKey_eq_some hfind).2
    have hwst : (BoxRecord.claimRemoval record metadata).managedState = .ok (some removing) :=
      managedState_of_status resolve hvalid' (mem_replaceById_written hfind hid) rfl rfl
    exact .rewrite _ record _ hfind hid (.inr ⟨metadata, _, state, removing, hm, rfl, hst, hwst,
      rfl, rfl, rfl, rfl, .inr ⟨hremove, rfl⟩⟩)

omit [DecidableEq Config] [DecidableEq Policy] in
theorem finishRemove_effect {records : List (BoxRecord Config Policy Plan)}
    {executionId : ExecutionId} {expectedGeneration : ExecutionGeneration} :
    StoreEffect (.finishRemove executionId expectedGeneration) records
        (finishRemove resolve executionId expectedGeneration records).2 ∧
      (validateManagedRecords resolve records = .ok () →
        validateManagedRecords resolve (finishRemove resolve executionId expectedGeneration
          records).2 = .ok ()) := by
  refine transact_effect fun out records' hbody _ => ?_
  rcases finishRemoveBody_eq_ok hbody with rfl | ⟨record, metadata, hfind, hm, hst, hg, -, rfl⟩
  · exact .unchanged
  · exact .erase executionId expectedGeneration record hfind
      ⟨(findKey_eq_some hfind).2.symm, hst, by rw [hm, Option.map_some, hg]⟩

theorem reserve_effect {records : List (BoxRecord Config Policy Plan)}
    {record : BoxRecord Config Policy Plan} :
    StoreEffect (.reserve record) records (reserve resolve record records).2 ∧
      (validateManagedRecords resolve records = .ok () →
        validateManagedRecords resolve (reserve resolve record records).2 = .ok ()) := by
  unfold reserve
  cases hnew : validateNewRecord resolve record with
  | error e => exact ⟨.unchanged, id⟩
  | ok executionId =>
    obtain ⟨hid, metadata, hm, -, -, hgen⟩ := validateNewRecord_eq_ok resolve hnew
    -- The appended record is `record` with its status reset to `created`.
    set written : BoxRecord Config Policy Plan := { record with status := created.asStatus }
    have hwm : written.managedExecution = some metadata := hm
    simp only [hwm]
    refine transact_effect fun out records' hbody hvalid' => ?_
    rcases reserveBody_eq_ok hbody with ⟨_, _, _, rfl⟩ | ⟨_, hfresh, -, rfl⟩
    · exact .unchanged
    · have hwst : written.managedState = .ok (some created) :=
        managedState_of_status resolve hvalid' (List.mem_append_right _ (List.mem_singleton_self _))
          hwm rfl
      exact .append record written (hid ▸ hfresh) ⟨rfl, hwst, by rw [hwm, Option.map_some, hgen]⟩

/-- Every call, from a state that satisfies the invariant, has an effect and keeps the
    invariant. -/
theorem StoreCall.run_effect {call : StoreCall Config Policy Plan}
    {records : List (BoxRecord Config Policy Plan)} (hinv : StoreInvariant resolve records) :
    StoreEffect call records (call.run resolve records).2 ∧
      StoreInvariant resolve (call.run resolve records).2 := by
  have key : StoreEffect call records (call.run resolve records).2 ∧
      (validateManagedRecords resolve records = .ok () →
        validateManagedRecords resolve (call.run resolve records).2 = .ok ()) := by
    cases call with
    | reserve record => exact reserve_effect
    | transition => exact transitionWith_effect
    | transitionWith => exact transitionWith_effect
    | beginRemove => exact beginRemove_effect
    | finishRemove => exact finishRemove_effect
  exact ⟨key.1, key.2 hinv.valid, key.1.nodup hinv.idsNodup⟩

theorem StoreInvariant.runCalls (calls : List (StoreCall Config Policy Plan)) :
    StoreInvariant resolve (runCalls resolve calls) :=
  (Reachable.of_foldl calls).inv (StoreInvariant resolve) (StoreInvariant.empty resolve)
    fun _ _ hinv => (StoreCall.run_effect hinv).2

/-- Lifecycle safety over whole runs: from an empty file, after any calls, the next call
    (a) writes nothing when it fails; (b, c, e) takes every record it keeps along one
    `LifecycleStep`; (d) keeps every `removing` record as it is, removes a record only
    by `finish_remove` of its ID and generation while it is `removing`, and adds a record
    only by `reserve`, `created` at the initial generation. -/
theorem store_run_lifecycle_steps (calls : List (StoreCall Config Policy Plan))
    (call : StoreCall Config Policy Plan) :
    let records := runCalls resolve calls
    let result := call.run resolve records
    (∀ error, result.1 = .error error → result.2 = records) ∧
    (∀ record ∈ records, ∀ record' ∈ result.2, record'.id = record.id →
      LifecycleStep record record') ∧
    (∀ record ∈ records, record.managedState = .ok (some removing) →
      ∀ record' ∈ result.2, record'.id = record.id → record' = record) ∧
    (∀ record ∈ records, (∀ record' ∈ result.2, record'.id ≠ record.id) → call.Removes record) ∧
    (∀ record' ∈ result.2, (∀ record ∈ records, record.id ≠ record'.id) → call.Reserves record') := by
  intro records result
  have hinv : StoreInvariant resolve records := StoreInvariant.runCalls calls
  have heffect : StoreEffect call records result.2 := (StoreCall.run_effect hinv).1
  have hlifecycle := heffect.lifecycle hinv.idsNodup
  refine ⟨fun _ h => StoreCall.run_error_state h, hlifecycle, ?_,
    heffect.removes hinv.idsNodup, heffect.reserves⟩
  intro record hr hst record' hr' hid
  exact (hlifecycle record hr record' hr' hid).of_removing hst

end Runs

/-! ## A record that keeps resources is removed

  `keeps_resources` is true of `removing`, and `finish_remove` deletes exactly the
  `removing` records: the record of a run that reserves and claims removal is deleted
  by the next call. The states a record may be removed from are the three that
  `begin_remove` accepts, `created`, `stopped` and `failed`, which keep no resources. -/

/-- A creation request with trivial configuration, policy and plan. -/
def sampleRequest : CreateExecutionRequest Unit Unit :=
  { externalSandboxId := "sandbox-1", config := (), labels := [], policy := (),
    rootfsSnapshotId := none }

def sampleExecutionId : ExecutionId := ⟨"box-1", by decide⟩

theorem sampleOperationId_nonblank : isBlank "op-1" = false := by decide

def sampleOperationId : OperationId := ⟨"op-1", sampleOperationId_nonblank⟩

def sampleMetadata : ManagedExecutionMetadata Unit Unit Unit :=
  { operationId := sampleOperationId, generation := .initial, request := sampleRequest, plan := (),
    pendingOperation := none, lastRestart := none, pausedWithMemory := true }

/-- A managed record as `reserve` receives it: `created` at the initial generation. -/
def sampleRecord : BoxRecord Unit Unit Unit :=
  { id := "box-1", status := "created", pid := none, pidStartTime := none, exitCode := none,
    boxDir := "/tmp/box-1", autoRemove := false, restartPolicy := "no", stoppedByUser := false,
    restartCount := 0, maxRestartCount := 0, healthStatus := "none", healthRetries := 0,
    managedExecution := some sampleMetadata }

/-- `resolve_execution` on the trivial configuration. -/
def unitResolve : Unit → Except String Unit := fun _ => .ok ()

theorem finish_remove_deletes_resource_keeping_record :
    (runCalls unitResolve [.reserve sampleRecord, .beginRemove sampleExecutionId .initial]).map
        BoxRecord.status = [removing.asStatus] ∧
      removing.keepsResources = true ∧
      ((StoreCall.finishRemove sampleExecutionId .initial).run unitResolve
        (runCalls unitResolve [.reserve sampleRecord, .beginRemove sampleExecutionId .initial])).2 =
        [] := by
  decide

end A3sBox.Runtime
