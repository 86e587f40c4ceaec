import A3sBox.Runtime.StoreRuns

/-
  The CLI reconcile pass over the shared state file (`cli/src/state/file.rs`,
  `cli/src/state/policy.rs`).

  `reconcile` is `StateFile::reconcile` on its non-Windows branch: every record whose
  status is `running` or `paused` and whose process is gone is marked `dead`, with its
  exit code read from the rootfs when none is recorded, and the auto-remove records
  among them are dropped. The host answers two questions, `Host.processAlive`
  (`is_process_alive_with_identity`) and `Host.persistedExitCode`
  (`read_persisted_exit_code`); the results hold for every answer.

  The pass rewrites the status by string and never looks at managed metadata, while
  the runtime stores a cold-paused execution as `paused` with no PID and
  `paused_with_memory = false` (`clear_live_runtime_for_cold_pause`).
  `reconcile_invalidates_cold_pause`: such a record is marked `dead`, which parses as
  `failed`, and `failed` cannot retain a filesystem-only pause, so the file no longer
  passes `validate_managed_records` and `flush_reconcile` cannot write it back.
  `reconcile_keeps_valid`: without a cold-paused managed record the pass keeps every
  valid file valid.
-/

namespace A3sBox.Cli

open A3sBox.Lib A3sBox.Runtime

/-- What the reconcile pass asks the host. -/
structure Host where
  /-- `is_process_alive_with_identity(pid, pid_start_time)`. -/
  processAlive : Nat → Option Nat → Bool
  /-- `read_persisted_exit_code(box_dir)`. -/
  persistedExitCode : String → Option Int

variable {Config Policy Plan : Type}

/-! ## Restart policy -/

/-- `str::strip_prefix`, on characters. -/
def stripLeading (leading value : List Char) : Option (List Char) :=
  if leading.isPrefixOf value then some (value.drop leading.length) else none

/-- `str::parse::<u32>`: an optional `+`, then at least one ASCII digit, with a value
    that fits in 32 bits. -/
def parseU32 (value : List Char) : Option Nat :=
  let digits := match value with
    | '+' :: rest => rest
    | _ => value
  if digits ≠ [] ∧ digits.all Char.isDigit then
    let parsed := digits.foldl (fun acc c => acc * 10 + (c.toNat - '0'.toNat)) 0
    if parsed < 2 ^ 32 then some parsed else none
  else none

/-- `exited_on_failure`: an unknown exit counts as a failure. -/
def exitedOnFailure (record : BoxRecord Config Policy Plan) : Bool := record.exitCode != some 0

/-- `should_restart`. -/
def shouldRestart (record : BoxRecord Config Policy Plan) : Bool :=
  match stripLeading "on-failure:".toList record.restartPolicy.toList with
  | some maxStr =>
    match parseU32 maxStr with
    | some max => !record.stoppedByUser && exitedOnFailure record && decide (record.restartCount < max)
    -- A malformed count never restarts.
    | none => false
  | none =>
    -- `max_restart_count` 0 means unlimited.
    let belowMax :=
      if 0 < record.maxRestartCount then decide (record.restartCount < record.maxRestartCount)
      else true
    match record.restartPolicy with
    | "always" => belowMax
    | "on-failure" => !record.stoppedByUser && exitedOnFailure record && belowMax
    | "unless-stopped" => !record.stoppedByUser && belowMax
    | _ => false

/-! ## `StateFile::reconcile` -/

/-- `is_record_pid_live`: a recorded PID whose process is alive with the recorded start
    time. -/
def isRecordPidLive (host : Host) (record : BoxRecord Config Policy Plan) : Bool :=
  record.pid.any fun pid => host.processAlive pid record.pidStartTime

/-- The records the pass marks dead: they claim to run and their process is gone. -/
def diesOnReconcile (host : Host) (record : BoxRecord Config Policy Plan) : Bool :=
  (record.status == "running" || record.status == "paused") && !isRecordPidLive host record

/-- The record as the pass writes a dead one. -/
def markDead (host : Host) (record : BoxRecord Config Policy Plan) : BoxRecord Config Policy Plan :=
  { record with
    exitCode := if record.exitCode.isNone then host.persistedExitCode record.boxDir
      else record.exitCode
    status := "dead"
    pid := none
    healthStatus := "none"
    healthRetries := 0 }

/-- One iteration of the loop over `records_mut()`. -/
def reconcileRecord (host : Host) (record : BoxRecord Config Policy Plan) :
    BoxRecord Config Policy Plan :=
  if diesOnReconcile host record then markDead host record else record

/-- `ReconcileOutcome`. -/
structure ReconcileOutcome (Config Policy Plan : Type) where
  changed : Bool
  stopped : List (BoxRecord Config Policy Plan)
  removed : List (BoxRecord Config Policy Plan)
  restartCandidates : List String

/-- `StateFile::reconcile`: the records it leaves, and its outcome. -/
def reconcile (host : Host) (records : List (BoxRecord Config Policy Plan)) :
    List (BoxRecord Config Policy Plan) × ReconcileOutcome Config Policy Plan :=
  let marked := records.map (reconcileRecord host)
  let dead := (records.filter (diesOnReconcile host)).map (markDead host)
  let removed := dead.filter (·.autoRemove)
  let stopped := dead.filter (!·.autoRemove)
  let kept := if removed.isEmpty then marked
    else marked.filter fun record => !removed.any (·.id == record.id)
  let outcome : ReconcileOutcome Config Policy Plan :=
    { changed := !dead.isEmpty
      stopped := stopped
      removed := removed
      restartCandidates := (stopped.filter shouldRestart).map fun record => record.id }
  (kept, outcome)

theorem reconcileRecord_checkedAlike {host : Host} {record : BoxRecord Config Policy Plan}
    (h : diesOnReconcile host record = false) : CheckedAlike (reconcileRecord host record) record := by
  simp [reconcileRecord, h, CheckedAlike]

@[simp] theorem reconcileRecord_id (host : Host) (record : BoxRecord Config Policy Plan) :
    (reconcileRecord host record).id = record.id := by
  unfold reconcileRecord markDead
  split <;> rfl

@[simp] theorem reconcileRecord_managedExecution (host : Host)
    (record : BoxRecord Config Policy Plan) :
    (reconcileRecord host record).managedExecution = record.managedExecution := by
  unfold reconcileRecord markDead
  split <;> rfl

/-- The pass keeps a subset of the rewritten records, in order. -/
theorem reconcile_sublist (host : Host) (records : List (BoxRecord Config Policy Plan)) :
    (reconcile host records).1.Sublist (records.map (reconcileRecord host)) := by
  unfold reconcile
  dsimp only
  split
  · exact List.Sublist.refl _
  · exact List.filter_sublist

/-! ## What the pass does to the runtime's check -/

section Check

variable [DecidableEq Plan] (resolve : Config → Except String Plan)

/-- A managed record that the pass marks dead stays valid when it was kept with its
    memory: `running` and `paused` carry no pending operation, and `failed` accepts none
    with the memory kept. -/
theorem validateManagedRecord_reconcileRecord (host : Host) {record : BoxRecord Config Policy Plan}
    (hrecord : validateManagedRecord resolve record = .ok ())
    (hwarm : ∀ metadata, record.managedExecution = some metadata → record.status = "paused" →
      metadata.pausedWithMemory = true) :
    validateManagedRecord resolve (reconcileRecord host record) = .ok () := by
  cases hdies : diesOnReconcile host record with
  | false => rwa [validateManagedRecord_congr resolve (reconcileRecord_checkedAlike hdies)]
  | true =>
    have hstatus : record.status = "running" ∨ record.status = "paused" := by
      simpa [diesOnReconcile] using (Bool.and_eq_true _ _).mp hdies |>.1
    have hdead : reconcileRecord host record = markDead host record := by
      simp [reconcileRecord, hdies]
    rw [hdead]
    refine (validateManagedRecord_eq_ok resolve).mpr fun metadata hdeadm => ?_
    have hm : record.managedExecution = some metadata := hdeadm
    obtain ⟨hmvalid, hblank, state, hst⟩ :=
      (validateManagedRecord_eq_ok resolve).mp hrecord metadata hm
    obtain ⟨_, hm', hparse, hpending⟩ := BoxRecord.managedState_eq_some.mp hst
    rw [hm] at hm'
    cases hm'
    -- The record was `running` or `paused`, so it had no pending operation and kept its
    -- memory.
    have hstable : state = .running ∨ state = .paused := by
      rcases hstatus with hs | hs <;> rw [hs] at hparse <;> cases hparse <;> simp
    have hnone : metadata.pendingOperation = none ∧ metadata.pausedWithMemory = true := by
      rcases hstable with rfl | rfl
      · obtain ⟨hc, -, -, -, hcold⟩ := validatePendingOperation_eq_ok.mp hpending
        cases hop : metadata.pendingOperation with
        | none =>
          rw [hop] at hcold
          simpa [validColdPauseState] using hcold
        | some operation => rw [hop] at hc; cases operation <;> simp [pendingConsistent] at hc
      · obtain ⟨hc, -, -, -, -⟩ := validatePendingOperation_eq_ok.mp hpending
        refine ⟨?_, hwarm metadata hm (hstatus.resolve_left fun h => by rw [h] at hparse; cases hparse)⟩
        cases hop : metadata.pendingOperation with
        | none => rfl
        | some operation => rw [hop] at hc; cases operation <;> simp [pendingConsistent] at hc
    refine ⟨hmvalid, hblank, .failed, BoxRecord.managedState_eq_some.mpr ⟨metadata, hm, rfl, ?_⟩⟩
    exact (validatePendingOperation_of_none hnone.1).mpr ⟨rfl, .inl hnone.2⟩

/-- Without a cold-paused managed record, the pass keeps every valid file valid, for
    every answer of the host. -/
theorem reconcile_keeps_valid (host : Host) (records : List (BoxRecord Config Policy Plan))
    (hvalid : validateManagedRecords resolve records = .ok ())
    (hwarm : ∀ record ∈ records, ∀ metadata, record.managedExecution = some metadata →
      record.status = "paused" → metadata.pausedWithMemory = true) :
    validateManagedRecords resolve (reconcile host records).1 = .ok () := by
  obtain ⟨hall, hnd⟩ := (validateManagedRecords_eq_ok resolve).mp hvalid
  have hsub := reconcile_sublist host records
  refine (validateManagedRecords_eq_ok resolve).mpr ⟨fun record hr => ?_, ?_⟩
  · obtain ⟨old, hold, rfl⟩ := List.mem_map.mp (hsub.subset hr)
    exact validateManagedRecord_reconcileRecord resolve host (hall old hold) (hwarm old hold)
  · have hids : managedOperationIds (records.map (reconcileRecord host)) =
        managedOperationIds records := by
      simp [managedOperationIds, List.filterMap_map]
    rw [← hids] at hnd
    exact (hsub.filterMap _).nodup hnd

end Check

/-- A host on which no process is alive and no exit code was persisted. -/
def deadHost : Host := ⟨fun _ _ => false, fun _ => none⟩

/-- A managed execution running with its memory. -/
def runningRecord : BoxRecord Unit Unit Unit := { sampleRecord with status := "running" }

theorem reconcile_keeps_running_valid :
    validateManagedRecords unitResolve (reconcile deadHost [runningRecord]).1 = .ok () :=
  reconcile_keeps_valid unitResolve deadHost [runningRecord] (by decide)
    fun record hr _ _ hs => by
      rw [List.mem_singleton.mp hr] at hs
      exact absurd hs (by decide)

/-! ## A cold-paused managed record -/

/-- A managed execution paused to its filesystem only, as
    `clear_live_runtime_for_cold_pause` leaves it. -/
def coldPausedRecord : BoxRecord Unit Unit Unit :=
  { sampleRecord with
    status := "paused"
    managedExecution := some { sampleMetadata with pausedWithMemory := false } }

/-- The record as the pass writes it, with the exit code it had. -/
def coldPausedMarkedDead : BoxRecord Unit Unit Unit :=
  { coldPausedRecord with status := "dead", pid := none, healthStatus := "none", healthRetries := 0 }

/-- For every answer of the host, the file holding the cold-paused record is valid, and
    the file the pass leaves is not. -/
theorem reconcile_invalidates_cold_pause (host : Host) :
    validateManagedRecords unitResolve [coldPausedRecord] = .ok () ∧
      validateManagedRecords unitResolve (reconcile host [coldPausedRecord]).1 =
        .error "invalid managed execution box-1: VM state error: managed execution state failed cannot retain a filesystem-only pause" := by
  refine ⟨by decide, ?_⟩
  -- The record has no PID, so it dies whatever the host answers; only its exit code,
  -- which the check does not read, depends on the host.
  have hleft : (reconcile host [coldPausedRecord]).1 = [markDead host coldPausedRecord] := rfl
  have halike : List.Forall₂ CheckedAlike [markDead host coldPausedRecord] [coldPausedMarkedDead] :=
    .cons ⟨rfl, rfl, rfl⟩ .nil
  rw [hleft, validateManagedRecords, validateManagedRecordsFrom_congr unitResolve halike]
  decide

end A3sBox.Cli
