import A3sBox.Runtime.StoreRuns

/-
  Generation fencing of `transition_with`, and agreement of its edge table with the
  validator of the records it writes.

  * `transition_fence_single_winner`: once a transition from `(generation, state)` has
    succeeded, every other transition of the same ID from the same `(generation, state)`
    fails with a conflict and writes nothing. The record the winner wrote is in another
    state, since no legal edge is a self-loop (`legalTransition_irrefl`), and the fence
    of `transitionWithBody_of_stale` runs before the caller's update.
  * `legal_transition_accepted`: on a valid file, a transition along a legal edge from a
    record kept with its memory is accepted by the write-time validation, and the
    written metadata passes `validate_pending_operation` in the new state; this needs
    room for the generation on the three completing edges (`transitionGeneration_exhausted`
    is the failure at `u64::MAX`). The written metadata is computed by
    `transitionWithBody_of_fenced`; `WritesValidMetadata` is proved for the three kinds of
    edge separately: edges into a state with a default intent, the restart from teardown
    to startup, and the completion of a restart.
-/

namespace A3sBox.Runtime

open A3sBox.Lib ManagedExecutionState

variable {Config Policy Plan : Type}

/-! ## The pending operation of the new state -/

/-- Into a state that needs no persisted intent, the operation written is valid there:
    a default, or the caller's pause or kill intent, whose kill check it passed. -/
theorem nextPendingOperation_valid (executionId : ExecutionId) {target : ManagedExecutionState}
    {operation : Option ManagedExecutionOperation} (generation : ExecutionGeneration)
    (htarget : target ≠ snapshotting ∧ target ≠ restartStopping ∧ target ≠ restartStarting)
    (hkill : validateKillOperation operation = .ok ()) :
    ∃ operation', nextPendingOperation executionId target operation = .ok operation' ∧
      pendingConsistent target operation' = true ∧
      validateRestartOperation target generation operation' = .ok () ∧
      validateSnapshotOperation target operation' = .ok () ∧
      validateKillOperation operation' = .ok () := by
  obtain ⟨hsnapshot, hstopping, hstarting⟩ := htarget
  cases target
  case snapshotting => exact absurd rfl hsnapshot
  case restartStopping => exact absurd rfl hstopping
  case restartStarting => exact absurd rfl hstarting
  case creating | created | running | paused | stopped | failed =>
    exact ⟨none, rfl, rfl, rfl, rfl, rfl⟩
  case starting => exact ⟨some .start, rfl, rfl, rfl, rfl, rfl⟩
  case resuming => exact ⟨some .resume, rfl, rfl, rfl, rfl, rfl⟩
  case removing => exact ⟨some .remove, rfl, rfl, rfl, rfl, rfl⟩
  case pausing =>
    cases operation with
    | none => exact ⟨_, rfl, rfl, rfl, rfl, rfl⟩
    | some operation => cases operation <;> exact ⟨_, rfl, rfl, rfl, rfl, rfl⟩
  case killing =>
    -- A kill intent is kept as the caller stored it; it passed the kill check before.
    cases operation with
    | none => exact ⟨_, rfl, rfl, rfl, rfl, rfl⟩
    | some operation =>
      cases operation
      case kill signal timeoutSecs => exact ⟨_, rfl, rfl, rfl, rfl, hkill⟩
      all_goals exact ⟨_, rfl, rfl, rfl, rfl, rfl⟩

/-- A restart state carries a restart operation. -/
theorem pendingConsistent_restart {state : ManagedExecutionState}
    {operation : Option ManagedExecutionOperation} (h : pendingConsistent state operation = true)
    (hstate : state = restartStopping ∨ state = restartStarting) :
    ∃ operationId sourceGeneration sourceState stopTimeoutSecs,
      operation = some (.restart operationId sourceGeneration sourceState stopTimeoutSecs) := by
  cases operation with
  | none => rcases hstate with rfl | rfl <;> simp [pendingConsistent] at h
  | some operation =>
    cases operation
    case restart operationId sourceGeneration sourceState stopTimeoutSecs => exact ⟨_, _, _, _, rfl⟩
    all_goals rcases hstate with rfl | rfl <;> simp [pendingConsistent] at h

section Written

variable [DecidableEq Plan] (resolve : Config → Except String Plan)

/-- What `transition` writes for an edge at generation `next`: the completed restart
    and the pending operation of the new state, valid there. -/
def WritesValidMetadata (executionId : ExecutionId) (source target : ManagedExecutionState)
    (next : ExecutionGeneration) (metadata : ManagedExecutionMetadata Config Policy Plan) : Prop :=
  ∃ completed pendingOperation,
    completeRestart executionId source target next { metadata with generation := next } =
      .ok completed ∧
    nextPendingOperation executionId target completed.pendingOperation = .ok pendingOperation ∧
    ({ completed with pendingOperation } : ManagedExecutionMetadata Config Policy Plan).validate
      resolve = .ok () ∧
    validatePendingOperation target { completed with pendingOperation } = .ok ()

variable {resolve} {executionId : ExecutionId} {source target : ManagedExecutionState}
  {next : ExecutionGeneration} {metadata : ManagedExecutionMetadata Config Policy Plan}

/-- An edge into a state with a default intent. -/
theorem writesValidMetadata_ordinary (hvalid : metadata.validate resolve = .ok ())
    (hpending : validatePendingOperation source metadata = .ok ())
    (hmemory : metadata.pausedWithMemory = true)
    (htarget : target ≠ snapshotting ∧ target ≠ restartStopping ∧ target ≠ restartStarting)
    (hsource : source ≠ restartStarting) :
    WritesValidMetadata resolve executionId source target next metadata := by
  obtain ⟨-, -, -, hkill, -⟩ := validatePendingOperation_eq_ok.mp hpending
  obtain ⟨operation, hop, hconsistent, hrestart, hsnapshot, hkill'⟩ :=
    nextPendingOperation_valid executionId next htarget hkill
  refine ⟨{ metadata with generation := next }, operation,
    completeRestart_of_not_completing fun h => hsource h.1, hop, ?_, ?_⟩
  · rw [ManagedExecutionMetadata.validate_congr rfl rfl rfl]
    exact hvalid
  · exact validatePendingOperation_eq_ok.mpr
      ⟨hconsistent, hrestart, hsnapshot, hkill', by simp [hmemory]⟩

/-- `restart_stopping -> restart_starting`: the restart intent is kept, and the bumped
    generation is the one its startup phase must carry. -/
theorem writesValidMetadata_restartStarting (hvalid : metadata.validate resolve = .ok ())
    (hpending : validatePendingOperation restartStopping metadata = .ok ())
    (hmemory : metadata.pausedWithMemory = true)
    (hnext : next.get = metadata.generation.get + 1) :
    WritesValidMetadata resolve executionId restartStopping restartStarting next metadata := by
  obtain ⟨hconsistent, hrestart, -, -, -⟩ := validatePendingOperation_eq_ok.mp hpending
  obtain ⟨operationId, sourceGeneration, sourceState, stopTimeoutSecs, hop⟩ :=
    pendingConsistent_restart hconsistent (.inl rfl)
  rw [hop] at hrestart
  obtain ⟨hstable, ⟨expected, hexpected, hgen⟩, htimeout⟩ :=
    validateRestartOperation_restart.mp hrestart
  -- While stopping, the record is at the restart's source generation.
  have hsource : metadata.generation = sourceGeneration := by
    rw [hgen]
    exact (Except.ok.inj hexpected).symm
  have hstarting : restartExpectedGeneration restartStarting sourceGeneration = .ok next :=
    nextGeneration_eq_ok.mpr (hsource ▸ hnext)
  refine ⟨{ metadata with generation := next }, metadata.pendingOperation,
    completeRestart_of_not_completing (by simp), by rw [hop]; rfl, ?_, ?_⟩
  · rw [ManagedExecutionMetadata.validate_congr rfl rfl rfl]
    exact hvalid
  · refine validatePendingOperation_eq_ok.mpr ⟨by rw [hop]; rfl, ?_, by rw [hop]; rfl,
      by rw [hop]; rfl, by simp [hmemory]⟩
    rw [hop]
    exact validateRestartOperation_restart.mpr ⟨hstable, ⟨next, hstarting, rfl⟩, htimeout⟩

/-- `restart_starting -> running | failed`: the completed restart is recorded with the
    current generation as its target, which is the one `last_restart` must carry. -/
theorem writesValidMetadata_restartCompleted (hvalid : metadata.validate resolve = .ok ())
    (hpending : validatePendingOperation restartStarting metadata = .ok ())
    (hmemory : metadata.pausedWithMemory = true) (htarget : target = running ∨ target = failed)
    (hnext : next = metadata.generation) :
    WritesValidMetadata resolve executionId restartStarting target next metadata := by
  obtain ⟨hconsistent, hrestart, -, -, -⟩ := validatePendingOperation_eq_ok.mp hpending
  obtain ⟨operationId, sourceGeneration, sourceState, stopTimeoutSecs, hop⟩ :=
    pendingConsistent_restart hconsistent (.inr rfl)
  rw [hop] at hrestart
  obtain ⟨-, ⟨expected, hexpected, hgen⟩, htimeout⟩ := validateRestartOperation_restart.mp hrestart
  obtain ⟨hsandbox, hresolve, -⟩ := ManagedExecutionMetadata.validate_eq_ok.mp hvalid
  have hnone : nextPendingOperation executionId target metadata.pendingOperation = .ok none := by
    rw [hop]
    rcases htarget with rfl | rfl <;> rfl
  refine ⟨_, none, completeRestart_of_restart rfl htarget hop, hnone, ?_, ?_⟩
  · refine ManagedExecutionMetadata.validate_eq_ok.mpr ⟨hsandbox, hresolve, ?_⟩
    rintro completed ⟨⟩
    exact ⟨⟨expected, hexpected, hnext.trans hgen⟩, htimeout⟩
  · refine (validatePendingOperation_of_none rfl).mpr ⟨?_, .inl hmemory⟩
    rcases htarget with rfl | rfl <;> rfl

end Written

/-! ## One winner per generation and state -/

section Fence

variable [DecidableEq Config] [DecidableEq Policy] [DecidableEq Plan]
  (resolve : Config → Except String Plan)

/-- Generation-fenced compare-and-set has a single winner: after a successful transition
    of an ID from `(expectedGeneration, expectedState)`, a second transition of that ID
    from the same pair, to any state and with any update, fails with a conflict and
    leaves the file as the first one wrote it. -/
theorem transition_fence_single_winner (records : List (BoxRecord Config Policy Plan))
    (executionId : ExecutionId) (expectedGeneration : ExecutionGeneration)
    (expectedState nextState nextState' : ManagedExecutionState)
    (update update' : BoxRecord Config Policy Plan → BoxRecord Config Policy Plan)
    (hfirst : (transitionWith resolve executionId expectedGeneration expectedState nextState update
      records).1.isOk = true) :
    let first := transitionWith resolve executionId expectedGeneration expectedState nextState
      update records
    let second := transitionWith resolve executionId expectedGeneration expectedState nextState'
      update' first.2
    (∃ message, second.1 = .error (.conflict executionId message)) ∧ second.2 = first.2 := by
  intro first second
  obtain ⟨out, hout⟩ : ∃ out, first.1 = .ok out := by
    cases h : first.1 with
    | error e =>
      rw [h] at hfirst
      cases hfirst
    | ok out => exact ⟨out, rfl⟩
  obtain ⟨-, hbody, hvalid⟩ := transact_ok hout
  obtain ⟨record, metadata, hfind, hm, hst, hg, hlegal, hid, hstatus, ⟨written, hw, -⟩,
    hrecords⟩ := transitionWithBody_eq_ok hbody
  have hvalid' : validateManagedRecords resolve first.2 = .ok () := hvalid
  replace hrecords : first.2 = BoxStateStore.replaceById records executionId.val out := hrecords
  -- The second call finds the record the first one wrote, in the new state.
  have hfind' : BoxStateStore.findById first.2 executionId.val = some out := by
    rw [hrecords]
    exact findKey_replaceKey hid ⟨record, (findKey_eq_some hfind).1, (findKey_eq_some hfind).2⟩
  have hst' : out.managedState = .ok (some nextState) :=
    managedState_of_status resolve hvalid' (findKey_eq_some hfind').1 hw hstatus
  have hmoved : nextState ≠ expectedState := by
    rintro rfl
    rw [legalTransition_irrefl] at hlegal
    cases hlegal
  -- The fence rejects it before its update runs.
  have hstale : transitionWithBody executionId expectedGeneration expectedState nextState' update'
      first.2 = .error _ :=
    transitionWithBody_of_stale hfind' hw hst' (.inr hmoved)
  have hsecond : second = (.error _, first.2) := transact_of_body_error hvalid' hstale
  rw [hsecond]
  exact ⟨⟨_, rfl⟩, rfl⟩

end Fence

/-- Two claims of a `created` record: starting it wins, killing it then conflicts. -/
theorem start_then_kill_conflicts :
    let first := transitionWith unitResolve sampleExecutionId .initial created starting id
      [sampleRecord]
    let second := transitionWith unitResolve sampleExecutionId .initial created killing id first.2
    (∃ message, second.1 = .error (.conflict sampleExecutionId message)) ∧ second.2 = first.2 :=
  transition_fence_single_winner unitResolve [sampleRecord] sampleExecutionId .initial created
    starting killing id id (by decide)

/-! ## The store's own validation accepts every legal edge -/

section Accepted

variable [DecidableEq Config] [DecidableEq Policy] [DecidableEq Plan]
  (resolve : Config → Except String Plan)

/-- Legal transitions are never rejected by the store's write-time validation: on a
    valid file, a transition with the identity update from a record kept with its
    memory, along a legal edge whose new state needs no intent from the caller (or one of
    the two restart edges, with the persisted restart intent), is accepted. It writes the
    record back with the new status and metadata valid in the new state, and the file it
    writes is valid, provided the three completing edges have room for the generation. -/
theorem legal_transition_accepted (records : List (BoxRecord Config Policy Plan))
    (executionId : ExecutionId) (record : BoxRecord Config Policy Plan)
    (metadata : ManagedExecutionMetadata Config Policy Plan) (source target : ManagedExecutionState)
    (hvalid : validateManagedRecords resolve records = .ok ())
    (hfind : BoxStateStore.findById records executionId.val = some record)
    (hm : record.managedExecution = some metadata)
    (hst : record.managedState = .ok (some source))
    (hmemory : metadata.pausedWithMemory = true)
    (hlegal : legalTransition source target = true)
    (hedge : (target ≠ snapshotting ∧ target ≠ restartStopping ∧ target ≠ restartStarting ∧
        source ≠ restartStarting) ∨
      (source = restartStopping ∧ target = restartStarting) ∨
      (source = restartStarting ∧ (target = running ∨ target = failed)))
    (hroom : bumpsGeneration source target = true → metadata.generation.get < u64Max) :
    ∃ written metadata', transition resolve executionId metadata.generation source target records =
        (.ok written, BoxStateStore.replaceById records executionId.val written) ∧
      written = { record with status := target.asStatus, managedExecution := some metadata' } ∧
      validatePendingOperation target metadata' = .ok () ∧
      validateManagedRecords resolve (BoxStateStore.replaceById records executionId.val written) =
        .ok () := by
  -- What the persisted record satisfies.
  have hrecord : validateManagedRecord resolve record = .ok () :=
    ((validateManagedRecords_eq_ok resolve).mp hvalid).1 record (findKey_eq_some hfind).1
  obtain ⟨hmvalid, hblank, -⟩ := (validateManagedRecord_eq_ok resolve).mp hrecord metadata hm
  have hpending : validatePendingOperation source metadata = .ok () := by
    obtain ⟨metadata', hm', -, hpending⟩ := BoxRecord.managedState_eq_some.mp hst
    rw [hm] at hm'
    cases hm'
    exact hpending
  obtain ⟨next, hnext⟩ : ∃ next,
      transitionGeneration executionId source target metadata.generation = .ok next :=
    transitionGeneration_exists hlegal hroom
  have hnextGet := (transitionGeneration_eq_ok.mp hnext).2
  -- The metadata written for each kind of edge.
  have hwrites : WritesValidMetadata resolve executionId source target next metadata := by
    rcases hedge with ⟨hsnap, hstop, hstart, hsource⟩ | ⟨rfl, rfl⟩ | ⟨rfl, htarget⟩
    · exact writesValidMetadata_ordinary hmvalid hpending hmemory ⟨hsnap, hstop, hstart⟩ hsource
    · exact writesValidMetadata_restartStarting hmvalid hpending hmemory hnextGet
    · have hnext' : next = metadata.generation := by
        apply ExecutionGeneration.ext_get
        rcases htarget with rfl | rfl <;> simpa [bumpsGeneration] using hnextGet
      exact writesValidMetadata_restartCompleted hmvalid hpending hmemory htarget hnext'
  obtain ⟨completed, pendingOperation, hcompleted, hop, hcvalid, hcpending⟩ := hwrites
  have hsameop : completed.operationId = metadata.operationId := by
    obtain ⟨lastRestart, rfl⟩ := completeRestart_eq_ok hcompleted
    rfl
  -- The body writes `record` with the new status and that metadata.
  have hbody : transitionWithBody executionId metadata.generation source target id records = _ :=
    transitionWithBody_of_fenced hfind hm hst rfl hnext (findKey_eq_some hfind).2 hm rfl
      (sameCreationIntent_self metadata)
  rw [hcompleted, ok_bind, hop, ok_bind] at hbody
  have hwritten : validateManagedRecord resolve { record with
      status := target.asStatus
      managedExecution := some { completed with pendingOperation := pendingOperation } } =
      .ok () := by
    refine (validateManagedRecord_eq_ok resolve).mpr ?_
    rintro _ ⟨⟩
    exact ⟨hcvalid, hblank, target,
      BoxRecord.managedState_eq_some.mpr ⟨_, rfl, fromStatus_asStatus target, hcpending⟩⟩
  have hvalid' := validateManagedRecords_replaceById resolve hvalid hfind hwritten
    (by simp [hm, hsameop])
  exact ⟨_, _, transact_of_body_ok hvalid hbody hvalid', rfl, hcpending, hvalid'⟩

end Accepted

theorem created_start_accepted :
    ∃ written metadata', transition unitResolve sampleExecutionId sampleMetadata.generation created
        starting [sampleRecord] =
        (.ok written, BoxStateStore.replaceById [sampleRecord] sampleExecutionId.val written) ∧
      written = { sampleRecord with status := starting.asStatus, managedExecution := some metadata' } ∧
      validatePendingOperation starting metadata' = .ok () ∧
      validateManagedRecords unitResolve
        (BoxStateStore.replaceById [sampleRecord] sampleExecutionId.val written) = .ok () :=
  legal_transition_accepted unitResolve [sampleRecord] sampleExecutionId sampleRecord sampleMetadata
    created starting (by decide) (by decide) rfl (by decide) rfl (by decide)
    (.inl ⟨by decide, by decide, by decide, by decide⟩) (by decide)

/-- A record pausing at generation `u64::MAX`, kept with its memory. -/
def pausingRecord : BoxRecord Unit Unit Unit :=
  { sampleRecord with
    status := pausing.asStatus
    managedExecution := some { sampleMetadata with
      generation := ExecutionGeneration.last, pendingOperation := some (.pause true) } }

/-- The file holding it is valid, `pausing -> paused` is legal, and the store rejects
    the transition: the generation cannot advance. -/
theorem pause_completion_rejected_at_last_generation :
    validateManagedRecords unitResolve [pausingRecord] = .ok () ∧
      legalTransition pausing paused = true ∧
      (transition unitResolve sampleExecutionId ExecutionGeneration.last pausing paused
        [pausingRecord]).1 = .error (.invalidRecord "execution box-1 generation is exhausted") := by
  decide

end A3sBox.Runtime
