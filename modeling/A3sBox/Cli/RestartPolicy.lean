import A3sBox.Cli.Reconcile

/-
  The two forms of a restart policy (`cli/src/state/policy.rs`,
  `cli/src/commands/container_update.rs`).

  Model. `validate_restart_policy` accepts `no`, `always`, `on-failure`,
  `unless-stopped` and `on-failure:N` for a `u32` N. `parse_restart_policy` turns an
  accepted policy into a base policy and a `max_restart_count`: `on-failure:N` becomes
  `("on-failure", N)` and every other policy keeps its text with 0.
  `container update --restart` stores that pair on the record (`applyRestartPolicy`),
  while `should_restart` (`Cli.Reconcile`) still reads the raw form `on-failure:N`
  itself: there the bound is N, and for the stored form a count of 0 means no bound.

  Proved:
  * `parseRestartPolicy_eq_ok`: what an accepted policy parses to;
  * `shouldRestart_parsed`: the stored form restarts exactly when the raw one does,
    for every count N > 0 and for a base policy on a record without a stored count;
  * `on_failure_zero_unbounded_after_parse`: `on-failure:0` never restarts, and its
    stored form `("on-failure", 0)` restarts every failed box without bound.
-/

namespace A3sBox.Cli

open A3sBox.Lib A3sBox.Runtime

variable {Config Policy Plan : Type}

/-- The policies `validate_restart_policy` accepts by name. -/
def basePolicies : List String := ["no", "always", "on-failure", "unless-stopped"]

/-- `validate_restart_policy`. -/
def validateRestartPolicy (policy : String) : Except String Unit :=
  if policy ∈ basePolicies then .ok ()
  else
    match stripLeading "on-failure:".toList policy.toList with
    | some maxStr =>
      match parseU32 maxStr with
      | some _ => .ok ()
      | none => .error
        s!"Invalid restart policy '{policy}': expected 'on-failure:N' where N is a positive integer"
    | none => .error
      s!"Invalid restart policy '{policy}': must be one of: no, always, on-failure, on-failure:N, unless-stopped"

/-- `parse_restart_policy`: the base policy and `max_restart_count`. -/
def parseRestartPolicy (policy : String) : Except String (String × Nat) := do
  validateRestartPolicy policy
  match stripLeading "on-failure:".toList policy.toList with
  | some maxStr =>
    let maxText := String.ofList maxStr
    match parseU32 maxStr with
    | some max => pure ("on-failure", max)
    | none => throw s!"Invalid restart count: {maxText}"
  | none => pure (policy, 0)

/-- `container update --restart`: the parsed pair, stored on the record. -/
def applyRestartPolicy (record : BoxRecord Config Policy Plan) (policy : String) :
    Except String (BoxRecord Config Policy Plan) := do
  let (base, maxCount) ← parseRestartPolicy policy
  pure { record with restartPolicy := base, maxRestartCount := maxCount }

theorem stripLeading_base {policy : String} (h : policy ∈ basePolicies) :
    stripLeading "on-failure:".toList policy.toList = none := by
  simp only [basePolicies, List.mem_cons, List.not_mem_nil, or_false] at h
  rcases h with rfl | rfl | rfl | rfl <;> decide

/-- An accepted policy is a base policy, kept with no count, or `on-failure:N`, stored
    as `on-failure` with the count N. -/
theorem parseRestartPolicy_eq_ok {policy base : String} {maxCount : Nat}
    (h : parseRestartPolicy policy = .ok (base, maxCount)) :
    (policy ∈ basePolicies ∧ base = policy ∧ maxCount = 0) ∨
      (∃ maxStr, stripLeading "on-failure:".toList policy.toList = some maxStr ∧
        parseU32 maxStr = some maxCount ∧ base = "on-failure") := by
  obtain ⟨hvalid, h⟩ := bind_unit_eq_ok.mp h
  cases hstrip : stripLeading "on-failure:".toList policy.toList with
  | none =>
    -- only a base policy passes validation without the prefix
    rw [hstrip, pure_eq_ok, Prod.mk.injEq] at h
    have hbase : policy ∈ basePolicies := by
      by_contra hnot
      rw [validateRestartPolicy, if_neg hnot, hstrip] at hvalid
      cases hvalid
    exact .inl ⟨hbase, h.1.symm, h.2.symm⟩
  | some maxStr =>
    rw [hstrip] at h
    dsimp only at h
    cases hcount : parseU32 maxStr with
    | none =>
      rw [hcount] at h
      cases h
    | some max =>
      rw [hcount, pure_eq_ok, Prod.mk.injEq] at h
      obtain ⟨rfl, rfl⟩ := h
      exact .inr ⟨maxStr, rfl, hcount, rfl⟩

/-- The raw form `on-failure:N` is bounded by N. -/
theorem shouldRestart_of_count {record : BoxRecord Config Policy Plan} {maxStr : List Char}
    {max : Nat} (hstrip : stripLeading "on-failure:".toList record.restartPolicy.toList = some maxStr)
    (hcount : parseU32 maxStr = some max) :
    shouldRestart record =
      (!record.stoppedByUser && exitedOnFailure record && decide (record.restartCount < max)) := by
  rw [shouldRestart, hstrip]
  dsimp only
  rw [hcount]

/-- The stored form `on-failure` is bounded by `max_restart_count`, 0 for no bound. -/
theorem shouldRestart_onFailure {record : BoxRecord Config Policy Plan}
    (hpolicy : record.restartPolicy = "on-failure") :
    shouldRestart record = (!record.stoppedByUser && exitedOnFailure record &&
      if 0 < record.maxRestartCount then decide (record.restartCount < record.maxRestartCount)
      else true) := by
  have hstrip : stripLeading "on-failure:".toList record.restartPolicy.toList = none := by
    rw [hpolicy]
    decide
  rw [shouldRestart, hstrip]
  dsimp only
  rw [hpolicy]
  rfl

/-- The stored form restarts exactly when the raw form does, for a count N > 0, and for
    a base policy on a record without a stored count. -/
theorem shouldRestart_parsed {policy base : String} {maxCount : Nat}
    (hparse : parseRestartPolicy policy = .ok (base, maxCount))
    (record : BoxRecord Config Policy Plan)
    (hcount : 0 < maxCount ∨ (base = policy ∧ record.maxRestartCount = 0)) :
    shouldRestart { record with restartPolicy := base, maxRestartCount := maxCount } =
      shouldRestart { record with restartPolicy := policy } := by
  rcases parseRestartPolicy_eq_ok hparse with ⟨-, rfl, rfl⟩ | ⟨maxStr, hstrip, hmax, rfl⟩
  · -- a base policy: both records are the same once no count is stored
    rcases hcount with hpos | ⟨-, hstored⟩
    · exact absurd hpos (lt_irrefl 0)
    · rw [← hstored]
  · rcases hcount with hpos | ⟨hbase, -⟩
    · rw [shouldRestart_onFailure rfl, shouldRestart_of_count hstrip hmax]
      simp only [if_pos hpos]
      rfl
    · -- `on-failure` itself has no count to strip
      have hnone : stripLeading "on-failure:".toList "on-failure".toList = none := by decide
      rw [← hbase, hnone] at hstrip
      cases hstrip

/-- A box that exited with status 1 and that the user did not stop. -/
def failedRecord : BoxRecord Unit Unit Unit := { sampleRecord with exitCode := some 1 }

theorem shouldRestart_parsed_onFailure_three :
    parseRestartPolicy "on-failure:3" = .ok ("on-failure", 3) ∧
      shouldRestart { failedRecord with restartPolicy := "on-failure", maxRestartCount := 3 } =
        shouldRestart { failedRecord with restartPolicy := "on-failure:3" } :=
  ⟨by decide, shouldRestart_parsed (by decide) failedRecord (.inl (by decide))⟩

theorem stripLeading_onFailure_zero :
    stripLeading "on-failure:".toList "on-failure:0".toList = some ['0'] := by decide

theorem parseU32_zero : parseU32 ['0'] = some 0 := by decide

/-- `on-failure:0` never restarts a box, but `container update` stores it as
    `("on-failure", 0)`, which restarts every failed box that the user did not stop,
    with no bound. -/
theorem on_failure_zero_unbounded_after_parse (record : BoxRecord Config Policy Plan)
    (hfailed : exitedOnFailure record = true) (hrunning : record.stoppedByUser = false) :
    parseRestartPolicy "on-failure:0" = .ok ("on-failure", 0) ∧
      shouldRestart { record with restartPolicy := "on-failure:0" } = false ∧
      shouldRestart { record with restartPolicy := "on-failure", maxRestartCount := 0 } =
        true := by
  refine ⟨by decide, ?_, ?_⟩
  · rw [shouldRestart_of_count stripLeading_onFailure_zero parseU32_zero]
    simp
  · have hexit : exitedOnFailure
        { record with restartPolicy := "on-failure", maxRestartCount := 0 } =
          exitedOnFailure record := rfl
    rw [shouldRestart_onFailure rfl]
    simp only [lt_irrefl, if_false, Bool.and_true]
    rw [hexit, hfailed, hrunning]
    rfl

theorem on_failure_zero_restarts_failed_box :
    exitedOnFailure failedRecord = true ∧ failedRecord.stoppedByUser = false ∧
      parseRestartPolicy "on-failure:0" = .ok ("on-failure", 0) ∧
      shouldRestart { failedRecord with restartPolicy := "on-failure:0" } = false ∧
      shouldRestart { failedRecord with restartPolicy := "on-failure", maxRestartCount := 0 } =
        true :=
  ⟨by decide, rfl, on_failure_zero_unbounded_after_parse failedRecord (by decide) rfl⟩

end A3sBox.Cli
