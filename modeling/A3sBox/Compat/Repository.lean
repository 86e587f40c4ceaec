import A3sBox.Compat.SandboxLifecycle
import A3sBox.Lib.KeyedList

/-
  The sandbox repositories of the control plane (`control::memory`,
  `control::sqlite`): `claim_expired` and `compare_and_swap`.

  Both stores are lists of records keyed by `sandbox_id`: the memory repository's
  `BTreeMap` values, and the SQLite table's rows (the `generation`, `state` and
  `expires_at` columns are read from the row's record). Each call holds the store's
  lock or transaction for its whole run, so a call is a function of the store.

  `claim_expired` selects the expired, actionable records, sorts them by
  `(expires_at, sandbox_id)` and advances each one by `begin_kill` or `begin_pause`.
  The SQLite version runs in one transaction that is dropped on every `?`
  (`atomically`): an error writes nothing. The memory version writes each record into
  the map as its loop reaches it and returns on the first error, keeping the records
  it has already advanced (`memory_claim_keeps_partial_writes`). Either way, a
  successful claim raises the generation of every record it returns, so a
  compare-and-swap prepared before the claim conflicts
  (`memory_claim_fences_stale_replacement`, `sqlite_claim_atomic_and_fenced`).

  SQLite compares instants through `julianday`, a day count in floating point; the
  model compares the instants themselves.
-/

namespace A3sBox.Compat

open A3sBox.Lib

inductive RepositoryError where
  | duplicate (sandboxId : SandboxId)
  | unavailable (message : String)
  | corrupt (message : String)
deriving DecidableEq

inductive CompareAndSwapResult where
  | updated
  | notFound
  | conflict (actualGeneration : SandboxGeneration)
deriving DecidableEq

/-- The `Debug` text of a list of states, `[Running, Paused]`. -/
def LifecycleState.debugList (states : List LifecycleState) : String :=
  "[" ++ ", ".intercalate (states.map LifecycleState.debugName) ++ "]"

/-- The `Display` text of a `LifecycleError`. -/
def LifecycleError.display : LifecycleError → String
  | .invalidIdentity message => "invalid lifecycle identity: " ++ message
  | .invalidExpiry => "sandbox expiry cannot precede creation"
  | .invalidCredentialMaterial => "invalid credential material"
  | .invalidTransition source allowed =>
    "invalid lifecycle transition from " ++ source.debugName ++ "; expected one of " ++
      LifecycleState.debugList allowed
  | .generationExhausted => "sandbox generation is exhausted"
  | .executionPlanMismatch => "runtime returned a different resolved execution plan"
  | .executionIdentityMismatch => "runtime returned a different execution identity"
  | .executionGenerationMismatch => "runtime returned a stale execution generation"
  | .missingExecution => "sandbox has no runtime execution to resume"
  | .invalidPersistedState message => "invalid persisted sandbox state: " ++ message

/-- One candidate of the memory claim: `(expires_at, sandbox_id, on_timeout)`. -/
structure ClaimCandidate where
  expiresAt : Timestamp
  sandboxId : SandboxId
  action : OnTimeoutAction

/-- The claim order `(expires_at, &sandbox_id)`, lexicographic. -/
def ClaimCandidate.key (candidate : ClaimCandidate) : Lex (Timestamp × String) :=
  toLex (candidate.expiresAt, candidate.sandboxId.val)

def ClaimCandidate.Before (a b : ClaimCandidate) : Prop := a.key ≤ b.key

instance : DecidableRel ClaimCandidate.Before := fun a b =>
  inferInstanceAs (Decidable (a.key ≤ b.key))

namespace SandboxRecord

variable {Plan Resources Route Mount : Type}

/-- The filter of `claim_expired`: expired at the deadline, and Running, or Paused with
    `on_timeout = Kill`. The SQLite `WHERE` clause states the same condition. -/
def claimable (deadline : Timestamp) (record : SandboxRecord Plan Resources Route Mount) : Bool :=
  decide (record.expiresAt ≤ deadline) &&
    match record.state, record.lifecycle.onTimeout with
    | .running, .kill | .running, .pause | .paused, .kill => true
    | _, _ => false

def claimCandidate (record : SandboxRecord Plan Resources Route Mount) : ClaimCandidate :=
  ⟨record.expiresAt, record.sandboxId, record.lifecycle.onTimeout⟩

/-- The SQLite order `ORDER BY julianday(expires_at), sandbox_id` on rows. -/
def ExpiresBefore (a b : SandboxRecord Plan Resources Route Mount) : Prop :=
  a.claimCandidate.Before b.claimCandidate

instance : DecidableRel (@ExpiresBefore Plan Resources Route Mount) := fun a b =>
  inferInstanceAs (Decidable (a.claimCandidate.Before b.claimCandidate))

/-- The step a claim takes: `begin_kill` for `Kill`, and
    `begin_pause(keep_memory_on_pause)` for `Pause`. -/
def advanceExpired (action : OnTimeoutAction) (record : SandboxRecord Plan Resources Route Mount) :
    Except LifecycleError (SandboxGeneration × SandboxRecord Plan Resources Route Mount) :=
  match action with
  | .kill => record.beginKill
  | .pause => record.beginPause record.lifecycle.keepMemoryOnPause

end SandboxRecord

/-! ## `MemorySandboxRepository` -/

namespace MemorySandboxRepository

variable {Plan Resources Route Mount : Type}

/-- The candidates, sorted and truncated to `limit`. `sort_by` is a stable sort; so is
    `insertionSort`, and the keys, which hold the map's key, are distinct. -/
def claimCandidates (deadline : Timestamp) (limit : Nat)
    (records : List (SandboxRecord Plan Resources Route Mount)) : List ClaimCandidate :=
  (((records.filter (SandboxRecord.claimable deadline)).map SandboxRecord.claimCandidate).insertionSort
    ClaimCandidate.Before).take limit

/-- The loop of `claim_expired`: each record is advanced in the map through `get_mut`
    as the loop reaches it, and the first error returns with the map as it is. -/
def claimLoop : List ClaimCandidate → List (SandboxRecord Plan Resources Route Mount) →
    Except RepositoryError (List (SandboxRecord Plan Resources Route Mount)) ×
      List (SandboxRecord Plan Resources Route Mount)
  | [], records => (.ok [], records)
  | candidate :: rest, records =>
    match findKey SandboxRecord.sandboxId candidate.sandboxId records with
    | none =>
      (.error (.corrupt ("expired memory record disappeared during claim: " ++
        candidate.sandboxId.val)), records)
    | some record =>
      match SandboxRecord.advanceExpired candidate.action record with
      | .error error =>
        (.error (.corrupt ("cannot claim expired memory record " ++ candidate.sandboxId.val ++
          ": " ++ error.display)), records)
      | .ok (_, record') =>
        let next := claimLoop rest
          (replaceKey SandboxRecord.sandboxId candidate.sandboxId record' records)
        (next.1.map fun claimed => record' :: claimed, next.2)

/-- `MemorySandboxRepository::claim_expired`. -/
def claimExpired (deadline : Timestamp) (limit : Nat)
    (records : List (SandboxRecord Plan Resources Route Mount)) :
    Except RepositoryError (List (SandboxRecord Plan Resources Route Mount)) ×
      List (SandboxRecord Plan Resources Route Mount) :=
  claimLoop (claimCandidates deadline limit records) records

/-- `MemorySandboxRepository::compare_and_swap`. -/
def compareAndSwap (sandboxId : SandboxId) (expected : SandboxGeneration)
    (replacement : SandboxRecord Plan Resources Route Mount)
    (records : List (SandboxRecord Plan Resources Route Mount)) :
    Except RepositoryError CompareAndSwapResult × List (SandboxRecord Plan Resources Route Mount) :=
  if replacement.sandboxId ≠ sandboxId ∨ replacement.generation.get ≤ expected.get then
    (.error (.corrupt "invalid compare-and-swap replacement"), records)
  else
    match findKey SandboxRecord.sandboxId sandboxId records with
    | none => (.ok .notFound, records)
    | some current =>
      if current.generation ≠ expected then (.ok (.conflict current.generation), records)
      else (.ok .updated, replaceKey SandboxRecord.sandboxId sandboxId replacement records)

end MemorySandboxRepository

/-! ## `SqliteSandboxRepository` -/

namespace SqliteSandboxRepository

variable {Plan Resources Route Mount : Type}
  (validateRoute : Route → Except String Unit) (validateMounts : List Mount → Except String Unit)

/-- `i64::MAX`, the range of SQLite's integer columns. -/
def i64Max : Nat := 2 ^ 63 - 1

/-- `i64::try_from` on a `u64`. -/
def i64TryFrom (value : Nat) : Option Nat := if value ≤ i64Max then some value else none

/-- `validate_record`: the persisted-record checks, and generations SQLite can store. -/
def validateRecord (record : SandboxRecord Plan Resources Route Mount) :
    Except RepositoryError Unit := do
  (SandboxRecord.validatePersisted validateRoute validateMounts record).mapError fun error =>
    .corrupt ("invalid SQLite lifecycle record: " ++ error.display)
  ensure (decide (record.generation.get ≤ i64Max))
    (.corrupt "SQLite lifecycle generation exceeds signed 64-bit range")
  ensure (!record.executionGeneration.any fun generation => decide (i64Max < generation.get))
    (.corrupt "SQLite execution generation exceeds signed 64-bit range")

/-- `UPDATE sandbox_records SET record_json = ?1 WHERE sandbox_id = ?2 AND generation = ?3`,
    with `?3` the expected generation as an `i64`: the rows afterwards, or `none` when
    no row matched. -/
def updateAtGeneration (sandboxId : SandboxId) (expected : Nat)
    (replacement : SandboxRecord Plan Resources Route Mount)
    (rows : List (SandboxRecord Plan Resources Route Mount)) :
    Option (List (SandboxRecord Plan Resources Route Mount)) :=
  match findKey SandboxRecord.sandboxId sandboxId rows with
  | some current =>
    if current.generation.get = expected then
      some (replaceKey SandboxRecord.sandboxId sandboxId replacement rows)
    else none
  | none => none

/-- The rows of the claim's `SELECT ... ORDER BY julianday(expires_at), sandbox_id LIMIT ?2`. -/
def selectExpired (deadline : Timestamp) (limit : Nat)
    (rows : List (SandboxRecord Plan Resources Route Mount)) :
    List (SandboxRecord Plan Resources Route Mount) :=
  ((rows.filter (SandboxRecord.claimable deadline)).insertionSort SandboxRecord.ExpiresBefore).take limit

/-- The loop of `claim_expired` inside its transaction. -/
def claimLoop : List (SandboxRecord Plan Resources Route Mount) →
    List (SandboxRecord Plan Resources Route Mount) →
    Except RepositoryError
      (List (SandboxRecord Plan Resources Route Mount) × List (SandboxRecord Plan Resources Route Mount))
  | [], rows => .ok ([], rows)
  | selected :: rest, rows => do
    -- `deserialize_record` validates the selected row
    validateRecord validateRoute validateMounts selected
    let expected ← okOr (i64TryFrom selected.generation.get)
      (.corrupt "SQLite expiry generation exceeds signed 64-bit range")
    let (_, record) ←
      (SandboxRecord.advanceExpired selected.lifecycle.onTimeout selected).mapError fun error =>
        .corrupt ("cannot claim expired SQLite record " ++ selected.sandboxId.val ++ ": " ++
          error.display)
    validateRecord validateRoute validateMounts record
    let rows ← okOr (updateAtGeneration record.sandboxId expected record rows)
      (.corrupt ("expired SQLite record changed inside claim transaction: " ++ record.sandboxId.val))
    let (claimed, rows) ← claimLoop rest rows
    pure (record :: claimed, rows)

/-- `SqliteSandboxRepository::claim_expired`: the loop in one transaction, committed
    only when every step succeeded. -/
def claimExpired (deadline : Timestamp) (limit : Nat)
    (rows : List (SandboxRecord Plan Resources Route Mount)) :
    Except RepositoryError (List (SandboxRecord Plan Resources Route Mount)) ×
      List (SandboxRecord Plan Resources Route Mount) :=
  atomically (claimLoop validateRoute validateMounts (selectExpired deadline limit rows)) rows

/-- The checks of `compare_and_swap` before its `UPDATE`, returning the expected
    generation as an `i64`. -/
def checkReplacement (sandboxId : SandboxId) (expected : SandboxGeneration)
    (replacement : SandboxRecord Plan Resources Route Mount) : Except RepositoryError Nat := do
  ensure (!(decide (replacement.sandboxId ≠ sandboxId) ||
      decide (replacement.generation.get ≤ expected.get)))
    (.corrupt "invalid compare-and-swap replacement")
  validateRecord validateRoute validateMounts replacement
  okOr (i64TryFrom expected.get) (.corrupt "SQLite CAS generation exceeds signed 64-bit range")

/-- `SqliteSandboxRepository::compare_and_swap`: the guarded `UPDATE`, and on no match
    the stored generation read back. -/
def compareAndSwap (sandboxId : SandboxId) (expected : SandboxGeneration)
    (replacement : SandboxRecord Plan Resources Route Mount)
    (rows : List (SandboxRecord Plan Resources Route Mount)) :
    Except RepositoryError CompareAndSwapResult × List (SandboxRecord Plan Resources Route Mount) :=
  match checkReplacement validateRoute validateMounts sandboxId expected replacement with
  | .error error => (.error error, rows)
  | .ok expectedRow =>
    match updateAtGeneration sandboxId expectedRow replacement rows with
    | some rows' => (.ok .updated, rows')
    | none =>
      match findKey SandboxRecord.sandboxId sandboxId rows with
      | none => (.ok .notFound, rows)
      | some current => (.ok (.conflict current.generation), rows)

end SqliteSandboxRepository

/-- A compare-and-swap prepared from `record` before a claim that left the store
    `after`: it conflicts with the generation one past the record's, and writes
    nothing. -/
def StaleReplacementConflicts {Plan Resources Route Mount : Type}
    (compareAndSwap : SandboxId → SandboxGeneration → SandboxRecord Plan Resources Route Mount →
      List (SandboxRecord Plan Resources Route Mount) →
      Except RepositoryError CompareAndSwapResult × List (SandboxRecord Plan Resources Route Mount))
    (record replacement : SandboxRecord Plan Resources Route Mount)
    (after : List (SandboxRecord Plan Resources Route Mount)) : Prop :=
  (compareAndSwap record.sandboxId record.generation replacement after).2 = after ∧
    ∀ result, (compareAndSwap record.sandboxId record.generation replacement after).1 = .ok result →
      ∃ actual, result = .conflict actual ∧ actual.get = record.generation.get + 1

/-! ## What a memory claim writes -/

theorem SandboxRecord.advanceExpired_effect {Plan Resources Route Mount : Type} [DecidableEq Plan]
    {action : OnTimeoutAction} {record record' : SandboxRecord Plan Resources Route Mount}
    {generation : SandboxGeneration}
    (h : SandboxRecord.advanceExpired action record = .ok (generation, record')) :
    CallEffect record record' generation := by
  cases action with
  | kill =>
    have h' : (SandboxCall.beginKill : SandboxCall Plan Resources).apply record =
        .ok (generation, record') := h
    exact SandboxCall.apply_effect h'
  | pause =>
    have h' : (SandboxCall.beginPause record.lifecycle.keepMemoryOnPause :
        SandboxCall Plan Resources).apply record = .ok (generation, record') := h
    exact SandboxCall.apply_effect h'

/-- An element of the right list of a `Forall₂` is related to one of the left. -/
theorem exists_of_mem_forall₂ {α β : Type} {R : α → β → Prop} {l : List α} {u : List β}
    (h : List.Forall₂ R l u) {b : β} (hb : b ∈ u) : ∃ a ∈ l, R a b := by
  induction h with
  | nil => cases hb
  | cons hab _ ih =>
    rcases List.mem_cons.mp hb with rfl | hb'
    · exact ⟨_, List.mem_cons_self, hab⟩
    · obtain ⟨a, ha, hr⟩ := ih hb'
      exact ⟨a, List.mem_cons_of_mem _ ha, hr⟩

namespace MemorySandboxRepository

variable {Plan Resources Route Mount : Type} [DecidableEq Plan]
  {candidates : List ClaimCandidate} {records : List (SandboxRecord Plan Resources Route Mount)}

/-- The loop writes only the keys of its candidates. -/
theorem claimLoop_frame {key : SandboxId}
    (hkey : key ∉ candidates.map ClaimCandidate.sandboxId) :
    findKey SandboxRecord.sandboxId key (claimLoop candidates records).2 =
      findKey SandboxRecord.sandboxId key records := by
  induction candidates generalizing records with
  | nil => rfl
  | cons candidate rest ih =>
    simp only [List.map_cons, List.mem_cons, not_or] at hkey
    cases hfind : findKey SandboxRecord.sandboxId candidate.sandboxId records with
    | none => simp [claimLoop, hfind]
    | some record =>
      cases hadv : SandboxRecord.advanceExpired candidate.action record with
      | error e => simp [claimLoop, hfind, hadv]
      | ok p =>
        obtain ⟨generation, record'⟩ := p
        -- the advanced record keeps the key it was found under
        have hid : record'.sandboxId = candidate.sandboxId :=
          (congrArg SandboxRecord.Fixed.sandboxId
            (SandboxRecord.advanceExpired_effect hadv).fixed_eq).trans (findKey_eq_some hfind).2
        simp only [claimLoop, hfind, hadv]
        rw [ih hkey.2]
        exact findKey_replaceKey_of_ne hid hkey.1

/-- A successful loop returned, for each candidate in turn, the found record advanced
    by its timeout action, and left that record in the map. -/
theorem claimLoop_ok {claimed : List (SandboxRecord Plan Resources Route Mount)}
    (hnd : (candidates.map ClaimCandidate.sandboxId).Nodup)
    (h : (claimLoop candidates records).1 = .ok claimed) :
    List.Forall₂ (fun candidate record' => ∃ record generation,
        findKey SandboxRecord.sandboxId candidate.sandboxId records = some record ∧
        SandboxRecord.advanceExpired candidate.action record = .ok (generation, record') ∧
        findKey SandboxRecord.sandboxId candidate.sandboxId (claimLoop candidates records).2 =
          some record')
      candidates claimed := by
  induction candidates generalizing records claimed with
  | nil =>
    simp only [claimLoop, Except.ok.injEq] at h
    subst h
    exact .nil
  | cons candidate rest ih =>
    simp only [List.map_cons, List.nodup_cons] at hnd
    cases hfind : findKey SandboxRecord.sandboxId candidate.sandboxId records with
    | none => simp [claimLoop, hfind] at h
    | some record =>
      cases hadv : SandboxRecord.advanceExpired candidate.action record with
      | error e => simp [claimLoop, hfind, hadv] at h
      | ok p =>
        obtain ⟨generation, record'⟩ := p
        have hid : record'.sandboxId = candidate.sandboxId :=
          (congrArg SandboxRecord.Fixed.sandboxId
            (SandboxRecord.advanceExpired_effect hadv).fixed_eq).trans (findKey_eq_some hfind).2
        have hmem : ∃ z ∈ records, z.sandboxId = candidate.sandboxId :=
          ⟨record, findKey_eq_some hfind⟩
        simp only [claimLoop, hfind, hadv] at h ⊢
        obtain ⟨claimed', hrest, rfl⟩ := map_eq_ok.mp h
        have hothers : ∀ c ∈ rest, c.sandboxId ≠ candidate.sandboxId := fun c hc heq =>
          hnd.1 (heq ▸ List.mem_map_of_mem hc)
        refine .cons ⟨record, generation, hfind, hadv, ?_⟩
          (((List.forall₂_and_left _ _).mpr ⟨hothers, ih hnd.2 hrest⟩).imp ?_)
        · -- the later candidates do not touch this key
          rw [claimLoop_frame hnd.1]
          exact findKey_replaceKey hid hmem
        · -- and they find the records the write did not touch
          rintro c r ⟨hne, found, g, hfound, hadv', hleft⟩
          exact ⟨found, g, (findKey_replaceKey_of_ne hid hne) ▸ hfound, hadv', hleft⟩

omit [DecidableEq Plan] in
/-- The candidates carry distinct keys, since the map's keys are distinct. -/
theorem claimCandidates_nodup {deadline : Timestamp} {limit : Nat}
    (hnd : (records.map SandboxRecord.sandboxId).Nodup) :
    ((claimCandidates deadline limit records).map ClaimCandidate.sandboxId).Nodup := by
  have hfiltered : (((records.filter (SandboxRecord.claimable deadline)).map
      SandboxRecord.claimCandidate).map ClaimCandidate.sandboxId).Nodup := by
    rw [List.map_map]
    exact hnd.sublist (List.filter_sublist.map _)
  have hsorted := ((List.perm_insertionSort ClaimCandidate.Before _).map
    ClaimCandidate.sandboxId).nodup_iff.mpr hfiltered
  exact hsorted.sublist ((List.take_sublist _ _).map _)

/-- A record that a successful claim returned is stored advanced, one generation on. -/
theorem claimExpired_stored {deadline : Timestamp} {limit : Nat}
    {claimed : List (SandboxRecord Plan Resources Route Mount)}
    (hnd : (records.map SandboxRecord.sandboxId).Nodup)
    (hclaim : (claimExpired deadline limit records).1 = .ok claimed)
    {record : SandboxRecord Plan Resources Route Mount} (hrec : record ∈ records)
    (hclaimed : record.sandboxId ∈ claimed.map SandboxRecord.sandboxId) :
    ∃ record', findKey SandboxRecord.sandboxId record.sandboxId
        (claimExpired deadline limit records).2 = some record' ∧
      record'.generation.get = record.generation.get + 1 := by
  have hall := claimLoop_ok (claimCandidates_nodup hnd) hclaim
  obtain ⟨advanced, hadvanced, hid⟩ := List.mem_map.mp hclaimed
  obtain ⟨candidate, -, found, generation, hfound, hadv, hleft⟩ :=
    exists_of_mem_forall₂ hall hadvanced
  have heffect := SandboxRecord.advanceExpired_effect hadv
  -- the candidate's key is the record's, so the loop found this very record
  have hkey : candidate.sandboxId = record.sandboxId := by
    rw [← hid, ← (findKey_eq_some hfound).2]
    exact (congrArg SandboxRecord.Fixed.sandboxId heffect.fixed_eq).symm
  rw [hkey, findKey_of_mem hnd hrec, Option.some.injEq] at hfound
  subst hfound
  refine ⟨advanced, hkey ▸ hleft, ?_⟩
  rw [heffect.generation_eq, heffect.next_get]

/-- A compare-and-swap prepared from a record before a successful claim that returned
    it conflicts, and writes nothing. -/
theorem memory_claim_fences_stale_replacement (deadline : Timestamp) (limit : Nat)
    (records : List (SandboxRecord Plan Resources Route Mount))
    (hnd : (records.map SandboxRecord.sandboxId).Nodup)
    (claimed : List (SandboxRecord Plan Resources Route Mount))
    (hclaim : (claimExpired deadline limit records).1 = .ok claimed)
    (record : SandboxRecord Plan Resources Route Mount) (hrec : record ∈ records)
    (hclaimed : record.sandboxId ∈ claimed.map SandboxRecord.sandboxId)
    (replacement : SandboxRecord Plan Resources Route Mount) :
    StaleReplacementConflicts compareAndSwap record replacement
      (claimExpired deadline limit records).2 := by
  obtain ⟨stored, hstored, hgen⟩ := claimExpired_stored hnd hclaim hrec hclaimed
  have hne : stored.generation ≠ record.generation := fun h => by
    rw [h] at hgen
    omega
  unfold StaleReplacementConflicts compareAndSwap
  split
  · exact ⟨rfl, fun result h => by cases h⟩
  · simp only [hstored, if_pos hne]
    exact ⟨trivial, fun result h => ⟨stored.generation, (Except.ok.inj h).symm, hgen⟩⟩

end MemorySandboxRepository

/-! ## What a SQLite claim writes -/

namespace SqliteSandboxRepository

variable {Plan Resources Route Mount : Type} [DecidableEq Plan]
  {validateRoute : Route → Except String Unit} {validateMounts : List Mount → Except String Unit}
  {rows : List (SandboxRecord Plan Resources Route Mount)}

omit [DecidableEq Plan] in
theorem updateAtGeneration_eq_some {sandboxId : SandboxId} {expected : Nat}
    {replacement : SandboxRecord Plan Resources Route Mount}
    {rows' : List (SandboxRecord Plan Resources Route Mount)}
    (h : updateAtGeneration sandboxId expected replacement rows = some rows') :
    (∃ current, findKey SandboxRecord.sandboxId sandboxId rows = some current ∧
      current.generation.get = expected) ∧
      rows' = replaceKey SandboxRecord.sandboxId sandboxId replacement rows := by
  unfold updateAtGeneration at h
  split at h
  · rename_i current hfound
    split at h
    · cases h
      exact ⟨⟨current, hfound, by assumption⟩, rfl⟩
    · cases h
  · cases h

omit [DecidableEq Plan] in
theorem updateAtGeneration_of_ne {sandboxId : SandboxId} {expected : Nat}
    {replacement current : SandboxRecord Plan Resources Route Mount}
    (hfound : findKey SandboxRecord.sandboxId sandboxId rows = some current)
    (hne : current.generation.get ≠ expected) :
    updateAtGeneration sandboxId expected replacement rows = none := by
  simp [updateAtGeneration, hfound, hne]

omit [DecidableEq Plan] in
theorem checkReplacement_eq_ok {sandboxId : SandboxId} {expected : SandboxGeneration}
    {replacement : SandboxRecord Plan Resources Route Mount} {expectedRow : Nat}
    (h : checkReplacement validateRoute validateMounts sandboxId expected replacement =
      .ok expectedRow) : expectedRow = expected.get := by
  simp only [checkReplacement, bind_unit_eq_ok, okOr_eq_ok, i64TryFrom] at h
  split at h
  · exact (Option.some.inj h.2.2).symm
  · simp at h

omit [DecidableEq Plan] in
/-- `i64::try_from` returns the value it accepts. -/
theorem i64TryFrom_eq_some {value result : Nat} (h : i64TryFrom value = some result) :
    result = value := by
  unfold i64TryFrom at h
  split at h
  · exact (Option.some.inj h).symm
  · cases h

omit [DecidableEq Plan] in
/-- One selected row of a successful loop, through the source's `?`s in order: the row's
    generation fits an `i64`, its own timeout action advances it, the advanced record passes
    validation, the guarded `UPDATE` at the row's generation matches, and the rest of the loop
    succeeds from what it wrote. -/
theorem claimLoop_cons_eq_ok {row : SandboxRecord Plan Resources Route Mount}
    {rest claimed rows' : List (SandboxRecord Plan Resources Route Mount)}
    (h : claimLoop validateRoute validateMounts (row :: rest) rows = .ok (claimed, rows')) :
    ∃ generation record rows₁ claimed',
      SandboxRecord.advanceExpired row.lifecycle.onTimeout row = .ok (generation, record) ∧
        validateRecord validateRoute validateMounts record = .ok () ∧
        i64TryFrom row.generation.get = some row.generation.get ∧
        updateAtGeneration record.sandboxId row.generation.get record rows = some rows₁ ∧
        claimLoop validateRoute validateMounts rest rows₁ = .ok (claimed', rows') ∧
        claimed = record :: claimed' := by
  simp only [claimLoop] at h
  obtain ⟨-, -, h⟩ := bind_eq_ok.mp h
  obtain ⟨expected, hexpected, h⟩ := bind_eq_ok.mp h
  obtain ⟨⟨generation, record⟩, hadv, h⟩ := bind_eq_ok.mp h
  obtain ⟨⟨⟩, hvalid, h⟩ := bind_eq_ok.mp h
  obtain ⟨rows₁, hupdate, h⟩ := bind_eq_ok.mp h
  obtain ⟨⟨claimed', rows₂⟩, hrest, h⟩ := bind_eq_ok.mp h
  simp only [pure_eq_ok, Prod.mk.injEq] at h
  obtain ⟨rfl, rfl⟩ := h
  have hrange := okOr_eq_ok.mp hexpected
  obtain rfl := i64TryFrom_eq_some hrange
  exact ⟨generation, record, rows₁, claimed', mapError_eq_ok.mp hadv, hvalid, hrange,
    okOr_eq_ok.mp hupdate, hrest, rfl⟩

/-- A successful loop wrote only the keys it selected, and left each selected row
    advanced by its timeout action. -/
theorem claimLoop_eq_ok {selected claimed rows' : List (SandboxRecord Plan Resources Route Mount)}
    (hnd : (selected.map SandboxRecord.sandboxId).Nodup)
    (h : claimLoop validateRoute validateMounts selected rows = .ok (claimed, rows')) :
    (∀ key ∉ selected.map SandboxRecord.sandboxId,
      findKey SandboxRecord.sandboxId key rows' = findKey SandboxRecord.sandboxId key rows) ∧
    List.Forall₂ (fun row record => ∃ generation,
        SandboxRecord.advanceExpired row.lifecycle.onTimeout row = .ok (generation, record) ∧
        findKey SandboxRecord.sandboxId row.sandboxId rows' = some record)
      selected claimed := by
  induction selected generalizing rows claimed with
  | nil =>
    simp only [claimLoop, Except.ok.injEq, Prod.mk.injEq] at h
    obtain ⟨rfl, rfl⟩ := h
    exact ⟨fun _ _ => rfl, .nil⟩
  | cons row rest ih =>
    simp only [List.map_cons, List.nodup_cons] at hnd
    obtain ⟨generation, record, rows₁, claimed', hadv, -, -, hupdate, hrest, rfl⟩ :=
      claimLoop_cons_eq_ok h
    have hid : record.sandboxId = row.sandboxId :=
      congrArg SandboxRecord.Fixed.sandboxId (SandboxRecord.advanceExpired_effect hadv).fixed_eq
    obtain ⟨⟨current, hfound, -⟩, rfl⟩ := updateAtGeneration_eq_some hupdate
    obtain ⟨hframe, hall⟩ := ih hnd.2 hrest
    refine ⟨fun key hkey => ?_, .cons ⟨generation, hadv, ?_⟩ hall⟩
    · -- a key outside the selection: untouched by this row and by the rest
      simp only [List.map_cons, List.mem_cons, not_or] at hkey
      rw [hframe key hkey.2, findKey_replaceKey_of_ne rfl (hid ▸ hkey.1)]
    · -- this row's key: written here, untouched by the rest
      rw [hframe row.sandboxId hnd.1, ← hid]
      exact findKey_replaceKey rfl ⟨current, (findKey_eq_some hfound)⟩

omit [DecidableEq Plan] in
/-- The selected rows are rows of the table, with distinct keys. -/
theorem selectExpired_rows {deadline : Timestamp} {limit : Nat}
    (hnd : (rows.map SandboxRecord.sandboxId).Nodup) :
    (∀ row ∈ selectExpired deadline limit rows, row ∈ rows) ∧
      ((selectExpired deadline limit rows).map SandboxRecord.sandboxId).Nodup := by
  have hperm := List.perm_insertionSort SandboxRecord.ExpiresBefore
    (rows.filter (SandboxRecord.claimable deadline))
  have hsub : (selectExpired deadline limit rows).Sublist
      ((rows.filter (SandboxRecord.claimable deadline)).insertionSort SandboxRecord.ExpiresBefore) :=
    List.take_sublist _ _
  refine ⟨fun row hrow => ?_, ?_⟩
  · exact (List.mem_filter.mp (hperm.mem_iff.mp (hsub.subset hrow))).1
  · have hfilter : (rows.filter (SandboxRecord.claimable deadline)).Sublist rows :=
      List.filter_sublist
    have hfiltered := hnd.sublist (hfilter.map SandboxRecord.sandboxId)
    exact ((hperm.map SandboxRecord.sandboxId).nodup_iff.mpr hfiltered).sublist
      (hsub.map SandboxRecord.sandboxId)

/-- A SQLite claim is atomic, and a compare-and-swap prepared from a record before a
    successful claim that returned it conflicts and writes nothing. -/
theorem sqlite_claim_atomic_and_fenced (validateRoute : Route → Except String Unit)
    (validateMounts : List Mount → Except String Unit) (deadline : Timestamp) (limit : Nat)
    (rows : List (SandboxRecord Plan Resources Route Mount))
    (hnd : (rows.map SandboxRecord.sandboxId).Nodup) :
    (∀ e, (claimExpired validateRoute validateMounts deadline limit rows).1 = .error e →
      (claimExpired validateRoute validateMounts deadline limit rows).2 = rows) ∧
    ∀ claimed, (claimExpired validateRoute validateMounts deadline limit rows).1 = .ok claimed →
      ∀ record ∈ rows, record.sandboxId ∈ claimed.map SandboxRecord.sandboxId →
      ∀ replacement, StaleReplacementConflicts (compareAndSwap validateRoute validateMounts)
        record replacement (claimExpired validateRoute validateMounts deadline limit rows).2 := by
  refine ⟨fun e h => atomically_error_state h, ?_⟩
  intro claimed hclaim record hrec hclaimed replacement
  obtain ⟨hselected, hselected_nd⟩ :
      (∀ row ∈ selectExpired deadline limit rows, row ∈ rows) ∧
        ((selectExpired deadline limit rows).map SandboxRecord.sandboxId).Nodup :=
    selectExpired_rows hnd
  have hbody : claimLoop validateRoute validateMounts (selectExpired deadline limit rows) rows =
      .ok (claimed, (claimExpired validateRoute validateMounts deadline limit rows).2) :=
    atomically_ok hclaim
  obtain ⟨-, hall⟩ := claimLoop_eq_ok hselected_nd hbody
  obtain ⟨advanced, hadvanced, hid⟩ := List.mem_map.mp hclaimed
  obtain ⟨row, hrow, generation, hadv, hstored⟩ := exists_of_mem_forall₂ hall hadvanced
  have heffect := SandboxRecord.advanceExpired_effect hadv
  -- the selected row with the record's key is the record itself
  have hkey : row.sandboxId = record.sandboxId :=
    (congrArg SandboxRecord.Fixed.sandboxId heffect.fixed_eq).symm.trans hid
  have hrow_eq : row = record := List.inj_on_of_nodup_map hnd (hselected row hrow) hrec hkey
  subst hrow_eq
  have hgen : advanced.generation.get = row.generation.get + 1 := by
    rw [heffect.generation_eq, heffect.next_get]
  unfold StaleReplacementConflicts compareAndSwap
  cases hcheck : checkReplacement validateRoute validateMounts row.sandboxId row.generation
    replacement with
  | error e => exact ⟨rfl, fun result h => by cases h⟩
  | ok expectedRow =>
    have hexpected := checkReplacement_eq_ok hcheck
    have hstale : advanced.generation.get ≠ expectedRow := by omega
    simp only [updateAtGeneration_of_ne hstored hstale, hstored]
    exact ⟨trivial, fun result h => ⟨advanced.generation, (Except.ok.inj h).symm, hgen⟩⟩

end SqliteSandboxRepository

/-! ## Claims on fixed stores -/

/-- A running sandbox killed on timeout that expired at 50. -/
def expiredRunning : SandboxRecord Unit Unit Unit Unit :=
  { runningRecord with sandboxId := ⟨"sbx-a", by decide⟩, expiresAt := 50 }

/-- The same sandbox with its expiry moved to 200 by `replace_expiry`, prepared before a
    claim. -/
def renewedRunning : SandboxRecord Unit Unit Unit Unit :=
  { expiredRunning with expiresAt := 200, generation := ⟨3, by decide, by decide⟩ }

theorem renewal_after_claim_conflicts :
    StaleReplacementConflicts MemorySandboxRepository.compareAndSwap expiredRunning renewedRunning
      (MemorySandboxRepository.claimExpired 100 10 [expiredRunning]).2 :=
  MemorySandboxRepository.memory_claim_fences_stale_replacement 100 10 [expiredRunning]
    (by decide) [{ expiredRunning with state := .killing, generation := ⟨3, by decide, by decide⟩ }]
    (by decide) expiredRunning (by decide) (by decide) renewedRunning

theorem sqlite_renewal_after_claim_conflicts :
    (∀ e, (SqliteSandboxRepository.claimExpired acceptAll acceptAll 100 10 [expiredRunning]).1 =
        .error e →
      (SqliteSandboxRepository.claimExpired acceptAll acceptAll 100 10 [expiredRunning]).2 =
        [expiredRunning]) ∧
    ∀ claimed, (SqliteSandboxRepository.claimExpired acceptAll acceptAll 100 10
        [expiredRunning]).1 = .ok claimed →
      ∀ record ∈ [expiredRunning], record.sandboxId ∈ claimed.map SandboxRecord.sandboxId →
      ∀ replacement, StaleReplacementConflicts
        (SqliteSandboxRepository.compareAndSwap acceptAll acceptAll) record replacement
        (SqliteSandboxRepository.claimExpired acceptAll acceptAll 100 10 [expiredRunning]).2 :=
  SqliteSandboxRepository.sqlite_claim_atomic_and_fenced acceptAll acceptAll 100 10
    [expiredRunning] (by decide)

/-- Two running sandboxes killed on timeout, expired at 50 and 60; the later one has
    reached generation `u64::MAX`. -/
def exhaustedStore : List (SandboxRecord Unit Unit Unit Unit) :=
  [expiredRunning,
   { runningRecord with
     sandboxId := ⟨"sbx-b", by decide⟩
     expiresAt := 60
     generation := ⟨u64Max, u64Max_pos, le_refl _⟩ }]

/-- The memory claim kills `sbx-a`, then fails on `sbx-b` and returns an error with
    `sbx-a` left Killing in the map. -/
theorem memory_claim_keeps_partial_writes :
    (∀ record ∈ exhaustedStore,
      SandboxRecord.validatePersisted acceptAll acceptAll record = .ok ()) ∧
    exhaustedStore.map SandboxRecord.state = [.running, .running] ∧
    (MemorySandboxRepository.claimExpired 100 10 exhaustedStore).1 =
      .error (.corrupt "cannot claim expired memory record sbx-b: sandbox generation is exhausted") ∧
    (MemorySandboxRepository.claimExpired 100 10 exhaustedStore).2.map SandboxRecord.state =
      [.killing, .running] := by
  decide

end A3sBox.Compat
