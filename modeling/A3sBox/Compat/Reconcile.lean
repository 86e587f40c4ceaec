import A3sBox.Compat.Repository
import A3sBox.Lib.Keyset

/-
  Startup reconciliation: `LifecycleSupervisor::reconcile_startup` and the scan it pages
  through, `list_reconcilable` of the memory and the SQLite repository.

  Model. A `SandboxCursor` is a record's `(created_at, sandbox_id)`. The memory repository
  orders records by the cursor itself (`SandboxCursor.key`: the instant, then the id);
  SQLite by `julianday(created_at)` and then `sandbox_id` (`SandboxCursor.julianKey`),
  with `julianday` any map of instants into an order, applied alike to the stored
  `created_at` and to the cursor's RFC 3339 text, which name the same instant. SQLite
  compares `sandbox_id` text bytewise, which on UTF-8 is the order of `String`. Both
  calls are `Keyset.page` at their order (`listReconcilable_eq_page`,
  `listReconcilable_eq_ok`): the memory one filters the whole map and cuts the sorted
  list; the SQLite one reads `limit + 1` rows and deserializes them, which succeeds on
  valid rows.

  `reconcileStartup` is the supervisor's loop, its `i`-th call made on the store as that
  call finds it. Between calls the store changes only by compare-and-swaps of records
  with the fixed fields of the one stored under their id (`FixedFieldSwap`); these keep
  each record's creation time and id, so every store has the key list of the first (`map_eq_of_reach`), and in
  SQLite they keep every row valid (`valid_of_reach`).

  Proved: `reconcile_startup_visits_live_once`, for both repositories: the loop ends within
  one page more than there are records, on pages of at most `limit` records; it returns
  no sandbox twice, only records live when their page was read, and every sandbox that
  stays live in the stores it reads; and a page has no next cursor exactly when no live
  record past its cursor lies above it.
-/

namespace A3sBox.Compat

open A3sBox.Lib

/-- `SandboxCursor`: the position the next page of the reconciliation scan starts after. -/
structure SandboxCursor where
  createdAt : Timestamp
  sandboxId : SandboxId

/-- `SandboxPage`: the records of one call, and the cursor to continue from. -/
abbrev SandboxPage (Plan Resources Route Mount : Type) :=
  Keyset.Page (SandboxRecord Plan Resources Route Mount) SandboxCursor

/-- The memory scan order, the tuple `(created_at, sandbox_id)`. -/
def SandboxCursor.key (cursor : SandboxCursor) : Lex (Timestamp × String) :=
  toLex (cursor.createdAt, cursor.sandboxId.val)

/-- The SQLite scan order, `julianday(created_at), sandbox_id`. -/
def SandboxCursor.julianKey {Day : Type} (julianday : Timestamp → Day) (cursor : SandboxCursor) :
    Lex (Day × String) :=
  toLex (julianday cursor.createdAt, cursor.sandboxId.val)

/-- The cursor of a record, as `list_reconcilable` builds the page's `next` from it. -/
def SandboxRecord.cursor {Plan Resources Route Mount : Type}
    (record : SandboxRecord Plan Resources Route Mount) : SandboxCursor :=
  ⟨record.createdAt, record.sandboxId⟩

/-! ## `list_reconcilable` -/

namespace MemorySandboxRepository

variable {Plan Resources Route Mount : Type}

/-- `MemorySandboxRepository::list_reconcilable`: the non-terminal records past the cursor,
    sorted, cut to `limit`; `has_more` is taken before the cut. -/
def listReconcilable (after : Option SandboxCursor) (limit : ℕ+)
    (records : List (SandboxRecord Plan Resources Route Mount)) :
    SandboxPage Plan Resources Route Mount :=
  let matching := ((records.filter fun record => !record.isTerminal).filter fun record =>
      after.all fun cursor => decide (cursor.key < record.cursor.key)).insertionSort
    (Keyset.KeyLe SandboxRecord.cursor SandboxCursor.key)
  let hasMore := decide ((limit : Nat) < matching.length)
  let matching := matching.take limit
  ⟨matching, if hasMore then matching.getLast?.map SandboxRecord.cursor else none⟩

end MemorySandboxRepository

namespace SqliteSandboxRepository

variable {Plan Resources Route Mount : Type}
  (validateRoute : Route → Except String Unit) (validateMounts : List Mount → Except String Unit)
  {Day : Type} [LinearOrder Day] (julianday : Timestamp → Day)

/-- The states of the scan's `state IN (...)`. -/
def reconcilableStates : List LifecycleState :=
  [.creating, .running, .pausing, .paused, .resuming, .killing]

/-- The rows of the scan's `SELECT`: `state IN (...) AND (?1 IS NULL OR julianday(created_at)
    > julianday(?1) OR (julianday(created_at) = julianday(?1) AND sandbox_id > ?2))`,
    `ORDER BY julianday(created_at), sandbox_id LIMIT ?3`. -/
def selectReconcilable (after : Option SandboxCursor) (queryLimit : Nat)
    (rows : List (SandboxRecord Plan Resources Route Mount)) :
    List (SandboxRecord Plan Resources Route Mount) :=
  ((rows.filter fun row => decide (row.state ∈ reconcilableStates) &&
      after.all fun cursor => decide (julianday cursor.createdAt < julianday row.createdAt) ||
        (decide (julianday row.createdAt = julianday cursor.createdAt) &&
          decide (cursor.sandboxId.val < row.sandboxId.val))).insertionSort
    (Keyset.KeyLe SandboxRecord.cursor (SandboxCursor.julianKey julianday))).take queryLimit

/-- `deserialize_record`: the stored record, validated. -/
def deserializeRecord (row : SandboxRecord Plan Resources Route Mount) :
    Except RepositoryError (SandboxRecord Plan Resources Route Mount) := do
  validateRecord validateRoute validateMounts row
  pure row

/-- `SqliteSandboxRepository::list_reconcilable`: `limit + 1` rows, deserialized; a row past
    `limit` means there is another page. -/
def listReconcilable (after : Option SandboxCursor) (limit : ℕ+)
    (rows : List (SandboxRecord Plan Resources Route Mount)) :
    Except RepositoryError (SandboxPage Plan Resources Route Mount) := do
  let records ← (selectReconcilable julianday after ((limit : Nat) + 1) rows).mapM
    (deserializeRecord validateRoute validateMounts)
  let hasMore := decide ((limit : Nat) < records.length)
  let records := records.take limit
  pure ⟨records, if hasMore then records.getLast?.map SandboxRecord.cursor else none⟩

end SqliteSandboxRepository

/-! ## `reconcile_startup` -/

namespace LifecycleSupervisor

variable {Plan Resources Route Mount σ ε : Type}

/-- `LifecycleSupervisor::reconcile_startup`: the pages its loop reads, the `i`-th call made
    on `stores[i]`, the store as that call finds it. The records of a page are reconciled
    before the next call; what that writes is in the stores that follow. -/
def reconcileStartup
    (listReconcilable : Option SandboxCursor → σ → Except ε (SandboxPage Plan Resources Route Mount)) :
    List σ → Option SandboxCursor → Except ε (List (SandboxPage Plan Resources Route Mount))
  | [], _ => .ok []
  | store :: stores, cursor => do
    let page ← listReconcilable cursor store
    match page.next with
    | none => pure [page]
    | some next => do
      let pages ← reconcileStartup listReconcilable stores (some next)
      pure (page :: pages)

end LifecycleSupervisor

/-! ## The stores between two calls -/

/-- A repository's `compare_and_swap`: its result, and the rows afterwards. -/
abbrev CompareAndSwap (Plan Resources Route Mount : Type) :=
  SandboxId → SandboxGeneration → SandboxRecord Plan Resources Route Mount →
    List (SandboxRecord Plan Resources Route Mount) →
      Except RepositoryError CompareAndSwapResult × List (SandboxRecord Plan Resources Route Mount)

/-- One compare-and-swap of a replacement with the fixed fields of the record stored under its
    id, at any expected generation. This is all the startup scan needs of the other writers: what
    they do to a record's mutable fields is theirs. Every lifecycle method keeps the fixed fields
    (`CallEffect.fixed_eq`), so each write of a lifecycle successor is such a swap. -/
def FixedFieldSwap {Plan Resources Route Mount : Type} (cas : CompareAndSwap Plan Resources Route Mount)
    (records records' : List (SandboxRecord Plan Resources Route Mount)) : Prop :=
  ∃ sandboxId expected current replacement,
    findKey SandboxRecord.sandboxId sandboxId records = some current ∧
      replacement.fixed = current.fixed ∧ records' = (cas sandboxId expected replacement records).2

/-- What a scan of `reconcile_startup` over `stores`, all reached from `initial`, returns. -/
structure VisitsLiveOnce {Plan Resources Route Mount : Type}
    (initial : List (SandboxRecord Plan Resources Route Mount))
    (stores : List (List (SandboxRecord Plan Resources Route Mount))) (limit : Nat)
    (pages : List (SandboxPage Plan Resources Route Mount)) : Prop where
  ends : ∃ p ∈ pages.getLast?, p.next = none
  length_pages : pages.length ≤ initial.length + 1
  length_records : ∀ p ∈ pages, p.records.length ≤ limit
  nodup : ((pages.flatMap Keyset.Page.records).map SandboxRecord.sandboxId).Nodup
  live : ∀ ps ∈ pages.zip stores, ∀ r ∈ ps.1.records, r ∈ ps.2 ∧ r.isTerminal = false
  complete : ∀ r ∈ initial,
    (∀ ps ∈ pages.zip stores, ∀ r' ∈ ps.2, r'.sandboxId = r.sandboxId → r'.isTerminal = false) →
      ∃ p ∈ pages, ∃ r' ∈ p.records, r'.sandboxId = r.sandboxId

/-- No non-terminal record of the store past the cursor lies above every record of the page
    in the order `rank`. -/
def NoneFollows {Plan Resources Route Mount κ : Type} [LinearOrder κ] (rank : SandboxCursor → κ)
    (cursor : Option SandboxCursor) (store : List (SandboxRecord Plan Resources Route Mount))
    (page : SandboxPage Plan Resources Route Mount) : Prop :=
  ¬∃ r ∈ store, r.isTerminal = false ∧ (cursor.all fun c => decide (rank c < rank r.cursor)) = true ∧
    ∀ q ∈ page.records, rank q.cursor < rank r.cursor

theorem SandboxId.eq_of_val_eq {a b : SandboxId} (h : a.val = b.val) : a = b := by
  cases a
  cases b
  cases h
  rfl

/-- A record's cursor is made of fixed fields. -/
theorem SandboxRecord.cursor_eq_of_fixed {Plan Resources Route Mount : Type}
    {a b : SandboxRecord Plan Resources Route Mount} (h : a.fixed = b.fixed) : a.cursor = b.cursor := by
  have hcreated : a.createdAt = b.createdAt := congrArg SandboxRecord.Fixed.createdAt h
  have hid : a.sandboxId = b.sandboxId := congrArg SandboxRecord.Fixed.sandboxId h
  simp only [SandboxRecord.cursor, hcreated, hid]

/-! ## Each call is a keyset page -/

namespace MemorySandboxRepository

variable {Plan Resources Route Mount : Type}

theorem listReconcilable_eq_page (after : Option SandboxCursor) (limit : ℕ+)
    (records : List (SandboxRecord Plan Resources Route Mount)) :
    listReconcilable after limit records =
      Keyset.page SandboxRecord.cursor SandboxCursor.key (fun record => !record.isTerminal) limit
        after records := by
  -- the two filters of the source are the page's one, their conditions swapped
  have hfilter : ((records.filter fun record => !record.isTerminal).filter fun record =>
      after.all fun cursor => decide (cursor.key < record.cursor.key)) =
      records.filter fun record => !record.isTerminal &&
        Keyset.afterKey SandboxCursor.key after (Keyset.key SandboxRecord.cursor SandboxCursor.key record) := by
    rw [List.filter_filter]
    exact List.filter_congr fun record _ => Bool.and_comm _ _
  simp only [listReconcilable, Keyset.page, Keyset.matching, hfilter, decide_eq_true_eq]
  -- what is left differs in the `Decidable` instance of `has_more` only
  congr 1

/-- The rows a compare-and-swap leaves: the old ones, or the replacement over the stored
    record. -/
theorem compareAndSwap_rows (sandboxId : SandboxId) (expected : SandboxGeneration)
    (replacement : SandboxRecord Plan Resources Route Mount)
    (records : List (SandboxRecord Plan Resources Route Mount)) :
    (compareAndSwap sandboxId expected replacement records).2 = records ∨
      (compareAndSwap sandboxId expected replacement records).2 =
        replaceKey SandboxRecord.sandboxId sandboxId replacement records := by
  unfold compareAndSwap
  split
  · exact .inl rfl
  · split
    · exact .inl rfl
    · split
      · exact .inl rfl
      · exact .inr rfl

end MemorySandboxRepository

namespace SqliteSandboxRepository

variable {Plan Resources Route Mount : Type}
  {validateRoute : Route → Except String Unit} {validateMounts : List Mount → Except String Unit}
  {Day : Type} [LinearOrder Day] {julianday : Timestamp → Day}

theorem state_mem_reconcilableStates (record : SandboxRecord Plan Resources Route Mount) :
    decide (record.state ∈ reconcilableStates) = !record.isTerminal := by
  cases hstate : record.state <;> simp [SandboxRecord.isTerminal, hstate, reconcilableStates]

/-- The query's cursor condition is the order `julianKey`. -/
theorem afterKey_julianKey (after : Option SandboxCursor)
    (row : SandboxRecord Plan Resources Route Mount) :
    Keyset.afterKey (SandboxCursor.julianKey julianday) after
        (Keyset.key SandboxRecord.cursor (SandboxCursor.julianKey julianday) row) =
      after.all fun cursor => decide (julianday cursor.createdAt < julianday row.createdAt) ||
        (decide (julianday row.createdAt = julianday cursor.createdAt) &&
          decide (cursor.sandboxId.val < row.sandboxId.val)) := by
  cases after with
  | none => rfl
  | some cursor =>
    simp only [Keyset.afterKey_some, Keyset.key, SandboxCursor.julianKey, SandboxRecord.cursor,
      Option.all_some, Prod.Lex.toLex_lt_toLex, eq_comm (a := julianday row.createdAt),
      Bool.decide_or, Bool.decide_and]

theorem selectReconcilable_eq (after : Option SandboxCursor) (queryLimit : Nat)
    (rows : List (SandboxRecord Plan Resources Route Mount)) :
    selectReconcilable julianday after queryLimit rows =
      (Keyset.matching SandboxRecord.cursor (SandboxCursor.julianKey julianday)
        (fun record => !record.isTerminal) after rows).take queryLimit := by
  have hfilter : (rows.filter fun row => decide (row.state ∈ reconcilableStates) &&
      after.all fun cursor => decide (julianday cursor.createdAt < julianday row.createdAt) ||
        (decide (julianday row.createdAt = julianday cursor.createdAt) &&
          decide (cursor.sandboxId.val < row.sandboxId.val))) =
      rows.filter fun row => !row.isTerminal && Keyset.afterKey (SandboxCursor.julianKey julianday)
        after (Keyset.key SandboxRecord.cursor (SandboxCursor.julianKey julianday) row) :=
    List.filter_congr fun row _ => by rw [state_mem_reconcilableStates, afterKey_julianKey]
  rw [selectReconcilable, Keyset.matching, hfilter]

theorem mapM_deserializeRecord {rows : List (SandboxRecord Plan Resources Route Mount)}
    (hvalid : ∀ r ∈ rows, validateRecord validateRoute validateMounts r = .ok ()) :
    rows.mapM (deserializeRecord validateRoute validateMounts) = .ok rows := by
  induction rows with
  | nil => rfl
  | cons row rows ih =>
    have hrow : deserializeRecord validateRoute validateMounts row = .ok row := by
      rw [deserializeRecord, hvalid row List.mem_cons_self]
      rfl
    rw [List.mapM_cons, hrow, ok_bind, ih fun r hr => hvalid r (List.mem_cons_of_mem _ hr)]
    rfl

/-- Deserializing returns the rows themselves, when it succeeds. -/
theorem eq_of_mapM_deserializeRecord
    {rows records : List (SandboxRecord Plan Resources Route Mount)}
    (h : rows.mapM (deserializeRecord validateRoute validateMounts) = .ok records) :
    records = rows := by
  induction rows generalizing records with
  | nil =>
    cases h
    rfl
  | cons row rows ih =>
    rw [List.mapM_cons] at h
    obtain ⟨row', hrow, h⟩ := bind_eq_ok.mp h
    obtain ⟨rest, hrest, h⟩ := bind_eq_ok.mp h
    have hrow' : row' = row := by
      simp only [deserializeRecord, bind_unit_eq_ok] at hrow
      exact (Except.ok.inj hrow.2).symm
    cases h
    rw [hrow', ih hrest]

/-- The page of the `limit + 1` rows read is the page of the whole filtered table. -/
theorem page_of_selected (after : Option SandboxCursor) (limit : ℕ+)
    (rows : List (SandboxRecord Plan Resources Route Mount)) :
    (⟨(selectReconcilable julianday after ((limit : Nat) + 1) rows).take limit,
      if (limit : Nat) < (selectReconcilable julianday after ((limit : Nat) + 1) rows).length then
        ((selectReconcilable julianday after ((limit : Nat) + 1) rows).take limit).getLast?.map
          SandboxRecord.cursor
      else none⟩ : SandboxPage Plan Resources Route Mount) =
      Keyset.page SandboxRecord.cursor (SandboxCursor.julianKey julianday)
        (fun record => !record.isTerminal) limit after rows := by
  -- the look-ahead row decides `has_more`, and the cut forgets it
  have hmore : (limit : Nat) < (selectReconcilable julianday after ((limit : Nat) + 1) rows).length ↔
      (limit : Nat) < (Keyset.matching SandboxRecord.cursor (SandboxCursor.julianKey julianday)
        (fun record => !record.isTerminal) after rows).length := by
    rw [selectReconcilable_eq, List.length_take]
    omega
  have htake : (selectReconcilable julianday after ((limit : Nat) + 1) rows).take limit =
      (Keyset.matching SandboxRecord.cursor (SandboxCursor.julianKey julianday)
        (fun record => !record.isTerminal) after rows).take limit := by
    rw [selectReconcilable_eq, List.take_take, Nat.min_eq_left (Nat.le_succ _)]
  simp only [Keyset.page, htake, hmore]

theorem listReconcilable_eq_ok (after : Option SandboxCursor) (limit : ℕ+)
    {rows : List (SandboxRecord Plan Resources Route Mount)}
    (hvalid : ∀ r ∈ rows, validateRecord validateRoute validateMounts r = .ok ()) :
    listReconcilable validateRoute validateMounts julianday after limit rows =
      .ok (Keyset.page SandboxRecord.cursor (SandboxCursor.julianKey julianday)
        (fun record => !record.isTerminal) limit after rows) := by
  have hselected : ∀ r ∈ selectReconcilable julianday after ((limit : Nat) + 1) rows,
      validateRecord validateRoute validateMounts r = .ok () := fun r hr => by
    rw [selectReconcilable_eq] at hr
    exact hvalid r (Keyset.mem_matching.mp (List.mem_of_mem_take hr)).1
  rw [listReconcilable, mapM_deserializeRecord hselected, ok_bind, ← page_of_selected]
  simp only [decide_eq_true_eq]
  rfl

theorem eq_page_of_listReconcilable {after : Option SandboxCursor} {limit : ℕ+}
    {rows : List (SandboxRecord Plan Resources Route Mount)} {page : SandboxPage Plan Resources Route Mount}
    (h : listReconcilable validateRoute validateMounts julianday after limit rows = .ok page) :
    page = Keyset.page SandboxRecord.cursor (SandboxCursor.julianKey julianday)
      (fun record => !record.isTerminal) limit after rows := by
  rw [listReconcilable] at h
  obtain ⟨records, hrecords, h⟩ := bind_eq_ok.mp h
  rw [eq_of_mapM_deserializeRecord hrecords] at h
  rw [← page_of_selected, ← Except.ok.inj h]
  simp only [decide_eq_true_eq]

/-- The rows a compare-and-swap leaves: the old ones, or a valid replacement over the stored
    record. -/
theorem compareAndSwap_rows (sandboxId : SandboxId) (expected : SandboxGeneration)
    (replacement : SandboxRecord Plan Resources Route Mount)
    (rows : List (SandboxRecord Plan Resources Route Mount)) :
    (compareAndSwap validateRoute validateMounts sandboxId expected replacement rows).2 = rows ∨
      validateRecord validateRoute validateMounts replacement = .ok () ∧
        (compareAndSwap validateRoute validateMounts sandboxId expected replacement rows).2 =
          replaceKey SandboxRecord.sandboxId sandboxId replacement rows := by
  unfold compareAndSwap
  split
  · exact .inl rfl
  · rename_i expectedRow hcheck
    have hvalid : validateRecord validateRoute validateMounts replacement = .ok () := by
      simp only [checkReplacement, bind_unit_eq_ok] at hcheck
      exact hcheck.2.1
    split
    · rename_i rows' hupdate
      exact .inr ⟨hvalid, (updateAtGeneration_eq_some hupdate).2⟩
    · split <;> exact .inl rfl

end SqliteSandboxRepository

/-! ## Swaps keep the keys -/

section Swaps

variable {Plan Resources Route Mount β : Type} {cas : CompareAndSwap Plan Resources Route Mount}

/-- A compare-and-swap leaves the rows as they were, or writes the replacement over the
    stored record. -/
def Overwrites (cas : CompareAndSwap Plan Resources Route Mount) : Prop :=
  ∀ sandboxId expected replacement records,
    (cas sandboxId expected replacement records).2 = records ∨
      (cas sandboxId expected replacement records).2 =
        replaceKey SandboxRecord.sandboxId sandboxId replacement records

theorem memory_overwrites :
    Overwrites (MemorySandboxRepository.compareAndSwap : CompareAndSwap Plan Resources Route Mount) :=
  MemorySandboxRepository.compareAndSwap_rows

theorem sqlite_overwrites (validateRoute : Route → Except String Unit)
    (validateMounts : List Mount → Except String Unit) :
    Overwrites (SqliteSandboxRepository.compareAndSwap validateRoute validateMounts :
      CompareAndSwap Plan Resources Route Mount) := fun sandboxId expected replacement rows =>
  (SqliteSandboxRepository.compareAndSwap_rows sandboxId expected replacement rows).imp_right
    And.right

/-- A fixed-field swap keeps every projection of the fixed fields, row by row. -/
theorem FixedFieldSwap.map_eq (hcas : Overwrites cas) {f : SandboxRecord Plan Resources Route Mount → β}
    (hf : ∀ a b, a.fixed = b.fixed → f a = f b) {records records' : List (SandboxRecord Plan Resources Route Mount)}
    (h : FixedFieldSwap cas records records') : records'.map f = records.map f := by
  obtain ⟨sandboxId, expected, current, replacement, hfind, hfixed, rfl⟩ := h
  rcases hcas sandboxId expected replacement records with hsame | hwrite
  · rw [hsame]
  · rw [hwrite]
    have hrows : (replaceKey SandboxRecord.sandboxId sandboxId replacement records).filterMap
        (fun z => some (f z)) = records.filterMap (fun z => some (f z)) :=
      filterMap_replaceKey fun z hz => by
        rw [hfind] at hz
        cases hz
        rw [hf replacement current hfixed]
    simpa [List.filterMap_eq_map] using hrows

/-- Every store reached from `initial` by fixed-field swaps has its keys, row by row. -/
theorem map_eq_of_reach (hcas : Overwrites cas) {f : SandboxRecord Plan Resources Route Mount → β}
    (hf : ∀ a b, a.fixed = b.fixed → f a = f b) {initial records : List (SandboxRecord Plan Resources Route Mount)}
    (h : Relation.ReflTransGen (FixedFieldSwap cas) initial records) : records.map f = initial.map f := by
  induction h with
  | refl => rfl
  | tail _ hstep ih => exact (hstep.map_eq hcas hf).trans ih

/-- SQLite swaps write only valid rows. -/
theorem valid_of_reach {validateRoute : Route → Except String Unit}
    {validateMounts : List Mount → Except String Unit}
    {initial rows : List (SandboxRecord Plan Resources Route Mount)}
    (h : Relation.ReflTransGen
      (FixedFieldSwap (SqliteSandboxRepository.compareAndSwap validateRoute validateMounts)) initial rows)
    (hvalid : ∀ r ∈ initial, SqliteSandboxRepository.validateRecord validateRoute validateMounts r = .ok ()) :
    ∀ r ∈ rows, SqliteSandboxRepository.validateRecord validateRoute validateMounts r = .ok () := by
  induction h with
  | refl => exact hvalid
  | tail _ hstep ih =>
    obtain ⟨sandboxId, expected, current, replacement, -, -, rfl⟩ := hstep
    rcases SqliteSandboxRepository.compareAndSwap_rows sandboxId expected replacement _ with
      hsame | ⟨hreplacement, hwrite⟩
    · rw [hsame]
      exact ih
    · rw [hwrite]
      intro r hr
      rcases mem_replaceKey hr with rfl | hr
      · exact hreplacement
      · exact ih r hr

end Swaps

/-! ## The scan of `reconcile_startup` -/

/-- A loop over calls that each return a keyset page is the keyset scan. -/
theorem LifecycleSupervisor.reconcileStartup_eq_scan {Plan Resources Route Mount ε κ : Type}
    [LinearOrder κ] {rank : SandboxCursor → κ} {limit : Nat}
    {listReconcilable : Option SandboxCursor → List (SandboxRecord Plan Resources Route Mount) →
      Except ε (SandboxPage Plan Resources Route Mount)}
    {stores : List (List (SandboxRecord Plan Resources Route Mount))} {cursor : Option SandboxCursor}
    (h : ∀ s ∈ stores, ∀ c, listReconcilable c s =
      .ok (Keyset.page SandboxRecord.cursor rank (fun record => !record.isTerminal) limit c s)) :
    LifecycleSupervisor.reconcileStartup listReconcilable stores cursor =
      .ok (Keyset.scan SandboxRecord.cursor rank (fun record => !record.isTerminal) limit stores
        cursor) := by
  induction stores generalizing cursor with
  | nil => rfl
  | cons store stores ih =>
    rw [LifecycleSupervisor.reconcileStartup, h store List.mem_cons_self cursor, ok_bind]
    cases hnext : (Keyset.page SandboxRecord.cursor rank (fun record => !record.isTerminal) limit
        cursor store).next with
    | none =>
      rw [Keyset.scan_of_next_none hnext]
      rfl
    | some c =>
      rw [Keyset.scan_of_next_some hnext]
      simp only [ih fun s hs => h s (List.mem_cons_of_mem _ hs)]
      rfl

/-- A rank built from fixed fields is kept by every lifecycle method. -/
theorem key_eq_of_fixed {Plan Resources Route Mount κ : Type} {rank : SandboxCursor → κ}
    {a b : SandboxRecord Plan Resources Route Mount} (h : a.fixed = b.fixed) :
    Keyset.key SandboxRecord.cursor rank a = Keyset.key SandboxRecord.cursor rank b := by
  rw [Keyset.key, Keyset.key, SandboxRecord.cursor_eq_of_fixed h]

section Scan

variable {Plan Resources Route Mount Day : Type} {rank : SandboxCursor → Lex (Day × String)}
  (hid : ∀ c, (ofLex (rank c)).2 = c.sandboxId.val)
include hid

theorem sandboxId_eq_of_key_eq {a b : SandboxRecord Plan Resources Route Mount}
    (h : Keyset.key SandboxRecord.cursor rank a = Keyset.key SandboxRecord.cursor rank b) :
    a.sandboxId = b.sandboxId := by
  apply SandboxId.eq_of_val_eq
  have hval := congrArg (fun k => (ofLex k).2) h
  simpa only [Keyset.key, hid, SandboxRecord.cursor] using hval

theorem nodup_map_key {l : List (SandboxRecord Plan Resources Route Mount)}
    (hnd : (l.map SandboxRecord.sandboxId).Nodup) :
    (l.map (Keyset.key SandboxRecord.cursor rank)).Nodup :=
  (List.Nodup.of_map SandboxRecord.sandboxId hnd).map_on fun _ ha _ hb hkey =>
    List.inj_on_of_nodup_map hnd ha hb (sandboxId_eq_of_key_eq hid hkey)

/-- Two records with keys from `initial` and one id have one key. -/
theorem key_eq_of_sandboxId_eq {initial : List (SandboxRecord Plan Resources Route Mount)}
    (hnd : (initial.map SandboxRecord.sandboxId).Nodup) {a b : SandboxRecord Plan Resources Route Mount}
    (ha : Keyset.key SandboxRecord.cursor rank a ∈ initial.map (Keyset.key SandboxRecord.cursor rank))
    (hb : Keyset.key SandboxRecord.cursor rank b ∈ initial.map (Keyset.key SandboxRecord.cursor rank))
    (h : a.sandboxId = b.sandboxId) :
    Keyset.key SandboxRecord.cursor rank a = Keyset.key SandboxRecord.cursor rank b := by
  obtain ⟨a₀, ha₀, hka⟩ := List.mem_map.mp ha
  obtain ⟨b₀, hb₀, hkb⟩ := List.mem_map.mp hb
  have hsame : a₀ = b₀ := List.inj_on_of_nodup_map hnd ha₀ hb₀ (by
    rw [sandboxId_eq_of_key_eq hid hka, sandboxId_eq_of_key_eq hid hkb, h])
  rw [← hka, ← hkb, hsame]

variable [LinearOrder Day]

/-- The keyset scan over stores with the keys of `initial`, which has distinct ids. -/
theorem scan_visitsLiveOnce {limit : ℕ+} {initial : List (SandboxRecord Plan Resources Route Mount)}
    {stores : List (List (SandboxRecord Plan Resources Route Mount))}
    (hnd : (initial.map SandboxRecord.sandboxId).Nodup)
    (hkeys : ∀ s ∈ stores, s.map (Keyset.key SandboxRecord.cursor rank) =
      initial.map (Keyset.key SandboxRecord.cursor rank))
    (henough : initial.length < stores.length) :
    VisitsLiveOnce initial stores limit
      (Keyset.scan SandboxRecord.cursor rank (fun record => !record.isTerminal) limit stores none) where
  ends := Keyset.scan_ends hkeys (by simpa using henough)
  length_pages := (Keyset.scan_length_le hkeys).trans (by simp)
  length_records := Keyset.scan_records_le
  nodup := by
    have hsorted : ((Keyset.scan SandboxRecord.cursor rank (fun record => !record.isTerminal) limit
        stores none).flatMap Keyset.Page.records).Pairwise fun a b =>
          Keyset.key SandboxRecord.cursor rank a < Keyset.key SandboxRecord.cursor rank b :=
      Keyset.scan_sorted fun s hs => (hkeys s hs) ▸ nodup_map_key hid hnd
    -- two records of the scan with one id would have one key
    rw [List.Nodup, List.pairwise_map]
    refine hsorted.imp_of_mem fun ha hb hlt hsame => ?_
    obtain ⟨p, hp, hap⟩ := List.mem_flatMap.mp ha
    obtain ⟨q, hq, hbq⟩ := List.mem_flatMap.mp hb
    have heq := key_eq_of_sandboxId_eq hid hnd (Keyset.scan_key_mem hkeys p hp _ hap)
      (Keyset.scan_key_mem hkeys q hq _ hbq) hsame
    exact lt_irrefl _ (heq ▸ hlt)
  live := fun ps hps r hr => by
    obtain ⟨hmem, hlive⟩ := Keyset.scan_records_live ps hps r hr
    exact ⟨hmem, by simpa using hlive⟩
  complete := fun r hr hstays => by
    have hfound : ∃ p ∈ Keyset.scan SandboxRecord.cursor rank (fun record => !record.isTerminal) limit
        stores none, ∃ r' ∈ p.records,
          Keyset.key SandboxRecord.cursor rank r' = Keyset.key SandboxRecord.cursor rank r :=
      Keyset.scan_complete limit.pos hkeys (nodup_map_key hid hnd)
      (Keyset.scan_ends hkeys (by simpa using henough)) (List.mem_map_of_mem hr) rfl
      fun ps hps r' hr' hkey => by
        rw [Bool.not_eq_true']
        exact hstays ps hps r' hr' (sandboxId_eq_of_key_eq hid hkey)
    obtain ⟨p, hp, r', hr', hkey⟩ := hfound
    exact ⟨p, hp, r', hr', sandboxId_eq_of_key_eq hid hkey⟩

theorem page_next_eq_none_iff_noneFollows {limit : ℕ+} {cursor : Option SandboxCursor}
    {store : List (SandboxRecord Plan Resources Route Mount)}
    (hnd : (store.map SandboxRecord.sandboxId).Nodup) :
    (Keyset.page SandboxRecord.cursor rank (fun record => !record.isTerminal) limit cursor store).next =
        none ↔
      NoneFollows rank cursor store
        (Keyset.page SandboxRecord.cursor rank (fun record => !record.isTerminal) limit cursor store) := by
  rw [Keyset.page_next_eq_none_iff limit.pos (nodup_map_key hid hnd), NoneFollows]
  simp only [Bool.not_eq_true']
  rfl

end Scan

/-! ## Both repositories -/

section Repositories

variable {Plan Resources Route Mount : Type}

theorem memory_reconcile_scan (limit : ℕ+) {initial : List (SandboxRecord Plan Resources Route Mount)}
    {stores : List (List (SandboxRecord Plan Resources Route Mount))}
    (hnd : (initial.map SandboxRecord.sandboxId).Nodup)
    (hreach : ∀ s ∈ stores,
      Relation.ReflTransGen (FixedFieldSwap MemorySandboxRepository.compareAndSwap) initial s)
    (henough : initial.length < stores.length) :
    ∃ pages, LifecycleSupervisor.reconcileStartup (fun cursor records =>
        (.ok (MemorySandboxRepository.listReconcilable cursor limit records) :
          Except RepositoryError (SandboxPage Plan Resources Route Mount))) stores none = .ok pages ∧
      VisitsLiveOnce initial stores limit pages :=
  ⟨_, LifecycleSupervisor.reconcileStartup_eq_scan fun _ _ c => by
      rw [MemorySandboxRepository.listReconcilable_eq_page],
    scan_visitsLiveOnce (fun _ => rfl) hnd (fun s hs =>
      map_eq_of_reach memory_overwrites (fun _ _ => key_eq_of_fixed) (hreach s hs)) henough⟩

theorem sqlite_reconcile_scan (validateRoute : Route → Except String Unit)
    (validateMounts : List Mount → Except String Unit) {Day : Type} [LinearOrder Day]
    (julianday : Timestamp → Day) (limit : ℕ+) {initial : List (SandboxRecord Plan Resources Route Mount)}
    {stores : List (List (SandboxRecord Plan Resources Route Mount))}
    (hnd : (initial.map SandboxRecord.sandboxId).Nodup)
    (hvalid : ∀ r ∈ initial, SqliteSandboxRepository.validateRecord validateRoute validateMounts r = .ok ())
    (hreach : ∀ s ∈ stores, Relation.ReflTransGen
      (FixedFieldSwap (SqliteSandboxRepository.compareAndSwap validateRoute validateMounts)) initial s)
    (henough : initial.length < stores.length) :
    ∃ pages, LifecycleSupervisor.reconcileStartup (fun cursor rows =>
        SqliteSandboxRepository.listReconcilable validateRoute validateMounts julianday cursor limit rows)
        stores none = .ok pages ∧
      VisitsLiveOnce initial stores limit pages :=
  ⟨_, LifecycleSupervisor.reconcileStartup_eq_scan fun s hs c =>
      SqliteSandboxRepository.listReconcilable_eq_ok c limit (valid_of_reach (hreach s hs) hvalid),
    scan_visitsLiveOnce (fun _ => rfl) hnd (fun s hs =>
      map_eq_of_reach (sqlite_overwrites validateRoute validateMounts) (fun _ _ => key_eq_of_fixed)
        (hreach s hs)) henough⟩

theorem memory_next_eq_none_iff (after : Option SandboxCursor) (limit : ℕ+)
    {records : List (SandboxRecord Plan Resources Route Mount)}
    (hnd : (records.map SandboxRecord.sandboxId).Nodup) :
    (MemorySandboxRepository.listReconcilable after limit records).next = none ↔
      NoneFollows SandboxCursor.key after records
        (MemorySandboxRepository.listReconcilable after limit records) := by
  rw [MemorySandboxRepository.listReconcilable_eq_page]
  exact page_next_eq_none_iff_noneFollows (fun _ => rfl) hnd

theorem sqlite_next_eq_none_iff {validateRoute : Route → Except String Unit}
    {validateMounts : List Mount → Except String Unit} {Day : Type} [LinearOrder Day]
    {julianday : Timestamp → Day} {after : Option SandboxCursor} {limit : ℕ+}
    {rows : List (SandboxRecord Plan Resources Route Mount)} {page : SandboxPage Plan Resources Route Mount}
    (hnd : (rows.map SandboxRecord.sandboxId).Nodup)
    (h : SqliteSandboxRepository.listReconcilable validateRoute validateMounts julianday after limit rows =
      .ok page) :
    page.next = none ↔ NoneFollows (SandboxCursor.julianKey julianday) after rows page := by
  rw [SqliteSandboxRepository.eq_page_of_listReconcilable h]
  exact page_next_eq_none_iff_noneFollows (fun _ => rfl) hnd

theorem reconcile_startup_visits_live_once (validateRoute : Route → Except String Unit)
    (validateMounts : List Mount → Except String Unit) {Day : Type} [LinearOrder Day]
    (julianday : Timestamp → Day) (limit : ℕ+) :
    (∀ (initial : List (SandboxRecord Plan Resources Route Mount))
        (stores : List (List (SandboxRecord Plan Resources Route Mount))),
        (initial.map SandboxRecord.sandboxId).Nodup →
      (∀ s ∈ stores,
        Relation.ReflTransGen (FixedFieldSwap MemorySandboxRepository.compareAndSwap) initial s) →
      initial.length < stores.length →
      ∃ pages, LifecycleSupervisor.reconcileStartup (fun cursor records =>
          (.ok (MemorySandboxRepository.listReconcilable cursor limit records) :
            Except RepositoryError (SandboxPage Plan Resources Route Mount))) stores none = .ok pages ∧
        VisitsLiveOnce initial stores limit pages) ∧
    (∀ (initial : List (SandboxRecord Plan Resources Route Mount))
        (stores : List (List (SandboxRecord Plan Resources Route Mount))),
        (initial.map SandboxRecord.sandboxId).Nodup →
      (∀ r ∈ initial, SqliteSandboxRepository.validateRecord validateRoute validateMounts r = .ok ()) →
      (∀ s ∈ stores, Relation.ReflTransGen
        (FixedFieldSwap (SqliteSandboxRepository.compareAndSwap validateRoute validateMounts)) initial s) →
      initial.length < stores.length →
      ∃ pages, LifecycleSupervisor.reconcileStartup (fun cursor rows =>
          SqliteSandboxRepository.listReconcilable validateRoute validateMounts julianday cursor limit rows)
          stores none = .ok pages ∧
        VisitsLiveOnce initial stores limit pages) ∧
    (∀ (after : Option SandboxCursor) (records : List (SandboxRecord Plan Resources Route Mount)),
      (records.map SandboxRecord.sandboxId).Nodup →
      ((MemorySandboxRepository.listReconcilable after limit records).next = none ↔
        NoneFollows SandboxCursor.key after records
          (MemorySandboxRepository.listReconcilable after limit records))) ∧
    (∀ (after : Option SandboxCursor) (rows : List (SandboxRecord Plan Resources Route Mount)) page,
      (rows.map SandboxRecord.sandboxId).Nodup →
      SqliteSandboxRepository.listReconcilable validateRoute validateMounts julianday after limit rows =
        .ok page →
      (page.next = none ↔ NoneFollows (SandboxCursor.julianKey julianday) after rows page)) :=
  ⟨fun _ _ hnd hreach henough => memory_reconcile_scan limit hnd hreach henough,
    fun _ _ hnd hvalid hreach henough =>
      sqlite_reconcile_scan validateRoute validateMounts julianday limit hnd hvalid hreach henough,
    fun after _ hnd => memory_next_eq_none_iff after limit hnd,
    fun _ _ _ hnd h => sqlite_next_eq_none_iff hnd h⟩

end Repositories

/-- Two sandboxes: `sbx-a` created at 10 and running, `sbx-c` created at 5 and creating. -/
def reconcileSample : List (SandboxRecord Unit Unit Unit Unit) :=
  [expiredRunning, { creatingRecord with sandboxId := ⟨"sbx-c", by decide⟩, createdAt := 5 }]

theorem sample_scan_visits_both :
    (∃ pages, LifecycleSupervisor.reconcileStartup (fun cursor records =>
        (.ok (MemorySandboxRepository.listReconcilable cursor 1 records) :
          Except RepositoryError (SandboxPage Unit Unit Unit Unit)))
        (List.replicate 3 reconcileSample) none = .ok pages ∧
      VisitsLiveOnce reconcileSample (List.replicate 3 reconcileSample) 1 pages) ∧
    (∃ pages, LifecycleSupervisor.reconcileStartup (fun cursor rows =>
        SqliteSandboxRepository.listReconcilable acceptAll acceptAll (id : Timestamp → Int) cursor 1 rows)
        (List.replicate 3 reconcileSample) none = .ok pages ∧
      VisitsLiveOnce reconcileSample (List.replicate 3 reconcileSample) 1 pages) :=
  have hstores : ∀ s ∈ List.replicate 3 reconcileSample, s = reconcileSample := fun _ hs =>
    List.eq_of_mem_replicate hs
  ⟨(reconcile_startup_visits_live_once acceptAll acceptAll (id : Timestamp → Int) 1).1 _ _
      (by decide) (fun s hs => hstores s hs ▸ .refl) (by decide),
    (reconcile_startup_visits_live_once acceptAll acceptAll (id : Timestamp → Int) 1).2.1 _ _
      (by decide) (by decide) (fun s hs => hstores s hs ▸ .refl) (by decide)⟩

/-- One sandbox a page: `sbx-c`, created first, then `sbx-a`, whose page has no next cursor. -/
example : (LifecycleSupervisor.reconcileStartup (fun cursor records =>
    (.ok (MemorySandboxRepository.listReconcilable cursor 1 records) :
      Except RepositoryError (SandboxPage Unit Unit Unit Unit)))
    (List.replicate 3 reconcileSample) none).map
      (fun pages => pages.map fun page => page.records.map fun record => record.sandboxId.val) =
    .ok [["sbx-c"], ["sbx-a"]] := by
  decide

end A3sBox.Compat
