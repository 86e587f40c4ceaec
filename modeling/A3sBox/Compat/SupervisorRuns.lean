import A3sBox.Compat.Supervisor

/-
  The maintenance loops of the lifecycle supervisor: `reconcile_startup` with the supervisor's
  own writes in it, among other writers, and `reap_expired`.

  Model. Other writers may change the store before every step of the supervisor: before a
  page is read and before a record is reconciled, the rows move by `interfere n`, where `n`
  counts the supervisor's steps, and each such move is a run of fixed-field swaps (the
  environment of `reconcile_startup_visits_live_once`). `reconcileStartupAmong` is the loop of
  `reconcile_startup` with a fuel of pages; it returns the report, the rows after the loop and
  the rows each page was read from. With `interfere` the identity its loop over a page is the
  supervisor's own (`observeAllAmong_id`).

  The supervisor's own writes are fixed-field swaps too: a record it reconciles was read from a
  store reached from the first, so the record stored under its id has its fixed fields
  (`fixed_eq_of_reach`), and the replacement, rebuilt by a lifecycle call, keeps them
  (`WritesAtMost.reach`). So every store the loop reads is reached from the first, and the
  scan of `reconcile_startup_visits_live_once` is the loop's.

  `reap_expired` claims a batch and then finishes each claimed record. Both repositories' claims
  are runs of expiry swaps (`ExpirySwap`): each advances the record stored under a claimed id by
  its own timeout action, to Killing or Pausing one generation on, which is the write a
  compare-and-swap at the stored generation makes (`MemorySandboxRepository.claimLoop_reach`,
  `SqliteSandboxRepository.claimLoop_reach`). The finishing writes are the supervisor's own.

  Proved: `startup_among_writers_visits_live_once`, for both repositories: given a page of fuel
  more than there are records, the loop returns a report; the pages it read visit every live
  record once in the sense of `VisitsLiveOnce`; and the report examined each record of those
  pages once, each completed, deferred or failed. `reap_expired_claims_by_swaps`, for both
  repositories: the claim is a run of expiry swaps and the finishing a run of fixed-field swaps,
  so no record's fixed fields change, and its report counts each claimed record once.
-/

namespace A3sBox.Compat

open A3sBox.Lib

/-- What a run of `reconcile_startup` returns, with the rows each of its pages was read from. -/
structure StartupRun (Plan Route Mount : Type) where
  result : Except LifecycleSupervisorError LifecycleMaintenanceReport
  rows : List (SandboxRecord Plan ResourceConfig Route Mount)
  reads : List (List (SandboxRecord Plan ResourceConfig Route Mount))

namespace LifecycleMaintenanceReport

/-- Every examined item was completed, deferred or failed. -/
def Tallied (report : LifecycleMaintenanceReport) : Prop :=
  report.completed + report.deferred + report.failures.length = report.examined

theorem empty_tallied : empty.Tallied := rfl

variable {report : LifecycleMaintenanceReport} {sandboxId : SandboxId}
  {result : MaintenanceItemResult MaintenanceDisposition}

@[simp] theorem observe_examined : (report.observe sandboxId result).examined = report.examined + 1 := by
  unfold observe
  split <;> rfl

theorem Tallied.observe (h : report.Tallied) : (report.observe sandboxId result).Tallied := by
  unfold Tallied at h ⊢
  unfold LifecycleMaintenanceReport.observe
  split
  · simp only
    omega
  · simp only
    omega
  · simp only [List.length_append, List.length_singleton]
    omega

end LifecycleMaintenanceReport

/-- Stores past those a scan read say nothing of its pages. -/
theorem VisitsLiveOnce.of_append {Plan Route Mount Day : Type} [LinearOrder Day]
    {rank : SandboxCursor → Lex (Day × String)} {limit : ℕ+} {initial : List (SandboxRecord Plan ResourceConfig Route Mount)}
    {stores more : List (List (SandboxRecord Plan ResourceConfig Route Mount))}
    (hends : ∃ p ∈ (Keyset.scan SandboxRecord.cursor rank (fun record => !record.isTerminal) limit
      stores none).getLast?, p.next = none)
    (h : VisitsLiveOnce initial (stores ++ more) limit
      (Keyset.scan SandboxRecord.cursor rank (fun record => !record.isTerminal) limit (stores ++ more) none)) :
    VisitsLiveOnce initial stores limit
      (Keyset.scan SandboxRecord.cursor rank (fun record => !record.isTerminal) limit stores none) := by
  rw [Keyset.scan_append hends] at h
  have hzip : (Keyset.scan SandboxRecord.cursor rank (fun record => !record.isTerminal) limit stores
      none).zip (stores ++ more) =
      (Keyset.scan SandboxRecord.cursor rank (fun record => !record.isTerminal) limit stores none).zip stores :=
    Keyset.zip_scan_append
  refine ⟨h.ends, h.length_pages, h.length_records, h.nodup, ?_, ?_⟩
  · rw [← hzip]
    exact h.live
  · rw [← hzip]
    exact h.complete

/-- In two stores reached from `initial`, which has distinct ids, the records stored under one
    id have one set of fixed fields. -/
theorem fixed_eq_of_reach {Plan Resources Route Mount : Type}
    {cas : CompareAndSwap Plan Resources Route Mount} (hcas : Overwrites cas)
    {initial : List (SandboxRecord Plan Resources Route Mount)}
    (hnd : (initial.map SandboxRecord.sandboxId).Nodup)
    {read rows : List (SandboxRecord Plan Resources Route Mount)}
    (hread : Relation.ReflTransGen (FixedFieldSwap cas) initial read)
    (hrows : Relation.ReflTransGen (FixedFieldSwap cas) initial rows)
    {record current : SandboxRecord Plan Resources Route Mount} (hrecord : record ∈ read)
    (hcurrent : current ∈ rows) (hid : current.sandboxId = record.sandboxId) :
    current.fixed = record.fixed := by
  have hfixed : ∀ a b : SandboxRecord Plan Resources Route Mount, a.fixed = b.fixed →
      a.fixed = b.fixed := fun _ _ h => h
  have hsandboxId : ∀ a b : SandboxRecord Plan Resources Route Mount, a.fixed = b.fixed →
      a.sandboxId = b.sandboxId := fun _ _ h => congrArg SandboxRecord.Fixed.sandboxId h
  have hmap : rows.map SandboxRecord.fixed = read.map SandboxRecord.fixed :=
    (map_eq_of_reach hcas hfixed hrows).trans (map_eq_of_reach hcas hfixed hread).symm
  have hndRead : (read.map SandboxRecord.sandboxId).Nodup :=
    (map_eq_of_reach hcas hsandboxId hread) ▸ hnd
  exact proj_eq_of_key_eq hsandboxId hmap hndRead hrecord hcurrent hid

namespace LifecycleSupervisor

variable {Plan Route Mount : Type} [DecidableEq Plan] (supervisor : LifecycleSupervisor Plan Route Mount)
  (interfere : ℕ → List (SandboxRecord Plan ResourceConfig Route Mount) →
    List (SandboxRecord Plan ResourceConfig Route Mount))

/-- The loop `for record in records { report.observe(.., item(record)) }` among other writers:
    each item runs after the other writers' move, and the count of steps goes on. -/
def observeAllAmong
    (item : SandboxRecord Plan ResourceConfig Route Mount →
      List (SandboxRecord Plan ResourceConfig Route Mount) → MaintenanceStep Plan Route Mount) :
    List (SandboxRecord Plan ResourceConfig Route Mount) → ℕ → LifecycleMaintenanceReport →
      List (SandboxRecord Plan ResourceConfig Route Mount) →
        ℕ × LifecycleMaintenanceReport × List (SandboxRecord Plan ResourceConfig Route Mount)
  | [], step, report, rows => (step, report, rows)
  | record :: records, step, report, rows =>
    let done := item record (interfere step rows)
    observeAllAmong item records (step + 1) (report.observe record.sandboxId done.1) done.2

/-- `reconcile_startup` among other writers, for at most `fuel` pages: each page is read after
    the other writers' move, and its records are reconciled before the next is read. -/
def reconcileStartupAmong (pageSize : ℕ+) :
    ℕ → Option SandboxCursor → ℕ → LifecycleMaintenanceReport →
      List (SandboxRecord Plan ResourceConfig Route Mount) → Option (StartupRun Plan Route Mount)
  | 0, _, _, _, _ => none
  | fuel + 1, cursor, step, report, rows =>
    let read := interfere step rows
    match supervisor.repository.listReconcilable cursor pageSize read with
    | .error error => some ⟨.error (.repository error), read, [read]⟩
    | .ok page =>
      let done := observeAllAmong interfere supervisor.reconcileRecord page.records (step + 1) report read
      match page.next with
      | none => some ⟨.ok done.2.1, done.2.2, [read]⟩
      | some next =>
        (reconcileStartupAmong pageSize fuel (some next) done.1 done.2.1 done.2.2).map
          fun run => { run with reads := read :: run.reads }

omit [DecidableEq Plan] in
/-- With no other writer the loop is `observeAll`. -/
theorem observeAllAmong_id
    (item : SandboxRecord Plan ResourceConfig Route Mount →
      List (SandboxRecord Plan ResourceConfig Route Mount) → MaintenanceStep Plan Route Mount)
    (records : List (SandboxRecord Plan ResourceConfig Route Mount))
    (step : ℕ) (report : LifecycleMaintenanceReport)
    (rows : List (SandboxRecord Plan ResourceConfig Route Mount)) :
    observeAllAmong (fun _ rows => rows) item records step report rows =
      (step + records.length, observeAll item records report rows) := by
  induction records generalizing step report rows with
  | nil => rfl
  | cons record records ih =>
    simp only [observeAllAmong, observeAll, ih, List.length_cons]
    congr 1
    omega

/-! ## The supervisor's writes are fixed-field swaps -/

section Reach

variable {supervisor}

/-- A write of an item whose record has the fixed fields of the one stored under its id is a
    fixed-field swap; with none stored the swap writes nothing. -/
theorem WritesAtMost.reach (hcas : Overwrites supervisor.repository.compareAndSwap)
    {record : SandboxRecord Plan ResourceConfig Route Mount}
    {rows rows' : List (SandboxRecord Plan ResourceConfig Route Mount)}
    (hfixed : ∀ current ∈ rows, current.sandboxId = record.sandboxId → current.fixed = record.fixed)
    (h : supervisor.WritesAtMost record (supervisor.Sound record) rows rows') :
    Relation.ReflTransGen (FixedFieldSwap supervisor.repository.compareAndSwap) rows rows' := by
  rcases h with rfl | ⟨replacement, ⟨hrebuilt, -⟩, rfl⟩
  · exact .refl
  obtain ⟨next, heffect⟩ := hrebuilt.effect
  have hid : replacement.sandboxId = record.sandboxId :=
    congrArg SandboxRecord.Fixed.sandboxId heffect.fixed_eq
  cases hfind : findKey SandboxRecord.sandboxId replacement.sandboxId rows with
  | none =>
    rcases hcas replacement.sandboxId record.generation replacement rows with hsame | hwrite
    · rw [hsame]
    · rw [hwrite, replaceKey_of_forall_ne (findKey_eq_none.mp hfind)]
  | some current =>
    obtain ⟨hmem, hkey⟩ := findKey_eq_some hfind
    exact .single ⟨replacement.sandboxId, record.generation, current, replacement, hfind,
      heffect.fixed_eq.trans (hfixed current hmem (hkey.trans hid)).symm, rfl⟩

/-- A sound write for a record read from a store reached from `initial` keeps the rows reached
    from `initial`. -/
theorem WritesAtMost.reach_of_read (hcas : Overwrites supervisor.repository.compareAndSwap)
    {initial read rows rows' : List (SandboxRecord Plan ResourceConfig Route Mount)}
    {record : SandboxRecord Plan ResourceConfig Route Mount}
    (hnd : (initial.map SandboxRecord.sandboxId).Nodup)
    (hread : Relation.ReflTransGen (FixedFieldSwap supervisor.repository.compareAndSwap) initial read)
    (hrecord : record ∈ read)
    (hrows : Relation.ReflTransGen (FixedFieldSwap supervisor.repository.compareAndSwap) initial rows)
    (h : supervisor.WritesAtMost record (supervisor.Sound record) rows rows') :
    Relation.ReflTransGen (FixedFieldSwap supervisor.repository.compareAndSwap) initial rows' :=
  -- the record was read from `read`, so the store agrees with it on its fixed fields
  hrows.trans (h.reach hcas fun _ hcurrent hid =>
    fixed_eq_of_reach hcas hnd hread hrows hrecord hcurrent hid)

end Reach

/-- What `reconcile_startup` among other writers does from the rows `initial`: it returns a report
    after reading only stores reached from `initial` by fixed-field swaps; its pages are the loop of
    `reconcile_startup_visits_live_once` over the stores it read, and visit every live record
    once; and the report examined each record of those pages once, each completed, deferred or
    failed. -/
def VisitsAmongWriters (pageSize : ℕ+) (fuel : ℕ)
    (initial : List (SandboxRecord Plan ResourceConfig Route Mount)) : Prop :=
  ∃ run report pages,
    supervisor.reconcileStartupAmong interfere pageSize fuel none 0 .empty initial = some run ∧
    run.result = .ok report ∧
    (∀ s ∈ run.reads, Relation.ReflTransGen (FixedFieldSwap supervisor.repository.compareAndSwap) initial s) ∧
    reconcileStartup (fun cursor rows => supervisor.repository.listReconcilable cursor pageSize rows)
      run.reads none = .ok pages ∧
    VisitsLiveOnce initial run.reads pageSize pages ∧
    report.examined = (pages.flatMap Keyset.Page.records).length ∧ report.Tallied

/-! ## Loops of sound items keep the rows reached from the first -/

section Loop

variable {supervisor} {initial : List (SandboxRecord Plan ResourceConfig Route Mount)}
  (hcas : Overwrites supervisor.repository.compareAndSwap)
  (hnd : (initial.map SandboxRecord.sandboxId).Nodup)
include hcas hnd

/-- A loop of items whose writes are sound, over records read from a store reached from
    `initial`, among writers that make fixed-field swaps, keeps the rows reached from `initial`, and
    its report counts each record once. -/
theorem observeAllAmong_reach {interfere : ℕ → List (SandboxRecord Plan ResourceConfig Route Mount) →
      List (SandboxRecord Plan ResourceConfig Route Mount)}
    (henv : ∀ n rows, Relation.ReflTransGen (FixedFieldSwap supervisor.repository.compareAndSwap) rows
      (interfere n rows))
    (item : SandboxRecord Plan ResourceConfig Route Mount →
      List (SandboxRecord Plan ResourceConfig Route Mount) → MaintenanceStep Plan Route Mount)
    (hitem : ∀ record rows, supervisor.WritesAtMost record (supervisor.Sound record) rows
      (item record rows).2)
    {read : List (SandboxRecord Plan ResourceConfig Route Mount)}
    (hread : Relation.ReflTransGen (FixedFieldSwap supervisor.repository.compareAndSwap) initial read)
    {records : List (SandboxRecord Plan ResourceConfig Route Mount)} (hrecords : ∀ r ∈ records, r ∈ read)
    (step : ℕ) {report : LifecycleMaintenanceReport}
    {rows : List (SandboxRecord Plan ResourceConfig Route Mount)}
    (hrows : Relation.ReflTransGen (FixedFieldSwap supervisor.repository.compareAndSwap) initial rows)
    (htally : report.Tallied) :
    Relation.ReflTransGen (FixedFieldSwap supervisor.repository.compareAndSwap) initial
        (observeAllAmong interfere item records step report rows).2.2 ∧
      (observeAllAmong interfere item records step report rows).2.1.examined =
        report.examined + records.length ∧
      (observeAllAmong interfere item records step report rows).2.1.Tallied := by
  induction records generalizing step report rows with
  | nil => exact ⟨hrows, rfl, htally⟩
  | cons record records ih =>
    have hwrite := (hitem record (interfere step rows)).reach_of_read hcas hnd hread
      (hrecords record List.mem_cons_self) (hrows.trans (henv step rows))
    obtain ⟨hreach, hexamined, htallied⟩ := ih (fun r hr => hrecords r (List.mem_cons_of_mem _ hr))
      (step + 1) hwrite htally.observe
    refine ⟨hreach, ?_, htallied⟩
    rw [observeAllAmong, hexamined, LifecycleMaintenanceReport.observe_examined, List.length_cons]
    omega

end Loop

/-! ## Every store the loop reads is reached from the first -/

section Among

variable {supervisor interfere} {initial : List (SandboxRecord Plan ResourceConfig Route Mount)}
  (hcas : Overwrites supervisor.repository.compareAndSwap)
  (hnd : (initial.map SandboxRecord.sandboxId).Nodup)
  (henv : ∀ n rows, Relation.ReflTransGen (FixedFieldSwap supervisor.repository.compareAndSwap) rows
    (interfere n rows))
include hcas hnd henv

variable {Day : Type} [LinearOrder Day] {rank : SandboxCursor → Lex (Day × String)} {pageSize : ℕ+}
  (hpage : ∀ rows, Relation.ReflTransGen (FixedFieldSwap supervisor.repository.compareAndSwap) initial rows →
    ∀ cursor, supervisor.repository.listReconcilable cursor pageSize rows =
      .ok (Keyset.page SandboxRecord.cursor rank (fun record => !record.isTerminal) pageSize cursor rows))
include hpage

/-- A loop with more fuel than keys past its cursor ends: it returns a report, reads only stores
    reached from `initial`, and its pages are the keyset scan of those stores, the report counting
    each of their records once. -/
theorem reconcileStartupAmong_scan {fuel : ℕ} {cursor : Option SandboxCursor} (step : ℕ)
    {report : LifecycleMaintenanceReport} {rows : List (SandboxRecord Plan ResourceConfig Route Mount)}
    (hrows : Relation.ReflTransGen (FixedFieldSwap supervisor.repository.compareAndSwap) initial rows)
    (htally : report.Tallied)
    (hfuel : ((initial.map (Keyset.key SandboxRecord.cursor rank)).filter
      (Keyset.afterKey rank cursor)).length < fuel) :
    ∃ run report', supervisor.reconcileStartupAmong interfere pageSize fuel cursor step report rows =
        some run ∧ run.result = .ok report' ∧
      (∀ s ∈ run.reads, Relation.ReflTransGen (FixedFieldSwap supervisor.repository.compareAndSwap) initial s) ∧
      (∃ p ∈ (Keyset.scan SandboxRecord.cursor rank (fun record => !record.isTerminal) pageSize
        run.reads cursor).getLast?, p.next = none) ∧
      report'.examined = report.examined + ((Keyset.scan SandboxRecord.cursor rank
        (fun record => !record.isTerminal) pageSize run.reads cursor).flatMap Keyset.Page.records).length ∧
      report'.Tallied := by
  induction fuel generalizing cursor step report rows with
  | zero => exact absurd hfuel (Nat.not_lt_zero _)
  | succ fuel ih =>
    have hread := hrows.trans (henv step rows)
    have hkeys : (interfere step rows).map (Keyset.key SandboxRecord.cursor rank) =
        initial.map (Keyset.key SandboxRecord.cursor rank) :=
      map_eq_of_reach hcas (fun _ _ => key_eq_of_fixed) hread
    have hrecords : ∀ r ∈ (Keyset.page SandboxRecord.cursor rank (fun record => !record.isTerminal)
        pageSize cursor (interfere step rows)).records, r ∈ interfere step rows := fun r hr =>
      (Keyset.mem_matching.mp (Keyset.mem_matching_of_mem_records hr)).1
    obtain ⟨hdone, hexamined, htallied⟩ :=
      observeAllAmong_reach hcas hnd henv supervisor.reconcileRecord
        (fun _ _ => reconcileRecord_sound supervisor) hread hrecords (step + 1) hread htally
    simp only [reconcileStartupAmong, hpage _ hread cursor]
    cases hnext : (Keyset.page SandboxRecord.cursor rank (fun record => !record.isTerminal) pageSize
      cursor (interfere step rows)).next with
    | none =>
      -- the last page: the scan of the one store read ends there
      refine ⟨_, _, rfl, rfl, fun s hs => List.mem_singleton.mp hs ▸ hread, ?_, ?_, htallied⟩
      · rw [Keyset.scan_of_next_none hnext]
        exact ⟨_, rfl, hnext⟩
      · rw [Keyset.scan_of_next_none hnext, hexamined]
        simp
    | some c =>
      -- the next cursor leaves fewer keys to visit, so the fuel left is enough
      have hfewer := Keyset.next_decreases hkeys hnext
      obtain ⟨run, report', hrun, hresult, hreads, hends, hexamined', htallied'⟩ :=
        @ih (some c) _ _ _ hdone htallied (by omega)
      refine ⟨{ run with reads := interfere step rows :: run.reads }, report', by dsimp only; rw [hrun]; rfl,
        hresult, List.forall_mem_cons.mpr ⟨hread, hreads⟩, ?_, ?_, htallied'⟩
      · obtain ⟨p, hp, hend⟩ := hends
        refine ⟨p, ?_, hend⟩
        rw [Keyset.scan_of_next_some hnext, List.getLast?_cons, Option.mem_def.mp hp]
        rfl
      · rw [Keyset.scan_of_next_some hnext, List.flatMap_cons, List.length_append, hexamined',
          hexamined]
        omega

variable (hid : ∀ c, (ofLex (rank c)).2 = c.sandboxId.val)
include hid

/-- From the rows `initial`, with more fuel than records, the loop among other writers does what
    `VisitsAmongWriters` says. The pages it read are those of `scan_visitsLiveOnce` over its
    reads padded with copies of `initial`, a scan that had ended before the padding. -/
theorem reconcileStartupAmong_visits {fuel : ℕ} (hfuel : initial.length < fuel) :
    supervisor.VisitsAmongWriters interfere pageSize fuel initial := by
  have hkeysLeft : ((initial.map (Keyset.key SandboxRecord.cursor rank)).filter
      (Keyset.afterKey rank none)).length < fuel := by
    simpa using hfuel
  obtain ⟨run, report, hrun, hresult, hreads, hends, hexamined, htallied⟩ :=
    reconcileStartupAmong_scan hcas hnd henv hpage 0 .refl LifecycleMaintenanceReport.empty_tallied
      hkeysLeft
  have hkeys : ∀ s ∈ run.reads ++ List.replicate (initial.length + 1) initial,
      s.map (Keyset.key SandboxRecord.cursor rank) = initial.map (Keyset.key SandboxRecord.cursor rank) := by
    intro s hs
    rcases List.mem_append.mp hs with hs | hs
    · exact map_eq_of_reach hcas (fun _ _ => key_eq_of_fixed) (hreads s hs)
    · rw [List.eq_of_mem_replicate hs]
  have hpadded : VisitsLiveOnce initial (run.reads ++ List.replicate (initial.length + 1) initial)
      pageSize (Keyset.scan SandboxRecord.cursor rank (fun record => !record.isTerminal) pageSize
        (run.reads ++ List.replicate (initial.length + 1) initial) none) :=
    scan_visitsLiveOnce hid hnd hkeys (by
      simp only [List.length_append, List.length_replicate]
      omega)
  exact ⟨run, report, _, hrun, hresult, hreads,
    reconcileStartup_eq_scan fun s hs c => hpage s (hreads s hs) c, hpadded.of_append hends,
    hexamined.trans (Nat.zero_add _), htallied⟩

end Among

end LifecycleSupervisor

/-! ## The claims of `claim_expired` are expiry swaps -/

section Claims

variable {Plan Resources Route Mount : Type} [DecidableEq Plan]

omit [DecidableEq Plan] in
/-- The memory compare-and-swap of a replacement past the generation of the record stored under
    its id, at that generation, writes it. -/
theorem MemorySandboxRepository.compareAndSwap_of_found {sandboxId : SandboxId}
    {current replacement : SandboxRecord Plan Resources Route Mount}
    {records : List (SandboxRecord Plan Resources Route Mount)}
    (hfound : findKey SandboxRecord.sandboxId sandboxId records = some current)
    (hid : replacement.sandboxId = sandboxId)
    (hgen : current.generation.get < replacement.generation.get) :
    (MemorySandboxRepository.compareAndSwap sandboxId current.generation replacement records).2 =
      replaceKey SandboxRecord.sandboxId sandboxId replacement records := by
  have hcheck : ¬(replacement.sandboxId ≠ sandboxId ∨
      replacement.generation.get ≤ current.generation.get) := by
    simp only [hid, ne_eq, not_true_eq_false, false_or, not_le]
    exact hgen
  simp only [MemorySandboxRepository.compareAndSwap, if_neg hcheck, hfound, ne_eq,
    not_true_eq_false, if_false]

/-- One write of an expiry claim: the record stored under an id, advanced by its own timeout
    action (`begin_kill`, to Killing, for `Kill`; `begin_pause`, to Pausing, for `Pause`; one
    generation on), swapped in at the generation it is stored at. -/
def ExpirySwap (cas : CompareAndSwap Plan Resources Route Mount)
    (records records' : List (SandboxRecord Plan Resources Route Mount)) : Prop :=
  ∃ sandboxId current generation replacement,
    findKey SandboxRecord.sandboxId sandboxId records = some current ∧
      SandboxRecord.advanceExpired current.lifecycle.onTimeout current = .ok (generation, replacement) ∧
      records' = (cas sandboxId current.generation replacement records).2

/-- An expiry swap writes a record with the fixed fields of the one it advanced. -/
theorem ExpirySwap.fixedFieldSwap {cas : CompareAndSwap Plan Resources Route Mount}
    {records records' : List (SandboxRecord Plan Resources Route Mount)}
    (h : ExpirySwap cas records records') : FixedFieldSwap cas records records' := by
  obtain ⟨sandboxId, current, generation, replacement, hfound, hadv, rfl⟩ := h
  exact ⟨sandboxId, current.generation, current, replacement, hfound,
    (SandboxRecord.advanceExpired_effect hadv).fixed_eq, rfl⟩

omit [DecidableEq Plan] in
/-- A candidate of the memory claim carries the timeout action of the record stored under its
    id. -/
theorem MemorySandboxRepository.claimCandidates_action {deadline : Timestamp} {limit : Nat}
    {records : List (SandboxRecord Plan Resources Route Mount)}
    (hnd : (records.map SandboxRecord.sandboxId).Nodup) :
    ∀ c ∈ MemorySandboxRepository.claimCandidates deadline limit records, ∀ record,
      findKey SandboxRecord.sandboxId c.sandboxId records = some record →
        record.lifecycle.onTimeout = c.action := by
  intro c hc record hfound
  have hsorted := (List.perm_insertionSort ClaimCandidate.Before _).mem_iff.mp
    ((List.take_sublist _ _).subset hc)
  obtain ⟨r, hr, rfl⟩ := List.mem_map.mp hsorted
  -- the record under the candidate's id is the one it was taken from
  have hstored : findKey SandboxRecord.sandboxId r.sandboxId records = some r :=
    findKey_of_mem hnd (List.mem_filter.mp hr).1
  have hrecord : record = r := Option.some.inj (hfound.symm.trans hstored)
  subst hrecord
  rfl

/-- One claim of the memory loop: the record found under the candidate's id, advanced by the
    candidate's action, keeps its id and its fixed fields, and the swap at the generation it was
    found at writes it. -/
theorem MemorySandboxRepository.claim_step {candidate : ClaimCandidate}
    {records : List (SandboxRecord Plan Resources Route Mount)}
    {record record' : SandboxRecord Plan Resources Route Mount} {generation : SandboxGeneration}
    (hfind : findKey SandboxRecord.sandboxId candidate.sandboxId records = some record)
    (hadv : SandboxRecord.advanceExpired candidate.action record = .ok (generation, record')) :
    record'.sandboxId = candidate.sandboxId ∧ record'.fixed = record.fixed ∧
      (MemorySandboxRepository.compareAndSwap candidate.sandboxId record.generation record'
        records).2 = replaceKey SandboxRecord.sandboxId candidate.sandboxId record' records := by
  have heffect := SandboxRecord.advanceExpired_effect hadv
  have hid : record'.sandboxId = candidate.sandboxId :=
    (congrArg SandboxRecord.Fixed.sandboxId heffect.fixed_eq).trans (findKey_eq_some hfind).2
  have hgen : record.generation.get < record'.generation.get := by
    rw [heffect.generation_eq, heffect.next_get]
    omega
  exact ⟨hid, heffect.fixed_eq, MemorySandboxRepository.compareAndSwap_of_found hfind hid hgen⟩

/-- Every write of the memory claim loop is an expiry swap, while each candidate carries the
    timeout action of the record stored under its id: the record found under the candidate's id,
    advanced by that action, swapped in at the generation it was found at. The candidates have
    distinct ids, so each write leaves the records of the later ones in place. -/
theorem MemorySandboxRepository.claimLoop_reach {candidates : List ClaimCandidate}
    (hnd : (candidates.map ClaimCandidate.sandboxId).Nodup)
    {records : List (SandboxRecord Plan Resources Route Mount)}
    (hactions : ∀ c ∈ candidates, ∀ record,
      findKey SandboxRecord.sandboxId c.sandboxId records = some record →
        record.lifecycle.onTimeout = c.action) :
    Relation.ReflTransGen (ExpirySwap MemorySandboxRepository.compareAndSwap) records
      (MemorySandboxRepository.claimLoop candidates records).2 := by
  induction candidates generalizing records with
  | nil => exact .refl
  | cons candidate rest ih =>
    simp only [List.map_cons, List.nodup_cons] at hnd
    cases hfind : findKey SandboxRecord.sandboxId candidate.sandboxId records with
    | none =>
      simp only [MemorySandboxRepository.claimLoop, hfind]
      exact .refl
    | some record =>
      cases hadv : SandboxRecord.advanceExpired candidate.action record with
      | error e =>
        simp only [MemorySandboxRepository.claimLoop, hfind, hadv]
        exact .refl
      | ok p =>
        obtain ⟨generation, record'⟩ := p
        obtain ⟨hid, -, hcas⟩ := MemorySandboxRepository.claim_step hfind hadv
        -- the candidate's action is the record's own
        have hown : SandboxRecord.advanceExpired record.lifecycle.onTimeout record =
            .ok (generation, record') := by
          rw [hactions candidate List.mem_cons_self record hfind]
          exact hadv
        have hswap : ExpirySwap MemorySandboxRepository.compareAndSwap records
            (replaceKey SandboxRecord.sandboxId candidate.sandboxId record' records) :=
          ⟨candidate.sandboxId, record, generation, record', hfind, hown, hcas.symm⟩
        have hrest : ∀ c ∈ rest, ∀ found, findKey SandboxRecord.sandboxId c.sandboxId
            (replaceKey SandboxRecord.sandboxId candidate.sandboxId record' records) = some found →
            found.lifecycle.onTimeout = c.action := by
          intro c hc found hfound
          have hne : c.sandboxId ≠ candidate.sandboxId := fun heq =>
            hnd.1 (heq ▸ List.mem_map_of_mem hc)
          rw [findKey_replaceKey_of_ne hid hne] at hfound
          exact hactions c (List.mem_cons_of_mem _ hc) found hfound
        simp only [MemorySandboxRepository.claimLoop, hfind, hadv]
        exact .head hswap (ih hnd.2 hrest)

/-- From any store, every write of the memory claim loop keeps the fixed fields: the record found
    under the candidate's id, advanced by the candidate's action, swapped in at the generation it
    was found at. So a reaper's claim is a writer among which `reconcile_startup` runs. -/
theorem MemorySandboxRepository.claimLoop_fixed (candidates : List ClaimCandidate)
    (records : List (SandboxRecord Plan Resources Route Mount)) :
    Relation.ReflTransGen (FixedFieldSwap MemorySandboxRepository.compareAndSwap) records
      (MemorySandboxRepository.claimLoop candidates records).2 := by
  induction candidates generalizing records with
  | nil => exact .refl
  | cons candidate rest ih =>
    cases hfind : findKey SandboxRecord.sandboxId candidate.sandboxId records with
    | none =>
      simp only [MemorySandboxRepository.claimLoop, hfind]
      exact .refl
    | some record =>
      cases hadv : SandboxRecord.advanceExpired candidate.action record with
      | error e =>
        simp only [MemorySandboxRepository.claimLoop, hfind, hadv]
        exact .refl
      | ok p =>
        obtain ⟨generation, record'⟩ := p
        obtain ⟨-, hfixed, hcas⟩ := MemorySandboxRepository.claim_step hfind hadv
        have hswap : FixedFieldSwap MemorySandboxRepository.compareAndSwap records
            (replaceKey SandboxRecord.sandboxId candidate.sandboxId record' records) :=
          ⟨candidate.sandboxId, record.generation, record, record', hfind, hfixed, hcas.symm⟩
        simp only [MemorySandboxRepository.claimLoop, hfind, hadv]
        exact .head hswap (ih _)

/-- The records a successful memory claim returned are stored as returned. -/
theorem MemorySandboxRepository.claimExpired_mem {deadline : Timestamp} {limit : Nat}
    {records claimed : List (SandboxRecord Plan Resources Route Mount)}
    (hnd : (records.map SandboxRecord.sandboxId).Nodup)
    (h : (MemorySandboxRepository.claimExpired deadline limit records).1 = .ok claimed) :
    ∀ r ∈ claimed, r ∈ (MemorySandboxRepository.claimExpired deadline limit records).2 := by
  intro r hr
  obtain ⟨candidate, -, found, generation, -, -, hleft⟩ := exists_of_mem_forall₂
    (MemorySandboxRepository.claimLoop_ok (MemorySandboxRepository.claimCandidates_nodup hnd) h) hr
  exact (findKey_eq_some hleft).1

omit [DecidableEq Plan] in
/-- The SQLite compare-and-swap of a valid replacement past the expected generation, whose
    guarded `UPDATE` matches, writes what the `UPDATE` wrote. -/
theorem SqliteSandboxRepository.compareAndSwap_of_update {validateRoute : Route → Except String Unit}
    {validateMounts : List Mount → Except String Unit} {sandboxId : SandboxId}
    {expected : SandboxGeneration} {replacement : SandboxRecord Plan Resources Route Mount}
    {rows rows' : List (SandboxRecord Plan Resources Route Mount)}
    (hid : replacement.sandboxId = sandboxId) (hgen : expected.get < replacement.generation.get)
    (hvalid : SqliteSandboxRepository.validateRecord validateRoute validateMounts replacement = .ok ())
    (hrange : SqliteSandboxRepository.i64TryFrom expected.get = some expected.get)
    (hupdate : SqliteSandboxRepository.updateAtGeneration sandboxId expected.get replacement rows =
      some rows') :
    (SqliteSandboxRepository.compareAndSwap validateRoute validateMounts sandboxId expected
      replacement rows).2 = rows' := by
  have hcheck : SqliteSandboxRepository.checkReplacement validateRoute validateMounts sandboxId
      expected replacement = .ok expected.get := by
    simp [SqliteSandboxRepository.checkReplacement, hid, hvalid, Nat.not_le.mpr hgen, hrange]
  simp only [SqliteSandboxRepository.compareAndSwap, hcheck, hupdate]


/-- Every write of the SQLite claim loop is an expiry swap, while each selected row is the row
    stored under its id: the selected row, advanced by its own timeout action, updated at the
    generation it was selected with. The selected rows have distinct ids, so each update leaves
    the rows of the later ones in place. -/
theorem SqliteSandboxRepository.claimLoop_reach {validateRoute : Route → Except String Unit}
    {validateMounts : List Mount → Except String Unit}
    {selected : List (SandboxRecord Plan Resources Route Mount)}
    (hnd : (selected.map SandboxRecord.sandboxId).Nodup)
    {rows claimed rows' : List (SandboxRecord Plan Resources Route Mount)}
    (hstored : ∀ s ∈ selected, findKey SandboxRecord.sandboxId s.sandboxId rows = some s)
    (h : SqliteSandboxRepository.claimLoop validateRoute validateMounts selected rows =
      .ok (claimed, rows')) :
    Relation.ReflTransGen
      (ExpirySwap (SqliteSandboxRepository.compareAndSwap validateRoute validateMounts)) rows rows' := by
  induction selected generalizing rows claimed with
  | nil =>
    simp only [SqliteSandboxRepository.claimLoop, Except.ok.injEq, Prod.mk.injEq] at h
    obtain ⟨-, rfl⟩ := h
    exact .refl
  | cons row rest ih =>
    simp only [List.map_cons, List.nodup_cons] at hnd
    obtain ⟨generation, record, rows₁, claimed', hadv, hvalid, hrange, hupdate, hrest, -⟩ :=
      SqliteSandboxRepository.claimLoop_cons_eq_ok h
    have heffect := SandboxRecord.advanceExpired_effect hadv
    have hid : record.sandboxId = row.sandboxId := congrArg SandboxRecord.Fixed.sandboxId heffect.fixed_eq
    have hgen : row.generation.get < record.generation.get := by
      rw [heffect.generation_eq, heffect.next_get]
      omega
    have hfound : findKey SandboxRecord.sandboxId record.sandboxId rows = some row := by
      rw [hid]
      exact hstored row List.mem_cons_self
    have hswap : ExpirySwap (SqliteSandboxRepository.compareAndSwap validateRoute validateMounts)
        rows rows₁ :=
      ⟨record.sandboxId, row, generation, record, hfound, hadv,
        (SqliteSandboxRepository.compareAndSwap_of_update rfl hgen hvalid hrange hupdate).symm⟩
    have hstored' : ∀ s ∈ rest, findKey SandboxRecord.sandboxId s.sandboxId rows₁ = some s := by
      intro s hs
      obtain ⟨-, rfl⟩ := SqliteSandboxRepository.updateAtGeneration_eq_some hupdate
      have hne : s.sandboxId ≠ record.sandboxId := fun heq =>
        hnd.1 (by rw [← hid, ← heq]; exact List.mem_map_of_mem hs)
      rw [findKey_replaceKey_of_ne rfl hne]
      exact hstored s (List.mem_cons_of_mem _ hs)
    exact .head hswap (ih hnd.2 hstored' hrest)

/-- A SQLite claim commits only expiry swaps. -/
theorem SqliteSandboxRepository.claimExpired_reach {validateRoute : Route → Except String Unit}
    {validateMounts : List Mount → Except String Unit} {deadline : Timestamp} {limit : Nat}
    {rows : List (SandboxRecord Plan Resources Route Mount)}
    (hnd : (rows.map SandboxRecord.sandboxId).Nodup) :
    Relation.ReflTransGen
      (ExpirySwap (SqliteSandboxRepository.compareAndSwap validateRoute validateMounts)) rows
      (SqliteSandboxRepository.claimExpired validateRoute validateMounts deadline limit rows).2 := by
  obtain ⟨hselected, hselectedNd⟩ :
      (∀ s ∈ SqliteSandboxRepository.selectExpired deadline limit rows, s ∈ rows) ∧
        ((SqliteSandboxRepository.selectExpired deadline limit rows).map SandboxRecord.sandboxId).Nodup :=
    SqliteSandboxRepository.selectExpired_rows hnd
  cases hbody : SqliteSandboxRepository.claimLoop validateRoute validateMounts
      (SqliteSandboxRepository.selectExpired deadline limit rows) rows with
  | error e =>
    -- the transaction rolled back
    rw [SqliteSandboxRepository.claimExpired, atomically_of_body_error hbody]
  | ok out =>
    obtain ⟨claimed, rows'⟩ := out
    rw [SqliteSandboxRepository.claimExpired, atomically_of_body_ok hbody]
    exact SqliteSandboxRepository.claimLoop_reach hselectedNd
      (fun s hs => findKey_of_mem hnd (hselected s hs)) hbody

/-- The records a successful SQLite claim returned are stored as returned. -/
theorem SqliteSandboxRepository.claimExpired_mem {validateRoute : Route → Except String Unit}
    {validateMounts : List Mount → Except String Unit} {deadline : Timestamp} {limit : Nat}
    {rows claimed : List (SandboxRecord Plan Resources Route Mount)}
    (hnd : (rows.map SandboxRecord.sandboxId).Nodup)
    (h : (SqliteSandboxRepository.claimExpired validateRoute validateMounts deadline limit rows).1 =
      .ok claimed) :
    ∀ r ∈ claimed,
      r ∈ (SqliteSandboxRepository.claimExpired validateRoute validateMounts deadline limit rows).2 := by
  intro r hr
  obtain ⟨-, hall⟩ := SqliteSandboxRepository.claimLoop_eq_ok
    (SqliteSandboxRepository.selectExpired_rows hnd).2 (atomically_ok h)
  obtain ⟨row, -, generation, -, hstored⟩ := exists_of_mem_forall₂ hall hr
  exact (findKey_eq_some hstored).1

end Claims

/-! ## The loop over the two repositories -/

section Repositories

variable {Plan Route Mount : Type} [DecidableEq Plan] {pageSize : ℕ+}
  {interfere : ℕ → List (SandboxRecord Plan ResourceConfig Route Mount) →
    List (SandboxRecord Plan ResourceConfig Route Mount)}
  {initial : List (SandboxRecord Plan ResourceConfig Route Mount)} {fuel : ℕ}
  {supervisor : LifecycleSupervisor Plan Route Mount}

/-- `reconcileStartupAmong_visits` over the memory repository, in its scan order. -/
theorem MemorySandboxRepository.startup_visits
    (hrepo : supervisor.repository = MemorySandboxRepository.repository)
    (hnd : (initial.map SandboxRecord.sandboxId).Nodup)
    (henv : ∀ n rows, Relation.ReflTransGen (FixedFieldSwap MemorySandboxRepository.compareAndSwap) rows
      (interfere n rows))
    (hfuel : initial.length < fuel) :
    supervisor.VisitsAmongWriters interfere pageSize fuel initial := by
  obtain ⟨repository, executions, initializeRuntimeEnvd, envdMode, clock⟩ := supervisor
  dsimp only at hrepo
  subst hrepo
  exact LifecycleSupervisor.reconcileStartupAmong_visits memory_overwrites hnd henv
    (fun rows _ c => congrArg Except.ok (MemorySandboxRepository.listReconcilable_eq_page c pageSize rows))
    (fun _ => rfl) hfuel

/-- `reconcileStartupAmong_visits` over the SQLite repository, in its scan order: every store
    its swaps reach from valid rows is valid, so each page deserializes. -/
theorem SqliteSandboxRepository.startup_visits {validateRoute : Route → Except String Unit}
    {validateMounts : List Mount → Except String Unit} {Day : Type} [LinearOrder Day]
    {julianday : Timestamp → Day}
    (hrepo : supervisor.repository = SqliteSandboxRepository.repository validateRoute validateMounts julianday)
    (hnd : (initial.map SandboxRecord.sandboxId).Nodup)
    (hvalid : ∀ r ∈ initial, SqliteSandboxRepository.validateRecord validateRoute validateMounts r = .ok ())
    (henv : ∀ n rows, Relation.ReflTransGen
      (FixedFieldSwap (SqliteSandboxRepository.compareAndSwap validateRoute validateMounts)) rows
      (interfere n rows))
    (hfuel : initial.length < fuel) :
    supervisor.VisitsAmongWriters interfere pageSize fuel initial := by
  obtain ⟨repository, executions, initializeRuntimeEnvd, envdMode, clock⟩ := supervisor
  dsimp only at hrepo
  subst hrepo
  exact LifecycleSupervisor.reconcileStartupAmong_visits (sqlite_overwrites validateRoute validateMounts)
    hnd henv
    (fun rows hrows c => SqliteSandboxRepository.listReconcilable_eq_ok c pageSize (valid_of_reach hrows hvalid))
    (fun _ => rfl) hfuel

end Repositories

/-- `reconcile_startup` among other writers, over the memory and the SQLite repository: from rows
    with distinct ids (valid ones for SQLite), with other writers that only make fixed-field swaps
    and more fuel than records, the loop returns a report, its pages visit every live record once,
    and the report examined each record of them once, each completed, deferred or failed. -/
theorem startup_among_writers_visits_live_once {Plan Route Mount : Type} [DecidableEq Plan]
    (pageSize : ℕ+)
    (interfere : ℕ → List (SandboxRecord Plan ResourceConfig Route Mount) →
      List (SandboxRecord Plan ResourceConfig Route Mount))
    (initial : List (SandboxRecord Plan ResourceConfig Route Mount))
    (hnd : (initial.map SandboxRecord.sandboxId).Nodup) (fuel : ℕ) (hfuel : initial.length < fuel) :
    (∀ supervisor : LifecycleSupervisor Plan Route Mount,
      supervisor.repository = MemorySandboxRepository.repository →
      (∀ n rows, Relation.ReflTransGen (FixedFieldSwap MemorySandboxRepository.compareAndSwap) rows
        (interfere n rows)) →
      supervisor.VisitsAmongWriters interfere pageSize fuel initial) ∧
    (∀ (validateRoute : Route → Except String Unit) (validateMounts : List Mount → Except String Unit)
      (Day : Type) [LinearOrder Day] (julianday : Timestamp → Day)
      (supervisor : LifecycleSupervisor Plan Route Mount),
      supervisor.repository = SqliteSandboxRepository.repository validateRoute validateMounts julianday →
      (∀ r ∈ initial, SqliteSandboxRepository.validateRecord validateRoute validateMounts r = .ok ()) →
      (∀ n rows, Relation.ReflTransGen
        (FixedFieldSwap (SqliteSandboxRepository.compareAndSwap validateRoute validateMounts)) rows
        (interfere n rows)) →
      supervisor.VisitsAmongWriters interfere pageSize fuel initial) := by
  exact ⟨fun supervisor hrepo henv => MemorySandboxRepository.startup_visits hrepo hnd henv hfuel,
    fun validateRoute validateMounts Day _ julianday supervisor hrepo hvalid henv =>
      SqliteSandboxRepository.startup_visits hrepo hnd hvalid henv hfuel⟩

/-- A second reaper, claiming what expired by 100 before each step of the supervisor. -/
def reapAt100 (_ : ℕ) (rows : List (SandboxRecord Unit ResourceConfig Unit Unit)) :
    List (SandboxRecord Unit ResourceConfig Unit Unit) :=
  (MemorySandboxRepository.claimExpired 100 1 rows).2

/-- The supervisor of `stopped_items_fenced` reconciling `sbx-r` while the second reaper claims
    it. -/
theorem reaped_startup_visits :
    ([reconciledRecord].map SandboxRecord.sandboxId).Nodup ∧ [reconciledRecord].length < 2 ∧
      stoppedSupervisor.VisitsAmongWriters reapAt100 1 2 [reconciledRecord] :=
  ⟨by decide, Nat.one_lt_two,
    (startup_among_writers_visits_live_once 1 reapAt100 [reconciledRecord] (by decide) 2
      Nat.one_lt_two).1 stoppedSupervisor rfl fun _ rows =>
        MemorySandboxRepository.claimLoop_fixed _ rows⟩

/-- The reaper's first claim writes: `sbx-r`, expired at 100, is moved to Killing for its kill. -/
example : (reapAt100 0 [reconciledRecord]).map (fun record => (record.state, record.generation.get)) =
    [(.killing, 8)] := by
  decide

/-! ## `reap_expired` -/

namespace LifecycleSupervisor

variable {Plan Route Mount : Type} [DecidableEq Plan] (supervisor : LifecycleSupervisor Plan Route Mount)

/-- What `reap_expired` does from the rows `rows`: the claim is a run of expiry swaps, each
    advancing a claimed record by its own timeout action; every finishing write after it is a
    fixed-field swap, so no row's fixed fields change; and a report counts each claimed record
    once, as completed, deferred or failed. -/
def ReapsBySwaps (limit : ℕ+) (rows : List (SandboxRecord Plan ResourceConfig Route Mount)) : Prop :=
  Relation.ReflTransGen (ExpirySwap supervisor.repository.compareAndSwap) rows
      (supervisor.repository.claimExpired supervisor.clock.now limit rows).2 ∧
    Relation.ReflTransGen (FixedFieldSwap supervisor.repository.compareAndSwap)
      (supervisor.repository.claimExpired supervisor.clock.now limit rows).2
      (supervisor.reapExpired limit rows).2 ∧
    (supervisor.reapExpired limit rows).2.map SandboxRecord.fixed = rows.map SandboxRecord.fixed ∧
    ∀ report, (supervisor.reapExpired limit rows).1 = .ok report →
      ∃ claimed, (supervisor.repository.claimExpired supervisor.clock.now limit rows).1 = .ok claimed ∧
        report.examined = claimed.length ∧ report.Tallied

variable {supervisor} {limit : ℕ+} {rows : List (SandboxRecord Plan ResourceConfig Route Mount)}

theorem reapExpired_of_claim_error {error : RepositoryError}
    (h : (supervisor.repository.claimExpired supervisor.clock.now limit rows).1 = .error error) :
    supervisor.reapExpired limit rows =
      (.error (.repository error), (supervisor.repository.claimExpired supervisor.clock.now limit rows).2) := by
  simp only [reapExpired, h]

theorem reapExpired_of_claim_ok {claimed : List (SandboxRecord Plan ResourceConfig Route Mount)}
    (h : (supervisor.repository.claimExpired supervisor.clock.now limit rows).1 = .ok claimed) :
    supervisor.reapExpired limit rows =
      let observed := observeAll supervisor.finishClaim claimed .empty
        (supervisor.repository.claimExpired supervisor.clock.now limit rows).2
      (.ok observed.1, observed.2) := by
  simp only [reapExpired, h]

/-- The finishing loop of `reap_expired`, from a store with distinct ids that holds every
    claimed record, with no other writer: its writes are fixed-field swaps, and its report counts
    each claimed record once. -/
theorem finishClaims_reach (hcas : Overwrites supervisor.repository.compareAndSwap)
    {store claimed : List (SandboxRecord Plan ResourceConfig Route Mount)}
    (hnd : (store.map SandboxRecord.sandboxId).Nodup) (hstored : ∀ r ∈ claimed, r ∈ store) :
    Relation.ReflTransGen (FixedFieldSwap supervisor.repository.compareAndSwap) store
        (observeAll supervisor.finishClaim claimed .empty store).2 ∧
      (observeAll supervisor.finishClaim claimed .empty store).1.examined = claimed.length ∧
      (observeAll supervisor.finishClaim claimed .empty store).1.Tallied := by
  have h := observeAllAmong_reach hcas hnd (fun _ _ => .refl) supervisor.finishClaim
    (fun _ _ => finishClaim_sound supervisor) .refl hstored 0 .refl
    LifecycleMaintenanceReport.empty_tallied
  rw [observeAllAmong_id] at h
  exact ⟨h.1, h.2.1.trans (Nat.zero_add _), h.2.2⟩

/-- A claim of expiry swaps that stores what it returns, followed by the finishing of each
    claimed record, whose writes are fixed-field swaps; its report counts the claimed records. -/
theorem reapExpired_reaps (hcas : Overwrites supervisor.repository.compareAndSwap)
    (hnd : (rows.map SandboxRecord.sandboxId).Nodup)
    (hclaim : Relation.ReflTransGen (ExpirySwap supervisor.repository.compareAndSwap) rows
      (supervisor.repository.claimExpired supervisor.clock.now limit rows).2)
    (hstored : ∀ claimed, (supervisor.repository.claimExpired supervisor.clock.now limit rows).1 =
      .ok claimed → ∀ r ∈ claimed, r ∈ (supervisor.repository.claimExpired supervisor.clock.now limit rows).2) :
    supervisor.ReapsBySwaps limit rows := by
  -- the claim keeps the fixed fields, so the claimed store still has distinct ids
  have hclaimFixed : Relation.ReflTransGen (FixedFieldSwap supervisor.repository.compareAndSwap) rows
      (supervisor.repository.claimExpired supervisor.clock.now limit rows).2 :=
    Relation.ReflTransGen.mono (fun _ _ h => ExpirySwap.fixedFieldSwap h) _ _ hclaim
  have hndClaim : ((supervisor.repository.claimExpired supervisor.clock.now limit rows).2.map
      SandboxRecord.sandboxId).Nodup :=
    (map_eq_of_reach hcas (fun _ _ h => congrArg SandboxRecord.Fixed.sandboxId h) hclaimFixed) ▸ hnd
  have hfinish : Relation.ReflTransGen (FixedFieldSwap supervisor.repository.compareAndSwap)
      (supervisor.repository.claimExpired supervisor.clock.now limit rows).2
      (supervisor.reapExpired limit rows).2 := by
    cases hok : (supervisor.repository.claimExpired supervisor.clock.now limit rows).1 with
    | error error =>
      rw [reapExpired_of_claim_error hok]
    | ok claimed =>
      rw [reapExpired_of_claim_ok hok]
      exact (finishClaims_reach hcas hndClaim (hstored claimed hok)).1
  refine ⟨hclaim, hfinish, map_eq_of_reach hcas (fun _ _ h => h) (hclaimFixed.trans hfinish),
    fun report hreport => ?_⟩
  cases hok : (supervisor.repository.claimExpired supervisor.clock.now limit rows).1 with
  | error error =>
    rw [reapExpired_of_claim_error hok] at hreport
    cases hreport
  | ok claimed =>
    simp only [reapExpired_of_claim_ok hok, Except.ok.injEq] at hreport
    subst hreport
    exact ⟨claimed, rfl, (finishClaims_reach hcas hndClaim (hstored claimed hok)).2⟩

end LifecycleSupervisor

/-- `reap_expired` over the memory and the SQLite repository, from rows with distinct ids: the
    claim advances each claimed record by its own timeout action, one generation on, and every
    finishing write keeps the fixed fields, so the pass changes no record's fixed fields; a
    returned report counts each claimed record once, as completed, deferred or failed. -/
theorem reap_expired_claims_by_swaps {Plan Route Mount : Type} [DecidableEq Plan] (limit : ℕ+)
    (rows : List (SandboxRecord Plan ResourceConfig Route Mount))
    (hnd : (rows.map SandboxRecord.sandboxId).Nodup) :
    (∀ supervisor : LifecycleSupervisor Plan Route Mount,
      supervisor.repository = MemorySandboxRepository.repository →
      supervisor.ReapsBySwaps limit rows) ∧
    (∀ (validateRoute : Route → Except String Unit) (validateMounts : List Mount → Except String Unit)
      (Day : Type) [LinearOrder Day] (julianday : Timestamp → Day)
      (supervisor : LifecycleSupervisor Plan Route Mount),
      supervisor.repository = SqliteSandboxRepository.repository validateRoute validateMounts julianday →
      supervisor.ReapsBySwaps limit rows) := by
  constructor
  · rintro ⟨repository, executions, initializeRuntimeEnvd, envdMode, clock⟩ rfl
    exact LifecycleSupervisor.reapExpired_reaps memory_overwrites hnd
      (MemorySandboxRepository.claimLoop_reach (MemorySandboxRepository.claimCandidates_nodup hnd)
        (MemorySandboxRepository.claimCandidates_action hnd))
      (fun _ h => MemorySandboxRepository.claimExpired_mem hnd h)
  · rintro validateRoute validateMounts Day _ julianday
      ⟨repository, executions, initializeRuntimeEnvd, envdMode, clock⟩ rfl
    exact LifecycleSupervisor.reapExpired_reaps (sqlite_overwrites validateRoute validateMounts) hnd
      (SqliteSandboxRepository.claimExpired_reach hnd)
      (fun _ h => SqliteSandboxRepository.claimExpired_mem hnd h)

/-- The supervisor of `stopped_items_fenced`, reaping its one record. -/
theorem stopped_reap_by_swaps :
    ([reconciledRecord].map SandboxRecord.sandboxId).Nodup ∧
      stoppedSupervisor.ReapsBySwaps 1 [reconciledRecord] :=
  ⟨List.nodup_singleton _,
    (reap_expired_claims_by_swaps 1 [reconciledRecord] (List.nodup_singleton _)).1 stoppedSupervisor rfl⟩

/-- With `sbx-r` expired at 25, the pass at 30 claims it for its kill and finishes it killed,
    two generations on. -/
example :
    (stoppedSupervisor.reapExpired 1 [{ reconciledRecord with expiresAt := 25 }]).1.toOption =
        some ⟨1, 1, 0, []⟩ ∧
      (stoppedSupervisor.reapExpired 1 [{ reconciledRecord with expiresAt := 25 }]).2.map
        (fun record => (record.state, record.generation.get)) = [(.killed, 9)] := by
  decide

end A3sBox.Compat
