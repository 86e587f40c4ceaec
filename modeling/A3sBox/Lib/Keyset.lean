import Mathlib

/-
  Keyset pagination: a scan that reads a store page by page, each page the next `limit`
  live records past a cursor in the order of a key, and the cursor of the next page that
  of the page's last record.

  Model. A record has a cursor (`cursorOf`) and a cursor a rank in a linear order
  (`rank`); a record's `key` is the rank of its cursor. `page limit cursor store` is one
  call: the live records past the cursor, sorted by key, cut to `limit`, with a next
  cursor only when more remained. `scan` makes the calls on `stores[0], stores[1], …`,
  the store as each call finds it, continuing from each page's next cursor until a page
  has none. Between calls the stores may change in anything but their keys.

  Proved: a page has at most `limit` records, and has no next cursor exactly when no
  live record past the cursor lies above the whole page (`page_next_eq_none_iff`). The
  cursors of a scan rise: its keys are strictly increasing (`scan_sorted`), and over
  stores with one key list it ends within one read more than there are keys past the
  first cursor (`scan_ends`, `scan_length_le`). Every record of a page is live in the
  store it was read from (`scan_records_live`), and a key that is live in every store
  read is returned (`scan_complete`).
-/

namespace A3sBox.Lib.Keyset

/-- One page of a scan: its records, and the cursor to continue from. -/
structure Page (α γ : Type) where
  records : List α
  next : Option γ

variable {α γ κ : Type} [LinearOrder κ] (cursorOf : α → γ) (rank : γ → κ) (live : α → Bool)

/-- A record's place in the scan order: the rank of its cursor. -/
def key (r : α) : κ := rank (cursorOf r)

/-- The keys a cursor has not passed; with no cursor, every key. -/
def afterKey (cursor : Option γ) (k : κ) : Bool := cursor.all fun c => decide (rank c < k)

/-- The scan order on records. -/
def KeyLe (a b : α) : Prop := key cursorOf rank a ≤ key cursorOf rank b

instance : DecidableRel (KeyLe cursorOf rank) := fun a b =>
  inferInstanceAs (Decidable (key cursorOf rank a ≤ key cursorOf rank b))

instance : Std.Total (KeyLe cursorOf rank) :=
  ⟨fun a b => le_total (key cursorOf rank a) (key cursorOf rank b)⟩

instance : IsTrans α (KeyLe cursorOf rank) := ⟨fun _ _ _ hab hbc => le_trans hab hbc⟩

/-- The live records past the cursor, in key order. -/
def matching (cursor : Option γ) (store : List α) : List α :=
  (store.filter fun r => live r && afterKey rank cursor (key cursorOf rank r)).insertionSort
    (KeyLe cursorOf rank)

/-- One call: the first `limit` matching records, and the last one's cursor when more
    remained. -/
def page (limit : Nat) (cursor : Option γ) (store : List α) : Page α γ :=
  let records := (matching cursorOf rank live cursor store).take limit
  ⟨records, if limit < (matching cursorOf rank live cursor store).length then
    records.getLast?.map cursorOf else none⟩

/-- The pages read from the stores in turn, from `cursor`, until a page has no next
    cursor or the stores run out. -/
def scan (limit : Nat) : List (List α) → Option γ → List (Page α γ)
  | [], _ => []
  | store :: stores, cursor =>
    page cursorOf rank live limit cursor store ::
      match (page cursorOf rank live limit cursor store).next with
      | none => []
      | some next => scan limit stores (some next)

variable {cursorOf rank live}

/-! ## Cursors -/

@[simp] theorem afterKey_none (k : κ) : afterKey rank none k = true := rfl

@[simp] theorem afterKey_some (c : γ) (k : κ) : afterKey rank (some c) k = decide (rank c < k) :=
  rfl

@[simp] theorem filter_afterKey_none (keys : List κ) : keys.filter (afterKey rank (none : Option γ)) = keys :=
  List.filter_eq_self.mpr fun _ _ => rfl

/-- A key above a cursor's rank is past every cursor that rank is past. -/
theorem afterKey_trans {cursor : Option γ} {c : γ} {k : κ}
    (hc : afterKey rank cursor (rank c) = true) (hk : rank c < k) :
    afterKey rank cursor k = true := by
  cases cursor with
  | none => rfl
  | some c₀ =>
    simp only [afterKey_some, decide_eq_true_eq] at hc ⊢
    exact lt_trans hc hk

/-! ## One page -/

section Page

variable {limit : Nat} {cursor : Option γ} {store : List α}

theorem mem_matching {r : α} :
    r ∈ matching cursorOf rank live cursor store ↔
      r ∈ store ∧ live r = true ∧ afterKey rank cursor (key cursorOf rank r) = true := by
  rw [matching, (List.perm_insertionSort _ _).mem_iff, List.mem_filter, Bool.and_eq_true]

/-- With distinct keys in the store, the matching records are strictly increasing. -/
theorem matching_sorted (hnd : (store.map (key cursorOf rank)).Nodup) :
    (matching cursorOf rank live cursor store).Pairwise
      fun a b => key cursorOf rank a < key cursorOf rank b := by
  have hperm := List.perm_insertionSort (KeyLe cursorOf rank)
    (store.filter fun r => live r && afterKey rank cursor (key cursorOf rank r))
  have hle : (matching cursorOf rank live cursor store).Pairwise (KeyLe cursorOf rank) :=
    List.pairwise_insertionSort _ _
  have hne : ((matching cursorOf rank live cursor store).map (key cursorOf rank)).Nodup :=
    (hperm.map _).nodup_iff.mpr (hnd.sublist (List.filter_sublist.map _))
  exact (hle.and (List.pairwise_map.mp hne)).imp fun h => lt_of_le_of_ne h.1 h.2

@[simp] theorem page_records :
    (page cursorOf rank live limit cursor store).records =
      (matching cursorOf rank live cursor store).take limit := rfl

theorem length_records_le : (page cursorOf rank live limit cursor store).records.length ≤ limit :=
  List.length_take_le _ _

theorem mem_matching_of_mem_records {r : α} (hr : r ∈ (page cursorOf rank live limit cursor store).records) :
    r ∈ matching cursorOf rank live cursor store :=
  List.mem_of_mem_take hr

/-- The records a page takes lie below those it leaves. -/
theorem key_lt_of_mem_drop (hnd : (store.map (key cursorOf rank)).Nodup) {q b : α}
    (hq : q ∈ (page cursorOf rank live limit cursor store).records)
    (hb : b ∈ (matching cursorOf rank live cursor store).drop limit) :
    key cursorOf rank q < key cursorOf rank b := by
  have hsorted : (matching cursorOf rank live cursor store).Pairwise
      fun a b => key cursorOf rank a < key cursorOf rank b := matching_sorted hnd
  rw [← List.take_append_drop limit (matching cursorOf rank live cursor store),
    List.pairwise_append] at hsorted
  exact hsorted.2.2 q hq b hb

/-- A next cursor is that of a record of the page at or above all the others. -/
theorem next_eq_some {c : γ} (h : (page cursorOf rank live limit cursor store).next = some c) :
    ∃ r ∈ (page cursorOf rank live limit cursor store).records, cursorOf r = c ∧
      ∀ q ∈ (page cursorOf rank live limit cursor store).records,
        key cursorOf rank q ≤ key cursorOf rank r := by
  simp only [page] at h
  split at h
  · obtain ⟨r, hlast, rfl⟩ := Option.map_eq_some_iff.mp h
    obtain ⟨init, hinit⟩ := List.getLast?_eq_some_iff.mp hlast
    have hsorted : ((matching cursorOf rank live cursor store).take limit).Pairwise
        (KeyLe cursorOf rank) :=
      (List.pairwise_insertionSort _ _).sublist (List.take_sublist _ _)
    rw [hinit, List.pairwise_append] at hsorted
    refine ⟨r, by rw [page_records, hinit]; simp, rfl, fun q hq => ?_⟩
    rw [page_records, hinit, List.mem_append, List.mem_singleton] at hq
    rcases hq with hq | rfl
    · exact hsorted.2.2 q hq r List.mem_cons_self
    · exact le_refl _
  · cases h

/-- A page that took fewer records than matched has a next cursor. -/
theorem next_isSome (hlimit : 0 < limit)
    (hmore : limit < (matching cursorOf rank live cursor store).length) :
    ∃ r ∈ (page cursorOf rank live limit cursor store).records,
      (page cursorOf rank live limit cursor store).next = some (cursorOf r) := by
  have hne : (matching cursorOf rank live cursor store).take limit ≠ [] := by
    rw [← List.length_pos_iff, List.length_take]
    omega
  refine ⟨_, List.getLast_mem hne, ?_⟩
  simp only [page, if_pos hmore, List.getLast?_eq_some_getLast hne, Option.map_some]

/-- A matching record is on the page, or past its next cursor. -/
theorem mem_records_or_next (hlimit : 0 < limit) (hnd : (store.map (key cursorOf rank)).Nodup)
    {r : α} (hr : r ∈ matching cursorOf rank live cursor store) :
    r ∈ (page cursorOf rank live limit cursor store).records ∨
      ∃ c, (page cursorOf rank live limit cursor store).next = some c ∧
        rank c < key cursorOf rank r := by
  rw [← List.take_append_drop limit (matching cursorOf rank live cursor store),
    List.mem_append] at hr
  rcases hr with hr | hr
  · exact .inl hr
  · have hmore : limit < (matching cursorOf rank live cursor store).length := by
      have hpos := List.length_pos_of_mem hr
      rw [List.length_drop] at hpos
      omega
    obtain ⟨last, hlast, hnext⟩ := next_isSome hlimit hmore
    exact .inr ⟨cursorOf last, hnext, key_lt_of_mem_drop hnd hlast hr⟩

/-- A page has no next cursor exactly when no live record past the cursor lies above
    all of its records. -/
theorem page_next_eq_none_iff (hlimit : 0 < limit) (hnd : (store.map (key cursorOf rank)).Nodup) :
    (page cursorOf rank live limit cursor store).next = none ↔
      ¬∃ r ∈ store, live r = true ∧ afterKey rank cursor (key cursorOf rank r) = true ∧
        ∀ q ∈ (page cursorOf rank live limit cursor store).records,
          key cursorOf rank q < key cursorOf rank r := by
  constructor
  · rintro hnone ⟨r, hr, hlive, hafter, habove⟩
    have hmatch : r ∈ matching cursorOf rank live cursor store := mem_matching.mpr ⟨hr, hlive, hafter⟩
    -- the page took every matching record, `r` among them
    rcases mem_records_or_next hlimit hnd hmatch with hpage | ⟨c, hsome, -⟩
    · exact lt_irrefl _ (habove r hpage)
    · rw [hnone] at hsome
      cases hsome
  · intro hnone
    simp only [page]
    rw [if_neg]
    intro hmore
    -- the first record left off the page lies above all of it
    have hrest : (matching cursorOf rank live cursor store)[limit] ∈
        (matching cursorOf rank live cursor store).drop limit := by
      have hpos : 0 < ((matching cursorOf rank live cursor store).drop limit).length := by
        rw [List.length_drop]
        omega
      have h0 := List.getElem_mem hpos
      rw [List.getElem_drop] at h0
      simpa using h0
    obtain ⟨hr, hlive, hafter⟩ := mem_matching.mp (List.getElem_mem hmore)
    exact hnone ⟨_, hr, hlive, hafter, fun q hq => key_lt_of_mem_drop hnd hq hrest⟩

end Page

/-! ## A scan -/

section Scan

variable {limit : Nat}

theorem scan_of_next_none {store : List α} {stores : List (List α)} {cursor : Option γ}
    (h : (page cursorOf rank live limit cursor store).next = none) :
    scan cursorOf rank live limit (store :: stores) cursor =
      [page cursorOf rank live limit cursor store] := by
  rw [scan, h]

theorem scan_of_next_some {store : List α} {stores : List (List α)} {cursor : Option γ} {c : γ}
    (h : (page cursorOf rank live limit cursor store).next = some c) :
    scan cursorOf rank live limit (store :: stores) cursor =
      page cursorOf rank live limit cursor store :: scan cursorOf rank live limit stores (some c) := by
  rw [scan, h]

theorem scan_records_le {stores : List (List α)} {cursor : Option γ} :
    ∀ p ∈ scan cursorOf rank live limit stores cursor, p.records.length ≤ limit := by
  induction stores generalizing cursor with
  | nil => simp [scan]
  | cons store stores ih =>
    cases hnext : (page cursorOf rank live limit cursor store).next with
    | none =>
      rw [scan_of_next_none hnext]
      simp
    | some c =>
      rw [scan_of_next_some hnext]
      rintro p (_ | ⟨_, hp⟩)
      · exact length_records_le
      · exact ih p hp

/-- Each page holds records live in the store it was read from. -/
theorem scan_records_live {stores : List (List α)} {cursor : Option γ} :
    ∀ ps ∈ (scan cursorOf rank live limit stores cursor).zip stores, ∀ r ∈ ps.1.records,
      r ∈ ps.2 ∧ live r = true := by
  induction stores generalizing cursor with
  | nil => simp [scan]
  | cons store stores ih =>
    have hfirst : ∀ r ∈ (page cursorOf rank live limit cursor store).records,
        r ∈ store ∧ live r = true := fun r hr =>
      (mem_matching.mp (mem_matching_of_mem_records hr)).imp_right And.left
    cases hnext : (page cursorOf rank live limit cursor store).next with
    | none =>
      rw [scan_of_next_none hnext]
      simpa using hfirst
    | some c =>
      rw [scan_of_next_some hnext, List.zip_cons_cons]
      rintro ps (_ | ⟨_, hps⟩)
      · exact hfirst
      · exact ih ps hps

/-- Over stores with one key list, every record of a scan has one of those keys. -/
theorem scan_key_mem {stores : List (List α)} {keys : List κ} {cursor : Option γ}
    (hkeys : ∀ s ∈ stores, s.map (key cursorOf rank) = keys) :
    ∀ p ∈ scan cursorOf rank live limit stores cursor, ∀ r ∈ p.records, key cursorOf rank r ∈ keys := by
  induction stores generalizing cursor with
  | nil => simp [scan]
  | cons store stores ih =>
    have hfirst : ∀ r ∈ (page cursorOf rank live limit cursor store).records,
        key cursorOf rank r ∈ keys := fun r hr =>
      hkeys store List.mem_cons_self ▸
        List.mem_map_of_mem (mem_matching.mp (mem_matching_of_mem_records hr)).1
    cases hnext : (page cursorOf rank live limit cursor store).next with
    | none =>
      rw [scan_of_next_none hnext]
      simpa using hfirst
    | some c =>
      rw [scan_of_next_some hnext]
      rintro p (_ | ⟨_, hp⟩)
      · exact hfirst
      · exact ih (fun s hs => hkeys s (List.mem_cons_of_mem _ hs)) p hp

/-- Every record of a scan is past the cursor it started from. -/
theorem scan_after {stores : List (List α)} {cursor : Option γ} :
    ∀ p ∈ scan cursorOf rank live limit stores cursor, ∀ r ∈ p.records,
      afterKey rank cursor (key cursorOf rank r) = true := by
  induction stores generalizing cursor with
  | nil => simp [scan]
  | cons store stores ih =>
    have hfirst : ∀ r ∈ (page cursorOf rank live limit cursor store).records,
        afterKey rank cursor (key cursorOf rank r) = true := fun r hr =>
      (mem_matching.mp (mem_matching_of_mem_records hr)).2.2
    cases hnext : (page cursorOf rank live limit cursor store).next with
    | none =>
      rw [scan_of_next_none hnext]
      simpa using hfirst
    | some c =>
      rw [scan_of_next_some hnext]
      obtain ⟨last, hlast, rfl, -⟩ := next_eq_some hnext
      rintro p (_ | ⟨_, hp⟩)
      · exact hfirst
      · -- the rest of the scan is past the page's last record, which is past `cursor`
        intro r hr
        have hpast := ih p hp r hr
        rw [afterKey_some, decide_eq_true_eq] at hpast
        exact afterKey_trans (hfirst last hlast) hpast

/-- The keys of a scan are strictly increasing. -/
theorem scan_sorted {stores : List (List α)} {cursor : Option γ}
    (hnd : ∀ s ∈ stores, (s.map (key cursorOf rank)).Nodup) :
    ((scan cursorOf rank live limit stores cursor).flatMap Page.records).Pairwise
      fun a b => key cursorOf rank a < key cursorOf rank b := by
  induction stores generalizing cursor with
  | nil => simp [scan]
  | cons store stores ih =>
    have hpage : (page cursorOf rank live limit cursor store).records.Pairwise
        fun a b => key cursorOf rank a < key cursorOf rank b :=
      (matching_sorted (hnd store List.mem_cons_self)).sublist (List.take_sublist _ _)
    cases hnext : (page cursorOf rank live limit cursor store).next with
    | none =>
      rw [scan_of_next_none hnext]
      simpa using hpage
    | some c =>
      rw [scan_of_next_some hnext, List.flatMap_cons, List.pairwise_append]
      refine ⟨hpage, ih fun s hs => hnd s (List.mem_cons_of_mem _ hs), ?_⟩
      -- the page lies at or below its next cursor, the rest of the scan above it
      obtain ⟨last, -, rfl, hmax⟩ := next_eq_some hnext
      intro a ha b hb
      obtain ⟨p, hp, hbp⟩ := List.mem_flatMap.mp hb
      have habove := scan_after p hp b hbp
      rw [afterKey_some, decide_eq_true_eq] at habove
      exact lt_of_le_of_lt (hmax a ha) habove

/-- The keys past a page's next cursor are fewer than those past its own. -/
theorem next_decreases {store : List α} {keys : List κ} {cursor : Option γ} {c : γ}
    (hkeys : store.map (key cursorOf rank) = keys)
    (h : (page cursorOf rank live limit cursor store).next = some c) :
    (keys.filter (afterKey rank (some c))).length < (keys.filter (afterKey rank cursor)).length := by
  obtain ⟨last, hlast, rfl, -⟩ := next_eq_some h
  obtain ⟨hstored, -, hafter⟩ := mem_matching.mp (mem_matching_of_mem_records hlast)
  have hk : key cursorOf rank last ∈ keys := hkeys ▸ List.mem_map_of_mem hstored
  -- past the next cursor is past `cursor`, and the next cursor's own key is only past `cursor`
  have hsub : keys.filter (afterKey rank (some (cursorOf last))) =
      (keys.filter (afterKey rank cursor)).filter (afterKey rank (some (cursorOf last))) := by
    rw [List.filter_filter]
    refine List.filter_congr fun k _ => ?_
    cases hpast : afterKey rank (some (cursorOf last)) k with
    | false => rfl
    | true =>
      rw [afterKey_some, decide_eq_true_eq] at hpast
      rw [afterKey_trans hafter hpast]
      rfl
  rw [hsub]
  refine List.length_filter_lt_length_iff_exists.mpr ⟨key cursorOf rank last, ?_, ?_⟩
  · exact List.mem_filter.mpr ⟨hk, hafter⟩
  · simp [key]

/-- A scan over stores with one key list reads at most once per key past its cursor,
    and once more. -/
theorem scan_length_le {stores : List (List α)} {keys : List κ} {cursor : Option γ}
    (hkeys : ∀ s ∈ stores, s.map (key cursorOf rank) = keys) :
    (scan cursorOf rank live limit stores cursor).length ≤
      (keys.filter (afterKey rank cursor)).length + 1 := by
  induction stores generalizing cursor with
  | nil => simp [scan]
  | cons store stores ih =>
    cases hnext : (page cursorOf rank live limit cursor store).next with
    | none =>
      rw [scan_of_next_none hnext]
      simp
    | some c =>
      rw [scan_of_next_some hnext, List.length_cons]
      have hrest := @ih (some c) fun s hs => hkeys s (List.mem_cons_of_mem _ hs)
      have hdec := next_decreases (hkeys store List.mem_cons_self) hnext
      omega

/-- Given a read for every key past its cursor and one more, a scan ends on a page with
    no next cursor. -/
theorem scan_ends {stores : List (List α)} {keys : List κ} {cursor : Option γ}
    (hkeys : ∀ s ∈ stores, s.map (key cursorOf rank) = keys)
    (henough : (keys.filter (afterKey rank cursor)).length < stores.length) :
    ∃ p ∈ (scan cursorOf rank live limit stores cursor).getLast?, p.next = none := by
  induction stores generalizing cursor with
  | nil => simp at henough
  | cons store stores ih =>
    cases hnext : (page cursorOf rank live limit cursor store).next with
    | none =>
      rw [scan_of_next_none hnext]
      exact ⟨_, rfl, hnext⟩
    | some c =>
      rw [scan_of_next_some hnext, List.getLast?_cons]
      have hdec := next_decreases (hkeys store List.mem_cons_self) hnext
      obtain ⟨p, hp, hend⟩ := @ih (some c) (fun s hs => hkeys s (List.mem_cons_of_mem _ hs))
        (by rw [List.length_cons] at henough; omega)
      exact ⟨p, by rw [Option.mem_def] at hp ⊢; rw [hp]; rfl, hend⟩

/-- A scan that ended returns every key past its cursor that is live in each store it
    read. -/
theorem scan_complete (hlimit : 0 < limit) {stores : List (List α)} {keys : List κ}
    {cursor : Option γ} (hkeys : ∀ s ∈ stores, s.map (key cursorOf rank) = keys)
    (hnd : keys.Nodup)
    (hends : ∃ p ∈ (scan cursorOf rank live limit stores cursor).getLast?, p.next = none)
    {k : κ} (hk : k ∈ keys) (hafter : afterKey rank cursor k = true)
    (hlive : ∀ ps ∈ (scan cursorOf rank live limit stores cursor).zip stores, ∀ r ∈ ps.2,
      key cursorOf rank r = k → live r = true) :
    ∃ p ∈ scan cursorOf rank live limit stores cursor, ∃ r ∈ p.records, key cursorOf rank r = k := by
  induction stores generalizing cursor with
  | nil => simp [scan] at hends
  | cons store stores ih =>
    have hstore := hkeys store List.mem_cons_self
    obtain ⟨r, hr, rfl⟩ := List.mem_map.mp (hstore ▸ hk)
    -- `r` is live when the first page is read, so it is on that page or past its cursor
    have hrlive : live r = true := by
      refine hlive (page cursorOf rank live limit cursor store, store) ?_ r hr rfl
      rw [scan, List.zip_cons_cons]
      exact List.mem_cons_self
    have hmatch : r ∈ matching cursorOf rank live cursor store := mem_matching.mpr ⟨hr, hrlive, hafter⟩
    rcases mem_records_or_next hlimit (hstore ▸ hnd) hmatch with hpage | ⟨c, hnext, hlt⟩
    · refine ⟨_, ?_, r, hpage, rfl⟩
      rw [scan]
      exact List.mem_cons_self
    · rw [scan_of_next_some hnext] at hends hlive ⊢
      rw [List.zip_cons_cons] at hlive
      have hrest : ∃ p ∈ (scan cursorOf rank live limit stores (some c)).getLast?, p.next = none := by
        obtain ⟨p, hp, hend⟩ := hends
        rw [List.getLast?_cons, Option.mem_def, Option.some.injEq] at hp
        cases hlast : (scan cursorOf rank live limit stores (some c)).getLast? with
        | none =>
          rw [hlast, Option.getD_none] at hp
          rw [← hp, hnext] at hend
          cases hend
        | some q =>
          rw [hlast, Option.getD_some] at hp
          exact ⟨q, rfl, hp ▸ hend⟩
      obtain ⟨p, hp, hrec⟩ := @ih (some c)
        (fun s hs => hkeys s (List.mem_cons_of_mem _ hs)) hrest (by simpa using hlt)
        (fun ps hps => hlive ps (List.mem_cons_of_mem _ hps))
      exact ⟨p, List.mem_cons_of_mem _ hp, hrec⟩

/-- A scan that ended past its first page ended on the pages after it. -/
theorem ends_of_next_some {store : List α} {stores : List (List α)} {cursor : Option γ} {c : γ}
    (hnext : (page cursorOf rank live limit cursor store).next = some c)
    (hends : ∃ p ∈ (scan cursorOf rank live limit (store :: stores) cursor).getLast?, p.next = none) :
    ∃ p ∈ (scan cursorOf rank live limit stores (some c)).getLast?, p.next = none := by
  obtain ⟨p, hp, hend⟩ := hends
  rw [scan_of_next_some hnext, List.getLast?_cons, Option.mem_def, Option.some.injEq] at hp
  cases hlast : (scan cursorOf rank live limit stores (some c)).getLast? with
  | none =>
    -- the first page has a next cursor, so it is not where the scan ended
    rw [hlast, Option.getD_none] at hp
    rw [← hp, hnext] at hend
    cases hend
  | some q =>
    rw [hlast, Option.getD_some] at hp
    exact ⟨q, rfl, hp ▸ hend⟩

/-- A scan that ended reads no store past its last page. -/
theorem scan_append {stores more : List (List α)} {cursor : Option γ}
    (hends : ∃ p ∈ (scan cursorOf rank live limit stores cursor).getLast?, p.next = none) :
    scan cursorOf rank live limit (stores ++ more) cursor = scan cursorOf rank live limit stores cursor := by
  induction stores generalizing cursor with
  | nil => simp [scan] at hends
  | cons store stores ih =>
    cases hnext : (page cursorOf rank live limit cursor store).next with
    | none => rw [List.cons_append, scan_of_next_none hnext, scan_of_next_none hnext]
    | some c =>
      rw [List.cons_append, scan_of_next_some hnext, scan_of_next_some hnext,
        ih (ends_of_next_some hnext hends)]

/-- Pairing a scan's pages with the stores read ignores the stores past those it read. -/
theorem zip_scan_append {stores more : List (List α)} {cursor : Option γ} :
    (scan cursorOf rank live limit stores cursor).zip (stores ++ more) =
      (scan cursorOf rank live limit stores cursor).zip stores := by
  induction stores generalizing cursor with
  | nil => rfl
  | cons store stores ih =>
    cases hnext : (page cursorOf rank live limit cursor store).next with
    | none =>
      rw [List.cons_append, scan_of_next_none hnext]
      rfl
    | some c =>
      rw [List.cons_append, scan_of_next_some hnext, List.zip_cons_cons, List.zip_cons_cons, ih]

end Scan

end A3sBox.Lib.Keyset
