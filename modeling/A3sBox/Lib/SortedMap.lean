import Mathlib

/-
  Ordered maps with distinct keys: the model of a Rust `BTreeMap`.

  A `SortedMap κ ν` is a list of entries whose keys increase strictly, a structure that
  carries this as its field, so that a map with a repeated or misplaced key cannot be
  built. Iterating a map (`entries`, `keys`) goes in ascending key order, as a
  `BTreeMap`'s iterators do. `insert` puts a key in its place and replaces the value of
  a key already present; `ofList` is `collect` into a map, inserting pairs in turn,
  so a later pair wins over an earlier one with the same key.

  Proved: `insert` keeps the keys sorted (`sorted_insertEntry`) and adds exactly its key
  (`mem_keys_insert`); `get?` reads what `insert` wrote (`get?_insert`) and the entries
  are exactly the key/value pairs that `get?` finds (`mem_entries_iff`); for pairs with
  distinct keys, `ofList` holds exactly those pairs (`get?_ofList`, `mem_keys_ofList`).
-/

namespace A3sBox.Lib

variable {κ ν : Type} [LinearOrder κ]

/-- Put `(k, v)` into a list sorted by key, replacing the value of an equal key. -/
def insertEntry (k : κ) (v : ν) : List (κ × ν) → List (κ × ν)
  | [] => [(k, v)]
  | (k', v') :: rest =>
    if k < k' then (k, v) :: (k', v') :: rest
    else if k = k' then (k, v) :: rest
    else (k', v') :: insertEntry k v rest

theorem mem_keys_insertEntry {k x : κ} {v : ν} {l : List (κ × ν)} :
    x ∈ (insertEntry k v l).map Prod.fst ↔ x = k ∨ x ∈ l.map Prod.fst := by
  induction l with
  | nil => simp [insertEntry]
  | cons e rest ih =>
    obtain ⟨k', v'⟩ := e
    unfold insertEntry
    split_ifs with hlt heq
    · simp
    · subst heq
      simp
    · simp only [List.map_cons, List.mem_cons, ih]
      tauto

theorem sorted_insertEntry {k : κ} {v : ν} {l : List (κ × ν)}
    (h : (l.map Prod.fst).Pairwise (· < ·)) :
    ((insertEntry k v l).map Prod.fst).Pairwise (· < ·) := by
  induction l with
  | nil => simp [insertEntry]
  | cons e rest ih =>
    obtain ⟨k', v'⟩ := e
    rw [List.map_cons, List.pairwise_cons] at h
    obtain ⟨hhead, hrest⟩ := h
    unfold insertEntry
    split_ifs with hlt heq
    · -- `k` goes first, before `k'` and so before everything after it
      rw [List.map_cons, List.map_cons, List.pairwise_cons, List.pairwise_cons]
      refine ⟨fun y hy => ?_, hhead, hrest⟩
      rcases List.mem_cons.mp hy with rfl | hy
      · exact hlt
      · exact hlt.trans (hhead y hy)
    · subst heq
      rw [List.map_cons, List.pairwise_cons]
      exact ⟨hhead, hrest⟩
    · -- `k` goes after `k'`
      have hgt : k' < k := lt_of_le_of_ne (not_lt.mp hlt) (Ne.symm heq)
      rw [List.map_cons, List.pairwise_cons]
      refine ⟨fun y hy => ?_, ih hrest⟩
      rcases mem_keys_insertEntry.mp hy with rfl | hy
      · exact hgt
      · exact hhead y hy

theorem lookup_cons_eq_ite {k x : κ} {v : ν} {l : List (κ × ν)} :
    ((k, v) :: l).lookup x = if x = k then some v else l.lookup x := by
  simp only [List.lookup]
  split <;> simp_all

theorem lookup_insertEntry {k x : κ} {v : ν} {l : List (κ × ν)} :
    (insertEntry k v l).lookup x = if x = k then some v else l.lookup x := by
  induction l with
  | nil => simp [insertEntry, lookup_cons_eq_ite]
  | cons e rest ih =>
    obtain ⟨k', v'⟩ := e
    by_cases hlt : k < k'
    · rw [insertEntry, if_pos hlt, lookup_cons_eq_ite]
    · by_cases heq : k = k'
      · -- the new value replaces the old one under the same key
        subst heq
        rw [insertEntry, if_neg hlt, if_pos rfl, lookup_cons_eq_ite, lookup_cons_eq_ite]
        by_cases hx : x = k <;> simp [hx]
      · rw [insertEntry, if_neg hlt, if_neg heq, lookup_cons_eq_ite, ih, lookup_cons_eq_ite]
        by_cases hx : x = k
        · subst hx
          simp [heq]
        · simp [hx]

/-- A map with strictly increasing keys. -/
structure SortedMap (κ ν : Type) [LinearOrder κ] where
  entries : List (κ × ν)
  sorted : (entries.map Prod.fst).Pairwise (· < ·)

namespace SortedMap

def empty : SortedMap κ ν := ⟨[], List.Pairwise.nil⟩

/-- The keys, in ascending order. -/
def keys (m : SortedMap κ ν) : List κ := m.entries.map Prod.fst

/-- `get`. -/
def get? (m : SortedMap κ ν) (k : κ) : Option ν := m.entries.lookup k

/-- `contains_key`. -/
def containsKey (m : SortedMap κ ν) (k : κ) : Bool := m.keys.contains k

/-- `insert`, replacing the value of a key already present. -/
def insert (m : SortedMap κ ν) (k : κ) (v : ν) : SortedMap κ ν :=
  ⟨insertEntry k v m.entries, sorted_insertEntry m.sorted⟩

/-- `collect` into a map: insert the pairs in turn. -/
def ofList (l : List (κ × ν)) : SortedMap κ ν :=
  l.foldl (fun m e => m.insert e.1 e.2) empty

theorem keys_nodup (m : SortedMap κ ν) : m.keys.Nodup :=
  m.sorted.imp ne_of_lt

theorem mem_keys_insert {m : SortedMap κ ν} {k x : κ} {v : ν} :
    x ∈ (m.insert k v).keys ↔ x = k ∨ x ∈ m.keys :=
  mem_keys_insertEntry

theorem get?_insert {m : SortedMap κ ν} {k x : κ} {v : ν} :
    (m.insert k v).get? x = if x = k then some v else m.get? x :=
  lookup_insertEntry

@[simp] theorem get?_empty {k : κ} : (empty : SortedMap κ ν).get? k = none := rfl

@[simp] theorem keys_empty : (empty : SortedMap κ ν).keys = [] := rfl

/-- With distinct keys, an entry is exactly what `get` finds. -/
theorem mem_entries_iff {m : SortedMap κ ν} {k : κ} {v : ν} :
    (k, v) ∈ m.entries ↔ m.get? k = some v := by
  obtain ⟨entries, hsorted⟩ := m
  simp only [get?]
  induction entries with
  | nil => simp
  | cons e rest ih =>
    obtain ⟨k', v'⟩ := e
    rw [List.map_cons, List.pairwise_cons] at hsorted
    obtain ⟨hhead, hrest⟩ := hsorted
    rw [lookup_cons_eq_ite, List.mem_cons, ih hrest]
    by_cases hk : k = k'
    · -- the head holds `k`, so no later entry does
      subst hk
      have hnot : (k, v) ∉ rest := fun hmem =>
        lt_irrefl k (hhead k (List.mem_map.mpr ⟨_, hmem, rfl⟩))
      rw [← ih hrest]
      simp [hnot, eq_comm]
    · simp [hk]

theorem mem_keys_iff {m : SortedMap κ ν} {k : κ} : k ∈ m.keys ↔ (m.get? k).isSome := by
  simp only [keys, List.mem_map, Option.isSome_iff_exists, ← mem_entries_iff]
  constructor
  · rintro ⟨⟨k', v⟩, hmem, rfl⟩
    exact ⟨v, hmem⟩
  · rintro ⟨v, hmem⟩
    exact ⟨(k, v), hmem, rfl⟩

theorem containsKey_iff {m : SortedMap κ ν} {k : κ} : m.containsKey k = true ↔ k ∈ m.keys := by
  simp [containsKey]

theorem mem_keys_foldl_insert {l : List (κ × ν)} {m : SortedMap κ ν} {x : κ} :
    x ∈ (l.foldl (fun m e => m.insert e.1 e.2) m).keys ↔ x ∈ l.map Prod.fst ∨ x ∈ m.keys := by
  induction l generalizing m with
  | nil => simp
  | cons e rest ih =>
    rw [List.foldl_cons, ih, mem_keys_insert, List.map_cons, List.mem_cons]
    tauto

theorem mem_keys_ofList {l : List (κ × ν)} {x : κ} :
    x ∈ (ofList l).keys ↔ x ∈ l.map Prod.fst := by
  simp [ofList, mem_keys_foldl_insert]

theorem get?_foldl_insert {l : List (κ × ν)} (hnodup : (l.map Prod.fst).Nodup)
    {m : SortedMap κ ν} {k : κ} {v : ν} :
    (l.foldl (fun m e => m.insert e.1 e.2) m).get? k = some v ↔
      (k, v) ∈ l ∨ (k ∉ l.map Prod.fst ∧ m.get? k = some v) := by
  induction l generalizing m with
  | nil => simp
  | cons e rest ih =>
    obtain ⟨k', v'⟩ := e
    rw [List.map_cons, List.nodup_cons] at hnodup
    obtain ⟨hfresh, hrest⟩ := hnodup
    rw [List.foldl_cons, ih hrest, get?_insert]
    by_cases hk : k = k'
    · -- the pair at the head is the only one with key `k`
      subst hk
      have hnot : (k, v) ∉ rest := fun hmem => hfresh (List.mem_map.mpr ⟨_, hmem, rfl⟩)
      simp [hnot, hfresh, eq_comm]
    · simp [hk]

/-- Collecting pairs with distinct keys gives the map that holds exactly those pairs. -/
theorem get?_ofList {l : List (κ × ν)} (hnodup : (l.map Prod.fst).Nodup) {k : κ} {v : ν} :
    (ofList l).get? k = some v ↔ (k, v) ∈ l := by
  rw [ofList, get?_foldl_insert hnodup]
  simp

end SortedMap

end A3sBox.Lib
