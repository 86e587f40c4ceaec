import Mathlib

/-
  A multimap as a list of entries in arrival order: the shape of a map that keeps every
  value of a key, such as an HTTP header map.

  `getAll k m` lists the values of `k` in order and `get? k m` is the first of them;
  `remove k m` drops every value of `k`, `removeAll ks m` those of every key of `ks`,
  `insert k v m` replaces the values of `k` by `v` alone and `append k v m` adds `v`
  after them.

  Proved: an entry survives `remove` and `removeAll` exactly when its key is not
  removed (`mem_remove`, `mem_removeAll`), and `insert` adds one entry to what `remove`
  leaves (`mem_insert`); so these operations change the values of their own keys only
  (`getAll_remove_of_ne`, `getAll_insert_of_ne`, `getAll_removeAll_of_not_mem`), after
  which a removed key has none and an inserted one exactly its new value
  (`getAll_remove_self`, `getAll_removeAll_of_mem`, `getAll_insert_self`).
-/

namespace A3sBox.Lib.MultiMap

variable {κ ν : Type} [DecidableEq κ]

/-- The values of `k`, in order. -/
def getAll (k : κ) (m : List (κ × ν)) : List ν :=
  (m.filter fun e => decide (e.1 = k)).map Prod.snd

/-- The first value of `k`. -/
def get? (k : κ) (m : List (κ × ν)) : Option ν := (getAll k m).head?

def containsKey (k : κ) (m : List (κ × ν)) : Bool := m.any fun e => decide (e.1 = k)

/-- Drop every value of `k`. -/
def remove (k : κ) (m : List (κ × ν)) : List (κ × ν) := m.filter fun e => decide (e.1 ≠ k)

/-- Drop every value of every key of `ks`, one key after the other. -/
def removeAll (ks : List κ) (m : List (κ × ν)) : List (κ × ν) :=
  ks.foldl (fun m k => remove k m) m

/-- Replace the values of `k` by `v` alone. -/
def insert (k : κ) (v : ν) (m : List (κ × ν)) : List (κ × ν) := remove k m ++ [(k, v)]

/-- Add `v` after the values of `k`. -/
def append (k : κ) (v : ν) (m : List (κ × ν)) : List (κ × ν) := m ++ [(k, v)]

variable {k k' : κ} {v : ν} {ks : List κ} {m : List (κ × ν)}

theorem mem_getAll : v ∈ getAll k m ↔ (k, v) ∈ m := by
  simp only [getAll, List.mem_map, List.mem_filter, decide_eq_true_eq]
  constructor
  · rintro ⟨⟨key, value⟩, ⟨hmem, rfl⟩, rfl⟩
    exact hmem
  · intro hmem
    exact ⟨(k, v), ⟨hmem, rfl⟩, rfl⟩

theorem getAll_eq_nil : getAll k m = [] ↔ ∀ v, (k, v) ∉ m := by
  rw [List.eq_nil_iff_forall_not_mem]
  exact forall_congr' fun _ => not_congr mem_getAll

theorem containsKey_iff : containsKey k m = true ↔ getAll k m ≠ [] := by
  rw [ne_eq, getAll_eq_nil]
  simp only [containsKey, List.any_eq_true, decide_eq_true_eq, not_forall, not_not]
  constructor
  · rintro ⟨⟨key, value⟩, hmem, rfl⟩
    exact ⟨value, hmem⟩
  · rintro ⟨value, hmem⟩
    exact ⟨(k, value), hmem, rfl⟩

@[simp] theorem get?_eq_head? : get? k m = (getAll k m).head? := rfl

/-- A map with fewer entries has fewer values of each key. -/
theorem getAll_sublist {m' : List (κ × ν)} (h : m'.Sublist m) : (getAll k m').Sublist (getAll k m) :=
  (h.filter _).map _

theorem mem_remove {e : κ × ν} : e ∈ remove k m ↔ e ∈ m ∧ e.1 ≠ k := by
  simp [remove]

theorem remove_sublist : (remove k m).Sublist m := List.filter_sublist

@[simp] theorem getAll_remove_self : getAll k (remove k m) = [] :=
  getAll_eq_nil.mpr fun _ h => (mem_remove.mp h).2 rfl

@[simp] theorem getAll_remove_of_ne (h : k' ≠ k) : getAll k' (remove k m) = getAll k' m := by
  rw [getAll, getAll, remove, List.filter_filter]
  congr 1
  apply List.filter_congr
  intro e _
  by_cases he : e.1 = k' <;> simp [he, h]

theorem mem_removeAll {e : κ × ν} : e ∈ removeAll ks m ↔ e ∈ m ∧ e.1 ∉ ks := by
  -- the fold removes the keys one after the other, from any map
  induction ks generalizing m with
  | nil => simp [removeAll]
  | cons key rest ih =>
    rw [removeAll, List.foldl_cons, ← removeAll, ih, mem_remove, List.mem_cons]
    tauto

theorem removeAll_sublist : (removeAll ks m).Sublist m := by
  induction ks generalizing m with
  | nil => exact List.Sublist.refl m
  | cons key rest ih =>
    rw [removeAll, List.foldl_cons, ← removeAll]
    exact ih.trans remove_sublist

theorem getAll_removeAll_of_mem (h : k ∈ ks) : getAll k (removeAll ks m) = [] :=
  getAll_eq_nil.mpr fun _ hmem => (mem_removeAll.mp hmem).2 h

theorem getAll_removeAll_of_not_mem (h : k ∉ ks) :
    getAll k (removeAll ks m) = getAll k m := by
  induction ks generalizing m with
  | nil => rfl
  | cons key rest ih =>
    rw [List.mem_cons, not_or] at h
    rw [removeAll, List.foldl_cons, ← removeAll, ih h.2, getAll_remove_of_ne h.1]

theorem mem_insert {e : κ × ν} : e ∈ insert k v m ↔ (e ∈ m ∧ e.1 ≠ k) ∨ e = (k, v) := by
  rw [insert, List.mem_append, mem_remove, List.mem_singleton]

/-- The values of a key in a map with one more entry at its end. -/
theorem getAll_concat {e : κ × ν} : getAll k (m ++ [e]) = getAll k m ++ getAll k [e] := by
  rw [getAll, getAll, getAll, List.filter_append, List.map_append]

@[simp] theorem getAll_insert_self : getAll k (insert k v m) = [v] := by
  rw [insert, getAll_concat, getAll_remove_self]
  simp [getAll]

@[simp] theorem getAll_insert_of_ne (h : k' ≠ k) : getAll k' (insert k v m) = getAll k' m := by
  rw [insert, getAll_concat, getAll_remove_of_ne h]
  simp [getAll, Ne.symm h]

end A3sBox.Lib.MultiMap
