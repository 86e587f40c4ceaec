import Mathlib

/-
  Lists of rows addressed by a key column.

  A persisted collection that is a `Vec` of records looked up by a key is a list `xs`
  with a key `k : α → κ`. `findKey` is `iter().find(|x| k(x) == key)`, `replaceKey` is
  a write through `iter_mut().find(..)` (the first row with the key is replaced), and
  `eraseKey` is `retain(|x| k(x) != key)`.

  The keys need not be distinct for these definitions. The lemmas that need distinct
  keys take `(xs.map k).Nodup`; `map_replaceKey` and `sublist_eraseKey` show that both
  writes keep it. `Survives` says what a run of writes does to each row it keeps.
-/

namespace A3sBox.Lib

variable {α κ β : Type} [DecidableEq κ] (k : α → κ)

/-- The first row with the key. -/
def findKey (key : κ) (xs : List α) : Option α := xs.find? (fun x => k x == key)

/-- The rows with the first row with the key replaced by `x`. -/
def replaceKey (key : κ) (x : α) : List α → List α
  | [] => []
  | y :: ys => if k y = key then x :: ys else y :: replaceKey key x ys

/-- The rows without the key. -/
def eraseKey (key : κ) (xs : List α) : List α := xs.filter (fun x => k x != key)

variable {k} {key : κ} {x y : α} {xs : List α}

theorem findKey_eq_some (h : findKey k key xs = some y) : y ∈ xs ∧ k y = key := by
  unfold findKey at h
  exact ⟨List.mem_of_find?_eq_some h, by simpa using List.find?_some h⟩

theorem findKey_eq_none : findKey k key xs = none ↔ ∀ y ∈ xs, k y ≠ key := by
  simp [findKey]

theorem findKey_isSome (hy : y ∈ xs) (hk : k y = key) : (findKey k key xs).isSome := by
  cases h : findKey k key xs with
  | none => exact absurd hk (findKey_eq_none.mp h y hy)
  | some z => rfl

/-- With distinct keys a row is the row found for its key. -/
theorem findKey_of_mem (hnd : (xs.map k).Nodup) (hy : y ∈ xs) : findKey k (k y) xs = some y := by
  induction xs with
  | nil => cases hy
  | cons z zs ih =>
    simp only [List.map_cons, List.nodup_cons, List.mem_map] at hnd
    rcases List.mem_cons.mp hy with rfl | hy'
    · simp [findKey]
    · have hne : (k z == k y) = false := by
        simpa using fun h => hnd.1 ⟨y, hy', h.symm⟩
      simp only [findKey, List.find?_cons, hne] at ih ⊢
      exact ih hnd.2 hy'

/-! ## Replacing the first row with a key -/

theorem replaceKey_of_forall_ne (h : ∀ z ∈ xs, k z ≠ key) : replaceKey k key x xs = xs := by
  induction xs with
  | nil => rfl
  | cons z zs ih =>
    rw [replaceKey, if_neg (h z List.mem_cons_self),
      ih (fun w hw => h w (List.mem_cons_of_mem _ hw))]

/-- A projection that agrees on the replaced row is unchanged by the write. -/
theorem filterMap_replaceKey {f : α → Option β}
    (h : ∀ z, findKey k key xs = some z → f z = f x) :
    (replaceKey k key x xs).filterMap f = xs.filterMap f := by
  induction xs with
  | nil => rfl
  | cons z zs ih =>
    by_cases hz : k z = key
    · have hfind : findKey k key (z :: zs) = some z := by simp [findKey, hz]
      rw [replaceKey, if_pos hz, List.filterMap_cons, List.filterMap_cons, h z hfind]
    · have hfind : findKey k key (z :: zs) = findKey k key zs := by simp [findKey, hz]
      rw [replaceKey, if_neg hz, List.filterMap_cons, List.filterMap_cons,
        ih (fun w hw => h w (hfind ▸ hw))]

theorem map_replaceKey (hx : k x = key) : (replaceKey k key x xs).map k = xs.map k := by
  have h : (replaceKey k key x xs).filterMap (fun z => some (k z)) =
      xs.filterMap (fun z => some (k z)) :=
    filterMap_replaceKey fun z hz => by rw [(findKey_eq_some hz).2, hx]
  simpa [List.filterMap_eq_map] using h

/-- Every row of the result is the new row or a row from before. -/
theorem mem_replaceKey (hy : y ∈ replaceKey k key x xs) : y = x ∨ y ∈ xs := by
  induction xs with
  | nil => cases hy
  | cons z zs ih =>
    by_cases hz : k z = key
    · rw [replaceKey, if_pos hz] at hy
      rcases List.mem_cons.mp hy with rfl | hy'
      · exact .inl rfl
      · exact .inr (List.mem_cons_of_mem _ hy')
    · rw [replaceKey, if_neg hz] at hy
      rcases List.mem_cons.mp hy with rfl | hy'
      · exact .inr List.mem_cons_self
      · exact (ih hy').imp id (List.mem_cons_of_mem _)

/-- A row of the result with another key was a row before. -/
theorem mem_of_mem_replaceKey (hx : k x = key) (hy : y ∈ replaceKey k key x xs)
    (hne : k y ≠ key) : y ∈ xs := by
  induction xs with
  | nil => cases hy
  | cons z zs ih =>
    by_cases hz : k z = key
    · rw [replaceKey, if_pos hz] at hy
      rcases List.mem_cons.mp hy with heq | hy'
      · exact absurd (heq ▸ hx) hne
      · exact List.mem_cons_of_mem _ hy'
    · rw [replaceKey, if_neg hz] at hy
      rcases List.mem_cons.mp hy with rfl | hy'
      · exact List.mem_cons_self
      · exact List.mem_cons_of_mem _ (ih hy')

/-- A row with another key stays. -/
theorem mem_replaceKey_of_mem (hy : y ∈ xs) (hne : k y ≠ key) : y ∈ replaceKey k key x xs := by
  induction xs with
  | nil => cases hy
  | cons z zs ih =>
    rcases List.mem_cons.mp hy with rfl | hy'
    · rw [replaceKey, if_neg hne]
      exact List.mem_cons_self
    · by_cases hz : k z = key
      · rw [replaceKey, if_pos hz]
        exact List.mem_cons_of_mem _ hy'
      · rw [replaceKey, if_neg hz]
        exact List.mem_cons_of_mem _ (ih hy')

/-- With distinct keys the only row of the result with the key is the new one. -/
theorem eq_of_mem_replaceKey (hnd : (xs.map k).Nodup) (hy : y ∈ replaceKey k key x xs)
    (hk : k y = key) : y = x := by
  induction xs with
  | nil => cases hy
  | cons z zs ih =>
    simp only [List.map_cons, List.nodup_cons, List.mem_map] at hnd
    by_cases hz : k z = key
    · rw [replaceKey, if_pos hz] at hy
      rcases List.mem_cons.mp hy with rfl | hy'
      · rfl
      · exact absurd ⟨y, hy', hk.trans hz.symm⟩ hnd.1
    · rw [replaceKey, if_neg hz] at hy
      rcases List.mem_cons.mp hy with rfl | hy'
      · exact absurd hk hz
      · exact ih hnd.2 hy'

/-- The new row is found for its key. -/
theorem findKey_replaceKey (hx : k x = key) (hmem : ∃ z ∈ xs, k z = key) :
    findKey k key (replaceKey k key x xs) = some x := by
  induction xs with
  | nil => simp at hmem
  | cons z zs ih =>
    by_cases hz : k z = key
    · simp [replaceKey, hz, findKey, hx]
    · have hmem' : ∃ w ∈ zs, k w = key := by
        obtain ⟨w, hw, hwk⟩ := hmem
        rcases List.mem_cons.mp hw with rfl | hw'
        · exact absurd hwk hz
        · exact ⟨w, hw', hwk⟩
      have ih' := ih hmem'
      simp only [findKey] at ih' ⊢
      simp [replaceKey, hz, ih']

/-- A write to one key leaves the rows found for every other key. -/
theorem findKey_replaceKey_of_ne {key' : κ} (hx : k x = key) (hne : key' ≠ key) :
    findKey k key' (replaceKey k key x xs) = findKey k key' xs := by
  induction xs with
  | nil => rfl
  | cons z zs ih =>
    by_cases hz : k z = key
    · have hzne : (k z == key') = false := by simpa [hz] using Ne.symm hne
      have hxne : (k x == key') = false := by simpa [hx] using Ne.symm hne
      simp only [replaceKey, if_pos hz, findKey, List.find?_cons, hzne, hxne]
    · simp only [replaceKey, if_neg hz, findKey, List.find?_cons] at ih ⊢
      rw [ih]

/-- The new row is a row of the result when the key was present. -/
theorem mem_replaceKey_self (hx : k x = key) (hmem : ∃ z ∈ xs, k z = key) :
    x ∈ replaceKey k key x xs :=
  (findKey_eq_some (findKey_replaceKey hx hmem)).1

/-! ## Erasing a key -/

theorem mem_eraseKey : y ∈ eraseKey k key xs ↔ y ∈ xs ∧ k y ≠ key := by
  simp [eraseKey]

theorem sublist_eraseKey : (eraseKey k key xs).Sublist xs := List.filter_sublist

/-- `remove_by_id` reports a removal exactly when a row had the key. -/
theorem length_eraseKey_lt_iff : (eraseKey k key xs).length < xs.length ↔ ∃ y ∈ xs, k y = key := by
  unfold eraseKey
  induction xs with
  | nil => simp
  | cons z zs ih =>
    have hle : (zs.filter (fun x => k x != key)).length ≤ zs.length := List.length_filter_le _ _
    by_cases hz : k z = key
    · simp only [List.filter_cons, hz, bne_self_eq_false, Bool.false_eq_true, if_false,
        List.length_cons]
      exact ⟨fun _ => ⟨z, List.mem_cons_self, hz⟩, fun _ => by omega⟩
    · have hb : (k z != key) = true := by simpa using hz
      simp only [List.filter_cons, hb, if_true, List.length_cons, Nat.add_lt_add_iff_right, ih]
      constructor
      · rintro ⟨w, hw, hwk⟩
        exact ⟨w, List.mem_cons_of_mem _ hw, hwk⟩
      · rintro ⟨w, hw, hwk⟩
        rcases List.mem_cons.mp hw with rfl | hw'
        · exact absurd hwk hz
        · exact ⟨w, hw', hwk⟩

/-! ## Rows across one write

  A write of one key relates every row before to the row after with the same key:
  the written row to the row it replaced, every other row to itself. With `R` a
  reflexive relation (what one write may do to a row), the lemmas below say so for the
  three writes, `replaceKey`, `eraseKey` and appending a row with a fresh key. -/

section Across

variable {R : α → α → Prop}

theorem rel_replaceKey (hrefl : ∀ a, R a a) (hnd : (xs.map k).Nodup)
    (hfind : findKey k key xs = some y) (hx : k x = key) (hR : R y x) :
    ∀ a ∈ xs, ∀ b ∈ replaceKey k key x xs, k b = k a → R a b := by
  intro a ha b hb hab
  obtain ⟨hy, hyk⟩ := findKey_eq_some hfind
  by_cases hbk : k b = key
  · have hbx : b = x := eq_of_mem_replaceKey hnd hb hbk
    have hay : a = y := List.inj_on_of_nodup_map hnd ha hy (by rw [← hab, hbk, hyk])
    rw [hbx, hay]
    exact hR
  · have hba : b = a := List.inj_on_of_nodup_map hnd (mem_of_mem_replaceKey hx hb hbk) ha hab
    rw [hba]
    exact hrefl a

theorem rel_eraseKey (hrefl : ∀ a, R a a) (hnd : (xs.map k).Nodup) :
    ∀ a ∈ xs, ∀ b ∈ eraseKey k key xs, k b = k a → R a b := by
  intro a ha b hb hab
  have hba : b = a := List.inj_on_of_nodup_map hnd (mem_eraseKey.mp hb).1 ha hab
  rw [hba]
  exact hrefl a

theorem rel_append (hrefl : ∀ a, R a a) (hnd : (xs.map k).Nodup)
    (hfresh : findKey k (k x) xs = none) :
    ∀ a ∈ xs, ∀ b ∈ xs ++ [x], k b = k a → R a b := by
  intro a ha b hb hab
  rcases List.mem_append.mp hb with hb | hb
  · rw [List.inj_on_of_nodup_map hnd hb ha hab]
    exact hrefl a
  · rw [List.mem_singleton.mp hb] at hab
    exact absurd hab.symm (findKey_eq_none.mp hfresh a ha)

end Across

/-- Every key stays after a replacement. -/
theorem exists_key_replaceKey (hx : k x = key) (ha : y ∈ xs) :
    ∃ b ∈ replaceKey k key x xs, k b = k y := by
  by_cases hyk : k y = key
  · exact ⟨x, mem_replaceKey_self hx ⟨y, ha, hyk⟩, hx.trans hyk.symm⟩
  · exact ⟨y, mem_replaceKey_of_mem ha hyk, rfl⟩

/-- A replacement of a present key brings no new key. -/
theorem exists_key_of_mem_replaceKey (hfind : findKey k key xs = some z) (hx : k x = key)
    (hb : y ∈ replaceKey k key x xs) : ∃ a ∈ xs, k a = k y := by
  rcases mem_replaceKey hb with rfl | hb'
  · obtain ⟨hz, hzk⟩ := findKey_eq_some hfind
    exact ⟨z, hz, hzk.trans hx.symm⟩
  · exact ⟨y, hb', rfl⟩

/-- The keys that an erasure loses are the erased key. -/
theorem key_eq_of_forall_ne_eraseKey (ha : y ∈ xs) (hgone : ∀ b ∈ eraseKey k key xs, k b ≠ k y) :
    k y = key := by
  by_contra hne
  exact hgone y (mem_eraseKey.mpr ⟨ha, hne⟩) rfl

theorem nodup_eraseKey (hnd : (xs.map k).Nodup) : ((eraseKey k key xs).map k).Nodup :=
  (sublist_eraseKey.map k).nodup hnd

theorem nodup_append_fresh (hnd : (xs.map k).Nodup) (hfresh : findKey k (k x) xs = none) :
    ((xs ++ [x]).map k).Nodup := by
  rw [List.map_append, List.nodup_append]
  refine ⟨hnd, List.nodup_singleton _, ?_⟩
  intro a ha b hb
  obtain ⟨z, hz, rfl⟩ := List.mem_map.mp ha
  rw [List.map_singleton, List.mem_singleton] at hb
  rw [hb]
  exact findKey_eq_none.mp hfresh z hz

omit [DecidableEq κ] in
/-- Rows of two lists with one projection `f`, which determines the key: a row of each with one
    key have one projection, when the keys of the first list are distinct. -/
theorem proj_eq_of_key_eq {γ : Type} {f : α → γ} (hf : ∀ a b, f a = f b → k a = k b)
    {ys : List α} (hmap : ys.map f = xs.map f) (hnd : (xs.map k).Nodup) (hx : x ∈ xs)
    (hy : y ∈ ys) (hkey : k y = k x) : f y = f x := by
  have hfy : f y ∈ xs.map f := hmap ▸ List.mem_map_of_mem hy
  obtain ⟨x', hx', hfx'⟩ := List.mem_map.mp hfy
  have hsame : x' = x := List.inj_on_of_nodup_map hnd hx' hx ((hf x' y hfx').trans hkey)
  rw [← hfx', hsame]


/-! ## Rows that survive a run of writes

  `Survives k r xs ys`: every row of `xs` has a row under its key in `ys`, related to it by
  `r`. With `r` a preorder it composes along a run of writes, and a replacement of one key by a
  row `r` relates to the row it replaces is one such write. -/

section Survives

variable {r : α → α → Prop} {ys zs : List α}

variable (k) in
/-- Every row of `xs` has a row under its key in `ys` that `r` relates to it. -/
def Survives (r : α → α → Prop) (xs ys : List α) : Prop :=
  ∀ key a, findKey k key xs = some a → ∃ b, findKey k key ys = some b ∧ r a b

theorem Survives.refl (hr : ∀ a, r a a) : Survives k r xs xs :=
  fun _ a ha => ⟨a, ha, hr a⟩

theorem Survives.trans (htrans : ∀ a b c, r a b → r b c → r a c) (hxy : Survives k r xs ys)
    (hyz : Survives k r ys zs) : Survives k r xs zs := by
  intro key a ha
  obtain ⟨b, hb, hab⟩ := hxy key a ha
  obtain ⟨c, hc, hbc⟩ := hyz key b hb
  exact ⟨c, hc, htrans a b c hab hbc⟩

/-- Replacing the row of `key` by a row related to it. -/
theorem survives_replaceKey (hr : ∀ a, r a a) (hx : k x = key)
    (hrx : ∀ a, findKey k key xs = some a → r a x) : Survives k r xs (replaceKey k key x xs) := by
  intro key' a ha
  by_cases hkey : key' = key
  · -- the replaced row: it was present, so the new row is found in its place
    subst hkey
    obtain ⟨hmem, hka⟩ := findKey_eq_some ha
    exact ⟨x, findKey_replaceKey hx ⟨a, hmem, hka⟩, hrx a ha⟩
  · exact ⟨a, (findKey_replaceKey_of_ne hx hkey).trans ha, hr a⟩

end Survives

end A3sBox.Lib
