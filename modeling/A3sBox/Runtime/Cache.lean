import Mathlib

/-
  The rootfs cache and the layer cache (`cache::rootfs_cache`, `cache::layer_cache`):
  how they prune, and the key of a cached rootfs.

  Model. A cache is the list of metadata `list_entries` reads, one entry per key; an
  entry is what pruning reads of a `RootfsMeta` or a `LayerMeta` (its key or digest, its
  size and its last access). `invalidate` removes the entry of a key; its `fs` errors
  are left out. Sizes are `u64` values as `Nat`: the sum of the sizes is the `u64` sum
  of a release build, which wraps, and taking a size off the running total saturates.

  Both prunes sort the entries oldest first, by a stable sort, and walk them with a
  running count and size: they stop once the limits hold, skip a protected key, and
  otherwise invalidate the entry and count it off (`evictLoop`). `EvictOutcome` says
  what such a walk does, in terms of the count and size it starts from.

  The key of a cached rootfs is the SHA-256 of a byte string; the model is that string
  (`computeKeyInput`), as characters, whose UTF-8 bytes the hasher reads.

  Proved:
  * `evictLoop_outcome`: the walk invalidates unprotected entries only, oldest first,
    and stops at the first point where the limits hold;
  * `prune_within_limits_of_fits`, `layer_prune_within_limits_of_fits`: when the sizes
    add up to less than `2^64`, each prune leaves the cache within its limits or with
    only protected entries, and reports the number of entries it invalidated;
  * `prune_misses_wrapped_total`: when they add up to a multiple of `2^64` and more, the
    total wraps, and a cache over its byte limit is left as it is;
  * `cache_key_sections_collide`: the key's byte string does not separate the layer
    digests from the entrypoint, nor an environment name from its value.
-/

namespace A3sBox.Runtime

/-- A cache entry as pruning reads it: the key of a `RootfsMeta` or the digest of a
    `LayerMeta`, the size and the last access. -/
structure CacheEntry where
  key : String
  sizeBytes : Nat
  lastAccessed : Int
deriving DecidableEq

/-- The `u64` sum of the sizes, `iter().map(|e| e.size_bytes).sum()`: it wraps in a
    release build. -/
def totalSize (entries : List CacheEntry) : Nat :=
  (entries.map CacheEntry.sizeBytes).sum % 2 ^ 64

/-- `sort_by_key(|e| e.last_accessed)`: stable, oldest first. -/
def oldestFirst (entries : List CacheEntry) : List CacheEntry :=
  entries.mergeSort fun a b => decide (a.lastAccessed ≤ b.lastAccessed)

/-- The loop of both prunes over the entries oldest first, with the count and size it
    keeps: stop once `within count size`, skip a protected key, and otherwise invalidate
    the entry, counting it off and taking its size off (`saturating_sub`). The entries
    invalidated, in order. -/
def evictLoop (within : Nat → Nat → Bool) (isProtected : String → Bool) :
    List CacheEntry → Nat → Nat → List CacheEntry
  | [], _, _ => []
  | entry :: rest, count, size =>
    if within count size then []
    else if isProtected entry.key then evictLoop within isProtected rest count size
    else entry :: evictLoop within isProtected rest (count - 1) (size - entry.sizeBytes)

/-- The entries of a cache directory, one per key. -/
structure CacheDir where
  entries : List CacheEntry
  keys_nodup : (entries.map CacheEntry.key).Nodup

namespace CacheDir

/-- `invalidate`: the entry of the key is removed. -/
def invalidate (cache : CacheDir) (key : String) : CacheDir :=
  ⟨cache.entries.filter (·.key ≠ key), (List.filter_sublist.map _).nodup cache.keys_nodup⟩

/-- Invalidate each entry of a list in turn. -/
def invalidateAll (cache : CacheDir) (gone : List CacheEntry) : CacheDir :=
  gone.foldl (fun cache entry => cache.invalidate entry.key) cache

/-- `RootfsCache::prune_protecting`: the number of entries evicted, and the cache after. -/
def pruneProtecting (cache : CacheDir) (maxEntries maxBytes : Nat)
    (isProtected : String → Bool) : Nat × CacheDir :=
  if cache.entries.length ≤ maxEntries ∧ totalSize cache.entries ≤ maxBytes then (0, cache)
  else
    let gone := evictLoop (fun count size => count ≤ maxEntries && size ≤ maxBytes) isProtected
      (oldestFirst cache.entries) cache.entries.length (totalSize cache.entries)
    (gone.length, cache.invalidateAll gone)

/-- `RootfsCache::prune`: nothing protected. -/
def prune (cache : CacheDir) (maxEntries maxBytes : Nat) : Nat × CacheDir :=
  cache.pruneProtecting maxEntries maxBytes fun _ => false

/-- `LayerCache::prune`: a byte limit only, and nothing protected. -/
def layerPrune (cache : CacheDir) (maxBytes : Nat) : Nat × CacheDir :=
  if totalSize cache.entries ≤ maxBytes then (0, cache)
  else
    let gone := evictLoop (fun _ size => size ≤ maxBytes) (fun _ => false)
      (oldestFirst cache.entries) cache.entries.length (totalSize cache.entries)
    (gone.length, cache.invalidateAll gone)

end CacheDir

/-! ## The rootfs key -/

/-- The order of `sorted_env.sort()`: lexicographic on the name, then on the value. -/
def envLe (a b : String × String) : Bool := a.1 < b.1 || (a.1 == b.1 && a.2 ≤ b.2)

/-- The bytes `RootfsCache::compute_key` feeds to SHA-256, as the characters they
    encode: a version line, the image reference, each layer digest and entrypoint part on
    a line, and each variable of the sorted environment as `name=value` on a line. -/
def computeKeyInput (imageRef : String) (layerDigests entrypoint : List String)
    (env : List (String × String)) : List Char :=
  "rootfs-cache-v2\n".toList ++ imageRef.toList ++ ['\n'] ++
    (layerDigests.flatMap fun digest => digest.toList ++ ['\n']) ++
    (entrypoint.flatMap fun part => part.toList ++ ['\n']) ++
    ((env.mergeSort envLe).flatMap fun pair => pair.1.toList ++ ['='] ++ pair.2.toList ++ ['\n'])

/-! ## What the eviction loop does -/

/-- The sizes of a list of entries, added up without wrapping. -/
def sizeSum (entries : List CacheEntry) : Nat := (entries.map CacheEntry.sizeBytes).sum

@[simp] theorem sizeSum_nil : sizeSum [] = 0 := rfl

@[simp] theorem sizeSum_cons (entry : CacheEntry) (entries : List CacheEntry) :
    sizeSum (entry :: entries) = entry.sizeBytes + sizeSum entries := by
  simp [sizeSum]

theorem sizeSum_append (xs ys : List CacheEntry) : sizeSum (xs ++ ys) = sizeSum xs + sizeSum ys := by
  simp [sizeSum]

/-- The entries a walk may invalidate, in its order. -/
def candidates (isProtected : String → Bool) (entries : List CacheEntry) : List CacheEntry :=
  entries.filter fun entry => !isProtected entry.key

section Evict

variable (within : Nat → Nat → Bool) (isProtected : String → Bool)

/-- What a walk of `evictLoop` over `entries`, from `count` and `size`, invalidated: the
    first of the unprotected entries, as many as it took for `within` to hold of the
    count and size left, and all of them if it never did. -/
structure EvictOutcome (count size : Nat) (entries gone : List CacheEntry) : Prop where
  oldest_first : gone = (candidates isProtected entries).take gone.length
  not_within : ∀ k < gone.length, within (count - k) (size - sizeSum (gone.take k)) = false
  stopped : gone.length < (candidates isProtected entries).length →
    within (count - gone.length) (size - sizeSum gone) = true

variable {within isProtected}

theorem evictLoop_of_within {count size : Nat} (h : within count size = true)
    (entries : List CacheEntry) : evictLoop within isProtected entries count size = [] := by
  cases entries with
  | nil => rfl
  | cons entry rest => simp [evictLoop, h]

/-- The walk does what `EvictOutcome` says, from any count and size: its count and size
    after `k` evictions are the start less `k` and less their sizes, as truncated
    subtraction gives them. -/
theorem evictLoop_outcome (entries : List CacheEntry) (count size : Nat) :
    EvictOutcome within isProtected count size entries
      (evictLoop within isProtected entries count size) := by
  induction entries generalizing count size with
  | nil => exact ⟨rfl, fun _ h => absurd h (Nat.not_lt_zero _), fun h => absurd h (Nat.not_lt_zero _)⟩
  | cons entry rest ih =>
    by_cases hwithin : within count size = true
    · -- the walk stops before this entry
      rw [evictLoop_of_within hwithin]
      exact ⟨rfl, fun _ h => absurd h (Nat.not_lt_zero _), fun _ => by simpa using hwithin⟩
    · by_cases hprotected : isProtected entry.key = true
      · -- a protected entry is skipped and changes neither count nor size
        have hcand : candidates isProtected (entry :: rest) = candidates isProtected rest := by
          simp [candidates, hprotected]
        have hrun : evictLoop within isProtected (entry :: rest) count size =
            evictLoop within isProtected rest count size := by
          simp [evictLoop, hwithin, hprotected]
        obtain ⟨hfirst, hnot, hstop⟩ := ih count size
        rw [hrun]
        exact ⟨by rw [hcand]; exact hfirst, hnot, by rw [hcand]; exact hstop⟩
      · -- an unprotected entry is invalidated, and the walk goes on from what is left
        have hcand : candidates isProtected (entry :: rest) =
            entry :: candidates isProtected rest := by
          simp [candidates, hprotected]
        have hrun : evictLoop within isProtected (entry :: rest) count size =
            entry :: evictLoop within isProtected rest (count - 1) (size - entry.sizeBytes) := by
          simp [evictLoop, hwithin, hprotected]
        obtain ⟨hfirst, hnot, hstop⟩ := ih (count - 1) (size - entry.sizeBytes)
        set gone := evictLoop within isProtected rest (count - 1) (size - entry.sizeBytes)
        rw [hrun]
        refine ⟨?_, ?_, ?_⟩
        · rw [hcand, List.length_cons, List.take_succ_cons, ← hfirst]
        · intro k hk
          cases k with
          | zero => simpa using hwithin
          | succ j =>
            have hj : j < gone.length := by simpa using hk
            have hcount : count - (j + 1) = count - 1 - j := by omega
            have hsize : size - sizeSum ((entry :: gone).take (j + 1)) =
                size - entry.sizeBytes - sizeSum (gone.take j) := by
              simp [Nat.sub_sub]
            rw [hcount, hsize]
            exact hnot j hj
        · rw [hcand]
          intro hlt
          have hcount : count - (entry :: gone).length = count - 1 - gone.length := by
            simp only [List.length_cons]
            omega
          have hsize : size - sizeSum (entry :: gone) =
              size - entry.sizeBytes - sizeSum gone := by
            simp [Nat.sub_sub]
          rw [hcount, hsize]
          exact hstop (by simpa using hlt)

namespace EvictOutcome

variable {count size : Nat} {entries gone : List CacheEntry}

theorem sublist (h : EvictOutcome within isProtected count size entries gone) :
    gone.Sublist entries := by
  rw [h.oldest_first]
  exact (List.take_sublist _ _).trans List.filter_sublist

theorem unprotected (h : EvictOutcome within isProtected count size entries gone) :
    ∀ entry ∈ gone, isProtected entry.key = false := by
  intro entry hentry
  rw [h.oldest_first] at hentry
  have := (List.mem_filter.mp (List.mem_of_mem_take hentry)).2
  simpa using this

/-- Afterwards the limits hold, or every unprotected entry was invalidated. -/
theorem within_or_all (h : EvictOutcome within isProtected count size entries gone) :
    within (count - gone.length) (size - sizeSum gone) = true ∨
      gone = candidates isProtected entries := by
  by_cases hlt : gone.length < (candidates isProtected entries).length
  · exact .inl (h.stopped hlt)
  · right
    rw [h.oldest_first, List.take_of_length_le (by omega)]

end EvictOutcome

end Evict

/-! ## What the prunes leave -/

namespace CacheDir

theorem invalidateAll_entries (cache : CacheDir) (gone : List CacheEntry) :
    (cache.invalidateAll gone).entries =
      cache.entries.filter fun entry => entry.key ∉ gone.map CacheEntry.key := by
  induction gone generalizing cache with
  | nil => simp [invalidateAll]
  | cons entry gone ih =>
    rw [invalidateAll, List.foldl_cons, ← invalidateAll, ih, invalidate, List.filter_filter]
    apply List.filter_congr
    intro e _
    rw [Bool.and_comm]
    simp

/-- With one entry per key, invalidating some of the entries leaves exactly the others. -/
theorem perm_invalidateAll {cache : CacheDir} {gone : List CacheEntry}
    (hsub : gone ⊆ cache.entries) (hnodup : gone.Nodup) :
    cache.entries.Perm (gone ++ (cache.invalidateAll gone).entries) := by
  have hentries : cache.entries.Nodup := cache.keys_nodup.of_map _
  -- the entries whose key is invalidated are the invalidated entries
  have hgone : (cache.entries.filter fun entry => entry.key ∈ gone.map CacheEntry.key).Perm
      gone := by
    refine (List.perm_ext_iff_of_nodup (hentries.sublist List.filter_sublist) hnodup).mpr ?_
    intro e
    simp only [List.mem_filter, List.mem_map, decide_eq_true_eq]
    constructor
    · rintro ⟨he, g, hg, hkey⟩
      have := List.inj_on_of_nodup_map cache.keys_nodup (hsub hg) he hkey
      exact this ▸ hg
    · intro he
      exact ⟨hsub he, e, he, rfl⟩
  have hsplit := List.filter_append_perm (fun entry => decide (entry.key ∈ gone.map CacheEntry.key))
    cache.entries
  rw [invalidateAll_entries]
  refine hsplit.symm.trans (hgone.append ?_)
  apply List.Perm.of_eq
  apply List.filter_congr
  intro e _
  rw [decide_not]

end CacheDir

theorem pairwise_oldestFirst (entries : List CacheEntry) :
    (oldestFirst entries).Pairwise fun a b => a.lastAccessed ≤ b.lastAccessed := by
  have h : (oldestFirst entries).Pairwise
      fun a b => decide (a.lastAccessed ≤ b.lastAccessed) = true :=
    List.pairwise_mergeSort (fun a b c hab hbc => by simp only [decide_eq_true_eq] at *; omega)
      (fun a b => by simp only [Bool.or_eq_true, decide_eq_true_eq]; omega) entries
  exact h.imp fun hab => of_decide_eq_true hab

section Remaining

variable {within : Nat → Nat → Bool} {isProtected : String → Bool} {gone : List CacheEntry}

/-- A walk over a cache's entries oldest first, from their count and exact size, leaves a
    cache that `within` accepts or whose entries are all protected. -/
theorem EvictOutcome.remaining (cache : CacheDir)
    (h : EvictOutcome within isProtected cache.entries.length (sizeSum cache.entries)
      (oldestFirst cache.entries) gone) :
    within (cache.invalidateAll gone).entries.length
        (sizeSum (cache.invalidateAll gone).entries) = true ∨
      ∀ entry ∈ (cache.invalidateAll gone).entries, isProtected entry.key = true := by
  have hsorted := List.mergeSort_perm cache.entries
    fun a b : CacheEntry => decide (a.lastAccessed ≤ b.lastAccessed)
  have hnodup : gone.Nodup :=
    ((hsorted.nodup_iff.mpr (cache.keys_nodup.of_map _)).sublist h.sublist)
  have hperm := CacheDir.perm_invalidateAll (fun e he => hsorted.subset (h.sublist.subset he))
    hnodup
  have hlen : (cache.invalidateAll gone).entries.length = cache.entries.length - gone.length := by
    have := hperm.length_eq
    simp at this
    omega
  have hsize : sizeSum (cache.invalidateAll gone).entries = sizeSum cache.entries - sizeSum gone := by
    have := (hperm.map CacheEntry.sizeBytes).sum_eq
    simp only [List.map_append, List.sum_append] at this
    simp only [sizeSum]
    omega
  rcases h.within_or_all with hwithin | hall
  · exact .inl (by rw [hlen, hsize]; exact hwithin)
  · -- every unprotected entry is gone, so what is left is protected
    right
    intro entry hentry
    rw [CacheDir.invalidateAll_entries, List.mem_filter] at hentry
    by_contra hprotected
    have hcand : entry ∈ candidates isProtected (oldestFirst cache.entries) :=
      List.mem_filter.mpr ⟨hsorted.symm.subset hentry.1, by simpa using hprotected⟩
    rw [← hall] at hcand
    exact (of_decide_eq_true hentry.2) (List.mem_map_of_mem hcand)

end Remaining

/-- When the sizes add up to less than `2^64`, `prune_protecting` invalidates the oldest
    unprotected entries until the cache is within both limits, or all of them, reports
    how many it invalidated, and leaves a cache within both limits or with only
    protected entries. -/
theorem prune_within_limits_of_fits (cache : CacheDir) (maxEntries maxBytes : Nat)
    (isProtected : String → Bool) (hfits : sizeSum cache.entries < 2 ^ 64) :
    ∃ gone, EvictOutcome (fun count size => count ≤ maxEntries && size ≤ maxBytes) isProtected
        cache.entries.length (sizeSum cache.entries) (oldestFirst cache.entries) gone ∧
      gone.Pairwise (fun a b => a.lastAccessed ≤ b.lastAccessed) ∧
      cache.pruneProtecting maxEntries maxBytes isProtected =
        (gone.length, cache.invalidateAll gone) ∧
      ((cache.invalidateAll gone).entries.length ≤ maxEntries ∧
          sizeSum (cache.invalidateAll gone).entries ≤ maxBytes ∨
        ∀ entry ∈ (cache.invalidateAll gone).entries, isProtected entry.key = true) := by
  have htotal : totalSize cache.entries = sizeSum cache.entries := Nat.mod_eq_of_lt hfits
  set within := fun count size => decide (count ≤ maxEntries) && decide (size ≤ maxBytes)
  have hout : EvictOutcome within isProtected cache.entries.length (sizeSum cache.entries)
      (oldestFirst cache.entries) (evictLoop within isProtected (oldestFirst cache.entries)
        cache.entries.length (sizeSum cache.entries)) :=
    evictLoop_outcome _ _ _
  refine ⟨_, hout, (pairwise_oldestFirst _).sublist hout.sublist, ?_, ?_⟩
  · -- the early return is the loop's first check
    rw [CacheDir.pruneProtecting, htotal]
    by_cases hearly : cache.entries.length ≤ maxEntries ∧ sizeSum cache.entries ≤ maxBytes
    · rw [if_pos hearly, evictLoop_of_within (by simpa [within] using hearly)]
      rfl
    · rw [if_neg hearly]
  · simpa [within] using hout.remaining cache

/-- Two small cached rootfs directories, the older one larger. -/
def smallCache : CacheDir :=
  ⟨[⟨"new", 3, 2⟩, ⟨"old", 5, 1⟩], by decide⟩

theorem small_cache_prune_within_limits : sizeSum smallCache.entries < 2 ^ 64 ∧
    ∃ gone, EvictOutcome (fun count size => count ≤ 1 && size ≤ 4) (fun _ => false)
        smallCache.entries.length (sizeSum smallCache.entries) (oldestFirst smallCache.entries)
        gone ∧
      gone.Pairwise (fun a b => a.lastAccessed ≤ b.lastAccessed) ∧
      smallCache.pruneProtecting 1 4 (fun _ => false) =
        (gone.length, smallCache.invalidateAll gone) ∧
      ((smallCache.invalidateAll gone).entries.length ≤ 1 ∧
          sizeSum (smallCache.invalidateAll gone).entries ≤ 4 ∨
        ∀ entry ∈ (smallCache.invalidateAll gone).entries, false = true) := by
  have hfits : sizeSum smallCache.entries < 2 ^ 64 := by decide
  exact ⟨hfits, prune_within_limits_of_fits smallCache 1 4 (fun _ => false) hfits⟩

/-- The same for `LayerCache::prune`, which has a byte limit only and protects nothing:
    the cache it leaves is within its byte limit. -/
theorem layer_prune_within_limits_of_fits (cache : CacheDir) (maxBytes : Nat)
    (hfits : sizeSum cache.entries < 2 ^ 64) :
    ∃ gone, EvictOutcome (fun _ size => size ≤ maxBytes) (fun _ => false)
        cache.entries.length (sizeSum cache.entries) (oldestFirst cache.entries) gone ∧
      gone.Pairwise (fun a b => a.lastAccessed ≤ b.lastAccessed) ∧
      cache.layerPrune maxBytes = (gone.length, cache.invalidateAll gone) ∧
      sizeSum (cache.invalidateAll gone).entries ≤ maxBytes := by
  have htotal : totalSize cache.entries = sizeSum cache.entries := Nat.mod_eq_of_lt hfits
  set within := fun (_ : Nat) size => decide (size ≤ maxBytes)
  have hout : EvictOutcome within (fun _ => false) cache.entries.length (sizeSum cache.entries)
      (oldestFirst cache.entries) (evictLoop within (fun _ => false) (oldestFirst cache.entries)
        cache.entries.length (sizeSum cache.entries)) :=
    evictLoop_outcome _ _ _
  refine ⟨_, hout, (pairwise_oldestFirst _).sublist hout.sublist, ?_, ?_⟩
  · rw [CacheDir.layerPrune, htotal]
    by_cases hearly : sizeSum cache.entries ≤ maxBytes
    · rw [if_pos hearly, evictLoop_of_within (by simpa [within] using hearly)]
      rfl
    · rw [if_neg hearly]
  · -- with nothing protected, the other way out is an empty cache
    rcases hout.remaining cache with hwithin | hall
    · simpa [within] using hwithin
    · have hempty : (cache.invalidateAll _).entries = [] :=
        List.eq_nil_iff_forall_not_mem.mpr fun entry hentry => by simpa using hall entry hentry
      rw [hempty]
      exact Nat.zero_le _

theorem small_cache_layer_prune_within_limit : sizeSum smallCache.entries < 2 ^ 64 ∧
    ∃ gone, EvictOutcome (fun _ size => size ≤ 4) (fun _ => false)
        smallCache.entries.length (sizeSum smallCache.entries) (oldestFirst smallCache.entries)
        gone ∧
      gone.Pairwise (fun a b => a.lastAccessed ≤ b.lastAccessed) ∧
      smallCache.layerPrune 4 = (gone.length, smallCache.invalidateAll gone) ∧
      sizeSum (smallCache.invalidateAll gone).entries ≤ 4 := by
  have hfits : sizeSum smallCache.entries < 2 ^ 64 := by decide
  exact ⟨hfits, layer_prune_within_limits_of_fits smallCache 4 hfits⟩

/-! ## A wrapped total -/

/-- When the sizes add up to `2^64` or more, the `u64` total wraps: a cache whose wrapped
    total is within the byte limit is left as it is by both prunes, however far over the
    limit its entries really are. -/
theorem prune_misses_wrapped_total (cache : CacheDir) (maxEntries maxBytes : Nat)
    (hcount : cache.entries.length ≤ maxEntries)
    (hwrapped : sizeSum cache.entries % 2 ^ 64 ≤ maxBytes)
    (hover : maxBytes < sizeSum cache.entries) :
    cache.prune maxEntries maxBytes = (0, cache) ∧ cache.layerPrune maxBytes = (0, cache) ∧
      ¬ sizeSum (cache.prune maxEntries maxBytes).2.entries ≤ maxBytes := by
  have htotal : totalSize cache.entries ≤ maxBytes := hwrapped
  have hprune : cache.prune maxEntries maxBytes = (0, cache) := by
    rw [CacheDir.prune, CacheDir.pruneProtecting, if_pos ⟨hcount, htotal⟩]
  refine ⟨hprune, by rw [CacheDir.layerPrune, if_pos htotal], ?_⟩
  rw [hprune]
  exact Nat.not_le_of_lt hover

/-- Two cached rootfs directories of `2^63` bytes each. -/
def hugeCache : CacheDir :=
  ⟨[⟨"a", 2 ^ 63, 0⟩, ⟨"b", 2 ^ 63, 1⟩], by decide⟩

theorem huge_cache_not_pruned :
    (hugeCache.entries.length ≤ 2 ∧ sizeSum hugeCache.entries % 2 ^ 64 ≤ 10 * 1024 ^ 3 ∧
      10 * 1024 ^ 3 < sizeSum hugeCache.entries) ∧
    hugeCache.prune 2 (10 * 1024 ^ 3) = (0, hugeCache) ∧
      hugeCache.layerPrune (10 * 1024 ^ 3) = (0, hugeCache) ∧
      ¬ sizeSum (hugeCache.prune 2 (10 * 1024 ^ 3)).2.entries ≤ 10 * 1024 ^ 3 := by
  have hfacts : hugeCache.entries.length ≤ 2 ∧
      sizeSum hugeCache.entries % 2 ^ 64 ≤ 10 * 1024 ^ 3 ∧
      10 * 1024 ^ 3 < sizeSum hugeCache.entries := by
    decide
  exact ⟨hfacts, prune_misses_wrapped_total hugeCache 2 (10 * 1024 ^ 3) hfacts.1 hfacts.2.1
    hfacts.2.2⟩

/-! ## The key -/

/-- The key's byte string marks neither where the layer digests end and the entrypoint
    begins, nor where an environment name ends and its value begins. -/
theorem cache_key_sections_collide (imageRef : String) (layerDigests entrypoint : List String)
    (env : List (String × String)) (name value word : String) :
    computeKeyInput imageRef layerDigests entrypoint env =
        computeKeyInput imageRef [] (layerDigests ++ entrypoint) env ∧
      computeKeyInput imageRef layerDigests entrypoint [(name ++ "=" ++ value, word)] =
        computeKeyInput imageRef layerDigests entrypoint [(name, value ++ "=" ++ word)] := by
  have hequals : "=".toList = ['='] := by decide
  unfold computeKeyInput
  constructor
  · -- the digest lines and the entrypoint lines are the lines of one list
    rw [List.flatMap_nil, List.append_nil, List.flatMap_append]
    simp only [List.append_assoc]
  · rw [List.mergeSort_singleton, List.mergeSort_singleton, List.flatMap_singleton,
      List.flatMap_singleton]
    simp only [String.toList_append, hequals, List.append_assoc, List.cons_append,
      List.nil_append]

theorem digest_moved_to_entrypoint :
    computeKeyInput "nginx:latest" ["sha256:a"] [] [] =
      computeKeyInput "nginx:latest" [] ["sha256:a"] [] :=
  (cache_key_sections_collide "nginx:latest" ["sha256:a"] [] [] "" "" "").1

end A3sBox.Runtime
