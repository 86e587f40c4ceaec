import A3sBox.Lib.Fs
import A3sBox.Lib.Vec
import A3sBox.Runtime.StoreRuns

/-
  The pruning of the snapshot store (snapshot.rs) and the managed deletion of a snapshot
  (local_execution/snapshot.rs), with the two notions of a snapshot in use.

  Model. The part of the a3s home that this code reads is a value, `SnapshotHome`:
  * the snapshot store at `<home>/snapshots`, whose published snapshots (those with a
    readable `metadata.json`) are kept in directory order under distinct directory
    names, each the snapshot's id, as `save` publishes it;
  * the directories under `<home>/boxes`;
  * the content of each directory's `.snapshot-lower` marker, if it has one.
  Paths are strings joined with `/`, and compared as `Path` compares them, by their
  components (`Lib.Fs.samePath`). Sizes are `u64` values as `Nat`, and the total of
  `prune` is the `u64` sum of a release build, which wraps. I/O failures are left out:
  every read and every delete the code makes succeeds.

  `prune` reads the markers once and lists the snapshots newest first. Then, while the
  count or the total size is over its limit, it removes the oldest snapshot whose rootfs
  path no marker names. `delete_snapshot` refuses a snapshot in use: some record of
  `boxes.json` requests it for a managed execution that is not terminal, or that
  record's box directory holds a marker naming its rootfs.

  Proved:
  * `pruneLoop_outcome`, `prune_outcome`: prune removes only snapshots that no marker
    names, oldest first, until its test of the limits passes or only named snapshots
    remain, and it deletes exactly the snapshots it reports; where the sizes add up to
    less than `2^64` the test is the limits themselves;
  * `prune_removes_snapshot_in_use`: prune does not see the managed reference. A snapshot
    reserved by a created execution that has not started, so has no marker yet, is
    pruned, although `delete_snapshot` refuses it as in use.
-/

namespace A3sBox.Runtime

open A3sBox.Lib

/-- `SnapshotMetadata`, restricted to what listing and pruning read. -/
structure SnapshotMetadata where
  id : String
  createdAt : Int
  sizeBytes : Nat
deriving DecidableEq

namespace SnapshotMetadata

/-- As new or newer: the order of `list` (`sort_by_key(Reverse(created_at))`). -/
def NewerOrSame (a b : SnapshotMetadata) : Prop := b.createdAt ≤ a.createdAt

instance : DecidableRel NewerOrSame := fun a b =>
  inferInstanceAs (Decidable (b.createdAt ≤ a.createdAt))

instance : Std.Total NewerOrSame := ⟨fun a b => le_total b.createdAt a.createdAt⟩

instance : IsTrans SnapshotMetadata NewerOrSame := ⟨fun _ _ _ hab hbc => le_trans hbc hab⟩

end SnapshotMetadata

/-- `Path::join`, on paths as strings. -/
def joinPath (dir child : String) : String := dir ++ "/" ++ child

/-- `SnapshotStore`: its base directory and its published snapshots in directory order,
    under distinct directory names. -/
structure SnapshotStore where
  baseDir : String
  published : List SnapshotMetadata
  ids_nodup : (published.map SnapshotMetadata.id).Nodup
deriving DecidableEq

namespace SnapshotStore

/-- `rootfs_path`. -/
def rootfsPath (store : SnapshotStore) (id : String) : String :=
  joinPath (joinPath store.baseDir id) "rootfs"

/-- `list`: the published snapshots, newest first, by a stable sort. -/
def list (store : SnapshotStore) : List SnapshotMetadata :=
  store.published.insertionSort SnapshotMetadata.NewerOrSame

/-- `delete_locked`, and `delete`, which takes the store's lock first. -/
def delete (store : SnapshotStore) (id : String) : Bool × SnapshotStore :=
  if store.published.any (·.id == id) then
    (true, ⟨store.baseDir, store.published.filter (·.id != id),
      store.ids_nodup.sublist (List.filter_sublist.map _)⟩)
  else (false, store)

/-- Delete each of `ids` in turn. -/
def deleteAll (store : SnapshotStore) (ids : List String) : SnapshotStore :=
  ids.foldl (fun store id => (store.delete id).2) store

end SnapshotStore

/-- The part of the a3s home that pruning and deletion read. -/
structure SnapshotHome where
  store : SnapshotStore
  /-- The directories under `<home>/boxes`. -/
  boxEntries : List String
  /-- The content of `<dir>/.snapshot-lower`, when it can be read. -/
  marker : String → Option String

namespace SnapshotHome

/-- `referenced_rootfs_paths`: the trimmed content of every box's marker. -/
def referencedRootfsPaths (home : SnapshotHome) : List String :=
  home.boxEntries.filterMap fun dir => (home.marker dir).map trimRust

/-- A snapshot `prune` may evict: no marker names its rootfs path. -/
def evictable (home : SnapshotHome) (snapshot : SnapshotMetadata) : Bool :=
  !home.referencedRootfsPaths.any fun path =>
    Fs.samePath path.toList (home.store.rootfsPath snapshot.id).toList

end SnapshotHome

/-- The total of `prune`, `iter().map(|s| s.size_bytes).sum()`: the `u64` sum of the
    sizes, which wraps in a release build. -/
def snapshotTotal (snapshots : List SnapshotMetadata) : Nat :=
  (snapshots.map SnapshotMetadata.sizeBytes).sum % 2 ^ 64

/-- Over the limits of `prune`: more snapshots than `max_count`, or a total of more bytes
    than `max_bytes`, where 0 means no limit. -/
def overLimits (maxCount maxBytes : Nat) (snapshots : List SnapshotMetadata) : Bool :=
  (0 < maxCount && maxCount < snapshots.length) ||
    (0 < maxBytes && maxBytes < snapshotTotal snapshots)

/-- The loop of `prune`: while over the limits, remove and delete the last (oldest)
    evictable snapshot. The model allows one round per snapshot and one more, which
    `pruneLoop_outcome` shows is enough. -/
def pruneLoop (evictable : SnapshotMetadata → Bool) (maxCount maxBytes : Nat) :
    Nat → SnapshotStore → List SnapshotMetadata → List String → List String × SnapshotStore
  | 0, store, _, removed => (removed, store)
  | fuel + 1, store, snapshots, removed =>
    if !overLimits maxCount maxBytes snapshots then (removed, store)
    else
      match (rposition evictable snapshots).bind (remove snapshots) with
      | some (snap, rest) =>
        pruneLoop evictable maxCount maxBytes fuel (store.delete snap.id).2 rest
          (removed ++ [snap.id])
      | none => (removed, store)

/-- `SnapshotStore::prune`: the ids removed, and the store after. -/
def prune (home : SnapshotHome) (maxCount maxBytes : Nat) : List String × SnapshotStore :=
  pruneLoop home.evictable maxCount maxBytes (home.store.list.length + 1) home.store
    home.store.list []

/-- The managed state of a record is terminal
    (`managed_state().is_ok_and(|state| state.is_some_and(is_terminal))`). -/
def BoxRecord.managedTerminal {Config Policy Plan : Type} (record : BoxRecord Config Policy Plan) :
    Bool :=
  match record.managedState with
  | .ok (some state) => state.isTerminal
  | _ => false

variable {Config Policy Plan : Type} [DecidableEq Config] [DecidableEq Policy]

/-- The test of `delete_snapshot`: some record requests the snapshot for a managed
    execution that is not terminal, or its box directory's marker names the snapshot's
    rootfs. -/
def snapshotInUse (home : SnapshotHome) (records : List (BoxRecord Config Policy Plan))
    (snapshotId : ExecutionSnapshotId) : Bool :=
  let rootfs := home.store.rootfsPath snapshotId.val
  records.any fun record =>
    let requested :=
      (record.managedExecution.bind (·.request.rootfsSnapshotId)) == some snapshotId
    let requestIsLive := requested && !record.managedTerminal
    let markerUsesSnapshot := (home.marker record.boxDir).any fun value =>
      Fs.samePath (trimRust value).toList rootfs.toList
    requestIsLive || markerUsesSnapshot

/-- `delete_snapshot`, once the store is open and locked and `boxes.json` is loaded. -/
def deleteSnapshot (home : SnapshotHome) (records : List (BoxRecord Config Policy Plan))
    (snapshotId : ExecutionSnapshotId) : Except String (Bool × SnapshotStore) := do
  if snapshotInUse home records snapshotId then
    let executionId ← ExecutionId.new ("snapshot-" ++ snapshotId.val)
    throw ("execution conflict for " ++ toString executionId ++
      ": filesystem snapshot is in use by an active execution")
  pure (home.store.delete snapshotId.val)

/-! ## The store -/

namespace SnapshotStore

theorem delete_published (store : SnapshotStore) (id : String) :
    (store.delete id).2.published = store.published.filter (·.id != id) := by
  unfold delete
  split
  · rfl
  · -- no snapshot has the id, so the filter keeps them all
    rename_i hnone
    refine (List.filter_eq_self.mpr fun s hs => ?_).symm
    simp only [List.any_eq_true, beq_iff_eq, not_exists, not_and] at hnone
    simpa using hnone s hs

theorem deleteAll_published (store : SnapshotStore) (ids : List String) :
    (store.deleteAll ids).published = store.published.filter fun s => !ids.contains s.id := by
  induction ids generalizing store with
  | nil => simp [deleteAll]
  | cons id ids ih =>
    rw [deleteAll, List.foldl_cons, ← deleteAll, ih, delete_published, List.filter_filter]
    congr 1
    funext s
    by_cases h : s.id = id <;> simp [h]

theorem list_perm (store : SnapshotStore) : store.list.Perm store.published :=
  List.perm_insertionSort _ _

theorem list_sorted (store : SnapshotStore) : store.list.Pairwise SnapshotMetadata.NewerOrSame :=
  List.pairwise_insertionSort _ _

end SnapshotStore

/-! ## What prune does -/

/-- The sizes of a list of snapshots, added up without wrapping. -/
def snapshotSizeSum (snapshots : List SnapshotMetadata) : Nat :=
  (snapshots.map SnapshotMetadata.sizeBytes).sum

/-- Within both limits of `prune`, 0 meaning no limit, the sizes added up exactly. -/
def WithinLimits (maxCount maxBytes : Nat) (snapshots : List SnapshotMetadata) : Prop :=
  (maxCount = 0 ∨ snapshots.length ≤ maxCount) ∧
    (maxBytes = 0 ∨ snapshotSizeSum snapshots ≤ maxBytes)

/-- Where the sizes add up to less than `2^64`, passing the loop's test is being within
    the limits. -/
theorem withinLimits_of_overLimits {maxCount maxBytes : Nat} {snapshots : List SnapshotMetadata}
    (hfits : snapshotSizeSum snapshots < 2 ^ 64)
    (h : overLimits maxCount maxBytes snapshots = false) : WithinLimits maxCount maxBytes snapshots := by
  have htotal : snapshotTotal snapshots = snapshotSizeSum snapshots := Nat.mod_eq_of_lt hfits
  simp only [overLimits, htotal, Bool.or_eq_false_iff, Bool.and_eq_false_iff,
    decide_eq_false_iff_not, not_lt] at h
  unfold WithinLimits
  omega

/-- What a run keeps of a list weighs no more than the list. -/
theorem snapshotSizeSum_le_of_perm {gone rest snapshots : List SnapshotMetadata}
    (h : (gone ++ rest).Perm snapshots) : snapshotSizeSum rest ≤ snapshotSizeSum snapshots := by
  have hsum := (h.map SnapshotMetadata.sizeBytes).sum_eq
  rw [List.map_append, List.sum_append] at hsum
  unfold snapshotSizeSum
  omega

/-- What a run of the loop of `prune` did to its list: the snapshots it removed, in
    order, and those left. -/
structure PruneOutcome (evictable : SnapshotMetadata → Bool) (maxCount maxBytes : Nat)
    (snapshots gone rest : List SnapshotMetadata) : Prop where
  perm : (gone ++ rest).Perm snapshots
  evictable_gone : ∀ g ∈ gone, evictable g = true
  /-- The loop stopped within the limits, or with nothing left to evict. -/
  stopped : overLimits maxCount maxBytes rest = false ∨ ∀ s ∈ rest, evictable s = false
  /-- No snapshot left that could have been evicted is older than one that was. -/
  oldest_first : ∀ g ∈ gone, ∀ s ∈ rest, evictable s = true → g.createdAt ≤ s.createdAt

namespace PruneOutcome

variable {evictable : SnapshotMetadata → Bool} {maxCount maxBytes : Nat}

/-- The loop stops at once. -/
theorem stop {snapshots : List SnapshotMetadata}
    (hstop : overLimits maxCount maxBytes snapshots = false ∨
      ∀ s ∈ snapshots, evictable s = false) :
    PruneOutcome evictable maxCount maxBytes snapshots [] snapshots where
  perm := List.Perm.refl _
  evictable_gone _ h := by cases h
  stopped := hstop
  oldest_first _ h := by cases h

/-- One round removes the last evictable snapshot `x`, and the rest of the loop runs on
    the list without it. -/
theorem cons {pre post gone rest : List SnapshotMetadata} {x : SnapshotMetadata}
    (hsorted : (pre ++ x :: post).Pairwise SnapshotMetadata.NewerOrSame)
    (hx : evictable x = true) (hpost : ∀ y ∈ post, evictable y = false)
    (h : PruneOutcome evictable maxCount maxBytes (pre ++ post) gone rest) :
    PruneOutcome evictable maxCount maxBytes (pre ++ x :: post) (x :: gone) rest where
  perm := by
    rw [List.cons_append]
    exact (h.perm.cons x).trans List.perm_middle.symm
  evictable_gone g hg := by
    rcases List.mem_cons.mp hg with rfl | hg
    · exact hx
    · exact h.evictable_gone g hg
  stopped := h.stopped
  oldest_first g hg s hs hev := by
    rcases List.mem_cons.mp hg with rfl | hg
    · -- an evictable snapshot left stands before `g` in the newest-first list
      have hmem : s ∈ pre ++ post := h.perm.subset (List.mem_append_right _ hs)
      have hpre : s ∈ pre := by
        rcases List.mem_append.mp hmem with hpre | hpost'
        · exact hpre
        · simp [hpost s hpost'] at hev
      exact (List.pairwise_append.mp hsorted).2.2 s hpre g List.mem_cons_self
    · exact h.oldest_first g hg s hs hev

end PruneOutcome

/-- With one round per snapshot and one more, the loop of `prune` removes some
    snapshots as `PruneOutcome` says, reports their ids, and deletes exactly those. -/
theorem pruneLoop_outcome {evictable : SnapshotMetadata → Bool} {maxCount maxBytes : Nat}
    {fuel : Nat} {store : SnapshotStore} {snapshots : List SnapshotMetadata}
    {removed : List String} (hsorted : snapshots.Pairwise SnapshotMetadata.NewerOrSame)
    (hfuel : snapshots.length < fuel) :
    ∃ gone rest, PruneOutcome evictable maxCount maxBytes snapshots gone rest ∧
      pruneLoop evictable maxCount maxBytes fuel store snapshots removed =
        (removed ++ gone.map SnapshotMetadata.id,
          store.deleteAll (gone.map SnapshotMetadata.id)) := by
  induction fuel generalizing store snapshots removed with
  | zero => omega
  | succ fuel ih =>
    by_cases hover : overLimits maxCount maxBytes snapshots = true
    · cases hpos : rposition evictable snapshots with
      | none =>
        refine ⟨[], snapshots, .stop (.inr (rposition_eq_none.mp hpos)), ?_⟩
        simp [pruneLoop, hover, hpos, SnapshotStore.deleteAll]
      | some i =>
        -- the round removes the snapshot `rposition` finds and runs on without it
        obtain ⟨pre, x, post, rfl, rfl, hx, hpost⟩ := rposition_split hpos
        have hsorted' : (pre ++ post).Pairwise SnapshotMetadata.NewerOrSame :=
          hsorted.sublist (List.Sublist.append_left (List.sublist_cons_self x post) pre)
        obtain ⟨gone, rest, hout, hloop⟩ : ∃ gone rest,
            PruneOutcome evictable maxCount maxBytes (pre ++ post) gone rest ∧
              pruneLoop evictable maxCount maxBytes fuel (store.delete x.id).2 (pre ++ post)
                  (removed ++ [x.id]) =
                (removed ++ [x.id] ++ gone.map SnapshotMetadata.id,
                  (store.delete x.id).2.deleteAll (gone.map SnapshotMetadata.id)) :=
          ih hsorted' (by simp at hfuel ⊢; omega)
        refine ⟨x :: gone, rest, hout.cons hsorted hx hpost, ?_⟩
        rw [pruneLoop, if_neg (by simp [hover]), hpos, Option.bind_some, remove_split]
        simp only [hloop, List.map_cons, List.append_assoc, List.singleton_append]
        rfl
    · refine ⟨[], snapshots, .stop (.inl (by simpa using hover)), ?_⟩
      simp [pruneLoop, hover, SnapshotStore.deleteAll]

/-- When the sizes of the snapshots add up to less than `2^64`, `prune` removes only
    snapshots that no marker names, oldest first, until the limits hold or every
    snapshot left is named by a marker; it reports the ids it removed and deletes
    exactly those snapshots. -/
theorem prune_outcome (home : SnapshotHome) (maxCount maxBytes : Nat)
    (hfits : snapshotSizeSum home.store.published < 2 ^ 64) :
    ∃ gone rest, PruneOutcome home.evictable maxCount maxBytes home.store.list gone rest ∧
      (WithinLimits maxCount maxBytes rest ∨ ∀ s ∈ rest, home.evictable s = false) ∧
      prune home maxCount maxBytes =
        (gone.map SnapshotMetadata.id, home.store.deleteAll (gone.map SnapshotMetadata.id)) := by
  obtain ⟨gone, rest, hout, hloop⟩ : ∃ gone rest,
      PruneOutcome home.evictable maxCount maxBytes home.store.list gone rest ∧
        pruneLoop home.evictable maxCount maxBytes (home.store.list.length + 1) home.store
            home.store.list [] =
          ([] ++ gone.map SnapshotMetadata.id, home.store.deleteAll (gone.map SnapshotMetadata.id)) :=
    pruneLoop_outcome home.store.list_sorted (Nat.lt_succ_self _)
  -- what is left is part of the listed snapshots, so its sizes do not wrap either
  have hlisted : snapshotSizeSum home.store.list = snapshotSizeSum home.store.published :=
    (home.store.list_perm.map SnapshotMetadata.sizeBytes).sum_eq
  have hrest : snapshotSizeSum rest < 2 ^ 64 :=
    lt_of_le_of_lt (snapshotSizeSum_le_of_perm hout.perm) (hlisted ▸ hfits)
  refine ⟨gone, rest, hout, ?_, by rw [prune, hloop, List.nil_append]⟩
  rcases hout.stopped with hwithin | hnamed
  · exact .inl (withinLimits_of_overLimits hrest hwithin)
  · exact .inr hnamed

/-! ## A reserved snapshot is pruned -/

def snapOld : ExecutionSnapshotId := ⟨"snap-old", by decide⟩

/-- Two published snapshots, `snap-new` created at 200 and `snap-old` created at 100, and
    one box directory, which holds no marker. -/
def twoSnapshotHome : SnapshotHome where
  store := ⟨"/home/u/.a3s/snapshots", [⟨"snap-new", 200, 1⟩, ⟨"snap-old", 100, 1⟩], by decide⟩
  boxEntries := ["/home/u/.a3s/boxes/box-1"]
  marker _ := none

/-- Pruning the two snapshots to one keeps `snap-new`, which is within the limit. -/
theorem two_snapshots_pruned_to_limit :
    snapshotSizeSum twoSnapshotHome.store.published < 2 ^ 64 ∧
      ∃ gone rest, PruneOutcome twoSnapshotHome.evictable 1 0 twoSnapshotHome.store.list gone rest ∧
        (WithinLimits 1 0 rest ∨ ∀ s ∈ rest, twoSnapshotHome.evictable s = false) ∧
        prune twoSnapshotHome 1 0 =
          (gone.map SnapshotMetadata.id, twoSnapshotHome.store.deleteAll (gone.map SnapshotMetadata.id)) :=
  have hfits : snapshotSizeSum twoSnapshotHome.store.published < 2 ^ 64 := by decide
  ⟨hfits, prune_outcome twoSnapshotHome 1 0 hfits⟩

/-- A managed execution reserved from `snap-old`: created and not yet started, so its box
    directory has no marker yet. -/
def reservedFromSnapshot : BoxRecord Unit Unit Unit :=
  { sampleRecord with
    boxDir := "/home/u/.a3s/boxes/box-1"
    managedExecution := some
      { sampleMetadata with request := { sampleRequest with rootfsSnapshotId := some snapOld } } }

/-- The reserved record is valid and `delete_snapshot` refuses `snap-old` as in use, yet
    `prune` with a limit of one snapshot deletes it. -/
theorem prune_removes_snapshot_in_use :
    validateManagedRecords unitResolve [reservedFromSnapshot] = .ok () ∧
      snapshotInUse twoSnapshotHome [reservedFromSnapshot] snapOld = true ∧
      deleteSnapshot twoSnapshotHome [reservedFromSnapshot] snapOld =
        .error ("execution conflict for snapshot-snap-old: " ++
          "filesystem snapshot is in use by an active execution") ∧
      prune twoSnapshotHome 1 0 =
        (["snap-old"], twoSnapshotHome.store.deleteAll ["snap-old"]) := by
  decide

end A3sBox.Runtime
