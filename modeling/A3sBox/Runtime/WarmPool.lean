import A3sBox.Lib.Fallible
import A3sBox.Lib.Runs

/-
  The warm pool of pre-booted VMs (`runtime/src/pool/warm_pool.rs`, with the min-idle
  arithmetic of `PoolScaler` in `runtime/src/pool/scaler.rs`).

  Model. A VM is a number, the order in which the pool booted it. The idle `Vec` is a
  list with its last element first, so `push` is `::` and `pop` takes the head. Every
  section the source runs under the idle mutex is one call of `step`. The callers'
  calls (`acquire`, `release`, `signal_shutdown`, `drain_idle`) interleave in any order
  with those of the maintenance loop, which wakes and evicts (`evict`), asks the
  autoscaler (`autoscale`), reads the idle count (`replenish`) and then joins the boots
  of its batch one at a time (`join`). A boot takes any time, so it is seen only when it
  is joined. Which VMs are past their TTL, what the scaler's window says and whether a
  boot succeeds are arguments of the calls. `held` (the VMs callers own), `destroyed`,
  `booted` and `drained` are not in the source: they record where every VM is.

  Proved:
  * `Inv.step`: every VM the pool booted is idle, held by a caller or destroyed, once;
    the idle list and the boots of the batch stay within `2 * max_size`; a pool drained
    after its shutdown signal has no idle VM. `Inv.reachable` carries it over every run
    from `start`;
  * `acquire_exclusive`: no VM is both idle and handed out, none is held by two
    callers, and `acquire` hands out a VM no caller holds;
  * `idle_le_twice_max_size`: the idle list never holds more than `2 * max_size` VMs;
  * `drained_pool_destroys_vms`: after `drain_idle` on a shut-down pool, every later run
    keeps the idle list empty and destroys every VM no caller holds;
  * `replenish_overfills_pool`: for every accepted configuration with `min_idle > 0`
    some run leaves `max_size + min_idle` VMs idle: the batch's deficit is computed
    before releases refill the list, and `join` pushes without looking at `max_size`.
-/

namespace A3sBox.Runtime

open A3sBox.Lib
open scoped List

/-- `PoolConfig`, with the one field of its `ScalingPolicy` that bounds the scaler. -/
structure PoolConfig where
  minIdle : Nat
  maxSize : Nat
  idleTtlSecs : Nat
  scalingEnabled : Bool
  maxMinIdle : Nat
deriving DecidableEq

/-- `PoolConfig::default()`. -/
def PoolConfig.default : PoolConfig := ⟨1, 5, 300, false, 0⟩

/-- Where the maintenance loop is: asleep in its `select!`, between the sections of a
    tick, joining a batch of boots of which `pending` still run, or returned. -/
inductive Phase
  | sleeping
  | evicted
  | scaled
  | joining (pending : Nat)
  | stopped
deriving DecidableEq

/-- The boots of the current batch not yet joined. -/
def Phase.pending : Phase → Nat
  | .joining pending => pending
  | _ => 0

/-- What `PoolScaler::evaluate` reads from its window: a miss rate above
    `scale_up_threshold`, below `scale_down_threshold`, or neither (also a cooldown or
    fewer than three events). -/
inductive Pressure
  | high
  | low
  | steady
deriving DecidableEq

structure WarmPool where
  idle : List Nat
  shutdown : Bool
  phase : Phase
  scalerMinIdle : Nat
  effectiveMinIdle : Nat
  held : List Nat
  destroyed : List Nat
  booted : Nat
  drained : Bool

/-- `BoxError::PoolError(message)`, as displayed. -/
def poolError (message : String) : String := s!"Pool error: {message}"

/-! ## The scaler's minimum -/

/-- `max_min_idle` of `PoolScaler::new`. -/
def scalerMaxMinIdle (config : PoolConfig) : Nat :=
  if config.maxMinIdle > 0 then min config.maxMinIdle config.maxSize else config.maxSize

/-- The `current_min_idle` that `PoolScaler::evaluate` leaves. -/
def evaluateMinIdle (pressure : Pressure) (current maxMinIdle : Nat) : Nat :=
  match pressure with
  | .high =>
    let newMin := min (current + 1) maxMinIdle
    if newMin > current then newMin else current
  | .low =>
    let newMin := max (current - 1) 1
    if newMin < current then newMin else current
  | .steady => current

/-! ## The callers -/

/-- `WarmPool::acquire`: pop an idle VM, or boot one on demand. -/
def acquire (s : WarmPool) : Nat × WarmPool :=
  match s.idle with
  | vm :: rest => (vm, { s with idle := rest, held := vm :: s.held })
  | [] =>
    let vm := s.booted
    (vm, { s with booted := vm + 1, held := vm :: s.held })

/-- `WarmPool::release`: a pool shutting down or at capacity destroys the VM. -/
def release (config : PoolConfig) (vm : Nat) (s : WarmPool) : WarmPool :=
  let s := { s with held := s.held.erase vm }
  if s.shutdown then { s with destroyed := vm :: s.destroyed }
  else if s.idle.length ≥ config.maxSize then { s with destroyed := vm :: s.destroyed }
  else { s with idle := vm :: s.idle }

/-- `WarmPool::signal_shutdown`. -/
def signalShutdown (s : WarmPool) : WarmPool := { s with shutdown := true }

/-- `WarmPool::drain_idle`; `drained` records a drain after the shutdown signal. -/
def drainIdle (s : WarmPool) : WarmPool :=
  { s with idle := [], destroyed := s.idle ++ s.destroyed, drained := s.drained || s.shutdown }

/-- Destroy the idle VMs that `p` selects and keep the others in their order. -/
def destroyIdle (p : Nat → Bool) (s : WarmPool) : WarmPool :=
  { s with idle := s.idle.filter (fun vm => !p vm), destroyed := s.idle.filter p ++ s.destroyed }

/-- `evict_expired_static`; `expired` says which VMs are past the TTL. -/
def evictExpired (expired : Nat → Bool) (s : WarmPool) : WarmPool := destroyIdle expired s

/-- `remove_idle_vms`. -/
def removeIdleVms (ids : List Nat) (s : WarmPool) : WarmPool :=
  destroyIdle (fun vm => ids.contains vm) s

/-! ## The maintenance loop -/

/-- A tick wakes the loop from its `select!`; it evicts when `idle_ttl_secs > 0`. -/
def evict (config : PoolConfig) (expired : Nat → Bool) (s : WarmPool) : WarmPool :=
  match s.phase with
  | .sleeping =>
    let s := if config.idleTtlSecs > 0 then evictExpired expired s else s
    { s with phase := .evicted }
  | _ => s

/-- The autoscaler's step of a tick, when scaling is enabled. -/
def autoscale (config : PoolConfig) (pressure : Pressure) (s : WarmPool) : WarmPool :=
  match s.phase with
  | .evicted =>
    let s :=
      if config.scalingEnabled then
        let current := evaluateMinIdle pressure s.scalerMinIdle (scalerMaxMinIdle config)
        { s with scalerMinIdle := current, effectiveMinIdle := current }
      else s
    { s with phase := .scaled }
  | _ => s

/-- The replenish step of a tick: below the effective minimum it spawns the missing
    boots as one batch. -/
def replenish (s : WarmPool) : WarmPool :=
  match s.phase with
  | .scaled =>
    let current := s.idle.length
    if current < s.effectiveMinIdle then { s with phase := .joining (s.effectiveMinIdle - current) }
    else { s with phase := .sleeping }
  | _ => s

/-- One boot of the batch is joined. A booted VM is pushed, or destroyed when the pool
    is shutting down; a failed boot is only logged. -/
def join (booted : Bool) (s : WarmPool) : WarmPool :=
  match s.phase with
  | .joining (pending + 1) =>
    let s := { s with phase := if pending = 0 then .sleeping else .joining pending }
    if booted then
      let vm := s.booted
      let s := { s with booted := vm + 1 }
      if s.shutdown then { s with destroyed := vm :: s.destroyed }
      else { s with idle := vm :: s.idle }
    else s
  | _ => s

/-- The loop sees the shutdown signal in its `select!` and returns. -/
def stop (s : WarmPool) : WarmPool :=
  match s.phase with
  | .sleeping => if s.shutdown then { s with phase := .stopped } else s
  | _ => s

/-- The sections that interleave. -/
inductive PoolCall
  | acquire
  | release (vm : Nat)
  | signalShutdown
  | drainIdle
  | evict (expired : Nat → Bool)
  | autoscale (pressure : Pressure)
  | replenish
  | join (booted : Bool)
  | stop

/-- One section. `release` takes the `VmManager` by value, so a caller releases a VM it
    holds. -/
def step (config : PoolConfig) (s : WarmPool) : PoolCall → WarmPool
  | .acquire => (acquire s).2
  | .release vm => if vm ∈ s.held then release config vm s else s
  | .signalShutdown => signalShutdown s
  | .drainIdle => drainIdle s
  | .evict expired => evict config expired s
  | .autoscale pressure => autoscale config pressure s
  | .replenish => replenish s
  | .join booted => join booted s
  | .stop => stop s

/-! ## Start -/

/-- The pool before its first fill; the loop's `effective_min_idle` and the scaler
    start at `min_idle`. -/
def initial (config : PoolConfig) : WarmPool :=
  { idle := [], shutdown := false, phase := .sleeping, scalerMinIdle := config.minIdle,
    effectiveMinIdle := config.minIdle, held := [], destroyed := [], booted := 0,
    drained := false }

/-- The loop of `fill_to_min` over its `needed` boots; `boots vm` says whether the boot
    that would become `vm` succeeds. A failed boot rolls back the VMs this fill added. -/
def fillToMin (boots : Nat → Bool) : Nat → List Nat → WarmPool → WarmPool
  | 0, _, s => s
  | needed + 1, added, s =>
    if boots s.booted then
      let vm := s.booted
      fillToMin boots needed (vm :: added) { s with idle := vm :: s.idle, booted := vm + 1 }
    else removeIdleVms added s

/-- `WarmPool::start`: check the configuration, then fill to `min_idle`. -/
def start (config : PoolConfig) (boots : Nat → Bool) : Except String WarmPool := do
  let minIdle := config.minIdle
  let maxSize := config.maxSize
  ensure (maxSize != 0) (poolError "Pool max_size must be greater than 0")
  ensure (!(minIdle > maxSize))
    (poolError s!"Pool min_idle ({minIdle}) cannot exceed max_size ({maxSize})")
  let s := initial config
  pure (fillToMin boots (minIdle - s.idle.length) [] s)

/-! ## Where the VMs are -/

section Custody

variable {s t : WarmPool}

/-- The VMs in the pool's custody: idle, held by callers, destroyed. -/
def vmsOf (s : WarmPool) : List Nat := s.idle ++ s.held ++ s.destroyed

/-- Every VM the pool booted is in exactly one place. -/
def Custody (s : WarmPool) : Prop := (vmsOf s).Perm (List.range s.booted)

theorem Custody.of_perm (h : Custody s) (hperm : (vmsOf t).Perm (vmsOf s))
    (hbooted : t.booted = s.booted) : Custody t := by
  unfold Custody
  rw [hbooted]
  exact hperm.trans h

theorem Custody.of_boot (h : Custody s) (hperm : (vmsOf t).Perm (s.booted :: vmsOf s))
    (hbooted : t.booted = s.booted + 1) : Custody t := by
  unfold Custody
  rw [hbooted, List.range_succ]
  exact hperm.trans ((h.cons _).trans (List.perm_append_singleton _ _).symm)

theorem Custody.nodup (h : Custody s) : (vmsOf s).Nodup :=
  h.nodup_iff.mpr List.nodup_range

theorem Custody.mem_iff (h : Custody s) {vm : Nat} : vm ∈ vmsOf s ↔ vm < s.booted := by
  rw [List.Perm.mem_iff h, List.mem_range]

theorem Custody.acquire (h : Custody s) : Custody (acquire s).2 := by
  unfold Runtime.acquire
  cases hidle : s.idle with
  | cons vm rest =>
    refine h.of_perm ?_ rfl
    rw [vmsOf, vmsOf, hidle]
    -- the popped VM moves from the front of the idle list to the front of `held`
    exact List.perm_middle.append_right _
  | nil =>
    refine h.of_boot ?_ rfl
    rw [vmsOf, vmsOf, hidle]
    exact List.perm_middle.append_right _

/-- A VM that leaves `held` is the first of the others. -/
theorem perm_erase_held {vm : Nat} (hvm : vm ∈ s.held) :
    ((vm :: (s.idle ++ s.held.erase vm)) ++ s.destroyed).Perm (vmsOf s) :=
  (List.perm_middle.symm.trans ((List.perm_cons_erase hvm).symm.append_left _)).append_right _

theorem Custody.release (h : Custody s) (config : PoolConfig) {vm : Nat} (hvm : vm ∈ s.held) :
    Custody (release config vm s) := by
  have hdestroy : (s.idle ++ s.held.erase vm ++ vm :: s.destroyed).Perm
      ((vm :: (s.idle ++ s.held.erase vm)) ++ s.destroyed) := List.perm_middle
  unfold Runtime.release
  dsimp only
  split
  · exact h.of_perm (hdestroy.trans (perm_erase_held hvm)) rfl
  · split
    · exact h.of_perm (hdestroy.trans (perm_erase_held hvm)) rfl
    · exact h.of_perm (perm_erase_held hvm) rfl

theorem Custody.drainIdle (h : Custody s) : Custody (drainIdle s) := by
  refine h.of_perm ?_ rfl
  unfold vmsOf Runtime.drainIdle
  dsimp only
  rw [List.nil_append, ← List.append_assoc]
  exact List.perm_append_comm.append_right _

theorem Custody.destroyIdle (h : Custody s) (p : Nat → Bool) : Custody (destroyIdle p s) := by
  refine h.of_perm ?_ rfl
  unfold vmsOf Runtime.destroyIdle
  dsimp only
  -- the kept and the destroyed VMs are the idle list again
  have hsplit := (List.filter_append_perm p s.idle).append_right (s.held ++ s.destroyed)
  calc s.idle.filter (fun vm => !p vm) ++ s.held ++ (s.idle.filter p ++ s.destroyed)
      = s.idle.filter (fun vm => !p vm) ++ (s.held ++ (s.idle.filter p ++ s.destroyed)) :=
        List.append_assoc _ _ _
    _ ~ s.idle.filter (fun vm => !p vm) ++ (s.idle.filter p ++ (s.held ++ s.destroyed)) :=
        (List.perm_append_comm_assoc _ _ _).append_left _
    _ = s.idle.filter (fun vm => !p vm) ++ s.idle.filter p ++ (s.held ++ s.destroyed) :=
        (List.append_assoc _ _ _).symm
    _ ~ s.idle.filter p ++ s.idle.filter (fun vm => !p vm) ++ (s.held ++ s.destroyed) :=
        List.perm_append_comm.append_right _
    _ ~ s.idle ++ (s.held ++ s.destroyed) := hsplit
    _ = s.idle ++ s.held ++ s.destroyed := (List.append_assoc _ _ _).symm

/-- A booted VM pushed onto the idle list. -/
theorem Custody.push (h : Custody s) (hidle : t.idle = s.booted :: s.idle) (hheld : t.held = s.held)
    (hdestroyed : t.destroyed = s.destroyed) (hbooted : t.booted = s.booted + 1) : Custody t := by
  refine h.of_boot ?_ hbooted
  rw [vmsOf, vmsOf, hidle, hheld, hdestroyed]
  rfl

/-- A booted VM destroyed at once. -/
theorem Custody.discard (h : Custody s) (hidle : t.idle = s.idle) (hheld : t.held = s.held)
    (hdestroyed : t.destroyed = s.booted :: s.destroyed) (hbooted : t.booted = s.booted + 1) :
    Custody t := by
  refine h.of_boot ?_ hbooted
  rw [vmsOf, vmsOf, hidle, hheld, hdestroyed]
  exact List.perm_middle

end Custody

/-! ## What one section changes -/

section Sections

variable {config : PoolConfig} {s t : WarmPool}

/-- What a caller's section leaves of the loop's state. -/
structure LoopFrame (s t : WarmPool) : Prop where
  phase : t.phase = s.phase
  scalerMinIdle : t.scalerMinIdle = s.scalerMinIdle
  effectiveMinIdle : t.effectiveMinIdle = s.effectiveMinIdle
  shutdown : t.shutdown = s.shutdown
  drained : t.drained = s.drained

theorem LoopFrame.refl (s : WarmPool) : LoopFrame s s := ⟨rfl, rfl, rfl, rfl, rfl⟩

theorem LoopFrame.trans {u : WarmPool} (h₁ : LoopFrame s t) (h₂ : LoopFrame t u) : LoopFrame s u :=
  ⟨h₂.phase.trans h₁.phase, h₂.scalerMinIdle.trans h₁.scalerMinIdle,
    h₂.effectiveMinIdle.trans h₁.effectiveMinIdle, h₂.shutdown.trans h₁.shutdown,
    h₂.drained.trans h₁.drained⟩

theorem acquire_loopFrame (s : WarmPool) : LoopFrame s (acquire s).2 := by
  unfold acquire
  split <;> exact ⟨rfl, rfl, rfl, rfl, rfl⟩

theorem acquire_idle (s : WarmPool) : (acquire s).2.idle = s.idle.tail := by
  unfold acquire
  split <;> simp_all

theorem acquire_held (s : WarmPool) : (acquire s).2.held = (acquire s).1 :: s.held := by
  unfold acquire
  split <;> rfl

theorem release_loopFrame (config : PoolConfig) (vm : Nat) (s : WarmPool) :
    LoopFrame s (release config vm s) := by
  unfold release
  dsimp only
  split
  · exact ⟨rfl, rfl, rfl, rfl, rfl⟩
  · split <;> exact ⟨rfl, rfl, rfl, rfl, rfl⟩

/-- `release` pushes the VM only on a pool that runs and has room. -/
theorem release_idle (config : PoolConfig) (vm : Nat) (s : WarmPool) :
    (release config vm s).idle = s.idle ∨
      ((release config vm s).idle = vm :: s.idle ∧ s.shutdown = false ∧
        s.idle.length < config.maxSize) := by
  unfold release
  dsimp only
  split
  · exact .inl rfl
  · rename_i hshutdown
    split
    · exact .inl rfl
    · rename_i hfull
      exact .inr ⟨rfl, by simpa using hshutdown, by omega⟩

theorem release_held (config : PoolConfig) (vm : Nat) (s : WarmPool) :
    (release config vm s).held = s.held.erase vm := by
  unfold release
  dsimp only
  split
  · rfl
  · split <;> rfl

theorem destroyIdle_loopFrame (p : Nat → Bool) (s : WarmPool) : LoopFrame s (destroyIdle p s) :=
  ⟨rfl, rfl, rfl, rfl, rfl⟩

theorem pending_ite_sleeping (n : Nat) :
    (if n = 0 then Phase.sleeping else Phase.joining n).pending = n := by
  split
  · rename_i hn
    rw [hn]
    rfl
  · rfl

theorem evaluateMinIdle_le (pressure : Pressure) (current maxMinIdle : Nat) :
    evaluateMinIdle pressure current maxMinIdle ≤ max current maxMinIdle := by
  unfold evaluateMinIdle
  cases pressure with
  | high =>
    dsimp only
    split <;> omega
  | low =>
    dsimp only
    split <;> omega
  | steady => exact le_max_left _ _

theorem scalerMaxMinIdle_le (config : PoolConfig) : scalerMaxMinIdle config ≤ config.maxSize := by
  unfold scalerMaxMinIdle
  split <;> omega

end Sections

/-! ## The invariant of every run -/

section Invariant

variable {config : PoolConfig} {s t : WarmPool}

/-- What holds across every interleaving. The scaler's minimum and the batch stay within
    `max_size`, so the idle list and the boots of the batch stay within `2 * max_size`;
    a pool drained after its shutdown signal has no idle VM. -/
structure Inv (config : PoolConfig) (s : WarmPool) : Prop where
  custody : Custody s
  scaler_le : s.scalerMinIdle ≤ config.maxSize
  effective_le : s.effectiveMinIdle ≤ config.maxSize
  pending_le : s.phase.pending ≤ config.maxSize
  idle_le : s.idle.length + s.phase.pending ≤ 2 * config.maxSize
  drained_empty : s.drained = true → s.shutdown = true ∧ s.idle = []

/-- A caller's section keeps the invariant when it keeps the custody, does not grow the
    idle list past `max_size`, and adds nothing to a drained pool. -/
theorem Inv.of_loopFrame (h : Inv config s) (hframe : LoopFrame s t) (hcustody : Custody t)
    (hidle : t.idle.length ≤ s.idle.length ∨ t.idle.length ≤ config.maxSize)
    (hdrained : s.drained = true → t.idle = []) : Inv config t where
  custody := hcustody
  scaler_le := by
    rw [hframe.scalerMinIdle]
    exact h.scaler_le
  effective_le := by
    rw [hframe.effectiveMinIdle]
    exact h.effective_le
  pending_le := by
    rw [hframe.phase]
    exact h.pending_le
  idle_le := by
    have hle := h.idle_le
    have hpending := h.pending_le
    rw [hframe.phase]
    omega
  drained_empty := by
    intro hd
    rw [hframe.drained] at hd
    rw [hframe.shutdown]
    exact ⟨(h.drained_empty hd).1, hdrained hd⟩

/-- The loop may move on to a phase with no more boots pending. -/
theorem Inv.withPhase (h : Inv config s) {phase : Phase} (hp : phase.pending ≤ s.phase.pending) :
    Inv config { s with phase := phase } where
  custody := h.custody
  scaler_le := h.scaler_le
  effective_le := h.effective_le
  pending_le := le_trans hp h.pending_le
  idle_le := by
    have hle := h.idle_le
    dsimp only
    omega
  drained_empty := h.drained_empty

theorem Inv.acquire (h : Inv config s) : Inv config (acquire s).2 := by
  refine h.of_loopFrame (acquire_loopFrame s) h.custody.acquire (.inl ?_) ?_
  · rw [acquire_idle, List.length_tail]
    omega
  · intro hd
    rw [acquire_idle, (h.drained_empty hd).2]
    rfl

theorem Inv.release (h : Inv config s) {vm : Nat} (hvm : vm ∈ s.held) :
    Inv config (release config vm s) := by
  refine h.of_loopFrame (release_loopFrame config vm s) (h.custody.release config hvm) ?_ ?_
  · rcases release_idle config vm s with hsame | ⟨hpush, -, hroom⟩
    · rw [hsame]
      exact .inl le_rfl
    · rw [hpush, List.length_cons]
      exact .inr hroom
  · -- a drained pool has had its shutdown signal, so the VM is destroyed
    intro hd
    obtain ⟨hshutdown, hempty⟩ := h.drained_empty hd
    rcases release_idle config vm s with hsame | ⟨-, hrunning, -⟩
    · rw [hsame, hempty]
    · rw [hshutdown] at hrunning
      cases hrunning

theorem Inv.signalShutdown (h : Inv config s) : Inv config (signalShutdown s) where
  custody := h.custody
  scaler_le := h.scaler_le
  effective_le := h.effective_le
  pending_le := h.pending_le
  idle_le := h.idle_le
  drained_empty := fun hd => ⟨rfl, (h.drained_empty hd).2⟩

theorem Inv.drainIdle (h : Inv config s) : Inv config (drainIdle s) where
  custody := h.custody.drainIdle
  scaler_le := h.scaler_le
  effective_le := h.effective_le
  pending_le := h.pending_le
  idle_le := by
    have hle := h.idle_le
    have hpending := h.pending_le
    show 0 + s.phase.pending ≤ 2 * config.maxSize
    omega
  drained_empty := by
    intro hd
    refine ⟨?_, rfl⟩
    rcases Bool.or_eq_true_iff.mp hd with hdrained | hshutdown
    · exact (h.drained_empty hdrained).1
    · exact hshutdown

theorem Inv.destroyIdle (h : Inv config s) (p : Nat → Bool) : Inv config (destroyIdle p s) := by
  refine h.of_loopFrame (destroyIdle_loopFrame p s) (h.custody.destroyIdle p)
    (.inl (List.length_filter_le _ _)) ?_
  intro hd
  show s.idle.filter (fun vm => !p vm) = []
  rw [(h.drained_empty hd).2]
  rfl

theorem Inv.evict (h : Inv config s) (expired : Nat → Bool) : Inv config (evict config expired s) := by
  unfold Runtime.evict
  split
  · have hevicted : Inv config (if config.idleTtlSecs > 0 then evictExpired expired s else s) := by
      split
      · exact h.destroyIdle expired
      · exact h
    exact hevicted.withPhase (Nat.zero_le _)
  · exact h

theorem Inv.autoscale (h : Inv config s) (pressure : Pressure) :
    Inv config (autoscale config pressure s) := by
  unfold Runtime.autoscale
  split
  · have hscaled : Inv config (if config.scalingEnabled then
        { s with scalerMinIdle := evaluateMinIdle pressure s.scalerMinIdle (scalerMaxMinIdle config),
                 effectiveMinIdle := evaluateMinIdle pressure s.scalerMinIdle (scalerMaxMinIdle config) }
        else s) := by
      split
      · -- the new minimum is at most the old one or the scaler's cap, both within `max_size`
        have hle := evaluateMinIdle_le pressure s.scalerMinIdle (scalerMaxMinIdle config)
        have hcap := scalerMaxMinIdle_le config
        have hscaler := h.scaler_le
        exact { custody := h.custody, scaler_le := by dsimp only; omega,
                effective_le := by dsimp only; omega, pending_le := h.pending_le,
                idle_le := h.idle_le, drained_empty := h.drained_empty }
      · exact h
    exact hscaled.withPhase (Nat.zero_le _)
  · exact h

theorem Inv.replenish (h : Inv config s) : Inv config (replenish s) := by
  unfold Runtime.replenish
  split
  · rename_i hscaled
    dsimp only
    split
    · -- the batch is the deficit below the effective minimum, so it fits within `max_size`
      rename_i hbelow
      have heffective := h.effective_le
      exact { custody := h.custody, scaler_le := h.scaler_le, effective_le := h.effective_le,
              pending_le := by show s.effectiveMinIdle - s.idle.length ≤ config.maxSize; omega,
              idle_le := by
                show s.idle.length + (s.effectiveMinIdle - s.idle.length) ≤ 2 * config.maxSize
                omega,
              drained_empty := h.drained_empty }
    · exact h.withPhase (Nat.zero_le _)
  · exact h

theorem Inv.join (h : Inv config s) (booted : Bool) : Inv config (join booted s) := by
  unfold Runtime.join
  split
  · rename_i pending hjoining
    have hp := h.pending_le
    have hle := h.idle_le
    rw [hjoining] at hp hle
    simp only [Phase.pending] at hp hle
    have hnext := pending_ite_sleeping pending
    cases booted with
    | false =>
      exact h.withPhase (by rw [hnext, hjoining]; exact Nat.le_succ _)
    | true =>
      rw [if_pos rfl]
      dsimp only
      by_cases hshutdown : s.shutdown = true
      · -- shutting down: the booted VM is destroyed
        rw [if_pos hshutdown]
        exact { custody := h.custody.discard rfl rfl rfl rfl, scaler_le := h.scaler_le,
                effective_le := h.effective_le,
                pending_le := by rw [hnext]; exact le_of_lt hp,
                idle_le := by
                  show s.idle.length + (if pending = 0 then Phase.sleeping else Phase.joining pending).pending ≤
                    2 * config.maxSize
                  rw [hnext]
                  omega,
                drained_empty := h.drained_empty }
      · -- running: the booted VM is pushed, and the batch shrinks by one
        rw [if_neg hshutdown]
        exact { custody := h.custody.push rfl rfl rfl rfl, scaler_le := h.scaler_le,
                effective_le := h.effective_le,
                pending_le := by rw [hnext]; exact le_of_lt hp,
                idle_le := by
                  show (s.booted :: s.idle).length +
                    (if pending = 0 then Phase.sleeping else Phase.joining pending).pending ≤
                      2 * config.maxSize
                  rw [hnext, List.length_cons]
                  omega,
                drained_empty := fun hd => absurd (h.drained_empty hd).1 hshutdown }
  · exact h

theorem Inv.stop (h : Inv config s) : Inv config (stop s) := by
  unfold Runtime.stop
  split
  · split
    · exact h.withPhase (Nat.zero_le _)
    · exact h
  · exact h

/-- Every section keeps the invariant. -/
theorem Inv.step (h : Inv config s) (c : PoolCall) : Inv config (step config s c) := by
  cases c with
  | acquire => exact h.acquire
  | release vm =>
    show Inv config (if vm ∈ s.held then Runtime.release config vm s else s)
    split
    · rename_i hvm
      exact h.release hvm
    · exact h
  | signalShutdown => exact h.signalShutdown
  | drainIdle => exact h.drainIdle
  | evict expired => exact h.evict expired
  | autoscale pressure => exact h.autoscale pressure
  | replenish => exact h.replenish
  | join booted => exact h.join booted
  | stop => exact h.stop

/-- `start` accepts exactly a positive `max_size` that `min_idle` does not exceed, and
    returns the first fill. -/
theorem start_eq_ok {boots : Nat → Bool} (h : start config boots = .ok s) :
    config.maxSize ≠ 0 ∧ config.minIdle ≤ config.maxSize ∧
      s = fillToMin boots config.minIdle [] (initial config) := by
  unfold start at h
  obtain ⟨hmax, h⟩ := bind_unit_eq_ok.mp h
  obtain ⟨hmin, h⟩ := bind_unit_eq_ok.mp h
  have hmax' := ensure_eq_ok.mp hmax
  have hmin' := ensure_eq_ok.mp hmin
  simp only [bne_iff_ne, ne_eq, gt_iff_lt, Bool.not_eq_eq_eq_not, Bool.not_true,
    decide_eq_false_iff_not, Nat.not_lt] at hmax' hmin'
  exact ⟨hmax', hmin', (pure_eq_ok.mp h).symm⟩

/-- The default configuration is accepted, and its first fill boots one VM. -/
theorem start_default :
    start PoolConfig.default (fun _ => true) =
      .ok (fillToMin (fun _ => true) 1 [] (initial PoolConfig.default)) := rfl

theorem Inv.initial (hmin : config.minIdle ≤ config.maxSize) : Inv config (initial config) where
  custody := List.Perm.refl _
  scaler_le := hmin
  effective_le := hmin
  pending_le := Nat.zero_le _
  idle_le := Nat.zero_le _
  drained_empty := fun hd => nomatch hd

/-- The first fill keeps the invariant while it has room for its boots. -/
theorem Inv.fillToMin {boots : Nat → Bool} (n : Nat) (added : List Nat) (h : Inv config s)
    (hd : s.drained = false) (hroom : s.idle.length + n ≤ config.maxSize) :
    Inv config (fillToMin boots n added s) := by
  induction n generalizing added s with
  | zero => exact h
  | succ n ih =>
    unfold Runtime.fillToMin
    split
    · -- a boot succeeds: its VM is pushed, within `max_size`
      have hpushed : Inv config { s with idle := s.booted :: s.idle, booted := s.booted + 1 } :=
        h.of_loopFrame ⟨rfl, rfl, rfl, rfl, rfl⟩ (h.custody.push rfl rfl rfl rfl)
          (.inr (by rw [List.length_cons]; omega)) (fun hd' => absurd hd' (by rw [hd]; decide))
      exact ih _ hpushed hd (by rw [List.length_cons]; omega)
    · exact h.destroyIdle _

theorem Inv.start {boots : Nat → Bool} (h : start config boots = .ok s) : Inv config s := by
  obtain ⟨-, hmin, rfl⟩ := start_eq_ok h
  exact (Inv.initial hmin).fillToMin _ _ rfl (by show 0 + config.minIdle ≤ config.maxSize; omega)

/-- The invariant holds on every run from `start`. -/
theorem Inv.reachable {boots : Nat → Bool} {s₀ : WarmPool}
    (hstart : Runtime.start config boots = .ok s₀) (hreach : Reachable (Runtime.step config) s₀ s) :
    Inv config s :=
  Reachable.inv (Inv config) (Inv.start hstart) (fun _ c hs => hs.step c) hreach

end Invariant

/-! ## Handing out VMs and draining -/

section Properties

variable {config : PoolConfig} {boots : Nat → Bool} {s₀ s t : WarmPool}

/-- `acquire` hands out a VM that no caller holds and that is no longer idle. -/
theorem Custody.acquire_fresh (h : Custody s) :
    (Runtime.acquire s).1 ∉ s.held ∧ (Runtime.acquire s).1 ∉ (Runtime.acquire s).2.idle := by
  have hnodup := h.nodup
  unfold Runtime.acquire
  cases hidle : s.idle with
  | cons vm rest =>
    rw [vmsOf, hidle] at hnodup
    -- the popped VM stands once in `vm :: rest ++ held ++ destroyed`
    have hvm := (List.nodup_cons.mp hnodup).1
    exact ⟨fun hmem => hvm (by simp [hmem]), fun hmem => hvm (by simp [hmem])⟩
  | nil =>
    -- a VM booted on demand is new
    refine ⟨fun hmem => ?_, fun hmem => nomatch hmem⟩
    have hlt := h.mem_iff.mp (show s.booted ∈ vmsOf s by simp [vmsOf, hmem])
    exact lt_irrefl _ hlt

theorem acquire_exclusive (hstart : start config boots = .ok s₀)
    (hreach : Reachable (step config) s₀ s) :
    (s.idle ++ s.held).Nodup ∧ (acquire s).1 ∉ s.held ∧ (acquire s).1 ∉ (acquire s).2.idle := by
  have hcustody := (Inv.reachable hstart hreach).custody
  exact ⟨hcustody.nodup.sublist (List.sublist_append_left _ _), hcustody.acquire_fresh⟩

theorem default_pool_acquire_exclusive :
    ∃ s₀, start PoolConfig.default (fun _ => true) = .ok s₀ ∧ (s₀.idle ++ s₀.held).Nodup ∧
      (acquire s₀).1 ∉ s₀.held ∧ (acquire s₀).1 ∉ (acquire s₀).2.idle :=
  ⟨_, start_default, acquire_exclusive start_default .init⟩

theorem idle_le_twice_max_size (hstart : start config boots = .ok s₀)
    (hreach : Reachable (step config) s₀ s) : s.idle.length ≤ 2 * config.maxSize := by
  have hle := (Inv.reachable hstart hreach).idle_le
  omega

theorem default_pool_idle_le :
    ∃ s₀, start PoolConfig.default (fun _ => true) = .ok s₀ ∧ s₀.idle.length ≤ 10 :=
  ⟨_, start_default, idle_le_twice_max_size start_default .init⟩

/-- Only `drain_idle` sets `drained`, and nothing clears it. -/
theorem step_drained (config : PoolConfig) (h : s.drained = true) (c : PoolCall) :
    (step config s c).drained = true := by
  cases c with
  | acquire =>
    show (acquire s).2.drained = true
    rw [(acquire_loopFrame s).drained]
    exact h
  | release vm =>
    show (if vm ∈ s.held then release config vm s else s).drained = true
    split
    · rw [(release_loopFrame config vm s).drained]
      exact h
    · exact h
  | signalShutdown => exact h
  | drainIdle =>
    show (s.drained || s.shutdown) = true
    rw [h, Bool.true_or]
  | evict expired =>
    show (evict config expired s).drained = true
    unfold Runtime.evict
    split
    · dsimp only
      split <;> exact h
    · exact h
  | autoscale pressure =>
    show (autoscale config pressure s).drained = true
    unfold Runtime.autoscale
    split
    · dsimp only
      split <;> exact h
    · exact h
  | replenish =>
    show (replenish s).drained = true
    unfold Runtime.replenish
    split
    · dsimp only
      split <;> exact h
    · exact h
  | join booted =>
    show (join booted s).drained = true
    unfold Runtime.join
    split
    · cases booted with
      | false => exact h
      | true =>
        rw [if_pos rfl]
        dsimp only
        by_cases hshutdown : s.shutdown = true
        · rw [if_pos hshutdown]
          exact h
        · rw [if_neg hshutdown]
          exact h
    · exact h
  | stop =>
    show (stop s).drained = true
    unfold Runtime.stop
    split
    · split <;> exact h
    · exact h

theorem drained_pool_destroys_vms (hstart : start config boots = .ok s₀)
    (hreach : Reachable (step config) s₀ s) (hd : s.drained = true)
    (hafter : Reachable (step config) s t) :
    t.idle = [] ∧ ∀ vm < t.booted, vm ∉ t.held → vm ∈ t.destroyed := by
  have hdrained : t.drained = true :=
    Reachable.inv (fun u => u.drained = true) hd (fun _ c hu => step_drained config hu c) hafter
  have hinv := Inv.reachable hstart (hreach.trans hafter)
  have hempty := (hinv.drained_empty hdrained).2
  refine ⟨hempty, fun vm hvm hheld => ?_⟩
  -- every booted VM is idle, held or destroyed, and none is idle
  have hmem := hinv.custody.mem_iff.mpr hvm
  rw [vmsOf, hempty, List.nil_append, List.mem_append] at hmem
  exact hmem.resolve_left hheld

theorem default_pool_drained :
    ∃ s₀ s, start PoolConfig.default (fun _ => true) = .ok s₀ ∧
      Reachable (step PoolConfig.default) s₀ s ∧ s.drained = true ∧
      s.idle = [] ∧ ∀ vm < s.booted, vm ∉ s.held → vm ∈ s.destroyed := by
  have hreach : Reachable (step PoolConfig.default) _
      (step PoolConfig.default (step PoolConfig.default
        (fillToMin (fun _ => true) 1 [] (initial PoolConfig.default)) .signalShutdown) .drainIdle) :=
    (Reachable.init.step _).step _
  have hd : (step PoolConfig.default (step PoolConfig.default
      (fillToMin (fun _ => true) 1 [] (initial PoolConfig.default)) .signalShutdown)
        .drainIdle).drained = true := rfl
  exact ⟨_, _, start_default, hreach, hd, drained_pool_destroys_vms start_default hreach hd .init⟩

end Properties

/-! ## A batch that overfills the pool

  The run behind `replenish_overfills_pool`: callers take `max_size` VMs, a tick finds
  the idle list empty and spawns `min_idle` boots, the callers release their VMs into
  the list while the boots run, and then every boot is pushed. -/

section Overfill

variable {config : PoolConfig} {s : WarmPool}

theorem fillToMin_boots (n : Nat) (added : List Nat) (s : WarmPool) :
    LoopFrame s (fillToMin (fun _ => true) n added s) ∧
      (fillToMin (fun _ => true) n added s).idle.length = s.idle.length + n ∧
      (fillToMin (fun _ => true) n added s).held = s.held := by
  induction n generalizing added s with
  | zero => exact ⟨LoopFrame.refl s, rfl, rfl⟩
  | succ n ih =>
    obtain ⟨hframe, hidle, hheld⟩ := ih (s.booted :: added)
      { s with idle := s.booted :: s.idle, booted := s.booted + 1 }
    have hpush : LoopFrame s { s with idle := s.booted :: s.idle, booted := s.booted + 1 } :=
      ⟨rfl, rfl, rfl, rfl, rfl⟩
    rw [fillToMin, if_pos rfl]
    dsimp only
    refine ⟨hpush.trans hframe, ?_, hheld⟩
    rw [hidle, List.length_cons]
    omega

theorem acquire_replicate (config : PoolConfig) (k : Nat) (s : WarmPool) :
    LoopFrame s ((List.replicate k PoolCall.acquire).foldl (step config) s) ∧
      ((List.replicate k PoolCall.acquire).foldl (step config) s).idle = s.idle.drop k ∧
      ((List.replicate k PoolCall.acquire).foldl (step config) s).held.length = s.held.length + k := by
  induction k generalizing s with
  | zero => exact ⟨LoopFrame.refl s, rfl, rfl⟩
  | succ k ih =>
    obtain ⟨hframe, hidle, hheld⟩ := ih (acquire s).2
    rw [List.replicate_succ, List.foldl_cons]
    refine ⟨(acquire_loopFrame s).trans hframe, ?_, ?_⟩
    · rw [show step config s .acquire = (acquire s).2 from rfl, hidle, acquire_idle, List.drop_tail]
    · rw [show step config s .acquire = (acquire s).2 from rfl, hheld, acquire_held, List.length_cons]
      omega

/-- A tick on an empty idle list spawns a batch of the effective minimum. -/
theorem tick_spawns_batch (hphase : s.phase = .sleeping) (hidle : s.idle = [])
    (hscaler : s.scalerMinIdle = s.effectiveMinIdle) (hpos : 0 < s.effectiveMinIdle) :
    step config (step config (step config s (.evict fun _ => false)) (.autoscale .steady)) .replenish =
      { s with phase := .joining s.effectiveMinIdle } := by
  -- nothing is expired and the scaler holds, so only the phase moves
  have hevict : evict config (fun _ => false) s = { s with phase := .evicted } := by
    unfold Runtime.evict
    rw [hphase]
    dsimp only
    split
    · unfold evictExpired destroyIdle
      rw [hidle]
      rfl
    · rfl
  have hscale : autoscale config .steady { s with phase := .evicted } = { s with phase := .scaled } := by
    unfold Runtime.autoscale
    dsimp only
    split
    · unfold evaluateMinIdle
      rw [hscaler]
    · rfl
  have hreplenish : replenish { s with phase := .scaled } =
      { s with phase := .joining (s.effectiveMinIdle - s.idle.length) } := by
    unfold Runtime.replenish
    dsimp only
    rw [if_pos (by rw [hidle]; exact hpos)]
  show replenish (autoscale config .steady (evict config (fun _ => false) s)) = _
  rw [hevict, hscale, hreplenish, hidle, List.length_nil, Nat.sub_zero]

theorem release_of_room (config : PoolConfig) (vm : Nat) (hrunning : s.shutdown = false)
    (hroom : s.idle.length < config.maxSize) : (release config vm s).idle = vm :: s.idle := by
  unfold Runtime.release
  dsimp only
  rw [if_neg (by rw [hrunning]; decide), if_neg (by omega)]

/-- Releasing held VMs into a running pool with room pushes each of them. -/
theorem release_map (config : PoolConfig) (vms : List Nat) (s : WarmPool) (hrunning : s.shutdown = false)
    (hnodup : vms.Nodup) (hheld : ∀ vm ∈ vms, vm ∈ s.held)
    (hroom : s.idle.length + vms.length ≤ config.maxSize) :
    LoopFrame s ((vms.map PoolCall.release).foldl (step config) s) ∧
      ((vms.map PoolCall.release).foldl (step config) s).idle.length = s.idle.length + vms.length := by
  induction vms generalizing s with
  | nil => exact ⟨LoopFrame.refl s, rfl⟩
  | cons vm rest ih =>
    obtain ⟨hvm, hrest⟩ := List.nodup_cons.mp hnodup
    have hstep : step config s (.release vm) = release config vm s := if_pos (hheld vm (by simp))
    have hpush := release_of_room config vm hrunning
      (by rw [List.length_cons] at hroom; omega)
    have hframe := release_loopFrame config vm s
    -- the other VMs are still held: only `vm` left `held`
    have hheld' : ∀ v ∈ rest, v ∈ (release config vm s).held := by
      intro v hv
      rw [release_held]
      exact (List.mem_erase_of_ne (fun h : v = vm => hvm (h ▸ hv))).mpr (hheld v (by simp [hv]))
    obtain ⟨hframe', hidle'⟩ := ih (release config vm s) (hframe.shutdown.trans hrunning) hrest hheld'
      (by rw [hpush, List.length_cons]; rw [List.length_cons] at hroom; omega)
    rw [List.map_cons, List.foldl_cons, hstep]
    refine ⟨hframe.trans hframe', ?_⟩
    rw [hidle', hpush, List.length_cons, List.length_cons]
    omega

theorem join_of_running {pending : Nat} (hphase : s.phase = .joining (pending + 1))
    (hrunning : s.shutdown = false) :
    (join true s).idle = s.booted :: s.idle ∧
      (join true s).phase = (if pending = 0 then .sleeping else .joining pending) ∧
      (join true s).shutdown = s.shutdown := by
  unfold Runtime.join
  rw [hphase]
  dsimp only
  rw [if_pos rfl, if_neg (by rw [hrunning]; decide)]
  exact ⟨rfl, rfl, rfl⟩

/-- Joining a batch of booted VMs on a running pool pushes every one of them. -/
theorem join_replicate (config : PoolConfig) (n : Nat) (s : WarmPool) (hphase : s.phase = .joining (n + 1))
    (hrunning : s.shutdown = false) :
    ((List.replicate (n + 1) (PoolCall.join true)).foldl (step config) s).idle.length =
      s.idle.length + (n + 1) := by
  induction n generalizing s with
  | zero =>
    obtain ⟨hidle, -, -⟩ := join_of_running hphase hrunning
    show (join true s).idle.length = _
    rw [hidle, List.length_cons]
  | succ n ih =>
    obtain ⟨hidle, hnext, hshutdown⟩ := join_of_running hphase hrunning
    rw [if_neg (Nat.succ_ne_zero n)] at hnext
    rw [List.replicate_succ, List.foldl_cons]
    show ((List.replicate (n + 1) (PoolCall.join true)).foldl (step config) (join true s)).idle.length = _
    rw [ih (join true s) hnext (hshutdown.trans hrunning), hidle, List.length_cons]
    omega

/-- For every configuration `start` accepts with `min_idle > 0`, a run leaves
    `max_size + min_idle` VMs idle. -/
theorem replenish_overfills_pool (config : PoolConfig) {s₀ : WarmPool}
    (hstart : start config (fun _ => true) = .ok s₀) (hmin : 0 < config.minIdle) :
    ∃ s, Reachable (step config) s₀ s ∧ s.idle.length = config.maxSize + config.minIdle := by
  obtain ⟨-, hle, hs₀⟩ := start_eq_ok hstart
  obtain ⟨hframe₀, hidle₀, hheld₀⟩ := fillToMin_boots config.minIdle [] (initial config)
  rw [← hs₀] at hframe₀ hidle₀ hheld₀
  -- callers take `max_size` VMs: the `min_idle` idle ones, then new ones
  obtain ⟨hframe₁, hidle₁, hheld₁⟩ := acquire_replicate config config.maxSize s₀
  set s₁ := (List.replicate config.maxSize PoolCall.acquire).foldl (step config) s₀
  have hempty₁ : s₁.idle = [] := by
    rw [hidle₁]
    apply List.drop_eq_nil_of_le
    rw [hidle₀]
    show 0 + config.minIdle ≤ config.maxSize
    omega
  -- a tick finds the list empty and spawns `min_idle` boots
  have hphase₁ : s₁.phase = .sleeping := hframe₁.phase.trans hframe₀.phase
  have heffective₁ : s₁.effectiveMinIdle = config.minIdle :=
    hframe₁.effectiveMinIdle.trans hframe₀.effectiveMinIdle
  have hscaler₁ : s₁.scalerMinIdle = s₁.effectiveMinIdle := by
    rw [heffective₁, hframe₁.scalerMinIdle, hframe₀.scalerMinIdle]
    rfl
  have htick : step config (step config (step config s₁ (.evict fun _ => false))
      (.autoscale .steady)) .replenish = { s₁ with phase := .joining s₁.effectiveMinIdle } :=
    tick_spawns_batch hphase₁ hempty₁ hscaler₁ (by rw [heffective₁]; exact hmin)
  set s₂ := { s₁ with phase := .joining s₁.effectiveMinIdle }
  have hreach₂ : Reachable (step config) s₀ s₂ := by
    rw [← htick]
    exact ((Reachable.init.foldl _).step _ |>.step _).step _
  have hrunning₂ : s₂.shutdown = false := by
    show s₁.shutdown = false
    rw [hframe₁.shutdown, hframe₀.shutdown]
    rfl
  -- while the boots run, the callers release all `max_size` VMs into the list
  have hnodup₂ : s₂.held.Nodup :=
    (Inv.reachable hstart hreach₂).custody.nodup.sublist
      ((List.sublist_append_right _ _).trans (List.sublist_append_left _ _))
  have hlen₂ : s₂.held.length = config.maxSize := by
    show s₁.held.length = config.maxSize
    rw [hheld₁, hheld₀]
    exact Nat.zero_add _
  obtain ⟨hframe₃, hidle₃⟩ := release_map config s₂.held s₂ hrunning₂ hnodup₂
    (fun _ hvm => hvm) (by
      show s₁.idle.length + s₂.held.length ≤ config.maxSize
      rw [hempty₁, List.length_nil, hlen₂, Nat.zero_add])
  set s₃ := (s₂.held.map PoolCall.release).foldl (step config) s₂
  -- then every boot of the batch is pushed
  obtain ⟨m, hm⟩ : ∃ m, config.minIdle = m + 1 := ⟨config.minIdle - 1, by omega⟩
  have hphase₃ : s₃.phase = .joining (m + 1) := by
    rw [hframe₃.phase]
    show Phase.joining s₁.effectiveMinIdle = _
    rw [heffective₁, hm]
  have hjoin := join_replicate config m s₃ hphase₃ (hframe₃.shutdown.trans hrunning₂)
  refine ⟨(List.replicate (m + 1) (PoolCall.join true)).foldl (step config) s₃,
    (hreach₂.foldl _).foldl _, ?_⟩
  rw [hjoin, hidle₃, hlen₂, hm]
  show s₁.idle.length + config.maxSize + (m + 1) = _
  rw [hempty₁, List.length_nil]
  omega

theorem default_pool_overfills :
    ∃ s₀ s, start PoolConfig.default (fun _ => true) = .ok s₀ ∧
      Reachable (step PoolConfig.default) s₀ s ∧ s.idle.length = 6 := by
  obtain ⟨s, hreach, hlen⟩ := replenish_overfills_pool PoolConfig.default start_default (by decide)
  exact ⟨_, s, start_default, hreach, hlen⟩

end Overfill

end A3sBox.Runtime
