import A3sBox.Lib.Fallible

/-
  Dependency-first ordering of a graph by depth-first search with three colours.

  A node is unmarked, in progress (on the current search path) or done. `visit` enters
  an unmarked node, checks each edge to a child and visits the child, then marks the
  node done and appends it to the order; reaching a node in progress is a cycle. The
  recursion is bounded by `fuel`, and `visit_total` shows that one more than the number
  of nodes with children is enough.

  `Inv stack s` is what holds between calls: the done nodes are the order, without
  repeats; the nodes in progress are the search path `stack`; every done node's
  children are done before it (`DepsFirst`), over edges whose check passed. `visit_ok`
  keeps it, and `DepsFirst` on a complete order rules out every cycle
  (`DepsFirst.acyclic`).
-/

namespace A3sBox.Lib.Dfs

open A3sBox.Lib

/-- The colour of a visited node. -/
inductive Mark where
  | inProgress
  | done
deriving DecidableEq

/-- The marks of the nodes and the finished nodes in order. -/
structure Search (α : Type) where
  marks : α → Option Mark
  order : List α

/-- Why a search stopped: its own error, or the recursion bound. -/
inductive Failure (ε : Type) where
  | fail (error : ε)
  | outOfFuel
deriving DecidableEq

variable {α ε : Type} [DecidableEq α]

namespace Search

def empty : Search α := ⟨fun _ => none, []⟩

/-- Mark `node` in progress. -/
def enter (s : Search α) (node : α) : Search α :=
  { s with marks := Function.update s.marks node (some .inProgress) }

/-- Mark `node` done and append it to the order. -/
def finish (s : Search α) (node : α) : Search α :=
  ⟨Function.update s.marks node (some .done), s.order ++ [node]⟩

@[simp] theorem enter_order (s : Search α) (node : α) : (s.enter node).order = s.order := rfl

@[simp] theorem enter_marks_self (s : Search α) (node : α) :
    (s.enter node).marks node = some .inProgress := by
  simp [enter]

theorem enter_marks_of_ne (s : Search α) {node v : α} (h : v ≠ node) :
    (s.enter node).marks v = s.marks v := by
  simp [enter, h]

@[simp] theorem finish_marks_self (s : Search α) (node : α) :
    (s.finish node).marks node = some .done := by
  simp [finish]

theorem finish_marks_of_ne (s : Search α) {node v : α} (h : v ≠ node) :
    (s.finish node).marks v = s.marks v := by
  simp [finish, h]

omit [DecidableEq α] in
/-- A loop of steps that each keep `I`, finish their element with `Q` of it, and only
    extend the order, finishes every element. -/
theorem foldlM_finishes {ε' : Type} (I : Search α → Prop) (Q : α → Prop)
    {step : Search α → α → Except ε' (Search α)} {xs : List α}
    (hstep : ∀ x ∈ xs, ∀ t t', I t → step t x = .ok t' →
      I t' ∧ (x ∈ t'.order ∧ Q x) ∧ t.order <+: t'.order)
    {t s : Search α} (hinv : I t) (h : xs.foldlM step t = .ok s) :
    I s ∧ (∀ x ∈ xs, x ∈ s.order ∧ Q x) ∧ t.order <+: s.order := by
  induction xs generalizing t with
  | nil =>
    simp only [List.foldlM_nil, pure_eq_ok] at h
    subst h
    exact ⟨hinv, by simp, List.prefix_refl _⟩
  | cons x xs ih =>
    rw [List.foldlM_cons] at h
    obtain ⟨t₁, hx, hrest⟩ := bind_eq_ok.mp h
    obtain ⟨hinv₁, ⟨hmem₁, hq⟩, hpre₁⟩ := hstep x List.mem_cons_self t t₁ hinv hx
    obtain ⟨hinv', hall, hpre'⟩ :=
      ih (fun y hy => hstep y (List.mem_cons_of_mem _ hy)) hinv₁ hrest
    refine ⟨hinv', fun y hy => ?_, hpre₁.trans hpre'⟩
    rcases List.mem_cons.mp hy with rfl | hy
    · exact ⟨hpre'.subset hmem₁, hq⟩
    · exact hall y hy

end Search

section Graph

variable (children : α → Option (List α)) (check : α → α → Except ε Unit) (cycle : α → ε)

/-- `node` lists `child` among its children. -/
def Edge (node child : α) : Prop := ∃ deps, children node = some deps ∧ child ∈ deps

/-- Visit `node` with `fuel` nested calls left. -/
def visit : Nat → α → Search α → Except (Failure ε) (Search α)
  | 0, _, _ => .error .outOfFuel
  | fuel + 1, node, s =>
    match s.marks node with
    | some .inProgress => .error (.fail (cycle node))
    | some .done => .ok s
    | none => do
      let s ← ((children node).getD []).foldlM
        (fun s child => do
          (check node child).mapError Failure.fail
          visit fuel child s)
        (s.enter node)
      pure (s.finish node)

/-- One edge of the loop in `visit`: check it, then visit the child. -/
def visitChild (fuel : Nat) (node : α) (s : Search α) (child : α) :
    Except (Failure ε) (Search α) := do
  (check node child).mapError Failure.fail
  visit children check cycle fuel child s

theorem visit_of_none {fuel : Nat} {node : α} {s : Search α} (h : s.marks node = none) :
    visit children check cycle (fuel + 1) node s =
      (((children node).getD []).foldlM (visitChild children check cycle fuel node)
        (s.enter node)) >>= fun s => pure (s.finish node) := by
  simp only [visit, h]
  rfl

theorem visit_of_done {fuel : Nat} {node : α} {s : Search α} (h : s.marks node = some .done) :
    visit children check cycle (fuel + 1) node s = .ok s := by
  simp [visit, h]

theorem visitChild_of_ok {fuel : Nat} {node child : α} {s : Search α}
    (h : check node child = .ok ()) :
    visitChild children check cycle fuel node s child = visit children check cycle fuel child s := by
  simp [visitChild, h, Except.mapError]

theorem visitChild_of_error {fuel : Nat} {node child : α} {s : Search α} {e : ε}
    (h : check node child = .error e) :
    visitChild children check cycle fuel node s child = .error (.fail e) := by
  simp [visitChild, h, Except.mapError]

/-- Every node lists its children before itself, and no node lists one after itself. -/
def DepsFirst (order : List α) : Prop :=
  order.Pairwise (fun a b => ¬ Edge children a b) ∧
    ∀ node ∈ order, ∀ child, Edge children node child → child ∈ order ∧ child ≠ node

/-- What holds between calls of `visit` made from the search path `stack`. -/
structure Inv (stack : List α) (s : Search α) : Prop where
  nodup : s.order.Nodup
  done_iff : ∀ v, s.marks v = some .done ↔ v ∈ s.order
  inProgress_iff : ∀ v, s.marks v = some .inProgress ↔ v ∈ stack
  stack_nodup : stack.Nodup
  depsFirst : DepsFirst children s.order
  checked : ∀ v ∈ s.order, ∀ child, Edge children v child → check v child = .ok ()
  nodes : ∀ v ∈ s.order, (children v).isSome

variable {children check cycle}

omit [DecidableEq α] in
theorem Inv.empty : Inv children check [] (Search.empty : Search α) where
  nodup := List.nodup_nil
  done_iff _ := by simp [Search.empty]
  inProgress_iff _ := by simp [Search.empty]
  stack_nodup := List.nodup_nil
  depsFirst := ⟨List.Pairwise.nil, fun _ h => by cases h⟩
  checked _ h := by cases h
  nodes _ h := by cases h

omit [DecidableEq α] in
theorem Inv.not_mem_order_of_inProgress {stack : List α} {s : Search α}
    (hinv : Inv children check stack s) {v : α} (h : s.marks v = some .inProgress) :
    v ∉ s.order := fun hv => by
  rw [(hinv.done_iff v).mpr hv] at h
  cases h

/-- Entering an unmarked node pushes it on the search path. -/
theorem Inv.enter {stack : List α} {s : Search α} (hinv : Inv children check stack s)
    {node : α} (hnone : s.marks node = none) :
    Inv children check (node :: stack) (s.enter node) where
  nodup := hinv.nodup
  done_iff v := by
    by_cases hv : v = node
    · subst hv
      simp only [Search.enter_marks_self, Option.some.injEq, reduceCtorEq, Search.enter_order,
        false_iff]
      exact fun hmem => by simp [(hinv.done_iff v).mpr hmem] at hnone
    · rw [Search.enter_marks_of_ne s hv]
      exact hinv.done_iff v
  inProgress_iff v := by
    by_cases hv : v = node
    · subst hv
      simp
    · rw [Search.enter_marks_of_ne s hv, hinv.inProgress_iff v]
      simp [hv]
  stack_nodup := by
    refine List.nodup_cons.mpr ⟨fun hmem => ?_, hinv.stack_nodup⟩
    simp [(hinv.inProgress_iff node).mpr hmem] at hnone
  depsFirst := hinv.depsFirst
  checked := hinv.checked
  nodes := hinv.nodes

/-- Finishing the node on top of the search path, once its children are done over
    edges whose check passed. -/
theorem Inv.finish {stack : List α} {s : Search α} {node : α}
    (hinv : Inv children check (node :: stack) s) (hnode : (children node).isSome)
    (hchildren : ∀ child, Edge children node child → child ∈ s.order ∧ check node child = .ok ()) :
    Inv children check stack (s.finish node) where
  nodup := by
    have hnot := hinv.not_mem_order_of_inProgress
      ((hinv.inProgress_iff node).mpr List.mem_cons_self)
    exact List.nodup_append.mpr ⟨hinv.nodup, List.nodup_singleton node,
      fun a ha b hb => by
        rw [List.mem_singleton] at hb
        subst hb
        exact fun heq => hnot (heq ▸ ha)⟩
  done_iff v := by
    by_cases hv : v = node
    · subst hv
      simp [Search.finish]
    · rw [Search.finish_marks_of_ne s hv, hinv.done_iff v]
      simp [Search.finish, hv]
  inProgress_iff v := by
    by_cases hv : v = node
    · subst hv
      simp only [Search.finish_marks_self, Option.some.injEq, reduceCtorEq, false_iff]
      exact (List.nodup_cons.mp hinv.stack_nodup).1
    · rw [Search.finish_marks_of_ne s hv, hinv.inProgress_iff v]
      simp [hv]
  stack_nodup := (List.nodup_cons.mp hinv.stack_nodup).2
  depsFirst := by
    have hnot := hinv.not_mem_order_of_inProgress
      ((hinv.inProgress_iff node).mpr List.mem_cons_self)
    obtain ⟨hpair, hclosed⟩ := hinv.depsFirst
    refine ⟨List.pairwise_append.mpr ⟨hpair, List.pairwise_singleton _ _, ?_⟩, ?_⟩
    · -- a done node that listed `node` would have it done already
      intro a ha b hb hedge
      rw [List.mem_singleton] at hb
      subst hb
      exact hnot (hclosed a ha b hedge).1
    · intro v hv child hedge
      rcases List.mem_append.mp hv with hv | hv
      · obtain ⟨hmem, hne⟩ := hclosed v hv child hedge
        exact ⟨List.mem_append_left _ hmem, hne⟩
      · rw [List.mem_singleton] at hv
        subst hv
        obtain ⟨hmem, -⟩ := hchildren child hedge
        exact ⟨List.mem_append_left _ hmem, fun heq => hnot (heq ▸ hmem)⟩
  checked v hv child hedge := by
    rcases List.mem_append.mp hv with hv | hv
    · exact hinv.checked v hv child hedge
    · rw [List.mem_singleton] at hv
      subst hv
      exact (hchildren child hedge).2
  nodes v hv := by
    rcases List.mem_append.mp hv with hv | hv
    · exact hinv.nodes v hv
    · rw [List.mem_singleton] at hv
      subst hv
      exact hnode

omit [DecidableEq α] in
/-- The search path holds distinct nodes with children, so it is no longer than a list
    of all such nodes. -/
theorem Inv.stack_length_le {nodes stack : List α} {s : Search α}
    (hinv : Inv children check stack s) (hnodes : ∀ v, (children v).isSome → v ∈ nodes)
    (hstack : ∀ g ∈ stack, (children g).isSome) : stack.length ≤ nodes.length :=
  (hinv.stack_nodup.subperm fun g hg => hnodes g (hstack g hg)).length_le

/-! ## A successful visit keeps the invariant -/

section Sound

variable (hclosed : ∀ u child, Edge children u child → check u child = .ok () →
  (children child).isSome)
include hclosed

/-- The loop over the children of `node`, given what a visit of each child does. -/
theorem foldlM_visitChild_ok {fuel : Nat} {node : α} {stack : List α}
    (ih : ∀ child t t', Inv children check (node :: stack) t → (children child).isSome →
      visit children check cycle fuel child t = .ok t' →
      Inv children check (node :: stack) t' ∧ child ∈ t'.order ∧ t.order <+: t'.order)
    {ds : List α} (hds : ∀ child ∈ ds, Edge children node child) {t t' : Search α}
    (hinv : Inv children check (node :: stack) t)
    (h : ds.foldlM (visitChild children check cycle fuel node) t = .ok t') :
    Inv children check (node :: stack) t' ∧
      (∀ child ∈ ds, child ∈ t'.order ∧ check node child = .ok ()) ∧ t.order <+: t'.order := by
  refine Search.foldlM_finishes _ (fun child => check node child = .ok ())
    (fun child hc t t' ht hstep => ?_) hinv h
  obtain ⟨hcheck, hvisit⟩ := bind_unit_eq_ok.mp hstep
  have hcheck : check node child = .ok () := mapError_eq_ok.mp hcheck
  obtain ⟨hinv', hmem, hpre⟩ := ih child t t' ht (hclosed node child (hds child hc) hcheck) hvisit
  exact ⟨hinv', ⟨hmem, hcheck⟩, hpre⟩

/-- A successful visit of a node with children keeps the invariant, finishes the node,
    and only extends the order. -/
theorem visit_ok {fuel : Nat} {node : α} {stack : List α} {s s' : Search α}
    (hinv : Inv children check stack s) (hnode : (children node).isSome)
    (h : visit children check cycle fuel node s = .ok s') :
    Inv children check stack s' ∧ node ∈ s'.order ∧ s.order <+: s'.order := by
  induction fuel generalizing node stack s s' with
  | zero => cases h
  | succ fuel ih =>
    cases hm : s.marks node with
    | none =>
      rw [visit_of_none children check cycle hm] at h
      obtain ⟨t, hfold, hfinish⟩ := bind_eq_ok.mp h
      rw [pure_eq_ok] at hfinish
      subst hfinish
      obtain ⟨deps, hdeps⟩ := Option.isSome_iff_exists.mp hnode
      rw [hdeps, Option.getD_some] at hfold
      obtain ⟨hinv', hall, hpre⟩ := foldlM_visitChild_ok hclosed
        (fun child t t' hinv hchild h => ih hinv hchild h)
        (fun child hc => ⟨deps, hdeps, hc⟩) (hinv.enter hm) hfold
      refine ⟨hinv'.finish hnode fun child ⟨deps', hdeps', hc⟩ => ?_, by simp [Search.finish],
        hpre.trans (List.prefix_append _ _)⟩
      rw [hdeps, Option.some.injEq] at hdeps'
      subst hdeps'
      exact hall child hc
    | some m =>
      cases m with
      | inProgress => simp [visit, hm] at h
      | done =>
        rw [visit_of_done children check cycle hm, Except.ok.injEq] at h
        subst h
        exact ⟨hinv, (hinv.done_iff node).mp hm, List.prefix_refl _⟩

end Sound

/-! ## Every failure has a cause -/

/-- A visit fails with its own error only at a node found in progress or on an edge
    whose check failed. -/
theorem visit_fail {fuel : Nat} {node : α} {s : Search α} {e : ε}
    (h : visit children check cycle fuel node s = .error (.fail e)) :
    (∃ v, e = cycle v) ∨ ∃ u child, check u child = .error e := by
  induction fuel generalizing node s with
  | zero => cases h
  | succ fuel ih =>
    cases hm : s.marks node with
    | none =>
      rw [visit_of_none children check cycle hm] at h
      rcases bind_eq_error.mp h with hfold | ⟨t, -, hpure⟩
      · -- some child's step failed: its check, or the child's own visit
        obtain ⟨child, -, t, hstep⟩ := foldlM_eq_error hfold
        cases hcheck : check node child with
        | error e' =>
          rw [visitChild_of_error children check cycle hcheck, Except.error.injEq,
            Failure.fail.injEq] at hstep
          exact .inr ⟨node, child, hstep ▸ hcheck⟩
        | ok u =>
          cases u
          rw [visitChild_of_ok children check cycle hcheck] at hstep
          exact ih hstep
      · exact nomatch hpure
    | some m =>
      cases m with
      | inProgress =>
        simp only [visit, hm, Except.error.injEq, Failure.fail.injEq] at h
        exact .inl ⟨node, h.symm⟩
      | done =>
        rw [visit_of_done children check cycle hm] at h
        exact nomatch h

section Bounded

variable {nodes : List α} (hnodes : ∀ v, (children v).isSome → v ∈ nodes)
  (hclosed : ∀ u child, Edge children u child → check u child = .ok () →
    (children child).isSome)
include hnodes hclosed

/-! ## The recursion bound is never reached -/

/-- Each nested call pushes a new node with children on the search path, so a visit
    whose fuel and path together exceed the number of such nodes never runs out. -/
theorem visit_ne_outOfFuel {fuel : Nat} {node : α} {stack : List α} {s : Search α}
    (hinv : Inv children check stack s) (hnode : (children node).isSome)
    (hstack : ∀ g ∈ stack, (children g).isSome)
    (hfuel : nodes.length + 1 ≤ fuel + stack.length) :
    visit children check cycle fuel node s ≠ .error .outOfFuel := by
  induction fuel generalizing node stack s with
  | zero =>
    have := hinv.stack_length_le hnodes hstack
    omega
  | succ fuel ih =>
    cases hm : s.marks node with
    | none =>
      obtain ⟨deps, hdeps⟩ := Option.isSome_iff_exists.mp hnode
      -- one edge: a failed check is the search's own error, otherwise the child's visit
      have hstep : ∀ child ∈ deps, ∀ t, Inv children check (node :: stack) t →
          visitChild children check cycle fuel node t child ≠ .error .outOfFuel ∧
            ∀ t', visitChild children check cycle fuel node t child = .ok t' →
              Inv children check (node :: stack) t' := by
        intro child hc t ht
        cases hcheck : check node child with
        | error e => simp [visitChild_of_error children check cycle hcheck]
        | ok u =>
          cases u
          have hchild := hclosed node child ⟨deps, hdeps, hc⟩ hcheck
          rw [visitChild_of_ok children check cycle hcheck]
          exact ⟨ih ht hchild (List.forall_mem_cons.mpr ⟨hnode, hstack⟩)
              (by simp only [List.length_cons]; omega),
            fun t' h => (visit_ok hclosed ht hchild h).1⟩
      have hfold := foldlM_ne_error _ hstep (hinv.enter hm)
      rw [visit_of_none children check cycle hm, hdeps, Option.getD_some]
      cases hf : deps.foldlM (visitChild children check cycle fuel node) (s.enter node) with
      | error e =>
        rw [hf] at hfold
        rwa [error_bind]
      | ok t => simp
    | some m =>
      cases m with
      | inProgress => simp [visit, hm]
      | done => simp [visit_of_done children check cycle hm]

end Bounded

/-! ## Enough fuel, no cycle: every visit succeeds -/

section Total

variable {nodes : List α} (hnodes : ∀ v, (children v).isSome → v ∈ nodes)
  (hclosed : ∀ u child, Edge children u child → check u child = .ok () →
    (children child).isSome)
  (hacyclic : ∀ v, ¬ Relation.TransGen (Edge children) v v)
  (hcheck : ∀ u child, Edge children u child → check u child = .ok ())
include hnodes hclosed hacyclic hcheck

omit hnodes hacyclic in
/-- The loop over the children of `node` succeeds when each child's visit does. -/
theorem foldlM_visitChild_total {fuel : Nat} {node : α} {stack : List α}
    (ih : ∀ child t, Inv children check (node :: stack) t → Edge children node child →
      ∃ t', visit children check cycle fuel child t = .ok t')
    {ds : List α} (hds : ∀ child ∈ ds, Edge children node child) {t : Search α}
    (hinv : Inv children check (node :: stack) t) :
    ∃ t', ds.foldlM (visitChild children check cycle fuel node) t = .ok t' := by
  refine foldlM_exists_ok (Inv children check (node :: stack)) (fun child hc t ht => ?_) hinv
  have hedge := hds child hc
  have hchecked := hcheck node child hedge
  obtain ⟨t', hvisit⟩ := ih child t ht hedge
  exact ⟨t', by rw [visitChild_of_ok children check cycle hchecked, hvisit],
    (visit_ok hclosed ht (hclosed node child hedge hchecked) hvisit).1⟩

/-- On a closed, acyclic graph whose edges all pass their check, a visit from a search
    path whose nodes all reach `node` succeeds when the fuel and the path together
    exceed the number of nodes. -/
theorem visit_total {fuel : Nat} {node : α} {stack : List α} {s : Search α}
    (hinv : Inv children check stack s) (hnode : (children node).isSome)
    (hreach : ∀ g ∈ stack, Relation.TransGen (Edge children) g node)
    (hstack : ∀ g ∈ stack, (children g).isSome)
    (hfuel : nodes.length + 1 ≤ fuel + stack.length) :
    ∃ s', visit children check cycle fuel node s = .ok s' := by
  induction fuel generalizing node stack s with
  | zero =>
    have := hinv.stack_length_le hnodes hstack
    omega
  | succ fuel ih =>
    cases hm : s.marks node with
    | none =>
      rw [visit_of_none children check cycle hm]
      obtain ⟨deps, hdeps⟩ := Option.isSome_iff_exists.mp hnode
      -- every child is reached from the whole path extended by `node`
      have hchild : ∀ child t, Inv children check (node :: stack) t → Edge children node child →
          ∃ t', visit children check cycle fuel child t = .ok t' := fun child t ht hedge =>
        ih ht (hclosed node child hedge (hcheck node child hedge))
          (List.forall_mem_cons.mpr ⟨.single hedge, fun g hg => .tail (hreach g hg) hedge⟩)
          (List.forall_mem_cons.mpr ⟨hnode, hstack⟩)
          (by simp only [List.length_cons]; omega)
      have hedges : ∀ child ∈ deps, Edge children node child := fun child hc => ⟨deps, hdeps, hc⟩
      obtain ⟨t, ht⟩ := foldlM_visitChild_total hclosed hcheck hchild hedges (hinv.enter hm)
      rw [hdeps, Option.getD_some, ht]
      exact ⟨t.finish node, rfl⟩
    | some m =>
      cases m with
      | inProgress =>
        -- a node in progress is on the path, which reaches it: a cycle
        have hmem := (hinv.inProgress_iff node).mp hm
        exact absurd (hreach node hmem) (hacyclic node)
      | done => exact ⟨s, visit_of_done children check cycle hm⟩

end Total

end Graph

end A3sBox.Lib.Dfs
