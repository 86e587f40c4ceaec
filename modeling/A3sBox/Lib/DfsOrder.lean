import A3sBox.Lib.Dfs

/-
  Dependency orders: what they are for, and the search from every root that computes one.

  Spec (the abstract layer). A graph given by `children` is `Closed` when every child of
  a node is itself a node, and `Acyclic` when no node reaches itself (a node that lists
  itself is a cycle). A `TopologicalOrder` of `nodes` lists every node exactly once and
  each child before its parent; having one rules out every cycle
  (`TopologicalOrder.acyclic`). `SortsTopologically result nodes` is the contract of a
  function that computes such an order: it succeeds exactly on a closed acyclic graph,
  and what it returns is a topological order.

  Algorithm. `visitAll` visits every root in turn from an empty search;
  `visitAllUnmarked` starts a visit only from a root that is not yet marked, and
  between roots the two agree (`visitAllUnmarked_eq`), because a marked root is done.

  Proved, for a list of roots that are exactly the nodes, without repeats, and fuel one
  more than their number:
  * `visitAll_ok_iff`: the search succeeds iff every edge passes its check and the
    graph is acyclic;
  * `visitAll_topologicalOrder`: a successful search's order is a topological order;
  * `visitAll_ne_outOfFuel`: the search never reaches its recursion bound.
-/

namespace A3sBox.Lib.Dfs

open A3sBox.Lib

variable {α ε : Type} [DecidableEq α]

section Spec

variable (children : α → Option (List α))

/-- Every child of a node is a node. -/
def Closed : Prop := ∀ u child, Edge children u child → (children child).isSome

/-- No node reaches itself along edges. -/
def Acyclic : Prop := ∀ v, ¬ Relation.TransGen (Edge children) v v

/-- `order` lists each of `nodes` exactly once, every child before its parent. -/
structure TopologicalOrder (nodes order : List α) : Prop where
  perm : order.Perm nodes
  before : ∀ u child, Edge children u child →
    child ∈ order ∧ u ∈ order ∧ order.idxOf child < order.idxOf u

/-- The contract of a dependency-order function on a graph with the given nodes. -/
structure SortsTopologically (result : Except ε (List α)) (nodes : List α) : Prop where
  ok_iff : (∃ order, result = .ok order) ↔ Closed children ∧ Acyclic children
  topological : ∀ order, result = .ok order → TopologicalOrder children nodes order

variable {children}

omit [DecidableEq α] in
theorem Edge.isSome {u child : α} (h : Edge children u child) : (children u).isSome := by
  obtain ⟨deps, hdeps, -⟩ := h
  simp [hdeps]

theorem TopologicalOrder.of_perm {nodes nodes' order : List α}
    (h : TopologicalOrder children nodes order) (hperm : nodes.Perm nodes') :
    TopologicalOrder children nodes' order :=
  ⟨h.perm.trans hperm, h.before⟩

/-- Along a path the order goes strictly backwards. -/
theorem TopologicalOrder.transGen {nodes order : List α} (h : TopologicalOrder children nodes order)
    {u v : α} (huv : Relation.TransGen (Edge children) u v) :
    v ∈ order ∧ u ∈ order ∧ order.idxOf v < order.idxOf u := by
  induction huv with
  | single hedge => exact h.before _ _ hedge
  | tail _ hedge ih =>
    obtain ⟨hc, -, hlt⟩ := h.before _ _ hedge
    exact ⟨hc, ih.2.1, hlt.trans ih.2.2⟩

/-- A graph with a topological order has no cycle. -/
theorem TopologicalOrder.acyclic {nodes order : List α}
    (h : TopologicalOrder children nodes order) : Acyclic children :=
  fun _ hv => Nat.lt_irrefl _ (h.transGen hv).2.2

end Spec

section Order

variable {children : α → Option (List α)} {check : α → α → Except ε Unit}

/-- In a dependency-first order a child stands before its parent. -/
theorem DepsFirst.idxOf_lt {order : List α} (h : DepsFirst children order) {u child : α}
    (hu : u ∈ order) (hedge : Edge children u child) :
    child ∈ order ∧ order.idxOf child < order.idxOf u := by
  obtain ⟨hchild, hne⟩ := h.2 u hu child hedge
  refine ⟨hchild, ?_⟩
  have hlu : order.idxOf u < order.length := List.idxOf_lt_length_iff.mpr hu
  have hlc : order.idxOf child < order.length := List.idxOf_lt_length_iff.mpr hchild
  rcases Nat.lt_trichotomy (order.idxOf child) (order.idxOf u) with hlt | heq | hgt
  · exact hlt
  · exact absurd ((List.idxOf_inj hchild).mp heq) hne
  · -- the parent would stand before its child, which `DepsFirst` forbids
    have hnot := List.pairwise_iff_getElem.mp h.1 _ _ hlu hlc hgt
    rw [List.getElem_idxOf hlu, List.getElem_idxOf hlc] at hnot
    exact absurd hedge hnot

/-- A finished search that has done every node holds a topological order of them. -/
theorem Inv.topologicalOrder {nodes : List α} {s : Search α}
    (hinv : Inv children check [] s) (hnodup : nodes.Nodup)
    (hnodes : ∀ v, v ∈ nodes ↔ (children v).isSome) (hall : ∀ v ∈ nodes, v ∈ s.order) :
    TopologicalOrder children nodes s.order where
  perm := (List.perm_ext_iff_of_nodup hinv.nodup hnodup).mpr fun v =>
    ⟨fun hv => (hnodes v).mpr (hinv.nodes v hv), hall v⟩
  before u child hedge := by
    have hu : u ∈ s.order := hall u ((hnodes u).mpr hedge.isSome)
    obtain ⟨hc, hlt⟩ := hinv.depsFirst.idxOf_lt hu hedge
    exact ⟨hc, hu, hlt⟩

end Order

/-! ## The search from every root -/

section Roots

variable (children : α → Option (List α)) (check : α → α → Except ε Unit) (cycle : α → ε)

/-- Visit each root in turn, from an empty search. -/
def visitAll (fuel : Nat) (roots : List α) : Except (Failure ε) (Search α) :=
  roots.foldlM (fun s root => visit children check cycle fuel root s) Search.empty

/-- Visit each root that is not yet marked, from an empty search. -/
def visitAllUnmarked (fuel : Nat) (roots : List α) : Except (Failure ε) (Search α) :=
  roots.foldlM
    (fun s root => if (s.marks root).isSome then pure s else visit children check cycle fuel root s)
    Search.empty

variable {children check cycle}
variable {roots : List α}

/-- The search from every root fails with its own error only at a node found in
    progress or on an edge whose check failed. -/
theorem visitAll_fail {fuel : Nat} {e : ε}
    (h : visitAll children check cycle fuel roots = .error (.fail e)) :
    (∃ v, e = cycle v) ∨ ∃ u child, check u child = .error e := by
  obtain ⟨root, -, t, hvisit⟩ := foldlM_eq_error h
  exact visit_fail hvisit

variable (hclosed : ∀ u child, Edge children u child → check u child = .ok () →
    (children child).isSome)
include hclosed

/-- Between roots no node is in progress, so a marked root is done and visiting it
    again changes nothing. -/
theorem foldlM_visitUnmarked_eq {fuel : Nat} (hroots : ∀ r ∈ roots, (children r).isSome)
    {t : Search α} (hinv : Inv children check [] t) :
    roots.foldlM
        (fun s root =>
          if (s.marks root).isSome then pure s else visit children check cycle (fuel + 1) root s) t =
      roots.foldlM (fun s root => visit children check cycle (fuel + 1) root s) t := by
  induction roots generalizing t with
  | nil => rfl
  | cons r roots ih =>
    have hroots' : ∀ r' ∈ roots, (children r').isSome :=
      fun r' hr' => hroots r' (List.mem_cons_of_mem _ hr')
    have hstep : (if (t.marks r).isSome then pure t else visit children check cycle (fuel + 1) r t) =
        visit children check cycle (fuel + 1) r t := by
      cases hm : t.marks r with
      | none => simp
      | some m =>
        cases m with
        | inProgress => exact absurd ((hinv.inProgress_iff r).mp hm) List.not_mem_nil
        | done => simp [visit_of_done children check cycle hm]
    rw [List.foldlM_cons, List.foldlM_cons, hstep]
    cases hv : visit children check cycle (fuel + 1) r t with
    | error e => rfl
    | ok t₁ =>
      simp only [ok_bind]
      exact ih hroots' (visit_ok hclosed hinv (hroots r List.mem_cons_self) hv).1

theorem visitAllUnmarked_eq {fuel : Nat} (hroots : ∀ r ∈ roots, (children r).isSome) :
    visitAllUnmarked children check cycle (fuel + 1) roots =
      visitAll children check cycle (fuel + 1) roots :=
  foldlM_visitUnmarked_eq hclosed hroots Inv.empty

/-- A successful search from roots with children keeps the invariant and does every root. -/
theorem visitAll_ok {fuel : Nat} (hroots : ∀ r ∈ roots, (children r).isSome) {s : Search α}
    (h : visitAll children check cycle fuel roots = .ok s) :
    Inv children check [] s ∧ ∀ r ∈ roots, r ∈ s.order := by
  obtain ⟨hinv, hall, -⟩ := Search.foldlM_finishes (Inv children check []) (fun _ => True)
    (fun r hr t t' ht hvisit => by
      obtain ⟨hinv', hmem, hpre⟩ := visit_ok hclosed ht (hroots r hr) hvisit
      exact ⟨hinv', ⟨hmem, trivial⟩, hpre⟩)
    Inv.empty h
  exact ⟨hinv, fun r hr => (hall r hr).1⟩

variable (hroots : ∀ v, v ∈ roots ↔ (children v).isSome)
include hroots

/-- The search never runs out of fuel when the fuel exceeds the number of roots. -/
theorem visitAll_ne_outOfFuel {fuel : Nat} (hfuel : roots.length + 1 ≤ fuel) :
    visitAll children check cycle fuel roots ≠ .error .outOfFuel := by
  refine foldlM_ne_error (Inv children check []) (fun r hr t ht => ?_) Inv.empty
  have hr' := (hroots r).mp hr
  exact ⟨visit_ne_outOfFuel (fun v => (hroots v).mpr) hclosed ht hr' (fun _ h => by cases h)
      (by simpa using hfuel),
    fun t' h => (visit_ok hclosed ht hr' h).1⟩

/-- The search succeeds exactly when every edge passes its check and there is no cycle. -/
theorem visitAll_ok_iff {fuel : Nat} (hnodup : roots.Nodup) (hfuel : roots.length + 1 ≤ fuel) :
    (∃ s, visitAll children check cycle fuel roots = .ok s) ↔
      (∀ u child, Edge children u child → check u child = .ok ()) ∧ Acyclic children := by
  constructor
  · rintro ⟨s, h⟩
    obtain ⟨hinv, hall⟩ := visitAll_ok hclosed (fun r hr => (hroots r).mp hr) h
    -- every node is a root, so every node is done, with its edges checked
    have hdone : ∀ u, (children u).isSome → u ∈ s.order := fun u hu => hall u ((hroots u).mpr hu)
    exact ⟨fun u child hedge => hinv.checked u (hdone u hedge.isSome) child hedge,
      (hinv.topologicalOrder hnodup hroots hall).acyclic⟩
  · rintro ⟨hcheck, hacyclic⟩
    refine foldlM_exists_ok (Inv children check []) (fun r hr t ht => ?_) Inv.empty
    have hr' := (hroots r).mp hr
    obtain ⟨t', hvisit⟩ := visit_total (fun v => (hroots v).mpr) hclosed hacyclic hcheck ht hr'
      (fun _ h => by cases h) (fun _ h => by cases h) (by simpa using hfuel)
    exact ⟨t', hvisit, (visit_ok hclosed ht hr' hvisit).1⟩

/-- A successful search's order is a topological order of the roots. -/
theorem visitAll_topologicalOrder {fuel : Nat} (hnodup : roots.Nodup) {s : Search α}
    (h : visitAll children check cycle fuel roots = .ok s) :
    TopologicalOrder children roots s.order := by
  obtain ⟨hinv, hall⟩ := visitAll_ok hclosed (fun r hr => (hroots r).mp hr) h
  exact hinv.topologicalOrder hnodup hroots hall

end Roots

end A3sBox.Lib.Dfs
