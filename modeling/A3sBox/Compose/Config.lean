import A3sBox.Lib.DfsOrder

/-
  The compatibility Compose model (compose.rs) and its dependency order.

  Model. A `ComposeConfig` holds its services in a `HashMap`, modelled by an `AList`
  (distinct keys, no order); a service's `depends_on` is empty, a list of names (kept as
  written, repeats included) or a map from names to conditions, whose names
  `DependsOn::services` sorts. Only `depends_on` of a service is read by the order; the
  other fields of `ServiceConfig` and `ComposeConfig` are left out.

  `service_order` visits the sorted service names, skipping those already marked, with
  `topo_visit`: the three-colour search of `Lib.Dfs` over the graph `dependencies`,
  whose check on an edge is the `contains_key` test with its message, and whose cycle
  error names the service found in progress. The Rust recursion has no bound; the
  model's has one more level than there are services, and `serviceOrder_ne_outOfFuel`
  shows that it is never reached, so every error of the model is an error of the code.

  Proved:
  * `serviceOrder_spec`: `service_order` succeeds exactly when every dependency is a
    service and the dependency graph has no cycle, and then returns every service
    exactly once, each after its dependencies;
  * `serviceOrder_ne_outOfFuel`: the model's recursion bound is never reached.
-/

namespace A3sBox.Compose

open A3sBox.Lib A3sBox.Lib.Dfs

/-- `DependsOnCondition`. -/
structure DependsOnCondition where
  condition : String
deriving DecidableEq

/-- `DependsOn`. -/
inductive DependsOn where
  | empty
  | list (names : List String)
  | map (conditions : AList fun _ : String => DependsOnCondition)

/-- `DependsOn::services`: the names as listed, or the map's names sorted. -/
def DependsOn.services : DependsOn → List String
  | .empty => []
  | .list names => names
  | .map conditions => conditions.keys.insertionSort (· ≤ ·)

/-- `ServiceConfig`, restricted to what the dependency order reads. -/
structure ServiceConfig where
  dependsOn : DependsOn

/-- `ComposeConfig`, restricted to its services. -/
structure ComposeConfig where
  services : AList fun _ : String => ServiceConfig

namespace ComposeConfig

/-- The dependency graph: a service's dependencies; a name that is not a service has
    none, and `topo_visit` finishes it at once. -/
def dependencies (config : ComposeConfig) (name : String) : Option (List String) :=
  (config.services.lookup name).map (·.dependsOn.services)

/-- The service names, sorted (`service_names.sort()`). -/
def serviceNames (config : ComposeConfig) : List String :=
  config.services.keys.insertionSort (· ≤ ·)

/-- The test in `topo_visit` before it visits a dependency. -/
def checkDependency (config : ComposeConfig) (name dep : String) : Except String Unit :=
  ensure (decide (dep ∈ config.services))
    s!"Service '{name}' depends on '{dep}' which is not defined"

/-- The error of `topo_visit` on reaching a service in progress. -/
def cycleError (name : String) : String :=
  s!"Dependency cycle detected involving service '{name}'"

/-- `topo_visit`. -/
def topoVisit (config : ComposeConfig) (fuel : Nat) (name : String) (s : Search String) :
    Except (Failure String) (Search String) :=
  visit config.dependencies config.checkDependency cycleError fuel name s

/-- `service_order`: visit each service not yet marked, in sorted order, and return the
    finished services in the order they finished. -/
def serviceOrder (config : ComposeConfig) : Except (Failure String) (List String) :=
  Search.order <$> visitAllUnmarked config.dependencies config.checkDependency cycleError
    (config.services.keys.length + 1) config.serviceNames

variable (config : ComposeConfig)

theorem dependencies_isSome {name : String} :
    (config.dependencies name).isSome ↔ name ∈ config.services := by
  simp [dependencies, AList.lookup_isSome]

theorem mem_serviceNames {name : String} :
    name ∈ config.serviceNames ↔ (config.dependencies name).isSome := by
  rw [dependencies_isSome, serviceNames, (List.perm_insertionSort _ _).mem_iff, AList.mem_keys]

theorem serviceNames_nodup : config.serviceNames.Nodup :=
  (List.perm_insertionSort _ _).nodup_iff.mpr (AList.keys_nodup _)

theorem length_serviceNames : config.serviceNames.length = config.services.keys.length :=
  (List.perm_insertionSort _ _).length_eq

theorem checkDependency_eq_ok {name dep : String} :
    config.checkDependency name dep = .ok () ↔ dep ∈ config.services := by
  simp [checkDependency, ensure_eq_ok]

/-- A dependency that passes the test is a service. -/
theorem closed_of_checkDependency {name dep : String}
    (h : config.checkDependency name dep = .ok ()) : (config.dependencies dep).isSome :=
  (config.dependencies_isSome).mpr ((config.checkDependency_eq_ok).mp h)

theorem checkDependency_closed : ∀ u child, Edge config.dependencies u child →
    config.checkDependency u child = .ok () → (config.dependencies child).isSome :=
  fun _ _ _ => config.closed_of_checkDependency

/-- Skipping marked services changes nothing: `service_order` is the search from every
    service. -/
theorem serviceOrder_eq :
    config.serviceOrder =
      Search.order <$> visitAll config.dependencies config.checkDependency cycleError
        (config.services.keys.length + 1) config.serviceNames := by
  rw [serviceOrder, visitAllUnmarked_eq config.checkDependency_closed
    fun name h => (config.mem_serviceNames).mp h]

theorem serviceOrder_ne_outOfFuel : config.serviceOrder ≠ .error .outOfFuel := by
  rw [serviceOrder_eq]
  intro h
  exact visitAll_ne_outOfFuel config.checkDependency_closed
    (fun _ => config.mem_serviceNames) (by rw [length_serviceNames]) (map_eq_error.mp h)

/-- `service_order` computes a dependency order: it succeeds exactly on a closed acyclic
    dependency graph, and then lists every service once, after its dependencies. -/
theorem serviceOrder_spec :
    SortsTopologically config.dependencies config.serviceOrder config.services.keys := by
  have hclosed := config.checkDependency_closed
  have hroots : ∀ v, v ∈ config.serviceNames ↔ (config.dependencies v).isSome :=
    fun _ => config.mem_serviceNames
  have hfuel : config.serviceNames.length + 1 ≤ config.services.keys.length + 1 := by
    rw [length_serviceNames]
  -- the test passes on an edge exactly when its dependency is a service
  have hcheck : (∀ u child, Edge config.dependencies u child →
      config.checkDependency u child = .ok ()) ↔ Closed config.dependencies := by
    simp only [Closed, checkDependency_eq_ok, dependencies_isSome]
  constructor
  · rw [serviceOrder_eq]
    constructor
    · rintro ⟨order, h⟩
      obtain ⟨s, hs, -⟩ := map_eq_ok.mp h
      obtain ⟨hchecks, hacyclic⟩ :=
        (visitAll_ok_iff hclosed hroots config.serviceNames_nodup hfuel).mp ⟨s, hs⟩
      exact ⟨hcheck.mp hchecks, hacyclic⟩
    · rintro ⟨hclosedGraph, hacyclic⟩
      obtain ⟨s, hs⟩ := (visitAll_ok_iff hclosed hroots config.serviceNames_nodup hfuel).mpr
        ⟨hcheck.mpr hclosedGraph, hacyclic⟩
      exact ⟨s.order, by rw [hs]; rfl⟩
  · intro order h
    rw [serviceOrder_eq] at h
    obtain ⟨s, hs, rfl⟩ := map_eq_ok.mp h
    have hperm : config.serviceNames.Perm config.services.keys := List.perm_insertionSort _ _
    exact (visitAll_topologicalOrder hclosed hroots config.serviceNames_nodup hs).of_perm hperm

/-- A service that depends on itself is a cycle; one that depends on a missing service
    is reported with both names. -/
example :
    let only (dependsOn : DependsOn) : ComposeConfig :=
      ⟨(∅ : AList fun _ : String => ServiceConfig).insert "a" ⟨dependsOn⟩⟩
    (only (.list ["a"])).serviceOrder =
        .error (.fail "Dependency cycle detected involving service 'a'") ∧
      (only (.list ["b"])).serviceOrder =
        .error (.fail "Service 'a' depends on 'b' which is not defined") := by
  decide

end ComposeConfig

end A3sBox.Compose
