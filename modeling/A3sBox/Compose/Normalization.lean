import A3sBox.Compose.Config
import A3sBox.Compose.Normalized

/-
  From the compatibility model to the canonical one (normalization.rs), as far as the
  dependency order sees it, and the agreement of the two orders.

  Model. `normalize_compose_config` inserts every raw service, normalized, into a
  `BTreeMap`, and runs the canonical `service_order` on the result as its order check,
  adding that check's diagnostics to its own. `normalize_dependencies` turns a
  `depends_on` into a map from names to conditions: a list of names is first collected
  into a `HashMap` under the condition `service_started` (a repeated name kept once),
  and either map is then collected into a `BTreeMap`. Only the dependency maps are
  modelled (`ComposeConfig.normalized`); the other fields of a service, the checks of
  names and conditions and their diagnostics are left out. A `HashMap` is iterated in an
  unspecified order; the model iterates the `AList`'s entries, and the map collected
  from them does not depend on that order, since their keys are distinct.

  Proved:
  * `normalized_edge_iff`, `normalized_dependencies_isSome`: normalization keeps the
    services and the dependency graph, edge for edge;
  * `serviceOrder_ok_iff_normalized`: a config's order succeeds exactly when the order
    check of its normalization does;
  * `service_order_sorts_topologically`: both orders compute a topological order, and
    they agree on which configs they accept.
-/

namespace A3sBox.Compose

open A3sBox.Lib A3sBox.Lib.Dfs

/-- `normalize_dependencies`, without its checks of names and conditions. -/
def normalizeDependencies (dependsOn : DependsOn) : SortedMap String NormalizedDependsOn :=
  match dependsOn with
  | .empty => .empty
  | .list names => collect (names.foldl (fun m name => m.insert name ⟨"service_started"⟩) ∅)
  | .map dependencies => collect dependencies
where
  /-- Collect a `HashMap` of conditions into the canonical map. -/
  collect (dependencies : AList fun _ : String => DependsOnCondition) :
      SortedMap String NormalizedDependsOn :=
    SortedMap.ofList (dependencies.entries.map fun e => (e.1, ⟨e.2.condition⟩))

/-- `normalize_service`, restricted to the dependency map. -/
def normalizeService (service : ServiceConfig) : NormalizedServiceConfig :=
  ⟨normalizeDependencies service.dependsOn⟩

/-- The canonical config that `normalize_compose_config` checks the order of, restricted
    to the dependency maps: every service, normalized, inserted into the map. -/
def ComposeConfig.normalized (config : ComposeConfig) : NormalizedComposeConfig :=
  ⟨SortedMap.ofList (config.services.entries.map fun e => (e.1, normalizeService e.2))⟩

theorem mem_foldl_insert {names : List String} {condition : DependsOnCondition}
    {m : AList fun _ : String => DependsOnCondition} {name : String} :
    name ∈ names.foldl (fun m name => m.insert name condition) m ↔ name ∈ names ∨ name ∈ m := by
  induction names generalizing m with
  | nil => simp
  | cons first rest ih =>
    rw [List.foldl_cons, ih, AList.mem_insert, List.mem_cons]
    tauto

theorem mem_keys_collect {dependencies : AList fun _ : String => DependsOnCondition}
    {name : String} :
    name ∈ (normalizeDependencies.collect dependencies).keys ↔ name ∈ dependencies := by
  rw [normalizeDependencies.collect, SortedMap.mem_keys_ofList, AList.mem_keys]
  simp [AList.keys, List.keys, Function.comp_def]

/-- Normalization keeps a service's dependency names. -/
theorem mem_normalizeDependencies_keys {dependsOn : DependsOn} {name : String} :
    name ∈ (normalizeDependencies dependsOn).keys ↔ name ∈ dependsOn.services := by
  cases dependsOn with
  | empty => simp [normalizeDependencies, DependsOn.services]
  | list names =>
    rw [normalizeDependencies, mem_keys_collect, mem_foldl_insert, DependsOn.services]
    simp
  | map conditions =>
    rw [normalizeDependencies, mem_keys_collect, DependsOn.services,
      (List.perm_insertionSort _ _).mem_iff, AList.mem_keys]

namespace ComposeConfig

variable (config : ComposeConfig)

/-- The canonical map holds each service, normalized. -/
theorem normalized_get? (name : String) :
    config.normalized.services.get? name = (config.services.lookup name).map normalizeService := by
  have hnodup :
      ((config.services.entries.map fun e => (e.1, normalizeService e.2)).map Prod.fst).Nodup := by
    simpa [AList.keys, List.keys, Function.comp_def] using config.services.keys_nodup
  ext service
  rw [normalized, SortedMap.get?_ofList hnodup, Option.map_eq_some_iff]
  simp only [List.mem_map, Prod.mk.injEq]
  constructor
  · rintro ⟨⟨key, raw⟩, hmem, rfl, rfl⟩
    exact ⟨raw, AList.mem_lookup_iff.mpr hmem, rfl⟩
  · rintro ⟨raw, hlookup, rfl⟩
    exact ⟨⟨name, raw⟩, AList.mem_lookup_iff.mp hlookup, rfl, rfl⟩

theorem normalized_dependencies (name : String) :
    config.normalized.dependencies name =
      (config.services.lookup name).map fun service =>
        (normalizeDependencies service.dependsOn).keys := by
  rw [NormalizedComposeConfig.dependencies, normalized_get?, Option.map_map]
  rfl

theorem normalized_dependencies_isSome {name : String} :
    (config.normalized.dependencies name).isSome ↔ (config.dependencies name).isSome := by
  rw [normalized_dependencies, dependencies, Option.isSome_map, Option.isSome_map]

/-- Normalization keeps the dependency graph, edge for edge. -/
theorem normalized_edge_iff {name dependency : String} :
    Edge config.normalized.dependencies name dependency ↔
      Edge config.dependencies name dependency := by
  simp only [Edge, normalized_dependencies, dependencies, Option.map_eq_some_iff]
  constructor
  · rintro ⟨_, ⟨service, hlookup, rfl⟩, hmem⟩
    exact ⟨_, ⟨service, hlookup, rfl⟩, mem_normalizeDependencies_keys.mp hmem⟩
  · rintro ⟨_, ⟨service, hlookup, rfl⟩, hmem⟩
    exact ⟨_, ⟨service, hlookup, rfl⟩, mem_normalizeDependencies_keys.mpr hmem⟩

theorem normalized_edge : Edge config.normalized.dependencies = Edge config.dependencies := by
  funext name dependency
  exact propext config.normalized_edge_iff

theorem normalized_closed_iff :
    Closed config.normalized.dependencies ↔ Closed config.dependencies := by
  simp only [Closed, normalized_edge, normalized_dependencies_isSome]

theorem normalized_acyclic_iff :
    Acyclic config.normalized.dependencies ↔ Acyclic config.dependencies := by
  simp only [Acyclic, normalized_edge]

/-- A config's order succeeds exactly when the order check of its normalization does. -/
theorem serviceOrder_ok_iff_normalized :
    (∃ order, config.serviceOrder = .ok order) ↔
      ∃ order, config.normalized.serviceOrder = .ok order := by
  rw [config.serviceOrder_spec.ok_iff, config.normalized.serviceOrder_spec.ok_iff,
    normalized_closed_iff, normalized_acyclic_iff]

/-- `web` lists `db` twice: both orders put `db` first, and list it once. -/
example :
    let config : ComposeConfig :=
      ⟨((∅ : AList fun _ : String => ServiceConfig).insert "web" ⟨.list ["db", "db"]⟩).insert
        "db" ⟨.empty⟩⟩
    config.serviceOrder = .ok ["db", "web"] ∧ config.normalized.serviceOrder = .ok ["db", "web"] := by
  decide

end ComposeConfig

/-- Both dependency orders compute a topological order of the services, and a config's
    order succeeds exactly when the order check of its normalization does. -/
theorem service_order_sorts_topologically :
    (∀ config : ComposeConfig,
      SortsTopologically config.dependencies config.serviceOrder config.services.keys) ∧
    (∀ config : NormalizedComposeConfig,
      SortsTopologically config.dependencies config.serviceOrder config.serviceNames) ∧
    ∀ config : ComposeConfig,
      (∃ order, config.serviceOrder = .ok order) ↔
        ∃ order, config.normalized.serviceOrder = .ok order :=
  ⟨ComposeConfig.serviceOrder_spec, NormalizedComposeConfig.serviceOrder_spec,
    ComposeConfig.serviceOrder_ok_iff_normalized⟩

end A3sBox.Compose
