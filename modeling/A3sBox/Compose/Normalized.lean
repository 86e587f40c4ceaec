import A3sBox.Lib.DfsOrder
import A3sBox.Lib.SortedMap

/-
  The canonical Compose model (normalized.rs) and its dependency order, with the
  structured diagnostics it reports (diagnostic.rs).

  Model. A `NormalizedComposeConfig` holds its services in a `BTreeMap`, modelled by a
  `SortedMap`, and so does each service's `depends_on`; iterating them goes in ascending
  key order. Only the dependency map of a service is read by the order; the other
  fields of `NormalizedServiceConfig`, and the volumes and networks of the config, are
  left out. A `ComposeDiagnostic` keeps its code, path and message; its `line` and
  `column` are `None` for every diagnostic made here and are left out.

  `service_order` first checks every dependency of every service, in map order, and
  fails with one diagnostic per dependency that is not a service. Only then does it
  visit every service with `visit_service`, the search of `Lib.Dfs` with no check of its
  own on an edge. As for the compatibility model, the recursion bound of the model is
  never reached (`serviceOrder_ne_outOfFuel`).

  Proved:
  * `undefinedDependencyDiagnostics_eq_nil_iff`: the first check reports nothing exactly
    when every dependency is a service;
  * `serviceOrder_spec`: `service_order` succeeds exactly when every dependency is a
    service and the dependency graph has no cycle, and then returns every service
    exactly once, each after its dependencies;
  * `serviceOrder_error_diagnostics`: a failed order always reports a diagnostic.
-/

namespace A3sBox.Compose

open A3sBox.Lib A3sBox.Lib.Dfs

/-! ## Diagnostics -/

/-- `ComposeDiagnosticCode`; `syntaxError` is the source's `Syntax`. -/
inductive ComposeDiagnosticCode where
  | syntaxError
  | interpolation
  | unsupportedField
  | unsupportedValue
  | invalidValue
deriving DecidableEq

namespace ComposeDiagnosticCode

/-- `as_str`. -/
def asStr : ComposeDiagnosticCode → String
  | .syntaxError => "compose.syntax"
  | .interpolation => "compose.interpolation"
  | .unsupportedField => "compose.unsupported_field"
  | .unsupportedValue => "compose.unsupported_value"
  | .invalidValue => "compose.invalid_value"

/-- The position of a code in its declaration, which the derived `Ord` compares. -/
def rank : ComposeDiagnosticCode → Nat
  | .syntaxError => 0
  | .interpolation => 1
  | .unsupportedField => 2
  | .unsupportedValue => 3
  | .invalidValue => 4

end ComposeDiagnosticCode

/-- `ComposeDiagnostic`. -/
structure ComposeDiagnostic where
  code : ComposeDiagnosticCode
  path : String
  message : String
deriving DecidableEq

/-- `ComposeDiagnostic::new`. -/
def ComposeDiagnostic.new (code : ComposeDiagnosticCode) (path message : String) :
    ComposeDiagnostic :=
  ⟨code, path, message⟩

/-- The order `ComposeNormalizationError::new` sorts by: path, then code, then message. -/
def ComposeDiagnostic.sortKey (diagnostic : ComposeDiagnostic) : String ×ₗ (Nat ×ₗ String) :=
  toLex (diagnostic.path, toLex (diagnostic.code.rank, diagnostic.message))

/-- `ComposeNormalizationError`. -/
structure ComposeNormalizationError where
  diagnostics : List ComposeDiagnostic
deriving DecidableEq

namespace ComposeNormalizationError

/-- `new`: sort the diagnostics (stably) and drop adjacent repeats (`dedup`). -/
def new (diagnostics : List ComposeDiagnostic) : ComposeNormalizationError :=
  ⟨(diagnostics.insertionSort fun left right => left.sortKey ≤ right.sortKey).destutter (· ≠ ·)⟩

/-- `one`. -/
def one (diagnostic : ComposeDiagnostic) : ComposeNormalizationError :=
  new [diagnostic]

theorem new_diagnostics_ne_nil {diagnostics : List ComposeDiagnostic} (h : diagnostics ≠ []) :
    (new diagnostics).diagnostics ≠ [] := by
  have hsorted : (diagnostics.insertionSort fun left right => left.sortKey ≤ right.sortKey) ≠ [] :=
    fun hnil => h (List.perm_nil.mp (hnil ▸ (List.perm_insertionSort _ diagnostics).symm))
  simpa [new, List.destutter_eq_nil] using hsorted

end ComposeNormalizationError

/-- `str::replace` of a character by a string. -/
def replaceChar (value : String) (target : Char) (replacement : String) : String :=
  String.join (value.toList.map fun c => if c = target then replacement else c.toString)

/-- `pointer_segment`: escape a JSON Pointer segment. -/
def pointerSegment (value : String) : String :=
  replaceChar (replaceChar value '~' "~0") '/' "~1"

/-- One character of a string's `Debug` form: quotes, backslashes and the common
    control characters escaped. -/
def escapeDebug (c : Char) : String :=
  if c = Char.ofNat 34 then "\\\""
  else if c = Char.ofNat 92 then "\\\\"
  else if c = Char.ofNat 10 then "\\n"
  else if c = Char.ofNat 13 then "\\r"
  else if c = Char.ofNat 9 then "\\t"
  else if c = Char.ofNat 0 then "\\0"
  else c.toString

/-- `{:?}` of a string. -/
def debugString (value : String) : String :=
  "\"" ++ String.join (value.toList.map escapeDebug) ++ "\""

/-! ## The canonical model -/

/-- `NormalizedDependsOn`. -/
structure NormalizedDependsOn where
  condition : String
deriving DecidableEq

/-- `NormalizedServiceConfig`, restricted to what the dependency order reads. -/
structure NormalizedServiceConfig where
  dependsOn : SortedMap String NormalizedDependsOn

/-- `NormalizedComposeConfig`, restricted to its services. -/
structure NormalizedComposeConfig where
  services : SortedMap String NormalizedServiceConfig

namespace NormalizedComposeConfig

/-- The dependency graph: a service's dependency names, in map order. -/
def dependencies (config : NormalizedComposeConfig) (name : String) : Option (List String) :=
  (config.services.get? name).map (·.dependsOn.keys)

/-- The service names, in map order. -/
def serviceNames (config : NormalizedComposeConfig) : List String :=
  config.services.keys

/-- The diagnostic for a dependency that is not a service. -/
def undefinedDependency (serviceName dependency : String) : ComposeDiagnostic :=
  .new .invalidValue
    ("/services/" ++ pointerSegment serviceName ++ "/depends_on/" ++ pointerSegment dependency)
    ("service " ++ debugString serviceName ++ " depends on undefined service " ++
      debugString dependency)

/-- The first loop of `service_order`: a diagnostic for each dependency of each service
    that is not a service. -/
def undefinedDependencyDiagnostics (config : NormalizedComposeConfig) :
    List ComposeDiagnostic :=
  config.services.entries.flatMap fun (serviceName, service) =>
    (service.dependsOn.keys.filter fun dependency => !config.services.containsKey dependency).map
      (undefinedDependency serviceName)

/-- The error of `visit_service` on reaching a service in progress. -/
def cycleError (serviceName : String) : ComposeNormalizationError :=
  .one (.new .invalidValue ("/services/" ++ pointerSegment serviceName ++ "/depends_on")
    ("dependency cycle detected involving service " ++ debugString serviceName))

/-- `visit_service`: no test on an edge; `service_order` made it before. -/
def visitService (config : NormalizedComposeConfig) (fuel : Nat) (serviceName : String)
    (s : Search String) : Except (Failure ComposeNormalizationError) (Search String) :=
  visit config.dependencies (fun _ _ => .ok ()) cycleError fuel serviceName s

/-- `service_order`. -/
def serviceOrder (config : NormalizedComposeConfig) :
    Except (Failure ComposeNormalizationError) (List String) :=
  let diagnostics := config.undefinedDependencyDiagnostics
  if !diagnostics.isEmpty then .error (.fail (ComposeNormalizationError.new diagnostics))
  else
    Search.order <$> visitAll config.dependencies (fun _ _ => .ok ()) cycleError
      (config.services.keys.length + 1) config.serviceNames

variable (config : NormalizedComposeConfig)

theorem dependencies_isSome {name : String} :
    (config.dependencies name).isSome ↔ name ∈ config.services.keys := by
  simp [dependencies, SortedMap.mem_keys_iff]

theorem edge_iff {name dependency : String} :
    Edge config.dependencies name dependency ↔
      ∃ service, (name, service) ∈ config.services.entries ∧
        dependency ∈ service.dependsOn.keys := by
  simp only [Edge, dependencies, Option.map_eq_some_iff, SortedMap.mem_entries_iff]
  constructor
  · rintro ⟨deps, ⟨service, hget, rfl⟩, hmem⟩
    exact ⟨service, hget, hmem⟩
  · rintro ⟨service, hget, hmem⟩
    exact ⟨_, ⟨service, hget, rfl⟩, hmem⟩

/-- The first check reports nothing exactly when every dependency is a service. -/
theorem undefinedDependencyDiagnostics_eq_nil_iff :
    config.undefinedDependencyDiagnostics = [] ↔ Closed config.dependencies := by
  simp only [undefinedDependencyDiagnostics, List.flatMap_eq_nil_iff, List.map_eq_nil_iff,
    List.filter_eq_nil_iff, Bool.not_eq_eq_eq_not, Bool.not_true, Bool.not_eq_false,
    SortedMap.containsKey_iff, Closed, edge_iff, dependencies_isSome]
  constructor
  · rintro h u dependency ⟨service, hmem, hdep⟩
    exact h (u, service) hmem dependency hdep
  · rintro h ⟨u, service⟩ hmem dependency hdep
    exact h u dependency ⟨service, hmem, hdep⟩

theorem mem_serviceNames {name : String} :
    name ∈ config.serviceNames ↔ (config.dependencies name).isSome :=
  (config.dependencies_isSome).symm

/-- Once the first check has passed, the search's edges all lead to services. -/
theorem closed_of_diagnostics (h : config.undefinedDependencyDiagnostics = []) :
    ∀ u child, Edge config.dependencies u child →
      (fun _ _ => Except.ok ()) u child = (.ok () : Except ComposeNormalizationError Unit) →
        (config.dependencies child).isSome :=
  fun u child hedge _ => (config.undefinedDependencyDiagnostics_eq_nil_iff.mp h) u child hedge

theorem serviceOrder_of_diagnostics (h : config.undefinedDependencyDiagnostics = []) :
    config.serviceOrder =
      Search.order <$> visitAll config.dependencies (fun _ _ => .ok ()) cycleError
        (config.services.keys.length + 1) config.serviceNames := by
  simp [serviceOrder, h]

theorem serviceOrder_of_diagnostics_ne_nil (h : config.undefinedDependencyDiagnostics ≠ []) :
    config.serviceOrder =
      .error (.fail (ComposeNormalizationError.new config.undefinedDependencyDiagnostics)) := by
  simp [serviceOrder, h]

theorem serviceOrder_ne_outOfFuel : config.serviceOrder ≠ .error .outOfFuel := by
  by_cases h : config.undefinedDependencyDiagnostics = []
  · rw [config.serviceOrder_of_diagnostics h]
    intro hfuel
    exact visitAll_ne_outOfFuel (config.closed_of_diagnostics h)
      (fun _ => config.mem_serviceNames) le_rfl (map_eq_error.mp hfuel)
  · rw [config.serviceOrder_of_diagnostics_ne_nil h]
    exact fun hfuel => nomatch hfuel

/-- A failed order reports at least one diagnostic. -/
theorem serviceOrder_error_diagnostics {error : ComposeNormalizationError}
    (h : config.serviceOrder = .error (.fail error)) : error.diagnostics ≠ [] := by
  by_cases hdiag : config.undefinedDependencyDiagnostics = []
  · -- the search fails only at a service in progress, with the one cycle diagnostic
    rw [config.serviceOrder_of_diagnostics hdiag] at h
    rcases visitAll_fail (map_eq_error.mp h) with ⟨v, rfl⟩ | ⟨u, child, hcheck⟩
    · exact ComposeNormalizationError.new_diagnostics_ne_nil (List.cons_ne_nil _ _)
    · exact nomatch hcheck
  · rw [config.serviceOrder_of_diagnostics_ne_nil hdiag, Except.error.injEq,
      Failure.fail.injEq] at h
    subst h
    exact ComposeNormalizationError.new_diagnostics_ne_nil hdiag

/-- `service_order` computes a dependency order: it succeeds exactly on a closed acyclic
    dependency graph, and then lists every service once, after its dependencies. -/
theorem serviceOrder_spec :
    SortsTopologically config.dependencies config.serviceOrder config.serviceNames := by
  have hroots : ∀ v, v ∈ config.serviceNames ↔ (config.dependencies v).isSome :=
    fun _ => config.mem_serviceNames
  have hnodup : config.serviceNames.Nodup := config.services.keys_nodup
  constructor
  · constructor
    · rintro ⟨order, h⟩
      -- a failed first check is an error, so it passed
      have hdiag : config.undefinedDependencyDiagnostics = [] := by
        by_contra hne
        rw [config.serviceOrder_of_diagnostics_ne_nil hne] at h
        exact nomatch h
      rw [config.serviceOrder_of_diagnostics hdiag] at h
      obtain ⟨s, hs, -⟩ := map_eq_ok.mp h
      obtain ⟨-, hacyclic⟩ :=
        (visitAll_ok_iff (config.closed_of_diagnostics hdiag) hroots hnodup le_rfl).mp ⟨s, hs⟩
      exact ⟨config.undefinedDependencyDiagnostics_eq_nil_iff.mp hdiag, hacyclic⟩
    · rintro ⟨hclosed, hacyclic⟩
      have hdiag := config.undefinedDependencyDiagnostics_eq_nil_iff.mpr hclosed
      obtain ⟨s, hs⟩ : ∃ s, visitAll config.dependencies (fun _ _ => .ok ()) cycleError
          (config.services.keys.length + 1) config.serviceNames = .ok s :=
        (visitAll_ok_iff (config.closed_of_diagnostics hdiag) hroots hnodup le_rfl).mpr
          ⟨fun _ _ _ => rfl, hacyclic⟩
      exact ⟨s.order, by rw [config.serviceOrder_of_diagnostics hdiag, hs]; rfl⟩
  · intro order h
    have hdiag : config.undefinedDependencyDiagnostics = [] := by
      by_contra hne
      rw [config.serviceOrder_of_diagnostics_ne_nil hne] at h
      exact nomatch h
    rw [config.serviceOrder_of_diagnostics hdiag] at h
    obtain ⟨s, hs, rfl⟩ := map_eq_ok.mp h
    exact visitAll_topologicalOrder (config.closed_of_diagnostics hdiag) hroots hnodup hs

end NormalizedComposeConfig

end A3sBox.Compose
