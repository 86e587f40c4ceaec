import A3sBox.Compat.Routing.Parser
import A3sBox.Compat.Repository
import A3sBox.Lib.SortedMap

/-
  Route policies and route leases of the data plane (`routing::policy`,
  `routing::lease`).

  Model. A `SandboxRoutePolicy` maps routed ports to the token scope that opens them;
  every way to build one, deserialization included, runs `validate`, so the policy
  carries that check as a field: the envd port is routed with the envd scope, no other
  port is, and no port takes the volume scope.

  The data plane reads a record as `RouteRecord`: the control-plane `SandboxRecord`,
  routed by such a policy, with the envd mode and the credentials that the
  control-plane model leaves out. The lease service is its three collaborators at the
  moment of one call (`RouteLeaseService`): the repository's `get`, the token
  verifier's `verify` and the clock's reading `now`, each an arbitrary function, so
  every result below holds for every repository state, verifier and time.

  `resolve` gives a live route lease: the record exists, is `Running` and unexpired,
  and the request presents the token of the port's scope in exactly one header, which
  the verifier accepts against the record's stored credential for that scope. The
  header is read as text by the `http` crate's `HeaderValue::to_str`, that of the crate
  the service is given (`Http.Crate`).
  `resolve_envd_health` checks the token first, and answers `Inactive` for a record
  that is not live instead of failing.

  Proved:
  * `tokenScope_ne_volume`, `tokenScope_eq_envd`: a policy never routes the volume
    scope, and routes the envd scope only on the envd port;
  * `verifyRouteToken_eq_ok`: a verified token is `TokenAccepted` for the port's scope;
  * `resolve_eq_ok`, `resolveEnvdHealth_eq_running`, `resolveEnvdHealth_eq_inactive`:
    each answer is given only for a record that exists, to a request that
    `TokenAccepted`, with the record `Live` exactly when a lease is issued;
  * `resolve_isCurrent`: a lease is current for its record when it is issued.
-/

namespace A3sBox.Compat

open A3sBox.Lib A3sBox.Lib.Http

/-- `ENVD_PORT`. -/
def envdPort : Nat := 49983

inductive TokenScope where
  | envd
  | traffic
  | volume
deriving DecidableEq

inductive RoutePolicyError where
  | invalidPort (port : Nat)
  | missingEnvd
  | invalidScope
  | tooManyPorts
deriving DecidableEq

/-- `MAX_ROUTED_PORTS`. -/
def maxRoutedPorts : Nat := 64

/-- A routed port that `validate` rejects. -/
def invalidRoute (entry : Nat × TokenScope) : Bool :=
  entry.1 == 0 || (entry.2 == .envd && entry.1 != envdPort) || entry.2 == .volume

/-- `SandboxRoutePolicy::validate`. -/
def validateRoutePorts (ports : SortedMap Nat TokenScope) : Except RoutePolicyError Unit := do
  ensure (ports.entries.length ≤ maxRoutedPorts) .tooManyPorts
  ensure (ports.get? envdPort == some .envd) .missingEnvd
  ensure (!ports.entries.any invalidRoute) .invalidScope

/-- `SandboxRoutePolicy`: its `BTreeMap<u16, TokenScope>`, validated. -/
structure SandboxRoutePolicy where
  ports : SortedMap Nat TokenScope
  valid : validateRoutePorts ports = .ok ()

/-- `SandboxRoutePolicy::token_scope`. -/
def SandboxRoutePolicy.tokenScope (policy : SandboxRoutePolicy) (port : Nat) :
    Option TokenScope :=
  policy.ports.get? port

namespace SandboxRoutePolicy

variable (policy : SandboxRoutePolicy)

/-- A routed port passes the check of `validate`. -/
theorem invalidRoute_eq_false {port : Nat} {scope : TokenScope}
    (h : policy.tokenScope port = some scope) : invalidRoute (port, scope) = false := by
  obtain ⟨-, hvalid⟩ := bind_unit_eq_ok.mp policy.valid
  obtain ⟨-, hvalid⟩ := bind_unit_eq_ok.mp hvalid
  have hnone : policy.ports.entries.any invalidRoute = false := by
    simpa using ensure_eq_ok.mp hvalid
  have hmem : (port, scope) ∈ policy.ports.entries := SortedMap.mem_entries_iff.mpr h
  exact List.any_eq_false.mp hnone _ hmem |> Bool.eq_false_iff.mpr

theorem tokenScope_ne_volume (port : Nat) : policy.tokenScope port ≠ some .volume := by
  intro h
  have := policy.invalidRoute_eq_false h
  simp [invalidRoute] at this

theorem tokenScope_eq_envd {port : Nat} (h : policy.tokenScope port = some .envd) :
    port = envdPort := by
  have := policy.invalidRoute_eq_false h
  simp only [invalidRoute, Bool.or_eq_false_iff, beq_eq_false_iff_ne] at this
  simpa using this.1.2

end SandboxRoutePolicy

/-- `ENVD_ACCESS_TOKEN_HEADER`. -/
def envdAccessTokenHeader : HeaderName := ⟨"x-access-token"⟩

/-- `TRAFFIC_ACCESS_TOKEN_HEADER`. -/
def trafficAccessTokenHeader : HeaderName := ⟨"e2b-traffic-access-token"⟩

/-- `MAX_TOKEN_BYTES`. -/
def maxTokenBytes : Nat := 4096

/-- The header that carries a scope's token; the volume scope has none. -/
def TokenScope.tokenHeader : TokenScope → Option HeaderName
  | .envd => some envdAccessTokenHeader
  | .traffic => some trafficAccessTokenHeader
  | .volume => none

/-- `StoredToken`: a sealed token with the version of its key. -/
structure StoredToken where
  keyVersion : Nat
  ciphertext : List UInt8
  digest : List UInt8
deriving DecidableEq

structure SandboxCredentials where
  envd : StoredToken
  traffic : StoredToken
deriving DecidableEq

inductive TokenIssuerError where
  | invalidMaterial
  | unknownKeyVersion (version : Nat)
  | unavailable (message : String)
deriving DecidableEq

/-- `SecretToken`: a nonempty token. -/
structure SecretToken where
  val : String
  nonempty : val.isEmpty = false
deriving DecidableEq

/-- `SecretToken::new`. -/
def SecretToken.new (value : String) : Except TokenIssuerError SecretToken :=
  if h : value.isEmpty = false then .ok ⟨value, h⟩ else .error .invalidMaterial

inductive EnvdMode where
  | broker
  | runtime
deriving DecidableEq

/-- A sandbox record as the data plane reads it: the control-plane record, routed by a
    policy, with its envd mode and credentials. -/
structure RouteRecord (Plan Resources Mount : Type) where
  record : SandboxRecord Plan Resources SandboxRoutePolicy Mount
  envdMode : EnvdMode
  credentials : SandboxCredentials

/-- `RouteLease`. -/
structure RouteLease where
  sandboxId : SandboxId
  executionId : ExecutionId
  sandboxGeneration : SandboxGeneration
  executionGeneration : ExecutionGeneration
  port : NonZeroU16
  tokenScope : TokenScope
  envdMode : EnvdMode
  expiresAt : Timestamp
deriving DecidableEq

inductive EnvdHealthResolution where
  | running (lease : RouteLease)
  | inactive
deriving DecidableEq

inductive RouteLeaseError where
  | notFound
  | inactive
  | expired
  | portDenied
  | missingToken
  | invalidToken
  | unauthorized
  | invalidRecord
  | repository (error : RepositoryError)
  | token (error : TokenIssuerError)
deriving DecidableEq

/-- `presented_token`: the one value of the scope's token header, as text, 1 to
    `MAX_TOKEN_BYTES` long. -/
def presentedToken (http : Crate) (headers : HeaderMap) (scope : TokenScope) :
    Except RouteLeaseError SecretToken := do
  let name ← okOr scope.tokenHeader .portDenied
  match MultiMap.getAll name headers with
  | [] => .error .missingToken
  | [value] =>
    let value ← okOr (http.headerValueToStr value) .invalidToken
    ensure (!value.isEmpty && value.toList.length ≤ maxTokenBytes) .invalidToken
    (SecretToken.new value).mapError fun _ => .invalidToken
  | _ :: _ :: _ => .error .invalidToken

theorem presentedToken_eq_ok {http : Crate} {headers : HeaderMap} {scope : TokenScope}
    {token : SecretToken} (h : presentedToken http headers scope = .ok token) :
    ∃ name value, scope.tokenHeader = some name ∧ MultiMap.getAll name headers = [value] ∧
      http.headerValueToStr value = some token.val ∧ token.val.toList.length ≤ maxTokenBytes := by
  obtain ⟨name, hname, h⟩ := bind_eq_ok.mp h
  -- only a single value of the header gives a token
  rcases hvalues : MultiMap.getAll name headers with _ | ⟨value, _ | ⟨second, rest⟩⟩ <;>
    rw [hvalues] at h
  · cases h
  · obtain ⟨text, htext, h⟩ := bind_eq_ok.mp h
    obtain ⟨hcheck, htoken⟩ := bind_unit_eq_ok.mp h
    have hval : token.val = text := by
      rw [mapError_eq_ok, SecretToken.new] at htoken
      split at htoken
      · cases htoken
        rfl
      · cases htoken
    subst hval
    simp only [ensure_eq_ok, Bool.and_eq_true, decide_eq_true_eq] at hcheck
    exact ⟨name, value, okOr_eq_ok.mp hname, hvalues, okOr_eq_ok.mp htext, hcheck.2⟩
  · cases h

namespace RouteRecord

variable {Plan Resources Mount : Type} (record : RouteRecord Plan Resources Mount)

/-- The stored credential of a scope, as `verify_route_token` picks it. -/
def storedToken : TokenScope → Except RouteLeaseError StoredToken
  | .envd => .ok record.credentials.envd
  | .traffic => .ok record.credentials.traffic
  | .volume => .error .portDenied

/-- Running and unexpired at `now`. -/
def Live (now : Timestamp) : Prop :=
  record.record.state = .running ∧ now < record.record.expiresAt

instance (now : Timestamp) : Decidable (record.Live now) :=
  inferInstanceAs (Decidable (_ ∧ _))

theorem storedToken_eq_ok {scope : TokenScope} {stored : StoredToken}
    (h : record.storedToken scope = .ok stored) : scope = .envd ∨ scope = .traffic := by
  cases scope with
  | envd => exact .inl rfl
  | traffic => exact .inr rfl
  | volume => cases h

/-- The lease `resolve` and `resolve_envd_health` build from a record. -/
def lease (route : ParsedSandboxRoute) (tokenScope : TokenScope) (executionId : ExecutionId)
    (executionGeneration : ExecutionGeneration) : RouteLease where
  sandboxId := record.record.sandboxId
  executionId := executionId
  sandboxGeneration := record.record.generation
  executionGeneration := executionGeneration
  port := route.port
  tokenScope := tokenScope
  envdMode := record.envdMode
  expiresAt := record.record.expiresAt

end RouteRecord

/-- `RouteLease::is_current`. -/
def RouteLease.isCurrent {Plan Resources Mount : Type} (lease : RouteLease)
    (record : RouteRecord Plan Resources Mount) (now : Timestamp) : Bool :=
  record.record.state == .running && record.record.sandboxId == lease.sandboxId &&
    record.record.generation == lease.sandboxGeneration &&
    record.record.executionId == some lease.executionId &&
    record.record.executionGeneration == some lease.executionGeneration &&
    decide (now < record.record.expiresAt) && record.envdMode == lease.envdMode &&
    record.record.routing.tokenScope lease.port.get == some lease.tokenScope

/-- `RouteLeaseService`: the repository's `get`, the token verifier's `verify` and the
    clock's reading, at the moment of one call. -/
structure RouteLeaseService (Plan Resources Mount : Type) where
  get : SandboxId → Except RepositoryError (Option (RouteRecord Plan Resources Mount))
  verify : TokenScope → SecretToken → StoredToken → Except TokenIssuerError Bool
  now : Timestamp

namespace RouteLeaseService

variable {Plan Resources Mount : Type} (service : RouteLeaseService Plan Resources Mount)
  (http : Crate)

/-- The record of the route's sandbox: `get(..).await?.ok_or(NotFound)`. -/
def record (route : ParsedSandboxRoute) :
    Except RouteLeaseError (RouteRecord Plan Resources Mount) := do
  let record ← (service.get route.sandboxId).mapError .repository
  okOr record .notFound

/-- `verify_route_token`. -/
def verifyRouteToken (record : RouteRecord Plan Resources Mount) (route : ParsedSandboxRoute)
    (headers : HeaderMap) : Except RouteLeaseError TokenScope := do
  let tokenScope ← okOr (record.record.routing.tokenScope route.port.get) .portDenied
  let presented ← presentedToken http headers tokenScope
  let stored ← record.storedToken tokenScope
  let verified ← (service.verify tokenScope presented stored).mapError .token
  ensure verified .unauthorized
  pure tokenScope

/-- `RouteLeaseService::resolve`. -/
def resolve (route : ParsedSandboxRoute) (headers : HeaderMap) :
    Except RouteLeaseError RouteLease := do
  let record ← service.record route
  ensure (record.record.state == .running) .inactive
  ensure (decide (service.now < record.record.expiresAt)) .expired
  let tokenScope ← service.verifyRouteToken http record route headers
  let executionId ← okOr record.record.executionId .invalidRecord
  let executionGeneration ← okOr record.record.executionGeneration .invalidRecord
  pure (record.lease route tokenScope executionId executionGeneration)

/-- `RouteLeaseService::resolve_envd_health`. -/
def resolveEnvdHealth (route : ParsedSandboxRoute) (headers : HeaderMap) :
    Except RouteLeaseError EnvdHealthResolution := do
  let record ← service.record route
  let tokenScope ← service.verifyRouteToken http record route headers
  ensure (tokenScope == .envd) .portDenied
  if record.record.state ≠ .running ∨ record.record.expiresAt ≤ service.now then
    pure .inactive
  else
    let executionId ← okOr record.record.executionId .invalidRecord
    let executionGeneration ← okOr record.record.executionGeneration .invalidRecord
    pure (.running (record.lease route tokenScope executionId executionGeneration))

/-- Exactly one header of the scope's name carries a token, its value read as text, and
    the verifier accepts it against the record's stored credential of that scope. -/
def TokenAccepted (record : RouteRecord Plan Resources Mount) (scope : TokenScope)
    (headers : HeaderMap) : Prop :=
  ∃ name value token stored, scope.tokenHeader = some name ∧
    MultiMap.getAll name headers = [value] ∧ http.headerValueToStr value = some (SecretToken.val token) ∧
    record.storedToken scope = .ok stored ∧ service.verify scope token stored = .ok true

/-- What a lease of the data plane stands for: the route's sandbox has the record, the
    record routes the route's port with the lease's scope, whose token the request
    presents and the verifier accepts, and the lease is the record's, for that port. -/
structure Grant (route : ParsedSandboxRoute) (headers : HeaderMap)
    (record : RouteRecord Plan Resources Mount) (lease : RouteLease) : Prop where
  found : service.get route.sandboxId = .ok (some record)
  routed : record.record.routing.tokenScope route.port.get = some lease.tokenScope
  accepted : service.TokenAccepted http record lease.tokenScope headers
  executionId : record.record.executionId = some lease.executionId
  executionGeneration : record.record.executionGeneration = some lease.executionGeneration
  lease_eq :
    lease = record.lease route lease.tokenScope lease.executionId lease.executionGeneration

variable {route : ParsedSandboxRoute} {headers : HeaderMap}
  {record : RouteRecord Plan Resources Mount}

theorem record_eq_ok : service.record route = .ok record ↔
    service.get route.sandboxId = .ok (some record) := by
  rw [RouteLeaseService.record]
  cases service.get route.sandboxId <;> simp [Except.mapError]

/-- A verified token is accepted for the scope the record routes the port with. -/
theorem verifyRouteToken_eq_ok {scope : TokenScope}
    (h : service.verifyRouteToken http record route headers = .ok scope) :
    record.record.routing.tokenScope route.port.get = some scope ∧
      service.TokenAccepted http record scope headers := by
  obtain ⟨tokenScope, hscope, h⟩ := bind_eq_ok.mp h
  obtain ⟨presented, hpresented, h⟩ := bind_eq_ok.mp h
  obtain ⟨stored, hstored, h⟩ := bind_eq_ok.mp h
  obtain ⟨verified, hverified, h⟩ := bind_eq_ok.mp h
  obtain ⟨hcheck, h⟩ := bind_unit_eq_ok.mp h
  rw [pure_eq_ok] at h
  subst h
  obtain ⟨name, value, hname, hvalues, htext, -⟩ := presentedToken_eq_ok hpresented
  have htrue : verified = true := ensure_eq_ok.mp hcheck
  subst htrue
  exact ⟨okOr_eq_ok.mp hscope, name, value, presented, stored, hname, hvalues, htext, hstored,
    mapError_eq_ok.mp hverified⟩

/-- The record gives the lease of its execution for the route's port. -/
theorem grant_of_execution {scope : TokenScope} {executionId : ExecutionId}
    {executionGeneration : ExecutionGeneration}
    (hfound : service.get route.sandboxId = .ok (some record))
    (hverify : service.verifyRouteToken http record route headers = .ok scope)
    (hid : record.record.executionId = some executionId)
    (hgeneration : record.record.executionGeneration = some executionGeneration) :
    service.Grant http route headers record
      (record.lease route scope executionId executionGeneration) :=
  have hverified := service.verifyRouteToken_eq_ok http hverify
  ⟨hfound, hverified.1, hverified.2, hid, hgeneration, rfl⟩

/-- `resolve` grants a lease only for a live record. -/
theorem resolve_eq_ok {lease : RouteLease} (h : service.resolve http route headers = .ok lease) :
    ∃ record, service.Grant http route headers record lease ∧ record.Live service.now := by
  obtain ⟨record, hrecord, h⟩ := bind_eq_ok.mp h
  obtain ⟨hrunning, h⟩ := bind_unit_eq_ok.mp h
  obtain ⟨hunexpired, h⟩ := bind_unit_eq_ok.mp h
  obtain ⟨scope, hverify, h⟩ := bind_eq_ok.mp h
  obtain ⟨executionId, hid, h⟩ := bind_eq_ok.mp h
  obtain ⟨executionGeneration, hgeneration, h⟩ := bind_eq_ok.mp h
  rw [pure_eq_ok] at h
  subst h
  refine ⟨record, service.grant_of_execution http ((service.record_eq_ok).mp hrecord) hverify
    (okOr_eq_ok.mp hid) (okOr_eq_ok.mp hgeneration), ?_⟩
  simp only [ensure_eq_ok, beq_iff_eq, decide_eq_true_eq] at hrunning hunexpired
  exact ⟨hrunning, hunexpired⟩

/-- The health check gives a lease only for a live record, on the envd scope. -/
theorem resolveEnvdHealth_eq_running {lease : RouteLease}
    (h : service.resolveEnvdHealth http route headers = .ok (.running lease)) :
    ∃ record, service.Grant http route headers record lease ∧ record.Live service.now ∧
      lease.tokenScope = .envd := by
  obtain ⟨record, hrecord, h⟩ := bind_eq_ok.mp h
  obtain ⟨scope, hverify, h⟩ := bind_eq_ok.mp h
  obtain ⟨henvd, h⟩ := bind_unit_eq_ok.mp h
  have hscope : scope = .envd := by simpa using ensure_eq_ok.mp henvd
  by_cases hlive : record.record.state ≠ .running ∨ record.record.expiresAt ≤ service.now
  · rw [if_pos hlive, pure_eq_ok] at h
    cases h
  · rw [if_neg hlive] at h
    obtain ⟨executionId, hid, h⟩ := bind_eq_ok.mp h
    obtain ⟨executionGeneration, hgeneration, h⟩ := bind_eq_ok.mp h
    rw [pure_eq_ok, EnvdHealthResolution.running.injEq] at h
    subst h
    refine ⟨record, service.grant_of_execution http ((service.record_eq_ok).mp hrecord) hverify
      (okOr_eq_ok.mp hid) (okOr_eq_ok.mp hgeneration), ?_, hscope⟩
    obtain ⟨hrunning, hunexpired⟩ := not_or.mp hlive
    exact ⟨not_not.mp hrunning, not_le.mp hunexpired⟩

/-- The health check answers `Inactive` only for a record that is not live, to a request
    whose envd token is accepted. -/
theorem resolveEnvdHealth_eq_inactive
    (h : service.resolveEnvdHealth http route headers = .ok .inactive) :
    ∃ record, service.get route.sandboxId = .ok (some record) ∧
      record.record.routing.tokenScope route.port.get = some .envd ∧
      service.TokenAccepted http record .envd headers ∧ ¬ record.Live service.now := by
  obtain ⟨record, hrecord, h⟩ := bind_eq_ok.mp h
  obtain ⟨scope, hverify, h⟩ := bind_eq_ok.mp h
  obtain ⟨henvd, h⟩ := bind_unit_eq_ok.mp h
  have hscope : scope = .envd := by simpa using ensure_eq_ok.mp henvd
  subst hscope
  obtain ⟨hrouted, haccepted⟩ := service.verifyRouteToken_eq_ok http hverify
  refine ⟨record, (service.record_eq_ok).mp hrecord, hrouted, haccepted, ?_⟩
  by_cases hlive : record.record.state ≠ .running ∨ record.record.expiresAt ≤ service.now
  · rintro ⟨hrunning, hunexpired⟩
    rcases hlive with hstate | hexpired
    · exact hstate hrunning
    · exact absurd hunexpired (not_lt.mpr hexpired)
  · rw [if_neg hlive] at h
    obtain ⟨executionId, -, h⟩ := bind_eq_ok.mp h
    obtain ⟨executionGeneration, -, h⟩ := bind_eq_ok.mp h
    cases h

/-- A granted lease of a live record is current for it. -/
theorem Grant.isCurrent {service : RouteLeaseService Plan Resources Mount} {http : Crate} {lease : RouteLease}
    (hgrant : service.Grant http route headers record lease) (hlive : record.Live service.now) :
    lease.isCurrent record service.now = true := by
  obtain ⟨-, hrouted, -, hid, hgeneration, hlease⟩ := hgrant
  obtain ⟨hrunning, hunexpired⟩ := hlive
  rw [hlease] at hrouted ⊢
  simp [RouteLease.isCurrent, RouteRecord.lease, hrunning, hunexpired, hid, hgeneration,
    hrouted]

/-- A granted lease is for the route's port. -/
theorem Grant.port_eq {service : RouteLeaseService Plan Resources Mount} {http : Crate} {lease : RouteLease}
    (hgrant : service.Grant http route headers record lease) : lease.port = route.port := by
  rw [hgrant.lease_eq]
  rfl

/-- A granted lease has a scope with a token: envd or traffic. -/
theorem Grant.scope {service : RouteLeaseService Plan Resources Mount} {http : Crate} {lease : RouteLease}
    (hgrant : service.Grant http route headers record lease) :
    lease.tokenScope = .envd ∨ lease.tokenScope = .traffic := by
  obtain ⟨name, value, token, stored, -, -, -, hstored, -⟩ := hgrant.accepted
  exact record.storedToken_eq_ok hstored

theorem resolve_isCurrent {lease : RouteLease} (h : service.resolve http route headers = .ok lease) :
    ∃ record, service.get route.sandboxId = .ok (some record) ∧
      lease.isCurrent record service.now = true := by
  obtain ⟨record, hgrant, hlive⟩ := service.resolve_eq_ok http h
  exact ⟨record, hgrant.found, hgrant.isCurrent hlive⟩

end RouteLeaseService

end A3sBox.Compat
