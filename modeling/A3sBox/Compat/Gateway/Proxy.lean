import A3sBox.Compat.Routing.Lease

/-
  The data-plane proxy of the compatibility gateway (`gateway::proxy`).

  Model. `DataPlaneProxy::handle` parses the request's route, answers a CORS preflight
  at once, and otherwise asks the lease service for the route: the envd `/health` probe
  through `resolve_envd_health`, every other request through `resolve`. What it does
  next is a `Handling`: an error response, the preflight answer, the inactive health
  answer, the envd broker with a lease, or `proxy_runtime` with a lease, which calls
  `connect_port` on the lease's execution, generation and port and then sends the
  request upstream (`upstreamRequest`, the request `proxy_upstream` sends).
  Responses, their CORS headers, the broker itself and the byte streams of a
  protocol upgrade are left out, as are the failures of connecting and of the
  upstream transport, which come after the decision modelled here. Every function of
  the `http` crate the proxy calls is that of the crate it is given (`Http.Crate`); the
  headers that reach the upstream are proved for a crate whose `HeaderValue::from_str`
  keeps the text it takes (`FromStrKeepsText`).

  `upstreamRequest` adds a `Host` from the authority when there is none, keeps only the
  path and query of the URI, and rewrites the headers: `sanitize_request_headers`
  removes the token headers, the route headers and `Forwarded`,
  `X-Forwarded-{For,Host,Port,Proto}`, removes the hop-by-hop headers (those a
  `Connection` header nominates among them; on an upgrade `Upgrade` and `Connection`
  stay), and adds its own `X-Forwarded-Proto: https` and an `X-Forwarded-Host` naming
  the downstream host.

  Proved:
  * `handle_grant`: a request reaches an execution or the broker only with a lease
    `Grant`ed for the parsed route's sandbox and port, to the one token header of the
    port's scope that the verifier accepts, while the record is live;
  * `handle_inactiveHealth`: the inactive health answer needs the same token, and is
    given only while the record is not live;
  * `upstreamRequest_confined`: the upstream request carries none of the removed
    headers, exactly the gateway's own `X-Forwarded-Proto` and `X-Forwarded-Host`, and
    otherwise only the client's headers and the `Host` from the authority. A client's
    other forwarding headers are among those, as `X-Forwarded-Prefix` is
    (`client_forwarded_prefix_reaches_upstream`).
-/

namespace A3sBox.Compat

open A3sBox.Lib A3sBox.Lib.Http A3sBox.Lib.Str

def forwardedHeader : HeaderName := ⟨"forwarded"⟩
def xForwardedFor : HeaderName := ⟨"x-forwarded-for"⟩
def xForwardedHost : HeaderName := ⟨"x-forwarded-host"⟩
def xForwardedPort : HeaderName := ⟨"x-forwarded-port"⟩
def xForwardedProto : HeaderName := ⟨"x-forwarded-proto"⟩
def proxyConnection : HeaderName := ⟨"proxy-connection"⟩
def proxyAuthenticate : HeaderName := ⟨"proxy-authenticate"⟩
def proxyAuthorization : HeaderName := ⟨"proxy-authorization"⟩
def keepAlive : HeaderName := ⟨"keep-alive"⟩
def accessControlRequestMethod : HeaderName := ⟨"access-control-request-method"⟩

/-- `ProxyFailure`, without the failures of `connect_port` and of the upstream
    transport. -/
inductive ProxyFailure where
  | route (error : RouteParseError)
  | lease (error : RouteLeaseError)
  | invalidUpstreamUri
deriving DecidableEq

/-- `ProxyFailure::public_error`: the status, code and message of the error response. -/
def ProxyFailure.publicError : ProxyFailure → Nat × String × String
  | .route .unsupportedHost => (404, "ROUTE_NOT_FOUND", "Sandbox route not found")
  | .route _ => (400, "INVALID_ROUTE", "Sandbox route is invalid")
  | .lease .missingToken | .lease .invalidToken | .lease .unauthorized =>
    (401, "UNAUTHORIZED", "Sandbox access token is invalid")
  | .lease .notFound | .lease .inactive | .lease .expired | .lease .portDenied =>
    (404, "ROUTE_NOT_FOUND", "Sandbox route not found")
  | .lease .invalidRecord => (502, "INVALID_SANDBOX_STATE", "Sandbox runtime state is invalid")
  | .lease (.repository _) | .lease (.token _) =>
    (503, "ROUTE_UNAVAILABLE", "Sandbox route is temporarily unavailable")
  | .invalidUpstreamUri => (502, "UPSTREAM_FAILURE", "Sandbox upstream request failed")

/-- What `DataPlaneProxy::handle` does with a request. -/
inductive Handling where
  /-- `error_response` -/
  | failed (failure : ProxyFailure)
  /-- `preflight_response` -/
  | preflight
  /-- `EnvdBroker::inactive_health` -/
  | inactiveHealth
  /-- `EnvdBroker::handle` with the lease -/
  | envd (lease : RouteLease)
  /-- `proxy_runtime`: `connect_port` on the lease's execution and port, then
      `proxy_upstream` -/
  | runtime (lease : RouteLease)
deriving DecidableEq

/-- `DataPlaneProxy`: its route parser and lease service. -/
structure DataPlaneProxy (Plan Resources Mount : Type) where
  parser : SandboxRouteParser
  leases : RouteLeaseService Plan Resources Mount

/-- `is_cors_preflight`. -/
def isCorsPreflight (request : Request) : Bool :=
  request.method == .options && MultiMap.containsKey .origin request.headers &&
    MultiMap.containsKey accessControlRequestMethod request.headers

/-- `is_envd_health`. -/
def isEnvdHealth (http : Crate) (request : Request) (route : ParsedSandboxRoute) : Bool :=
  route.port.get == envdPort && request.method == .get && http.uriPath request.uri == "/health"

namespace DataPlaneProxy

variable {Plan Resources Mount : Type} (proxy : DataPlaneProxy Plan Resources Mount) (http : Crate)

/-- The health branch of `handle`. -/
def handleHealth (route : ParsedSandboxRoute) (headers : HeaderMap) : Handling :=
  match proxy.leases.resolveEnvdHealth http route headers with
  | .error error => .failed (.lease error)
  | .ok (.running lease) => if lease.envdMode = .runtime then .runtime lease else .envd lease
  | .ok .inactive => .inactiveHealth

/-- The branch of `handle` for every other request. -/
def handleRoute (route : ParsedSandboxRoute) (headers : HeaderMap) : Handling :=
  match proxy.leases.resolve http route headers with
  | .error error => .failed (.lease error)
  | .ok lease =>
    if lease.port.get = envdPort ∧ lease.envdMode = .broker then .envd lease else .runtime lease

/-- `DataPlaneProxy::handle`. -/
def handle (request : Request) : Handling :=
  match proxy.parser.parseUri http request.uri request.headers with
  | .error error => .failed (.route error)
  | .ok route =>
    if isCorsPreflight request then .preflight
    else if isEnvdHealth http request route then proxy.handleHealth http route request.headers
    else proxy.handleRoute http route request.headers

end DataPlaneProxy

/-! ## The upstream request -/

section Upstream

variable (http : Crate)

/-- The comma-separated pieces of the `Connection` values that are text. -/
def connectionPieces (headers : HeaderMap) : List String :=
  ((MultiMap.getAll .connection headers).filterMap http.headerValueToStr).flatMap fun value =>
    (value.toList.splitOn ',').map fun piece => trimRust (String.ofList piece)

/-- `connection_header_names`: the header names a `Connection` header nominates. -/
def connectionHeaderNames (headers : HeaderMap) : List HeaderName :=
  (connectionPieces http headers).filterMap http.parseHeaderName

/-- `is_upgrade`: an HTTP/1 request with an `Upgrade` header that `Connection` names. -/
def isUpgrade (headers : HeaderMap) (version : Version) : Bool :=
  version != .http2 && MultiMap.containsKey .upgrade headers &&
    (connectionPieces http headers).any fun piece => eqIgnoreAsciiCase piece.toList "upgrade".toList

/-- The hop-by-hop headers that `strip_hop_headers` always removes. -/
def hopHeaders : List HeaderName :=
  [proxyConnection, proxyAuthenticate, proxyAuthorization, keepAlive, .transferEncoding]

/-- `strip_hop_headers`. Its loop over the nominated names removes each one its test
    admits, a test that reads the name only, so it is the removal of the admitted names. -/
def stripHopHeaders (headers : HeaderMap) (version : Version) (upgrade : Bool) : HeaderMap :=
  let nominated := (connectionHeaderNames http headers).filter fun name =>
    !upgrade || (name != .upgrade && name != .connection)
  let headers := MultiMap.removeAll nominated headers
  let headers := MultiMap.removeAll hopHeaders headers
  let headers :=
    if !upgrade || version == .http2 then MultiMap.removeAll [.connection, .upgrade] headers
    else headers
  let headers :=
    if version == .http2 && MultiMap.get? .te headers != some "trailers" then
      MultiMap.remove .te headers
    else headers
  if version == .http2 then MultiMap.remove .trailer headers else headers

/-- The headers `sanitize_request_headers` removes first. -/
def removedHeaders : List HeaderName :=
  [envdAccessTokenHeader, trafficAccessTokenHeader, sandboxIdHeader, sandboxPortHeader,
    forwardedHeader, xForwardedFor, xForwardedHost, xForwardedPort, xForwardedProto]

/-- `sanitize_request_headers`. -/
def sanitizeRequestHeaders (headers : HeaderMap) (version : Version) (upgrade : Bool) :
    HeaderMap :=
  let headers := MultiMap.removeAll removedHeaders headers
  let originalHost := MultiMap.get? .host headers
  let headers := stripHopHeaders http headers version upgrade
  let headers := MultiMap.insert xForwardedProto "https" headers
  match originalHost with
  | some host => MultiMap.insert xForwardedHost host headers
  | none => headers

/-- The headers of `normalize_http1_upstream`: a `Host` from the authority if there is
    none. -/
def upstreamHostHeaders (request : Request) : Except ProxyFailure HeaderMap :=
  if MultiMap.containsKey .host request.headers then .ok request.headers
  else do
    let authority ← okOr (request.uri.authority.map Authority.val) .invalidUpstreamUri
    let host ← okOr (http.headerValueFromStr authority) .invalidUpstreamUri
    pure (MultiMap.insert .host host request.headers)

/-- `normalize_http1_upstream`. Re-parsing the path and query of a parsed URI cannot
    fail. -/
def normalizeHttp1Upstream (request : Request) : Except ProxyFailure Request := do
  let headers ← upstreamHostHeaders http request
  pure { request with uri := ⟨none, some (request.uri.pathAndQuery.getD "/")⟩, headers }

/-- The request `proxy_upstream` sends: normalized, its headers sanitized against the
    downstream version, as HTTP/1.1. -/
def upstreamRequest (request : Request) : Except ProxyFailure Request := do
  let upgrade := isUpgrade http request.headers request.version
  let normalized ← normalizeHttp1Upstream http request
  pure { normalized with
    headers := sanitizeRequestHeaders http normalized.headers request.version upgrade
    version := .http11 }

end Upstream

/-! ## What `handle` grants -/

namespace DataPlaneProxy

variable {Plan Resources Mount : Type} {proxy : DataPlaneProxy Plan Resources Mount} {http : Crate}
  {route : ParsedSandboxRoute} {headers : HeaderMap} {lease : RouteLease}

/-- The health branch goes on with a lease only for a live record. -/
theorem handleHealth_lease
    (h : proxy.handleHealth http route headers = .envd lease ∨
      proxy.handleHealth http route headers = .runtime lease) :
    ∃ record, proxy.leases.Grant http route headers record lease ∧ record.Live proxy.leases.now := by
  unfold handleHealth at h
  split at h
  · simp at h
  · rename_i resolved hresolve
    -- either way the handler goes on with the lease the health check resolved
    have hsame : resolved = lease := by
      split at h <;> rcases h with h | h <;> cases h <;> rfl
    subst hsame
    obtain ⟨record, hgrant, hlive, -⟩ := proxy.leases.resolveEnvdHealth_eq_running http hresolve
    exact ⟨record, hgrant, hlive⟩
  · simp at h

theorem handleHealth_inactive (h : proxy.handleHealth http route headers = .inactiveHealth) :
    proxy.leases.resolveEnvdHealth http route headers = .ok .inactive := by
  unfold handleHealth at h
  split at h
  · cases h
  · split at h <;> cases h
  · assumption

/-- Every other request goes on with a lease only for a live record. -/
theorem handleRoute_lease
    (h : proxy.handleRoute http route headers = .envd lease ∨
      proxy.handleRoute http route headers = .runtime lease) :
    ∃ record, proxy.leases.Grant http route headers record lease ∧ record.Live proxy.leases.now := by
  unfold handleRoute at h
  split at h
  · simp at h
  · rename_i resolved hresolve
    have hsame : resolved = lease := by
      split at h <;> rcases h with h | h <;> cases h <;> rfl
    subst hsame
    exact proxy.leases.resolve_eq_ok http hresolve

theorem handleRoute_ne_inactiveHealth : proxy.handleRoute http route headers ≠ .inactiveHealth := by
  unfold handleRoute
  split
  · simp
  · split <;> simp

variable {request : Request}

/-- `handle` reaches the broker or `connect_port` only with a lease granted for the parsed
    route, while the record is live. -/
theorem handle_grant
    (h : proxy.handle http request = .envd lease ∨ proxy.handle http request = .runtime lease) :
    ∃ route record, proxy.parser.parseUri http request.uri request.headers = .ok route ∧
      proxy.leases.Grant http route request.headers record lease ∧ record.Live proxy.leases.now := by
  unfold handle at h
  split at h
  · simp at h
  · rename_i route hroute
    split at h
    · simp at h
    · split at h
      · obtain ⟨record, hgrant, hlive⟩ := handleHealth_lease h
        exact ⟨route, record, hroute, hgrant, hlive⟩
      · obtain ⟨record, hgrant, hlive⟩ := handleRoute_lease h
        exact ⟨route, record, hroute, hgrant, hlive⟩

/-- The inactive health answer is given to an envd health probe with an accepted envd
    token, for a record that is not live. -/
theorem handle_inactiveHealth (h : proxy.handle http request = .inactiveHealth) :
    ∃ route record, proxy.parser.parseUri http request.uri request.headers = .ok route ∧
      isEnvdHealth http request route = true ∧ proxy.leases.get route.sandboxId = .ok (some record) ∧
      record.record.routing.tokenScope route.port.get = some .envd ∧
      proxy.leases.TokenAccepted http record .envd request.headers ∧ ¬ record.Live proxy.leases.now := by
  unfold handle at h
  split at h
  · cases h
  · rename_i route hroute
    split at h
    · cases h
    · split at h
      · rename_i hhealth
        obtain ⟨record, hfound, hrouted, haccepted, hlive⟩ :=
          proxy.leases.resolveEnvdHealth_eq_inactive http (handleHealth_inactive h)
        exact ⟨route, record, hroute, hhealth, hfound, hrouted, haccepted, hlive⟩
      · exact absurd h handleRoute_ne_inactiveHealth

end DataPlaneProxy

/-! ## What reaches the upstream -/

theorem stripHopHeaders_sublist (http : Crate) (headers : HeaderMap) (version : Version)
    (upgrade : Bool) : (stripHopHeaders http headers version upgrade).Sublist headers := by
  -- each step removes entries or keeps the map
  have hstep : ∀ (c : Prop) [Decidable c] (m m' : HeaderMap), m'.Sublist m →
      (if c then m' else m).Sublist m := fun c _ m m' h => by
    split_ifs
    · exact h
    · exact List.Sublist.refl m
  simp only [stripHopHeaders]
  exact (hstep _ _ _ MultiMap.remove_sublist).trans ((hstep _ _ _ MultiMap.remove_sublist).trans
    ((hstep _ _ _ MultiMap.removeAll_sublist).trans
      (MultiMap.removeAll_sublist.trans MultiMap.removeAll_sublist)))

section Sanitize

variable {http : Crate} {headers : HeaderMap} {version : Version} {upgrade : Bool}

/-- A header removed before the hop-by-hop headers are stripped stays removed. -/
theorem getAll_stripHopHeaders_removed {name : HeaderName} (hname : name ∈ removedHeaders) :
    MultiMap.getAll name
      (stripHopHeaders http (MultiMap.removeAll removedHeaders headers) version upgrade) = [] := by
  have hsub := MultiMap.getAll_sublist (k := name)
    (stripHopHeaders_sublist http (MultiMap.removeAll removedHeaders headers) version upgrade)
  rw [MultiMap.getAll_removeAll_of_mem hname] at hsub
  exact List.sublist_nil.mp hsub

/-- An entry of the sanitized headers is one the gateway sets or one of the headers. -/
theorem mem_sanitizeRequestHeaders {e : HeaderName × String}
    (he : e ∈ sanitizeRequestHeaders http headers version upgrade) :
    e.1 = xForwardedProto ∨ e.1 = xForwardedHost ∨ e ∈ headers := by
  have hbase : ∀ e ∈ MultiMap.insert xForwardedProto "https"
      (stripHopHeaders http (MultiMap.removeAll removedHeaders headers) version upgrade),
      e.1 = xForwardedProto ∨ e ∈ headers := fun e he => by
    rcases MultiMap.mem_insert.mp he with ⟨hmem, -⟩ | rfl
    · exact .inr (MultiMap.removeAll_sublist.subset ((stripHopHeaders_sublist _ _ _ _).subset hmem))
    · exact .inl rfl
  simp only [sanitizeRequestHeaders] at he
  split at he
  · rcases MultiMap.mem_insert.mp he with ⟨hmem, -⟩ | rfl
    · exact (hbase e hmem).imp_right Or.inr
    · exact .inr (.inl rfl)
  · exact (hbase e he).imp_right Or.inr

theorem getAll_sanitizeRequestHeaders_of_removed {name : HeaderName} (hname : name ∈ removedHeaders)
    (hproto : name ≠ xForwardedProto) (hhost : name ≠ xForwardedHost) :
    MultiMap.getAll name (sanitizeRequestHeaders http headers version upgrade) = [] := by
  simp only [sanitizeRequestHeaders]
  split <;> simp [hproto, hhost, getAll_stripHopHeaders_removed hname]

theorem getAll_xForwardedProto_sanitize :
    MultiMap.getAll xForwardedProto (sanitizeRequestHeaders http headers version upgrade) =
      ["https"] := by
  simp only [sanitizeRequestHeaders]
  split
  · rw [MultiMap.getAll_insert_of_ne (by decide), MultiMap.getAll_insert_self]
  · rw [MultiMap.getAll_insert_self]

/-- The gateway's `X-Forwarded-Host` is the first `Host` of the headers, if any. -/
theorem getAll_xForwardedHost_sanitize :
    MultiMap.getAll xForwardedHost (sanitizeRequestHeaders http headers version upgrade) =
      (MultiMap.get? .host headers).toList := by
  have hhost : MultiMap.get? .host (MultiMap.removeAll removedHeaders headers) =
      MultiMap.get? .host headers := by
    rw [MultiMap.get?_eq_head?, MultiMap.get?_eq_head?,
      MultiMap.getAll_removeAll_of_not_mem (by decide)]
  simp only [sanitizeRequestHeaders]
  split
  · rename_i host hget
    rw [MultiMap.getAll_insert_self, ← hhost, hget]
    rfl
  · rename_i hget
    rw [MultiMap.getAll_insert_of_ne (by decide), ← hhost, hget,
      getAll_stripHopHeaders_removed (by decide)]
    rfl

end Sanitize

/-- What the upstream request needs of the `http` crate: `HeaderValue::from_str` keeps
    the text it takes. -/
def FromStrKeepsText (http : Crate) : Prop :=
  ∀ text value, http.headerValueFromStr text = some value → value = text

theorem verbatim_fromStrKeepsText : FromStrKeepsText Crate.verbatim :=
  fun _ _ h => (Option.some.inj h).symm

section Upstream

variable {http : Crate} (hfromStr : FromStrKeepsText http)
include hfromStr

/-- The `Host` that `normalize_http1_upstream` adds is the authority, and only when the
    request has none. -/
theorem upstreamHostHeaders_eq_ok {request : Request} {headers : HeaderMap}
    (h : upstreamHostHeaders http request = .ok headers) :
    MultiMap.get? .host headers =
        (MultiMap.get? .host request.headers <|> request.uri.authority.map Authority.val) ∧
      ∀ e ∈ headers, e ∈ request.headers ∨
        ∃ authority, request.uri.authority = some authority ∧ e = (.host, authority.val) := by
  unfold upstreamHostHeaders at h
  split at h
  · rename_i hhost
    cases h
    obtain ⟨value, hvalue⟩ : ∃ value, MultiMap.get? .host request.headers = some value := by
      rw [MultiMap.get?_eq_head?]
      exact Option.ne_none_iff_exists'.mp
        (fun hnone => MultiMap.containsKey_iff.mp hhost (List.head?_eq_none_iff.mp hnone))
    exact ⟨by rw [hvalue]; rfl, fun e he => .inl he⟩
  · rename_i hhost
    obtain ⟨authority, hauthority, h⟩ := bind_eq_ok.mp h
    obtain ⟨host, hhostValue, h⟩ := bind_eq_ok.mp h
    rw [pure_eq_ok] at h
    subst h
    obtain ⟨a, ha, rfl⟩ := Option.map_eq_some_iff.mp (okOr_eq_ok.mp hauthority)
    have hvalue : host = a.val := hfromStr _ _ (okOr_eq_ok.mp hhostValue)
    have hnone : MultiMap.get? .host request.headers = none := by
      rw [MultiMap.get?_eq_head?, List.head?_eq_none_iff]
      by_contra hne
      exact hhost (MultiMap.containsKey_iff.mpr hne)
    refine ⟨by rw [hnone, ha, MultiMap.get?_eq_head?, MultiMap.getAll_insert_self, hvalue]; rfl,
      fun e he => ?_⟩
    rcases MultiMap.mem_insert.mp he with ⟨hmem, -⟩ | rfl
    · exact .inl hmem
    · exact .inr ⟨a, ha, by rw [hvalue]⟩

omit hfromStr in
theorem upstreamRequest_eq_ok {request upstream : Request}
    (h : upstreamRequest http request = .ok upstream) :
    ∃ headers, upstreamHostHeaders http request = .ok headers ∧
      upstream.headers = sanitizeRequestHeaders http headers request.version
        (isUpgrade http request.headers request.version) := by
  simp only [upstreamRequest, normalizeHttp1Upstream] at h
  obtain ⟨normalized, hnormalized, h⟩ := bind_eq_ok.mp h
  obtain ⟨headers, hheaders, hnorm⟩ := bind_eq_ok.mp hnormalized
  rw [pure_eq_ok] at hnorm h
  subst hnorm
  exact ⟨headers, hheaders, by rw [← h]⟩

/-- What `proxy_upstream` sends for a request. -/
structure UpstreamConfined (request upstream : Request) : Prop where
  /-- no token or route header, and no client `Forwarded`, `X-Forwarded-For` or
      `X-Forwarded-Port` -/
  removed : ∀ name ∈ removedHeaders, name ≠ xForwardedProto → name ≠ xForwardedHost →
    MultiMap.getAll name upstream.headers = []
  proto : MultiMap.getAll xForwardedProto upstream.headers = ["https"]
  host : MultiMap.getAll xForwardedHost upstream.headers =
    (MultiMap.get? .host request.headers <|> request.uri.authority.map Authority.val).toList
  /-- every other header is the client's, or the `Host` taken from the authority -/
  clients : ∀ e ∈ upstream.headers, e.1 ≠ xForwardedProto → e.1 ≠ xForwardedHost →
    e ∈ request.headers ∨ ∃ authority, request.uri.authority = some authority ∧
      e = (.host, authority.val)

theorem upstreamRequest_confined {request upstream : Request}
    (h : upstreamRequest http request = .ok upstream) : UpstreamConfined request upstream := by
  obtain ⟨headers, hheaders, hupstream⟩ := upstreamRequest_eq_ok h
  obtain ⟨hhost, hfrom⟩ := upstreamHostHeaders_eq_ok hfromStr hheaders
  refine ⟨fun name hname hproto hhostName => ?_, ?_, ?_, ?_⟩
  · rw [hupstream]
    exact getAll_sanitizeRequestHeaders_of_removed hname hproto hhostName
  · rw [hupstream]
    exact getAll_xForwardedProto_sanitize
  · rw [hupstream, getAll_xForwardedHost_sanitize, hhost]
  intro e he hproto hhostName
  rw [hupstream] at he
  rcases mem_sanitizeRequestHeaders he with h | h | h
  · exact absurd h hproto
  · exact absurd h hhostName
  · exact hfrom e h

end Upstream

theorem data_plane_grants_and_confines {Plan Resources Mount : Type} (http : Crate)
    (hfromStr : FromStrKeepsText http) (proxy : DataPlaneProxy Plan Resources Mount) :
    (∀ request lease, (proxy.handle http request = .envd lease ∨
        proxy.handle http request = .runtime lease) →
      ∃ route record, proxy.parser.parseUri http request.uri request.headers = .ok route ∧
        proxy.leases.Grant http route request.headers record lease ∧ record.Live proxy.leases.now ∧
        lease.port = route.port ∧ (lease.tokenScope = .envd ∨ lease.tokenScope = .traffic)) ∧
    (∀ request, proxy.handle http request = .inactiveHealth →
      ∃ route record, proxy.parser.parseUri http request.uri request.headers = .ok route ∧
        isEnvdHealth http request route = true ∧
        proxy.leases.get route.sandboxId = .ok (some record) ∧
        record.record.routing.tokenScope route.port.get = some .envd ∧
        proxy.leases.TokenAccepted http record .envd request.headers ∧
        ¬ record.Live proxy.leases.now) ∧
    (∀ request upstream, upstreamRequest http request = .ok upstream →
      UpstreamConfined request upstream) := by
  refine ⟨fun request lease h => ?_, fun _ h => DataPlaneProxy.handle_inactiveHealth h,
    fun _ _ h => upstreamRequest_confined hfromStr h⟩
  obtain ⟨route, record, hroute, hgrant, hlive⟩ := DataPlaneProxy.handle_grant h
  exact ⟨route, record, hroute, hgrant, hlive, hgrant.port_eq, hgrant.scope⟩

/-! ## A gateway on fixed inputs -/

/-- The envd port with the envd scope, and port 8080 with the traffic scope. -/
def samplePolicy : SandboxRoutePolicy :=
  ⟨SortedMap.ofList [(envdPort, .envd), (8080, .traffic)], by decide⟩

/-- Sandbox `abc`, running until 100 with execution `exec-1`, its envd run by the runtime. -/
def sampleRouteRecord : RouteRecord Unit Unit Unit where
  record :=
    { sandboxId := ⟨"abc", rfl⟩
      operationId := ⟨"op-1", rfl⟩
      ownerId := "owner"
      executionId := some ⟨"exec-1", rfl⟩
      executionGeneration := some .initial
      generation := ⟨2, Nat.two_pos, two_le_u64Max⟩
      templateId := "base"
      plan := ()
      resources := ()
      lifecycle := ⟨.kill, false, true⟩
      state := .running
      pausedWithMemory := true
      createdAt := 10
      startedAt := some 20
      expiresAt := 100
      envdVersion := "0.1.0"
      routing := samplePolicy
      volumeMounts := []
      failure := none }
  envdMode := .runtime
  credentials := ⟨⟨1, [], []⟩, ⟨1, [], []⟩⟩

/-- A gateway for `box.example.com` at time 0, whose verifier accepts every token. -/
def sampleProxy : DataPlaneProxy Unit Unit Unit :=
  ⟨⟨⟨"box.example.com", by decide⟩⟩, ⟨fun _ => .ok (some sampleRouteRecord), fun _ _ _ => .ok true, 0⟩⟩

/-- `x-forwarded-prefix`, a forwarding header that the gateway does not name. -/
def xForwardedPrefix : HeaderName := ⟨"x-forwarded-prefix"⟩

/-- A request for port 8080 of `abc` with a traffic token and a client `X-Forwarded-Prefix`. -/
def prefixedRequest : Request :=
  ⟨.get, ⟨none, some "/"⟩, .http11,
    [(.host, "8080-abc.box.example.com"), (trafficAccessTokenHeader, "secret"),
      (xForwardedPrefix, "/admin")]⟩

/-- The lease the gateway grants for it. -/
def prefixedLease : RouteLease :=
  sampleRouteRecord.lease ⟨⟨"abc", rfl⟩, ⟨8080, by norm_num, by norm_num⟩, .direct⟩ .traffic
    ⟨"exec-1", rfl⟩ .initial

theorem prefixed_request_granted :
    ∃ route record, sampleProxy.parser.parseUri Crate.verbatim prefixedRequest.uri
        prefixedRequest.headers = .ok route ∧
      sampleProxy.leases.Grant Crate.verbatim route prefixedRequest.headers record prefixedLease ∧
      record.Live sampleProxy.leases.now ∧ prefixedLease.port = route.port ∧
      (prefixedLease.tokenScope = .envd ∨ prefixedLease.tokenScope = .traffic) :=
  (data_plane_grants_and_confines Crate.verbatim verbatim_fromStrKeepsText sampleProxy).1
    prefixedRequest prefixedLease (.inr (by decide))

/-- The gateway forwards the request to the execution, and the client's
    `X-Forwarded-Prefix` with it. -/
theorem client_forwarded_prefix_reaches_upstream :
    sampleProxy.handle Crate.verbatim prefixedRequest = .runtime prefixedLease ∧
      (upstreamRequest Crate.verbatim prefixedRequest).map
        (fun upstream => MultiMap.getAll xForwardedPrefix upstream.headers) = .ok ["/admin"] := by
  decide

end A3sBox.Compat
