import A3sBox.Lib.Http
import A3sBox.Compat.SandboxRecord

/-
  The sandbox route parser of the data plane (`routing::parser`).

  Model. A request names its sandbox and port by its host, which `parse_uri` takes from
  the one `Host` header or the HTTP/2 `:authority`, and which must name the same DNS
  host when both are there. `parse_host` reads the host in lowercase: the shared
  hostname `sandbox.<domain>` takes the sandbox and port from the `e2b-sandbox-id` and
  `e2b-sandbox-port` headers (`SharedHeaders`), and a direct hostname
  `<port>-<sandbox>.<domain>` names them in its first label (`Direct`), where route
  headers, if present, must agree with it. Every string the parser reads is a list of
  characters (`Lib.Str`); ports are `u16` values as `Nat`, a `NonZeroU16` carrying its
  bounds. The `http` crate's `HeaderValue::to_str`, `Authority::from_str` and
  `Authority::host` are those of the crate the parser is given (`Http.Crate`). The `Display` texts of the errors are left out: the proxy answers a route
  error by its own public code.

  Proved:
  * `parseHost_eq_ok`: an accepted host is the shared hostname, whose route the route
    headers carry, or a direct hostname whose label names the route;
  * `parseHost_routeHeaders`, `parseUri_routeHeaders`: route headers present on an
    accepted request always name the parsed route, and the shared form has them.
-/

namespace A3sBox.Compat

open A3sBox.Lib A3sBox.Lib.Http A3sBox.Lib.Str

/-- `SANDBOX_ID_HEADER`. -/
def sandboxIdHeader : HeaderName := ⟨"e2b-sandbox-id"⟩

/-- `SANDBOX_PORT_HEADER`. -/
def sandboxPortHeader : HeaderName := ⟨"e2b-sandbox-port"⟩

inductive RouteParseError where
  | invalidDomain
  | missingHost
  | invalidHost
  | unsupportedHost
  | missingRouteHeaders
  | invalidRouteHeaders
  | conflictingRouteHeaders
  | conflictingAuthority
  | duplicateHeader
deriving DecidableEq

/-- A lowercase letter or a digit. -/
def isDnsAlphanumeric (b : Char) : Bool := b.isLower || b.isDigit

/-- `valid_dns_label`: 1 to 63 lowercase letters, digits and hyphens, starting and ending
    alphanumeric. -/
def validDnsLabel (label : List Char) : Bool :=
  !label.isEmpty && label.length ≤ 63 && label.head?.any isDnsAlphanumeric &&
    label.getLast?.any isDnsAlphanumeric &&
    label.all fun b => isDnsAlphanumeric b || b == '-'

/-- The check of `SandboxDomain::new`. -/
def isValidDomain (value : String) : Bool :=
  let bytes := value.toList
  !bytes.isEmpty && bytes.length ≤ 253 && bytes.getLast? != some '.' &&
    !bytes.any Char.isUpper && (bytes.splitOn '.').all validDnsLabel

structure SandboxDomain where
  val : String
  valid : isValidDomain val = true

/-- `SandboxDomain::new`. -/
def SandboxDomain.new (value : String) : Except RouteParseError SandboxDomain :=
  if h : isValidDomain value = true then .ok ⟨value, h⟩ else .error .invalidDomain

/-- `SandboxDomain::shared_hostname`. -/
def SandboxDomain.sharedHostname (domain : SandboxDomain) : List Char :=
  "sandbox.".toList ++ domain.val.toList

/-- `NonZeroU16`. -/
@[ext] structure NonZeroU16 where
  get : Nat
  pos : 0 < get
  lt : get < 65536

/-- Ports are equal when their values are. -/
instance : DecidableEq NonZeroU16 := fun a b =>
  decidable_of_iff (a.get = b.get) ⟨NonZeroU16.ext, congrArg NonZeroU16.get⟩

inductive RouteForm where
  | direct
  | sharedHeaders
deriving DecidableEq

structure ParsedSandboxRoute where
  sandboxId : SandboxId
  port : NonZeroU16
  form : RouteForm
deriving DecidableEq

/-- `parse_port`: no leading zero, a `u16`, not zero. -/
def parsePort (value : List Char) : Option NonZeroU16 :=
  if value.head? = some '0' then none
  else match parseU16 value with
    | none => none
    | some ⟨port, hlt⟩ => if hpos : 0 < port then some ⟨port, hpos, hlt⟩ else none

/-- `single_header`: the one value of a header, if any; two values are a duplicate, and
    a value that is not visible ASCII or is empty is invalid. -/
def singleHeader (http : Crate) (headers : HeaderMap) (name : HeaderName) :
    Except RouteParseError (Option String) :=
  match MultiMap.getAll name headers with
  | [] => .ok none
  | [value] =>
    match http.headerValueToStr value with
    | none => .error .invalidRouteHeaders
    | some value => if value.isEmpty then .error .invalidRouteHeaders else .ok (some value)
  | _ :: _ :: _ => .error .duplicateHeader

/-- `route_headers`: both route headers, or neither. -/
def routeHeaders (http : Crate) (headers : HeaderMap) :
    Except RouteParseError (Option (SandboxId × NonZeroU16)) := do
  let sandboxId ← singleHeader http headers sandboxIdHeader
  let port ← singleHeader http headers sandboxPortHeader
  match sandboxId, port with
  | none, none => pure none
  | some sandboxId, some port =>
    let sandboxId ← (SandboxId.new sandboxId).mapError fun _ => .invalidRouteHeaders
    let port ← okOr (parsePort port.toList) .invalidRouteHeaders
    pure (some (sandboxId, port))
  | _, _ => throw .missingRouteHeaders

/-- `parse_direct_label`: `<port>-<sandbox>`, split at the first hyphen. -/
def parseDirectLabel (label : List Char) : Except RouteParseError (NonZeroU16 × SandboxId) := do
  let (port, sandboxId) ← okOr (splitOnce '-' label) .invalidHost
  let port ← okOr (parsePort port) .invalidHost
  let sandboxId ← (SandboxId.new (String.ofList sandboxId)).mapError fun _ => .invalidHost
  pure (port, sandboxId)

/-- The label of a direct hostname: the host without `.<domain>`, one nonempty label. -/
def directLabel (domain : SandboxDomain) (host : List Char) : Option (List Char) :=
  (stripSuffix ('.' :: domain.val.toList) host).filter fun label =>
    !label.isEmpty && !label.contains '.'

/-- Route headers beside a direct hostname must name its route. -/
def checkRouteHeaders (headerRoute : Option (SandboxId × NonZeroU16)) (sandboxId : SandboxId)
    (port : NonZeroU16) : Except RouteParseError Unit :=
  match headerRoute with
  | none => .ok ()
  | some (headerId, headerPort) =>
    ensure (decide (headerId = sandboxId ∧ headerPort = port)) .conflictingRouteHeaders

structure SandboxRouteParser where
  domain : SandboxDomain

/-- `parse_authority_host`. -/
def parseAuthorityHost (http : Crate) (authority : String) : Except RouteParseError (List Char) :=
  okOr ((http.authorityFromStr authority).map http.authorityHost) .invalidHost

/-- The authority `parse_uri` parses: the `Host` header or the HTTP/2 authority; when
    both are there they must name the same host, and the header is taken. -/
def requestAuthority (http : Crate) : Option String → Option String → Except RouteParseError String
  | none, none => .error .missingHost
  | some authority, none => .ok authority
  | none, some authority => .ok authority
  | some header, some uri => do
    let headerHost ← parseAuthorityHost http header
    let uriHost ← parseAuthorityHost http uri
    ensure (eqIgnoreAsciiCase headerHost uriHost) .conflictingAuthority
    pure header

theorem requestAuthority_eq_ok {http : Crate} {headerAuthority uriAuthority : Option String}
    {authority : String} (h : requestAuthority http headerAuthority uriAuthority = .ok authority) :
    headerAuthority = some authority ∨ (headerAuthority = none ∧ uriAuthority = some authority) := by
  match headerAuthority, uriAuthority, h with
  | some header, none, h => exact .inl (by cases h; rfl)
  | none, some uri, h => exact .inr ⟨rfl, by cases h; rfl⟩
  | some header, some uri, h =>
    -- both forms name the same host, and the header is taken
    rw [requestAuthority] at h
    obtain ⟨headerHost, -, h⟩ := bind_eq_ok.mp h
    obtain ⟨uriHost, -, h⟩ := bind_eq_ok.mp h
    obtain ⟨-, h⟩ := bind_unit_eq_ok.mp h
    rw [pure_eq_ok] at h
    exact .inl (by rw [h])

namespace SandboxRouteParser

variable (parser : SandboxRouteParser) (http : Crate)

/-- `SandboxRouteParser::parse_host`. -/
def parseHost (authority : String) (headers : HeaderMap) :
    Except RouteParseError ParsedSandboxRoute := do
  let authority ← okOr (http.authorityFromStr authority) .invalidHost
  let host := asciiLower (http.authorityHost authority)
  let headerRoute ← routeHeaders http headers
  if host = parser.domain.sharedHostname then
    let (sandboxId, port) ← okOr headerRoute .missingRouteHeaders
    pure ⟨sandboxId, port, .sharedHeaders⟩
  else
    let label ← okOr (directLabel parser.domain host) .unsupportedHost
    let (port, sandboxId) ← parseDirectLabel label
    checkRouteHeaders headerRoute sandboxId port
    pure ⟨sandboxId, port, .direct⟩

/-- `SandboxRouteParser::parse_uri`. -/
def parseUri (uri : Uri) (headers : HeaderMap) : Except RouteParseError ParsedSandboxRoute := do
  let headerAuthority ← singleHeader http headers .host
  let authority ← requestAuthority http headerAuthority (uri.authority.map Authority.val)
  parser.parseHost http authority headers

theorem checkRouteHeaders_eq_ok {headerRoute : Option (SandboxId × NonZeroU16)}
    {sandboxId : SandboxId} {port : NonZeroU16} {u : Unit} :
    checkRouteHeaders headerRoute sandboxId port = .ok u ↔
      headerRoute = none ∨ headerRoute = some (sandboxId, port) := by
  cases headerRoute with
  | none => simp [checkRouteHeaders]
  | some headerPair =>
    obtain ⟨headerId, headerPort⟩ := headerPair
    simp [checkRouteHeaders]

variable {authority : String} {uri : Uri} {headers : HeaderMap} {route : ParsedSandboxRoute}

/-- An accepted host is the shared hostname, whose route the route headers carry, or a
    direct hostname whose label names the route, beside no route headers or ones that
    agree with it. -/
theorem parseHost_eq_ok (h : parser.parseHost http authority headers = .ok route) :
    ∃ auth headerRoute, http.authorityFromStr authority = some auth ∧
      routeHeaders http headers = .ok headerRoute ∧
      ((asciiLower (http.authorityHost auth) = parser.domain.sharedHostname ∧
          route.form = .sharedHeaders ∧ headerRoute = some (route.sandboxId, route.port)) ∨
        (route.form = .direct ∧
          (∃ label, directLabel parser.domain (asciiLower (http.authorityHost auth)) = some label ∧
            parseDirectLabel label = .ok (route.port, route.sandboxId)) ∧
          (headerRoute = none ∨ headerRoute = some (route.sandboxId, route.port)))) := by
  obtain ⟨auth, hauth, h⟩ := bind_eq_ok.mp h
  obtain ⟨headerRoute, hheaders, h⟩ := bind_eq_ok.mp h
  refine ⟨auth, headerRoute, okOr_eq_ok.mp hauth, hheaders, ?_⟩
  dsimp only at h
  by_cases hshared : asciiLower (http.authorityHost auth) = parser.domain.sharedHostname
  · -- the shared hostname: the route is the pair of route headers
    rw [if_pos hshared] at h
    obtain ⟨⟨sandboxId, port⟩, hpair, h⟩ := bind_eq_ok.mp h
    rw [pure_eq_ok] at h
    subst h
    exact .inl ⟨hshared, rfl, okOr_eq_ok.mp hpair⟩
  · -- a direct hostname: the route is its label's
    rw [if_neg hshared] at h
    obtain ⟨label, hlabel, h⟩ := bind_eq_ok.mp h
    obtain ⟨⟨port, sandboxId⟩, hdirect, h⟩ := bind_eq_ok.mp h
    obtain ⟨hcheck, h⟩ := bind_unit_eq_ok.mp h
    rw [pure_eq_ok] at h
    subst h
    exact .inr ⟨rfl, ⟨label, okOr_eq_ok.mp hlabel, hdirect⟩, checkRouteHeaders_eq_ok.mp hcheck⟩

/-- Route headers on an accepted host name the parsed route; only a direct hostname may
    go without them. -/
theorem parseHost_routeHeaders (h : parser.parseHost http authority headers = .ok route) :
    routeHeaders http headers = .ok (some (route.sandboxId, route.port)) ∨
      (route.form = .direct ∧ routeHeaders http headers = .ok none) := by
  obtain ⟨auth, headerRoute, -, hheaders, hcases⟩ := parser.parseHost_eq_ok http h
  rw [hheaders]
  rcases hcases with ⟨-, -, rfl⟩ | ⟨hform, -, rfl | rfl⟩
  · exact .inl rfl
  · exact .inr ⟨hform, rfl⟩
  · exact .inl rfl

/-- `parse_uri` parses the one `Host` header, or without one the HTTP/2 authority. -/
theorem parseUri_eq_ok (h : parser.parseUri http uri headers = .ok route) :
    ∃ authority, parser.parseHost http authority headers = .ok route ∧
      (singleHeader http headers .host = .ok (some authority) ∨
        (singleHeader http headers .host = .ok none ∧
          uri.authority.map Authority.val = some authority)) := by
  obtain ⟨headerAuthority, hheader, h⟩ := bind_eq_ok.mp h
  obtain ⟨authority, hauthority, h⟩ := bind_eq_ok.mp h
  refine ⟨authority, h, ?_⟩
  rw [hheader]
  rcases requestAuthority_eq_ok hauthority with rfl | ⟨rfl, huri⟩
  · exact .inl rfl
  · exact .inr ⟨rfl, huri⟩

theorem parseUri_routeHeaders (h : parser.parseUri http uri headers = .ok route) :
    routeHeaders http headers = .ok (some (route.sandboxId, route.port)) ∨
      (route.form = .direct ∧ routeHeaders http headers = .ok none) := by
  obtain ⟨authority, hhost, -⟩ := parser.parseUri_eq_ok http h
  exact parser.parseHost_routeHeaders http hhost

end SandboxRouteParser

end A3sBox.Compat
