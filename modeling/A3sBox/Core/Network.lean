import A3sBox.Core.Ipam
import A3sBox.Lib.KeyedList

/-
  The endpoints of a user-defined network (`core/src/network.rs`, `NetworkConfig`).

  Model. A `NetworkConfig` keeps its subnet as the text `Ipam::cidr` wrote, and its
  endpoints as a map from box IDs to endpoints, a list with distinct keys. `connect` and
  `connect_with_aliases` refuse a box that is already connected, parse the subnet again,
  allocate the first free address below the broadcast address and insert the endpoint;
  `disconnect` removes one. Each returns its result and the new configuration, and a
  failed call changes nothing (`NetworkCall.apply`), as every early return of the
  source comes before its one write. The labels, the creation time and the policy of a
  network are set by `new` and read by none of these, and are left out.

  Proved:
  * `EndpointsValid.apply`: every call keeps the invariant `EndpointsValid`: distinct
    keys, each the box ID of its endpoint, and distinct endpoint addresses, each a
    candidate of the subnet's `Ipam`;
  * `connectWithAliases_isOk_iff`: on such a network, a box not yet connected is
    connected exactly while fewer endpoints than candidates are connected;
  * `network_endpoints_invariant`: from `NetworkConfig::new`, over every sequence of
    calls, the endpoint addresses stay distinct and strictly between the gateway and the
    broadcast address inside the subnet, every key is its endpoint's box ID, a failed
    call leaves the endpoints as they were, and connecting succeeds until the number of
    candidates, `capacity()` when the host bits of the network address are zero;
  * `unaligned_network_fills_below_capacity`: on a network whose address has host bits
    set, which `Ipam::new` accepts, connecting stops at fewer endpoints than
    `capacity()`, the number `capacity` documents as the usable host addresses:
    `10.0.0.255/24` reports 253 and refuses its first box.
-/

namespace A3sBox

open A3sBox.Lib

/-- `NetworkEndpoint`. -/
structure NetworkEndpoint where
  boxId : String
  boxName : String
  aliases : List String
  ipAddress : Nat
  macAddress : String
deriving DecidableEq

/-- `NetworkConfig`, without its labels, creation time and policy. -/
structure NetworkConfig where
  name : String
  subnet : String
  gateway : Nat
  driver : String
  endpoints : List (String × NetworkEndpoint)
deriving DecidableEq

namespace NetworkConfig

/-- `NetworkConfig::new`. -/
def new (name subnet : String) : Except String NetworkConfig := do
  let ipam ← Ipam.new subnet
  pure { name, subnet := ipam.cidr, gateway := ipam.gateway, driver := "bridge", endpoints := [] }

/-- The addresses in use: `endpoints.values().map(|e| e.ip_address)`. -/
def usedAddresses (config : NetworkConfig) : List Nat :=
  config.endpoints.map fun entry => entry.2.ipAddress

/-- `connect_with_aliases`. -/
def connectWithAliases (config : NetworkConfig) (boxId boxName : String) (aliases : List String) :
    Except String (NetworkEndpoint × NetworkConfig) := do
  let network := config.name
  ensure (findKey Prod.fst boxId config.endpoints).isNone
    s!"box '{boxId}' is already connected to network '{network}'"
  let ipam ← Ipam.new config.subnet
  let ip ← ipam.allocate config.usedAddresses
  let endpoint : NetworkEndpoint :=
    { boxId, boxName, aliases := aliases.filter fun a => !a.isEmpty && a != boxName,
      ipAddress := ip, macAddress := macFromIp ip }
  pure (endpoint, { config with endpoints := config.endpoints ++ [(boxId, endpoint)] })

/-- `connect`. -/
def connect (config : NetworkConfig) (boxId boxName : String) :
    Except String (NetworkEndpoint × NetworkConfig) :=
  config.connectWithAliases boxId boxName []

/-- `disconnect`. -/
def disconnect (config : NetworkConfig) (boxId : String) :
    Except String (NetworkEndpoint × NetworkConfig) :=
  let network := config.name
  match findKey Prod.fst boxId config.endpoints with
  | some entry =>
    .ok (entry.2, { config with endpoints := eraseKey Prod.fst boxId config.endpoints })
  | none => .error s!"box '{boxId}' is not connected to network '{network}'"

end NetworkConfig

/-- A call on a network. -/
inductive NetworkCall where
  | connect (boxId boxName : String)
  | connectWithAliases (boxId boxName : String) (aliases : List String)
  | disconnect (boxId : String)

namespace NetworkCall

def run : NetworkCall → NetworkConfig → Except String (NetworkEndpoint × NetworkConfig)
  | .connect boxId boxName, config => config.connect boxId boxName
  | .connectWithAliases boxId boxName aliases, config =>
    config.connectWithAliases boxId boxName aliases
  | .disconnect boxId, config => config.disconnect boxId

/-- The network after a call: a failed call leaves it as it was. -/
def apply (call : NetworkCall) (config : NetworkConfig) : NetworkConfig :=
  match call.run config with
  | .ok (_, config') => config'
  | .error _ => config

end NetworkCall

/-- The network after a sequence of calls. -/
def runNetworkCalls (config : NetworkConfig) (calls : List NetworkCall) : NetworkConfig :=
  calls.foldl (fun config call => call.apply config) config

/-- What every network keeps, for the `Ipam` of its subnet: distinct keys, each the box
    ID of its endpoint, and distinct addresses, each a candidate of the subnet. -/
structure EndpointsValid (ipam : Ipam) (config : NetworkConfig) : Prop where
  subnet : config.subnet = ipam.cidr
  keys_nodup : (config.endpoints.map Prod.fst).Nodup
  key_eq : ∀ entry ∈ config.endpoints, entry.1 = entry.2.boxId
  addresses_nodup : config.usedAddresses.Nodup
  address_host : ∀ entry ∈ config.endpoints, entry.2.ipAddress ∈ ipam.hosts

namespace NetworkConfig

theorem new_eq_ok {name subnet : String} {config : NetworkConfig}
    (h : NetworkConfig.new name subnet = .ok config) :
    ∃ ipam, Ipam.new subnet = .ok ipam ∧
      config =
        { name := name, subnet := ipam.cidr, gateway := ipam.gateway, driver := "bridge",
          endpoints := [] } := by
  obtain ⟨ipam, hipam, h⟩ := bind_eq_ok.mp h
  exact ⟨ipam, hipam, ((pure_eq_ok).mp h).symm⟩

/-- A successful `connect_with_aliases` on a valid network: the box was not connected,
    and it is added with the first free candidate. -/
theorem connectWithAliases_eq_ok {ipam : Ipam} {config config' : NetworkConfig}
    {boxId boxName : String} {aliases : List String} {endpoint : NetworkEndpoint}
    (hvalid : EndpointsValid ipam config)
    (h : config.connectWithAliases boxId boxName aliases = .ok (endpoint, config')) :
    findKey Prod.fst boxId config.endpoints = none ∧ endpoint.boxId = boxId ∧
      ipam.hosts.find? (· ∉ config.usedAddresses) = some endpoint.ipAddress ∧
      config' = { config with endpoints := config.endpoints ++ [(boxId, endpoint)] } := by
  have hipam : Ipam.new config.subnet = .ok ipam := by rw [hvalid.subnet, Ipam.new_cidr]
  unfold connectWithAliases at h
  obtain ⟨hfresh, h⟩ := bind_unit_eq_ok.mp h
  rw [hipam, ok_bind] at h
  obtain ⟨ip, hip, h⟩ := bind_eq_ok.mp h
  rw [Ipam.allocate_eq, okOr_eq_ok] at hip
  rw [pure_eq_ok, Prod.mk.injEq] at h
  obtain ⟨rfl, rfl⟩ := h
  exact ⟨Option.isNone_iff_eq_none.mp (ensure_eq_ok.mp hfresh), rfl, hip, rfl⟩

theorem disconnect_eq_ok {config config' : NetworkConfig} {boxId : String}
    {endpoint : NetworkEndpoint} (h : config.disconnect boxId = .ok (endpoint, config')) :
    config' = { config with endpoints := eraseKey Prod.fst boxId config.endpoints } := by
  unfold disconnect at h
  cases hfind : findKey Prod.fst boxId config.endpoints with
  | none =>
    rw [hfind] at h
    cases h
  | some entry =>
    rw [hfind] at h
    cases h
    rfl

end NetworkConfig

namespace EndpointsValid

variable {ipam : Ipam} {config : NetworkConfig}

/-- A network that `new` builds is valid for the `Ipam` of its subnet. -/
theorem of_new {name subnet : String} (h : NetworkConfig.new name subnet = .ok config) :
    ∃ ipam, Ipam.new subnet = .ok ipam ∧ EndpointsValid ipam config := by
  obtain ⟨ipam, hipam, rfl⟩ := NetworkConfig.new_eq_ok h
  exact ⟨ipam, hipam, ⟨rfl, List.nodup_nil, by simp, List.nodup_nil, by simp⟩⟩

/-- Removing endpoints keeps the invariant. -/
theorem of_sublist (hvalid : EndpointsValid ipam config) {endpoints : List (String × NetworkEndpoint)}
    (hsub : endpoints.Sublist config.endpoints) :
    EndpointsValid ipam { config with endpoints := endpoints } where
  subnet := hvalid.subnet
  keys_nodup := hvalid.keys_nodup.sublist (hsub.map _)
  key_eq entry hentry := hvalid.key_eq entry (hsub.subset hentry)
  addresses_nodup := hvalid.addresses_nodup.sublist (hsub.map _)
  address_host entry hentry := hvalid.address_host entry (hsub.subset hentry)

/-- Adding a box that is not connected, with a free candidate, keeps the invariant. -/
theorem append (hvalid : EndpointsValid ipam config) {boxId : String}
    {endpoint : NetworkEndpoint} (hfresh : findKey Prod.fst boxId config.endpoints = none)
    (hid : endpoint.boxId = boxId) (hfree : endpoint.ipAddress ∉ config.usedAddresses)
    (hhost : endpoint.ipAddress ∈ ipam.hosts) :
    EndpointsValid ipam { config with endpoints := config.endpoints ++ [(boxId, endpoint)] } where
  subnet := hvalid.subnet
  keys_nodup := nodup_append_fresh hvalid.keys_nodup hfresh
  key_eq entry hentry := by
    rcases List.mem_append.mp hentry with hold | hnew
    · exact hvalid.key_eq entry hold
    · rw [List.mem_singleton.mp hnew]
      exact hid.symm
  addresses_nodup := by
    have hused : NetworkConfig.usedAddresses
        { config with endpoints := config.endpoints ++ [(boxId, endpoint)] } =
        config.usedAddresses ++ [endpoint.ipAddress] := by
      simp [NetworkConfig.usedAddresses]
    rw [hused, List.nodup_append]
    refine ⟨hvalid.addresses_nodup, List.nodup_singleton _, ?_⟩
    intro a ha b hb hab
    rw [List.mem_singleton.mp hb] at hab
    exact hfree (hab ▸ ha)
  address_host entry hentry := by
    rcases List.mem_append.mp hentry with hold | hnew
    · exact hvalid.address_host entry hold
    · rw [List.mem_singleton.mp hnew]
      exact hhost

/-- Every call keeps the invariant. -/
theorem apply (hvalid : EndpointsValid ipam config) (call : NetworkCall) :
    EndpointsValid ipam (call.apply config) := by
  unfold NetworkCall.apply
  split
  · rename_i endpoint config' hrun
    -- a connection appends, a disconnection keeps a sublist
    have hconnect : ∀ {boxId boxName : String} {aliases : List String},
        config.connectWithAliases boxId boxName aliases = .ok (endpoint, config') →
          EndpointsValid ipam config' := by
      intro boxId boxName aliases h
      obtain ⟨hfresh, hid, hfind, rfl⟩ := NetworkConfig.connectWithAliases_eq_ok hvalid h
      have hfree := List.find?_some hfind
      exact hvalid.append hfresh hid (by simpa using hfree) (List.mem_of_find?_eq_some hfind)
    cases call with
    | connect boxId boxName => exact hconnect hrun
    | connectWithAliases boxId boxName aliases => exact hconnect hrun
    | disconnect boxId =>
      rw [NetworkConfig.disconnect_eq_ok hrun]
      exact hvalid.of_sublist sublist_eraseKey
  · exact hvalid

/-- Every sequence of calls keeps the invariant. -/
theorem run (hvalid : EndpointsValid ipam config) (calls : List NetworkCall) :
    EndpointsValid ipam (runNetworkCalls config calls) := by
  induction calls generalizing config with
  | nil => exact hvalid
  | cons call calls ih => exact ih (hvalid.apply call)

end EndpointsValid

/-- Some of distinct candidates is free of distinct used ones exactly when fewer are used. -/
theorem exists_free_iff {used hosts : List Nat} (hused : used.Nodup)
    (hsub : ∀ x ∈ used, x ∈ hosts) (hhosts : hosts.Nodup) :
    (∃ x ∈ hosts, x ∉ used) ↔ used.length < hosts.length := by
  constructor
  · rintro ⟨x, hx, hfree⟩
    have hcons : (x :: used).Nodup := List.nodup_cons.mpr ⟨hfree, hused⟩
    have hle := hcons.length_le_of_subset (List.cons_subset.mpr ⟨hx, hsub⟩)
    rw [List.length_cons] at hle
    omega
  · intro hlt
    by_contra hnone
    -- every candidate is used, so there are as many used as candidates
    have hall : hosts ⊆ used := fun x hx => by
      by_contra hfree
      exact hnone ⟨x, hx, hfree⟩
    have hle := hhosts.length_le_of_subset hall
    omega

/-- On a valid network, a box that is not connected is connected exactly while fewer
    endpoints than candidates are connected. -/
theorem connectWithAliases_isOk_iff {ipam : Ipam} {config : NetworkConfig}
    (hvalid : EndpointsValid ipam config) {boxId boxName : String} {aliases : List String}
    (hfresh : findKey Prod.fst boxId config.endpoints = none) :
    (config.connectWithAliases boxId boxName aliases).isOk ↔
      config.endpoints.length < ipam.hosts.length := by
  have hipam : Ipam.new config.subnet = .ok ipam := by rw [hvalid.subnet, Ipam.new_cidr]
  have hused : ∀ x ∈ config.usedAddresses, x ∈ ipam.hosts := by
    intro x hx
    obtain ⟨entry, hentry, rfl⟩ := List.mem_map.mp hx
    exact hvalid.address_host entry hentry
  have hcount := exists_free_iff hvalid.addresses_nodup hused List.nodup_range'
  rw [NetworkConfig.usedAddresses, List.length_map] at hcount
  unfold NetworkConfig.connectWithAliases
  rw [hfresh]
  simp only [Option.isNone_none, ensure_true, ok_bind, hipam, Ipam.allocate_eq]
  -- the call succeeds exactly when the search finds a free candidate
  cases hfind : ipam.hosts.find? (· ∉ config.usedAddresses) with
  | none =>
    rw [List.find?_eq_none] at hfind
    rw [okOr_none, error_bind]
    refine ⟨(fun h => nomatch h), fun hlt => ?_⟩
    obtain ⟨x, hx, hfree⟩ := hcount.mpr hlt
    exact absurd (decide_eq_true hfree) (hfind x hx)
  | some ip =>
    rw [okOr_some, ok_bind]
    refine ⟨fun _ => ?_, fun _ => rfl⟩
    have hsat := List.find?_some hfind
    rw [← hcount]
    exact ⟨ip, List.mem_of_find?_eq_some hfind, of_decide_eq_true hsat⟩

/-- From `NetworkConfig::new`, over every sequence of calls: distinct endpoint
    addresses, each strictly between the gateway and the broadcast address inside the
    subnet; keys that are their endpoints' box IDs; failed calls that change no endpoint;
    and a box connected exactly while fewer endpoints than candidates are connected, where
    the candidates number `capacity()` exactly when the host bits of the network address
    are zero. -/
theorem network_endpoints_invariant {name subnet : String} {config : NetworkConfig}
    (hnew : NetworkConfig.new name subnet = .ok config) (calls : List NetworkCall) :
    let final := runNetworkCalls config calls
    ∃ ipam, Ipam.new subnet = .ok ipam ∧
      final.usedAddresses.Nodup ∧
      (∀ entry ∈ final.endpoints, ipam.gateway < entry.2.ipAddress ∧
        entry.2.ipAddress < ipam.broadcast ∧ ipam.InSubnet entry.2.ipAddress) ∧
      (∀ entry ∈ final.endpoints, entry.1 = entry.2.boxId) ∧
      (∀ call : NetworkCall, (call.run final).isOk = false →
        (call.apply final).endpoints = final.endpoints) ∧
      (∀ boxId boxName aliases, findKey Prod.fst boxId final.endpoints = none →
        ((final.connectWithAliases boxId boxName aliases).isOk ↔
          final.endpoints.length < ipam.hosts.length)) ∧
      (ipam.hosts.length = ipam.capacity ↔ ipam.network % 2 ^ ipam.hostBits = 0) := by
  intro final
  obtain ⟨ipam, hipam, hvalid⟩ := EndpointsValid.of_new hnew
  have hfinal : EndpointsValid ipam final := hvalid.run calls
  have hfailed : ∀ call : NetworkCall, (call.run final).isOk = false →
      (call.apply final).endpoints = final.endpoints := by
    intro call hfail
    unfold NetworkCall.apply
    cases hrun : call.run final with
    | error e => rfl
    | ok result =>
      rw [hrun] at hfail
      cases hfail
  exact ⟨ipam, hipam, hfinal.addresses_nodup,
    fun entry hentry => Ipam.host_bounds (hfinal.address_host entry hentry), hfinal.key_eq,
    hfailed, fun _ _ _ hfresh => connectWithAliases_isOk_iff hfinal hfresh,
    ipam.length_hosts_eq_capacity_iff⟩

/-- The network `dev` on `10.88.0.0/24`, as `new` builds it. -/
def devNetwork : NetworkConfig :=
  { name := "dev", subnet := "10.88.0.0/24", gateway := 10 * 2 ^ 24 + 88 * 2 ^ 16 + 1,
    driver := "bridge", endpoints := [] }

/-- Two boxes connected, one of them with aliases, and the first disconnected again. -/
def devCalls : List NetworkCall :=
  [.connect "box-a" "web", .connectWithAliases "box-b" "db" ["database", "", "db"],
    .disconnect "box-a"]

example : NetworkConfig.new "dev" "10.88.0.0/24" = .ok devNetwork ∧
    (runNetworkCalls devNetwork devCalls).usedAddresses = [10 * 2 ^ 24 + 88 * 2 ^ 16 + 3] := by
  decide

/-! ## A network whose address has host bits set -/

/-- On a network whose address has host bits set, connecting stops short of
    `capacity()`: from `NetworkConfig::new`, over every sequence of calls, a box not yet
    connected is connected exactly while fewer endpoints than candidates are connected,
    and there are fewer candidates than `capacity()`. -/
theorem unaligned_network_fills_below_capacity {name subnet : String} {config : NetworkConfig}
    {ipam : Ipam} (hnew : NetworkConfig.new name subnet = .ok config)
    (hipam : Ipam.new subnet = .ok ipam) (hunaligned : ipam.network % 2 ^ ipam.hostBits ≠ 0)
    (calls : List NetworkCall) :
    let final := runNetworkCalls config calls
    ipam.hosts.length < ipam.capacity ∧
      ∀ boxId boxName aliases, findKey Prod.fst boxId final.endpoints = none →
        ((final.connectWithAliases boxId boxName aliases).isOk ↔
          final.endpoints.length < ipam.hosts.length) := by
  intro final
  obtain ⟨ipam', hipam', hvalid⟩ := EndpointsValid.of_new hnew
  have hsame : ipam' = ipam := by
    rw [hipam] at hipam'
    exact (Except.ok.inj hipam').symm
  subst hsame
  exact ⟨ipam'.length_hosts_lt_capacity hunaligned,
    fun _ _ _ hfresh => connectWithAliases_isOk_iff (hvalid.run calls) hfresh⟩

/-- The `Ipam` of `10.0.0.255/24`: its network address is its broadcast address. -/
def unalignedIpam : Ipam := ⟨10 * 2 ^ 24 + 255, 24, by decide, by decide, by decide⟩

/-- The network `net` on `10.0.0.255/24`, as `new` builds it. -/
def unalignedNetwork : NetworkConfig :=
  { name := "net", subnet := "10.0.0.255/24", gateway := 10 * 2 ^ 24 + 256,
    driver := "bridge", endpoints := [] }

/-- `Ipam::new` takes `10.0.0.255/24` and reports a capacity of 253, but the network has
    no candidate at all and refuses its first box. -/
theorem unaligned_network_refuses_first_box :
    NetworkConfig.new "net" "10.0.0.255/24" = .ok unalignedNetwork ∧
      Ipam.new "10.0.0.255/24" = .ok unalignedIpam ∧
      unalignedIpam.network % 2 ^ unalignedIpam.hostBits ≠ 0 ∧ unalignedIpam.capacity = 253 ∧
      (let final := runNetworkCalls unalignedNetwork [];
        unalignedIpam.hosts.length < unalignedIpam.capacity ∧
          ∀ boxId boxName aliases, findKey Prod.fst boxId final.endpoints = none →
            ((final.connectWithAliases boxId boxName aliases).isOk ↔
              final.endpoints.length < unalignedIpam.hosts.length)) := by
  have hnew : NetworkConfig.new "net" "10.0.0.255/24" = .ok unalignedNetwork := by decide
  have hipam : Ipam.new "10.0.0.255/24" = .ok unalignedIpam := by decide
  have hunaligned : unalignedIpam.network % 2 ^ unalignedIpam.hostBits ≠ 0 := by decide
  exact ⟨hnew, hipam, hunaligned, by decide,
    unaligned_network_fills_below_capacity hnew hipam hunaligned []⟩

example : (unalignedNetwork.connect "box-a" "web").isOk = false := by decide

end A3sBox
