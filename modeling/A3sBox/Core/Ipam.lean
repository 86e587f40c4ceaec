import A3sBox.Lib.Fallible
import A3sBox.Lib.Bytes
import A3sBox.Lib.Net

/-
  Sequential IP address management for a subnet (`core/src/network.rs`, `Ipam`,
  `Ipam6`).

  Model. An address is the `Nat` of its bits. `Ipam::new` splits a CIDR text at `/`,
  parses the network address and a `u8` prefix, and checks the prefix and the room for
  a gateway; it does not check that the host bits of the address are zero. The values it
  builds are `Ipam`, with those checks as fields. `allocate` scans the candidates from
  `network + 2` up to the broadcast address with checked arithmetic (`Ipam.scan`).
  `Ipam6` is the same for IPv6, with prefixes of 64 to 120 bits and unchecked `u128`
  additions, which panic on overflow (`Fault.panic`).

  Proved:
  * `Ipam.new_cidr`: the text `cidr()` writes parses back as the same `Ipam`;
  * `Ipam.allocate_eq`: `allocate` returns the first candidate of `Ipam.hosts`, the
    addresses from `network + 2` up to the broadcast address, that is not in use;
  * `Ipam.mem_hosts`: every candidate lies strictly between the gateway and the broadcast
    address, inside the subnet;
  * `Ipam.length_hosts` and `Ipam.length_hosts_eq_capacity_iff`: there are
    `2^h - 3 - network mod 2^h` candidates for `h` host bits, `capacity()` exactly when
    the host bits of the network address are zero;
  * `Ipam6.allocate_least_free`: where no sum overflows, `Ipam6::allocate` returns the first
    address in `[network + 2, network + 2^h - 1)` that is not in use;
  * `ipam6_arithmetic_overflows`: `Ipam6::new` panics on the network
    `ffff:ffff:ffff:ffff:ffff:ffff:ffff:ffff/64`, and `allocate` panics on
    `…:fff0/120` once the first fourteen addresses are in use.
-/

namespace A3sBox

open A3sBox.Lib A3sBox.Lib.Bytes A3sBox.Lib.Net

/-! ## IPv4 -/

/-- `Ipam`, as `Ipam::new` builds it. -/
@[ext]
structure Ipam where
  network : Nat
  prefixLen : Nat
  gateway_lt : network + 1 < 2 ^ 32
  prefix_pos : 0 < prefixLen
  prefix_le : prefixLen ≤ 30

instance : DecidableEq Ipam := fun a b =>
  decidable_of_iff (a.network = b.network ∧ a.prefixLen = b.prefixLen) Ipam.ext_iff.symm

namespace Ipam

/-- `gateway()`: `new` stores `network + 1`. -/
def gateway (ipam : Ipam) : Nat := ipam.network + 1

def hostBits (ipam : Ipam) : Nat := 32 - ipam.prefixLen

/-- `broadcast`. -/
def broadcast (ipam : Ipam) : Nat := ipam.network ||| (2 ^ ipam.hostBits - 1)

/-- `capacity`: `saturating_sub` is the subtraction of `Nat`. -/
def capacity (ipam : Ipam) : Nat := (2 ^ ipam.hostBits - 1) - 2

/-- `cidr`: `format!("{}/{}", network, prefix_len)`. -/
def cidr (ipam : Ipam) : String :=
  String.ofList (ipv4Chars ipam.network ++ '/' :: Nat.toDigits 10 ipam.prefixLen)

/-- `Ipam::new`. -/
def new (cidr : String) : Except String Ipam :=
  match cidr.toList.splitOn '/' with
  | [networkText, prefixText] => do
    let networkStr := String.ofList networkText
    let prefixStr := String.ofList prefixText
    let network ← okOr (parseIpv4 networkText)
      s!"invalid network address '{networkStr}': invalid IPv4 address syntax"
    let prefixLen ← (parseUnsigned 256 prefixText).mapError fun error =>
      s!"invalid prefix length '{prefixStr}': {error.message}"
    if hprefix : prefixLen = 0 ∨ 30 < prefixLen then
      throw s!"prefix length {prefixLen} out of range (must be 1-30 for a usable subnet)"
    else if hgateway : network + 1 < 2 ^ 32 then
      pure ⟨network, prefixLen, hgateway, by omega, by omega⟩
    else
      let address := String.ofList (ipv4Chars network)
      throw s!"network address '{address}' has no room for a gateway"
  | _ => .error s!"invalid CIDR notation: {cidr}"

/-- The loop of `allocate` at `candidate`, with `remaining` candidates below the
    broadcast address. -/
def scan (gateway : Nat) (used : List Nat) : (remaining candidate : Nat) → Except String Nat
  | 0, _ => .error "no available IP addresses in subnet"
  | remaining + 1, candidate =>
    if candidate ≠ gateway ∧ candidate ∉ used then .ok candidate
    else
      match checkedAdd 32 candidate 1 with
      | some next => scan gateway used remaining next
      | none => .error "no available IP addresses in subnet"

/-- `allocate`. -/
def allocate (ipam : Ipam) (used : List Nat) : Except String Nat :=
  match checkedAdd 32 ipam.network 2 with
  | some candidate => scan ipam.gateway used (ipam.broadcast - candidate) candidate
  | none => .error "no available IP addresses in subnet"

/-- The candidates of `allocate`: from `network + 2` up to the broadcast address. -/
def hosts (ipam : Ipam) : List Nat :=
  List.range' (ipam.network + 2) (ipam.broadcast - (ipam.network + 2))

/-- An address of the subnet: its high `prefix_len` bits are the network's. -/
def InSubnet (ipam : Ipam) (ip : Nat) : Prop :=
  ip / 2 ^ ipam.hostBits = ipam.network / 2 ^ ipam.hostBits

theorem network_lt (ipam : Ipam) : ipam.network < 2 ^ 32 := by
  have := ipam.gateway_lt
  omega

theorem prefixLen_lt (ipam : Ipam) : ipam.prefixLen < 256 := by
  have := ipam.prefix_le
  omega

/-- `new` reads back the text `cidr()` writes. -/
theorem new_cidr (ipam : Ipam) : Ipam.new ipam.cidr = .ok ipam := by
  have hslash : toDigit 10 '/' = none := by decide
  have hsplit : ipam.cidr.toList.splitOn '/' =
      [ipv4Chars ipam.network, Nat.toDigits 10 ipam.prefixLen] := by
    rw [cidr, String.toList_ofList,
      List.splitOn_append_cons_self_of_not_mem (not_mem_ipv4Chars hslash (by decide)),
      List.splitOn_eq_singleton (not_mem_toDigits_octet ipam.prefixLen_lt hslash)]
  have hprefix : ¬(ipam.prefixLen = 0 ∨ 30 < ipam.prefixLen) := by
    have := ipam.prefix_pos
    have := ipam.prefix_le
    omega
  rw [Ipam.new, hsplit]
  simp only [parseIpv4_ipv4Chars ipam.network_lt, okOr_some, ok_bind,
    parseUnsigned_toDigits _ ipam.prefixLen_lt, Except.mapError]
  rw [dif_neg hprefix, dif_pos ipam.gateway_lt]
  rfl

/-- The scan of `allocate` is the search for the first free candidate, as long as the
    candidates stay above the gateway and below 2^32. -/
theorem scan_eq {gateway : Nat} {used : List Nat} (remaining : Nat) :
    ∀ candidate, gateway < candidate → candidate + remaining < 2 ^ 32 →
      scan gateway used remaining candidate =
        okOr ((List.range' candidate remaining).find? (· ∉ used))
          "no available IP addresses in subnet" := by
  -- induction on the candidates left; each rejected one is followed by the next
  induction remaining with
  | zero => intro candidate _ _; rfl
  | succ remaining ih =>
    intro candidate hgateway hbound
    rw [scan, List.range'_succ, List.find?_cons]
    by_cases hused : candidate ∈ used
    · rw [if_neg (fun h => h.2 hused), checkedAdd_eq_some (by omega)]
      dsimp only
      rw [ih (candidate + 1) (by omega) (by omega)]
      simp [hused]
    · rw [if_pos ⟨by omega, hused⟩]
      simp [hused]

theorem broadcast_lt (ipam : Ipam) : ipam.broadcast < 2 ^ 32 := by
  have hmask : 2 ^ ipam.hostBits - 1 < 2 ^ 32 := by
    have : 2 ^ ipam.hostBits ≤ 2 ^ 32 := Nat.pow_le_pow_right (by decide) (by unfold hostBits; omega)
    omega
  exact Nat.or_lt_two_pow ipam.network_lt hmask

/-- `allocate` returns the first candidate not in use. -/
theorem allocate_eq (ipam : Ipam) (used : List Nat) :
    ipam.allocate used =
      okOr (ipam.hosts.find? (· ∉ used)) "no available IP addresses in subnet" := by
  have hbroadcast := ipam.broadcast_lt
  rw [allocate, hosts]
  by_cases hroom : ipam.network + 2 < 2 ^ 32
  · rw [checkedAdd_eq_some hroom]
    exact scan_eq _ _ (by rw [gateway]; omega) (by omega)
  · -- no candidate fits below 2^32, and none lies below the broadcast address
    have hnone : ipam.broadcast - (ipam.network + 2) = 0 := by omega
    rw [checkedAdd, if_neg hroom, hnone]
    rfl

theorem broadcast_eq (ipam : Ipam) :
    ipam.broadcast =
      ipam.network / 2 ^ ipam.hostBits * 2 ^ ipam.hostBits + (2 ^ ipam.hostBits - 1) :=
  or_two_pow_sub_one _ _

theorem mem_hosts {ipam : Ipam} {ip : Nat} :
    ip ∈ ipam.hosts ↔ ipam.network + 2 ≤ ip ∧ ip < ipam.broadcast := by
  rw [hosts, List.mem_range'_1]
  omega

/-- Every candidate lies strictly between the gateway and the broadcast address, inside
    the subnet. -/
theorem host_bounds {ipam : Ipam} {ip : Nat} (h : ip ∈ ipam.hosts) :
    ipam.gateway < ip ∧ ip < ipam.broadcast ∧ ipam.InSubnet ip := by
  obtain ⟨hlow, hhigh⟩ := mem_hosts.mp h
  refine ⟨by rw [gateway]; omega, hhigh, ?_⟩
  -- from the network address up to the broadcast address the high bits do not change
  have hbroadcast := ipam.broadcast_eq
  have hfloor := Nat.div_mul_le_self ipam.network (2 ^ ipam.hostBits)
  have hlow' : ipam.network / 2 ^ ipam.hostBits * 2 ^ ipam.hostBits ≤ ip := by omega
  have hhigh' : ip < (ipam.network / 2 ^ ipam.hostBits + 1) * 2 ^ ipam.hostBits := by
    rw [Nat.succ_mul]
    omega
  exact Nat.div_eq_of_lt_le hlow' hhigh'

theorem four_le_two_pow_hostBits (ipam : Ipam) : 4 ≤ 2 ^ ipam.hostBits := by
  have hbits : 2 ≤ ipam.hostBits := by
    unfold hostBits
    have := ipam.prefix_le
    omega
  calc 4 = 2 ^ 2 := rfl
    _ ≤ 2 ^ ipam.hostBits := Nat.pow_le_pow_right (by decide) hbits

/-- There are `2^h - 3 - network mod 2^h` candidates. -/
theorem length_hosts (ipam : Ipam) :
    ipam.hosts.length = 2 ^ ipam.hostBits - 3 - ipam.network % 2 ^ ipam.hostBits := by
  have hbroadcast := ipam.broadcast_eq
  have hsplit := Nat.div_add_mod ipam.network (2 ^ ipam.hostBits)
  rw [Nat.mul_comm] at hsplit
  rw [hosts, List.length_range']
  omega

/-- The candidates number `capacity()` exactly when the host bits of the network
    address are zero. -/
theorem length_hosts_eq_capacity_iff (ipam : Ipam) :
    ipam.hosts.length = ipam.capacity ↔ ipam.network % 2 ^ ipam.hostBits = 0 := by
  have := ipam.four_le_two_pow_hostBits
  rw [length_hosts, capacity]
  omega

/-- With host bits set in the network address there are fewer candidates than
    `capacity()`. -/
theorem length_hosts_lt_capacity (ipam : Ipam) (hunaligned : ipam.network % 2 ^ ipam.hostBits ≠ 0) :
    ipam.hosts.length < ipam.capacity := by
  have := ipam.four_le_two_pow_hostBits
  rw [length_hosts, capacity]
  omega

end Ipam

/-- Two hex digits of a byte, as `{:02x}` writes them. -/
def hexByte (byte : Nat) : List Char := [Nat.digitChar (byte / 16), Nat.digitChar (byte % 16)]

/-- `Ipam::mac_from_ip`. -/
def macFromIp (ip : Nat) : String :=
  String.ofList ("02:42:".toList ++ hexByte (ip / 2 ^ 24 % 256) ++ ':' :: hexByte (ip / 2 ^ 16 % 256) ++
    ':' :: hexByte (ip / 2 ^ 8 % 256) ++ ':' :: hexByte (ip % 256))

/-! ## IPv6 -/

/-- `Ipam6`, as `Ipam6::new` builds it when `network + 1` does not overflow. -/
@[ext]
structure Ipam6 where
  network : Nat
  prefixLen : Nat
  gateway_lt : network + 1 < 2 ^ 128
  prefix_ge : 64 ≤ prefixLen
  prefix_le : prefixLen ≤ 120

instance : DecidableEq Ipam6 := fun a b =>
  decidable_of_iff (a.network = b.network ∧ a.prefixLen = b.prefixLen) Ipam6.ext_iff.symm

namespace Ipam6

/-- `gateway()`: `new` stores `network + 1`. -/
def gateway (ipam : Ipam6) : Nat := ipam.network + 1

/-- `Ipam6::new`. -/
def new (cidr : String) : Except (Fault String) Ipam6 :=
  match cidr.toList.splitOn '/' with
  | [networkText, prefixText] => do
    let networkStr := String.ofList networkText
    let prefixStr := String.ofList prefixText
    let network ← okOr (parseIpv6 networkText)
      (.error s!"invalid IPv6 network address '{networkStr}': invalid IPv6 address syntax")
    let prefixLen ← (parseUnsigned 256 prefixText).mapError fun error =>
      .error s!"invalid prefix length '{prefixStr}': {error.message}"
    if hprefix : 64 ≤ prefixLen ∧ prefixLen ≤ 120 then
      -- the gateway is `net_u128 + 1`, unchecked
      if hgateway : network + 1 < 2 ^ 128 then pure ⟨network, prefixLen, hgateway, hprefix.1, hprefix.2⟩
      else throw .panic
    else throw (.error s!"IPv6 prefix length {prefixLen} out of range (64..=120)")
  | _ => .error (.error s!"invalid IPv6 CIDR notation: {cidr}")

/-- The loop of `allocate` at `offset`, with `remaining` offsets below `max_host`.
    `offset += 1` stays below `max_host` and cannot overflow. -/
def scan (network gateway : Nat) (used : List Nat) :
    (remaining offset : Nat) → Except (Fault String) Nat
  | 0, _ => .error (.error "no available IPv6 addresses in subnet")
  | remaining + 1, offset => do
    let candidate ← addOrPanic 128 network offset
    if candidate ≠ gateway ∧ candidate ∉ used then pure candidate
    else scan network gateway used remaining (offset + 1)

/-- `max_host`: `(1u128 << host_bits) - 1`. -/
def maxHost (ipam : Ipam6) : Nat := 2 ^ (128 - ipam.prefixLen) - 1

/-- `Ipam6::allocate`: the offsets from 2 up to `max_host`. -/
def allocate (ipam : Ipam6) (used : List Nat) : Except (Fault String) Nat :=
  scan ipam.network ipam.gateway used (ipam.maxHost - 2) 2

/-- Where no candidate overflows, the scan is the search for the first free candidate. -/
theorem scan_eq {network : Nat} {used : List Nat} (remaining : Nat) :
    ∀ offset, 2 ≤ offset → network + offset + remaining ≤ 2 ^ 128 →
      scan network (network + 1) used remaining offset =
        okOr ((List.range' (network + offset) remaining).find? (· ∉ used))
          (.error "no available IPv6 addresses in subnet") := by
  induction remaining with
  | zero => intro offset _ _; rfl
  | succ remaining ih =>
    intro offset hoffset hbound
    rw [scan, addOrPanic_eq_ok (by omega), ok_bind, List.range'_succ, List.find?_cons]
    by_cases hused : network + offset ∈ used
    · rw [if_neg (fun h => h.2 hused), ih (offset + 1) (by omega) (by omega), Nat.add_assoc]
      simp [hused]
    · rw [if_pos ⟨by omega, hused⟩]
      simp [hused]

theorem two_le_maxHost (ipam : Ipam6) : 255 ≤ ipam.maxHost := by
  have hbits : 8 ≤ 128 - ipam.prefixLen := by
    have := ipam.prefix_le
    omega
  have hpow : 2 ^ 8 ≤ 2 ^ (128 - ipam.prefixLen) := Nat.pow_le_pow_right (by decide) hbits
  unfold maxHost
  omega

/-- Where `network + max_host` does not overflow, `allocate` returns the first address of
    `[network + 2, network + max_host)` that is not in use. -/
theorem allocate_least_free (ipam : Ipam6) (used : List Nat) (hroom : ipam.network + ipam.maxHost ≤ 2 ^ 128) :
    ipam.allocate used =
      okOr ((List.range' (ipam.network + 2) (ipam.maxHost - 2)).find? (· ∉ used))
        (.error "no available IPv6 addresses in subnet") := by
  have := ipam.two_le_maxHost
  exact scan_eq _ 2 le_rfl (by omega)

/-- The IPAM of `fd00::/120`. -/
def fd00 : Ipam6 := ⟨0xfd00 * 2 ^ 112, 120, by decide, by decide, by decide⟩

theorem fd00_allocate :
    fd00.network + fd00.maxHost ≤ 2 ^ 128 ∧
      fd00.allocate [fd00.network + 2] =
        okOr ((List.range' (fd00.network + 2) (fd00.maxHost - 2)).find? (· ∉ [fd00.network + 2]))
          (.error "no available IPv6 addresses in subnet") :=
  ⟨by decide, allocate_least_free fd00 _ (by decide)⟩

end Ipam6

/-- The `u128` additions of `Ipam6` overflow: `new` panics on the last network of the
    address space, and on `…:fff0/120` `allocate` panics once the addresses from
    `network + 2` to `network + 15` are in use. -/
theorem ipam6_arithmetic_overflows :
    Ipam6.new "ffff:ffff:ffff:ffff:ffff:ffff:ffff:ffff/64" = .error .panic ∧
      ((Ipam6.new "ffff:ffff:ffff:ffff:ffff:ffff:ffff:fff0/120").toOption.map fun ipam =>
        ipam.allocate (List.range' (2 ^ 128 - 14) 14)) = some (.error .panic) := by
  decide

end A3sBox
