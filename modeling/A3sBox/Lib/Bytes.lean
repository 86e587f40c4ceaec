import Mathlib

/-
  Big-endian integers as bytes, laid out as Rust's `to_be_bytes`, `from_be_bytes` and the
  casts `as u8` and `as usize` lay them out.

  Model. A byte is a `UInt8`; an unsigned machine integer is a `Nat`, reduced modulo its
  width where the source casts it. `toBeBytes32 n` is `(n as u32).to_be_bytes()`,
  `fromBeBytes` reads bytes as the digits of a number in base 256, most significant
  first, and `beLength24` is the three-byte length field
  `((b0 as usize) << 16) | ((b1 as usize) << 8) | (b2 as usize)` of a frame header.

  Arithmetic on such an integer is `checkedAdd` (`checked_add`) or `addOrPanic` (`+`,
  which panics on overflow), with the outcome `Fault` of code that may panic.

  Proved: reading back what was written gives the value modulo the width
  (`fromBeBytes_toBeBytes32`, `beLength24_ofNat`), the bytes of a value below 2^31
  leave the top bit of the first byte clear (`toBeBytes32_head_lt`), and setting the
  low bits of a number gives the last number with its high bits (`or_two_pow_sub_one`).
-/

namespace A3sBox.Lib.Bytes

/-- `(n as u32).to_be_bytes()`. -/
def toBeBytes32 (n : Nat) : List UInt8 :=
  [UInt8.ofNat (n >>> 24), UInt8.ofNat (n >>> 16), UInt8.ofNat (n >>> 8), UInt8.ofNat n]

/-- `u32::from_be_bytes` and its kin: the bytes as digits in base 256, most significant
    first. -/
def fromBeBytes (bytes : List UInt8) : Nat :=
  bytes.foldl (fun acc b => acc * 256 + b.toNat) 0

/-- The three-byte length of a frame header, `(b0 << 16) | (b1 << 8) | b2`. -/
def beLength24 (b0 b1 b2 : UInt8) : Nat :=
  b0.toNat <<< 16 ||| b1.toNat <<< 8 ||| b2.toNat

theorem fromBeBytes_cons_four (b0 b1 b2 b3 : UInt8) :
    fromBeBytes [b0, b1, b2, b3] =
      ((b0.toNat * 256 + b1.toNat) * 256 + b2.toNat) * 256 + b3.toNat := by
  simp [fromBeBytes]

theorem fromBeBytes_toBeBytes32 (n : Nat) : fromBeBytes (toBeBytes32 n) = n % 2 ^ 32 := by
  rw [toBeBytes32, fromBeBytes_cons_four]
  simp only [UInt8.toNat_ofNat']
  omega

/-- The or of a shifted value and a value below the shift is their sum. -/
theorem shiftLeft_or_eq_add {a b i : Nat} (hb : b < 2 ^ i) : a <<< i ||| b = a * 2 ^ i + b := by
  rw [← Nat.shiftLeft_add_eq_or_of_lt hb, Nat.shiftLeft_eq]

theorem beLength24_eq (b0 b1 b2 : UInt8) :
    beLength24 b0 b1 b2 = (b0.toNat * 256 + b1.toNat) * 256 + b2.toNat := by
  have h1 : b1.toNat < 2 ^ 8 := b1.toNat_lt_size
  have h2 : b2.toNat < 2 ^ 8 := b2.toNat_lt_size
  -- the two high bytes form one shifted value, so each `|||` is an addition
  have hhigh : b0.toNat <<< 16 ||| b1.toNat <<< 8 = (b0.toNat <<< 8 ||| b1.toNat) <<< 8 := by
    rw [Nat.shiftLeft_or_distrib, ← Nat.shiftLeft_add]
  rw [beLength24, hhigh, shiftLeft_or_eq_add h2, shiftLeft_or_eq_add h1]
  rfl

/-- The three bytes `(n >> 16) as u8`, `(n >> 8) as u8`, `n as u8` carry `n` modulo
    2^24. -/
theorem beLength24_ofNat (n : Nat) :
    beLength24 (UInt8.ofNat (n >>> 16)) (UInt8.ofNat (n >>> 8)) (UInt8.ofNat n) = n % 2 ^ 24 := by
  rw [beLength24_eq]
  simp only [UInt8.toNat_ofNat']
  omega

theorem toBeBytes32_head_lt {n : Nat} (h : n < 2 ^ 31) :
    (UInt8.ofNat (n >>> 24)).toNat < 128 := by
  rw [UInt8.toNat_ofNat']
  omega

/-- A byte below 128 has its top bit clear. -/
theorem and_0x80_of_lt {b : UInt8} (h : b.toNat < 128) : b &&& 0x80 = 0 := by
  have hbits : ∀ x < 128, x &&& 128 = 0 := by decide
  apply UInt8.toNat_inj.mp
  rw [UInt8.toNat_and]
  exact hbits b.toNat h

/-- A byte below 128 is its own low seven bits. -/
theorem and_0x7f_of_lt {b : UInt8} (h : b.toNat < 128) : b &&& 0x7f = b := by
  apply UInt8.toNat_inj.mp
  rw [UInt8.toNat_and]
  exact Nat.and_two_pow_sub_one_of_lt_two_pow (show b.toNat < 2 ^ 7 from h)

/-- The bytes of a value below 2^31 read back as the value, also through the mask
    `& 0x7f` of the first byte that a 31-bit reader applies. -/
theorem fromBeBytes_toBeBytes31 {n : Nat} (h : n < 2 ^ 31) :
    fromBeBytes [UInt8.ofNat (n >>> 24) &&& 0x7f, UInt8.ofNat (n >>> 16), UInt8.ofNat (n >>> 8),
      UInt8.ofNat n] = n := by
  rw [and_0x7f_of_lt (toBeBytes32_head_lt h), ← toBeBytes32, fromBeBytes_toBeBytes32]
  omega

/-! ## Unsigned arithmetic -/

/-- `checked_add` on an unsigned integer of `bits` bits. -/
def checkedAdd (bits a b : Nat) : Option Nat :=
  if a + b < 2 ^ bits then some (a + b) else none

/-- The outcome of Rust code that returns `Result<α, ε>` and may panic: `error` is an
    `Err`, `panic` an arithmetic overflow, which a debug build stops on. -/
inductive Fault (ε : Type) where
  | error (error : ε)
  | panic
deriving DecidableEq

/-- `a + b` on an unsigned integer of `bits` bits. -/
def addOrPanic {ε : Type} (bits a b : Nat) : Except (Fault ε) Nat :=
  if a + b < 2 ^ bits then .ok (a + b) else .error .panic

theorem checkedAdd_eq_some {bits a b : Nat} (h : a + b < 2 ^ bits) :
    checkedAdd bits a b = some (a + b) := if_pos h

theorem addOrPanic_eq_ok {ε : Type} {bits a b : Nat} (h : a + b < 2 ^ bits) :
    (addOrPanic bits a b : Except (Fault ε) Nat) = .ok (a + b) := if_pos h

/-- Setting the low `k` bits of `n` gives the last number with the high bits of `n`. -/
theorem or_two_pow_sub_one (n k : Nat) : n ||| (2 ^ k - 1) = n / 2 ^ k * 2 ^ k + (2 ^ k - 1) := by
  have hlow : 2 ^ k - 1 < 2 ^ k := Nat.sub_lt (Nat.two_pow_pos k) Nat.one_pos
  rw [Nat.mul_comm, Nat.two_pow_add_eq_or_of_lt hlow]
  apply Nat.eq_of_testBit_eq
  intro i
  rw [Nat.testBit_or, Nat.testBit_or, Nat.testBit_two_pow_mul, Nat.testBit_two_pow_sub_one,
    Nat.testBit_div_two_pow]
  -- below bit `k` both sides are ones; from bit `k` on both are the bits of `n`
  by_cases hi : i < k
  · simp [hi]
  · have hk : i - k + k = i := by omega
    simp [hi, Nat.le_of_not_lt hi, hk]

end A3sBox.Lib.Bytes
