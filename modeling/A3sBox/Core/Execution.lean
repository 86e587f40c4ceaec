import Mathlib

/-
  Identifiers of managed executions (`a3s_box_core::traits::execution`).

  Each identifier is a structure that carries the check of its constructor `new` as a
  field, so a value that `new` rejects cannot be built:

  * `ExecutionId`, `OperationId`: strings that are not blank (`value.trim().is_empty()`
    is false; `trim` removes Unicode `White_Space`, `isRustWhitespace`);
  * `ExecutionSnapshotId`: `[A-Za-z0-9_-]{1,128}`;
  * `ExecutionGeneration`: a nonzero `u64`, as a `Nat` with both bounds as fields.

  `ExecutionGeneration.checkedSucc` is `get().checked_add(1)` followed by `new`: it is
  `none` exactly at `u64::MAX` (`checkedSucc_eq_none_iff`). The error types of the crate
  are modelled by their `Display` text, since every caller of these constructors only
  formats the error (`error.to_string()`, `format!("{error}")`).
-/

namespace A3sBox

/-- `u64::MAX`. -/
def u64Max : Nat := 2 ^ 64 - 1

theorem u64Max_pos : 0 < u64Max := by decide

theorem one_le_u64Max : 1 ≤ u64Max := by decide

theorem two_le_u64Max : 2 ≤ u64Max := by decide

/-- Rust's `char::is_whitespace`, the Unicode `White_Space` property. -/
def isRustWhitespace (c : Char) : Bool :=
  let n := c.toNat
  (0x09 ≤ n && n ≤ 0x0D) || n == 0x20 || n == 0x85 || n == 0xA0 || n == 0x1680 ||
    (0x2000 ≤ n && n ≤ 0x200A) || n == 0x2028 || n == 0x2029 || n == 0x202F ||
    n == 0x205F || n == 0x3000

/-- `value.trim().is_empty()`: every character is whitespace. -/
def isBlank (value : String) : Bool := value.toList.all isRustWhitespace

/-- `str::trim`: drop Unicode `White_Space` at both ends. -/
def trimRust (value : String) : String :=
  String.ofList
    ((value.toList.dropWhile isRustWhitespace).reverse.dropWhile isRustWhitespace).reverse

/-- `ExecutionManagerError::InvalidRequest(message)`, as displayed. -/
def invalidRequest (message : String) : String := s!"invalid execution request: {message}"

/-- Stable identifier assigned to one runtime execution. -/
structure ExecutionId where
  val : String
  nonblank : isBlank val = false
deriving DecidableEq

/-- `ExecutionId::new`. -/
def ExecutionId.new (value : String) : Except String ExecutionId :=
  if h : isBlank value then .error (invalidRequest "execution ID cannot be empty")
  else .ok ⟨value, by simpa using h⟩

instance : ToString ExecutionId := ⟨ExecutionId.val⟩

theorem ExecutionId.new_eq_ok {value : String} {id : ExecutionId}
    (h : ExecutionId.new value = .ok id) : id.val = value := by
  unfold ExecutionId.new at h
  split at h
  · cases h
  · cases h
    rfl

theorem ExecutionId.new_of_nonblank {value : String} (h : isBlank value = false) :
    ExecutionId.new value = .ok ⟨value, h⟩ := by
  unfold ExecutionId.new
  rw [dif_neg (by simp [h])]

@[simp] theorem ExecutionId.new_val (id : ExecutionId) : ExecutionId.new id.val = .ok id := by
  unfold ExecutionId.new
  rw [dif_neg (by simp [id.nonblank])]

theorem ExecutionId.new_isOk {value : String} :
    (ExecutionId.new value).isOk = !isBlank value := by
  unfold ExecutionId.new
  split <;> simp_all [Except.isOk, Except.toBool]

/-- Idempotency identity for a lifecycle operation. -/
structure OperationId where
  val : String
  nonblank : isBlank val = false
deriving DecidableEq

/-- `OperationId::new`. -/
def OperationId.new (value : String) : Except String OperationId :=
  if h : isBlank value then .error (invalidRequest "operation ID cannot be empty")
  else .ok ⟨value, by simpa using h⟩

instance : ToString OperationId := ⟨OperationId.val⟩

/-- The lexical contract of a snapshot identifier: `[A-Za-z0-9_-]{1,128}`. Every
    accepted character is ASCII, so its length in characters is its length in bytes. -/
def isValidSnapshotId (value : String) : Bool :=
  0 < value.length && value.length ≤ 128 &&
    value.toList.all fun c => c.isAlphanum || c == '-' || c == '_'

/-- Opaque identifier for one runtime-managed filesystem snapshot. -/
structure ExecutionSnapshotId where
  val : String
  valid : isValidSnapshotId val = true
deriving DecidableEq

/-- `ExecutionSnapshotId::new`. -/
def ExecutionSnapshotId.new (value : String) : Except String ExecutionSnapshotId :=
  if h : isValidSnapshotId value then .ok ⟨value, h⟩
  else .error (invalidRequest "execution snapshot ID must match [A-Za-z0-9_-]{1,128}")

instance : ToString ExecutionSnapshotId := ⟨ExecutionSnapshotId.val⟩

/-- Runtime generation used to reject stale lifecycle operations: a nonzero `u64`. -/
structure ExecutionGeneration where
  get : Nat
  pos : 0 < get
  le_max : get ≤ u64Max
deriving DecidableEq

/-- `ExecutionGeneration::INITIAL`. -/
def ExecutionGeneration.initial : ExecutionGeneration := ⟨1, by decide, by decide⟩

/-- `generation.get().checked_add(1)` followed by `ExecutionGeneration::new`. -/
def ExecutionGeneration.checkedSucc (g : ExecutionGeneration) : Option ExecutionGeneration :=
  if h : g.get + 1 ≤ u64Max then some ⟨g.get + 1, Nat.succ_pos _, h⟩ else none

theorem ExecutionGeneration.ext_get {g g' : ExecutionGeneration} (h : g.get = g'.get) :
    g = g' := by
  cases g
  cases g'
  simp only at h
  subst h
  rfl

@[simp] theorem ExecutionGeneration.initial_get : ExecutionGeneration.initial.get = 1 := rfl

theorem ExecutionGeneration.checkedSucc_eq_some_iff {g g' : ExecutionGeneration} :
    g.checkedSucc = some g' ↔ g'.get = g.get + 1 := by
  unfold ExecutionGeneration.checkedSucc
  constructor
  · intro h
    split at h
    · cases h
      rfl
    · cases h
  · intro h
    have hle : g.get + 1 ≤ u64Max := h ▸ g'.le_max
    rw [dif_pos hle]
    exact congrArg some (ExecutionGeneration.ext_get h.symm)

theorem ExecutionGeneration.checkedSucc_eq_none_iff {g : ExecutionGeneration} :
    g.checkedSucc = none ↔ g.get = u64Max := by
  unfold ExecutionGeneration.checkedSucc
  have := g.le_max
  constructor
  · intro h
    split at h
    · cases h
    · omega
  · intro h
    rw [dif_neg (by omega)]

instance : ToString ExecutionGeneration := ⟨fun g => toString g.get⟩

/-- The generation at `u64::MAX`, the one value that `checkedSucc` cannot advance. -/
def ExecutionGeneration.last : ExecutionGeneration := ⟨u64Max, by decide, le_refl _⟩

end A3sBox
