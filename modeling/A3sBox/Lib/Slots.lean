import Mathlib

/-
  Numbered slots: files named by an index (`name.1`, `name.2`, …), each absent or holding
  a value, as a rotation keeps them.

  Model. `Slots α` maps an index to the value its slot holds. `move` is a rename that is
  only made when the source exists; `shiftUp s k` is the loop that moves slot `i` to
  `i + 1` for `i` from `k` down to `1`, highest first, so that no slot is overwritten
  before it has moved. `ofList l` puts the list in slots `1, 2, …`, its head in slot 1.

  Proved: `shiftUp_ofList`, a shift of a list whose top slot is free, followed by a write
  to slot 1, is the list with the new value in front; `update_ofList_none` cuts the list
  at the slot it clears; `isSome_ofList` says which slots of a list are taken, and
  `filterMap_ofList` that reading them in order gives the list back.
-/

namespace A3sBox.Lib

/-- Numbered slots, each empty or holding a value. -/
abbrev Slots (α : Type) := Nat → Option α

namespace Slots

variable {α : Type}

/-- Rename slot `src` to `dst` when `src` is taken; the target is replaced. -/
def move (s : Slots α) (src dst : Nat) : Slots α :=
  match s src with
  | some a => Function.update (Function.update s src none) dst (some a)
  | none => s

/-- Move slot `i` to `i + 1`, for `i` from `k` down to `1`. -/
def shiftUp (s : Slots α) (k : Nat) : Slots α :=
  (List.range' 1 k).reverse.foldl (fun s i => move s i (i + 1)) s

/-- The list `l` in slots `1, 2, …`; slot 0 and the slots past it are empty. -/
def ofList (l : List α) : Slots α
  | 0 => none
  | n + 1 => l[n]?

/-- A rename onto a free slot puts the source there and frees the source. -/
theorem move_of_free {s : Slots α} {src dst : Nat} (hdst : s dst = none) (hne : src ≠ dst) :
    move s src dst = Function.update (Function.update s src none) dst (s src) := by
  unfold move
  split
  · rename_i a hsrc
    rw [hsrc]
  · rename_i hsrc
    rw [hsrc]
    funext j
    by_cases hj : j = dst
    · subst hj
      simp [hdst]
    · by_cases hjs : j = src
      · subst hjs
        simp [hj, hsrc]
      · simp [hj, hjs]

theorem shiftUp_zero (s : Slots α) : shiftUp s 0 = s := rfl

/-- The loop's first move is its highest one. -/
theorem shiftUp_succ (s : Slots α) (k : Nat) :
    shiftUp s (k + 1) = shiftUp (move s (k + 1) (k + 2)) k := by
  rw [shiftUp, List.range'_concat, List.reverse_append]
  simp [shiftUp, Nat.add_comm 1 k]

/-- With the top slot `k + 1` free, the loop moves slots `1 … k` one up and frees slot 1.
    The induction is on `k`: the highest move lands on the free top slot and frees slot
    `k`, which is the top slot of the rest of the loop. -/
theorem shiftUp_apply {s : Slots α} {k : Nat} (htop : s (k + 1) = none) (j : Nat) :
    shiftUp s k j = if j = 1 then none else if 2 ≤ j ∧ j ≤ k + 1 then s (j - 1) else s j := by
  induction k generalizing s with
  | zero =>
    rw [shiftUp_zero]
    split
    · rename_i hj
      rw [hj, htop]
    · rw [if_neg (by omega)]
  | succ k ih =>
    have hmove := move_of_free htop (Nat.succ_ne_self (k + 1)).symm
    have hfree : move s (k + 1) (k + 2) (k + 1) = none := by
      rw [hmove, Function.update_of_ne (by omega), Function.update_self]
    rw [shiftUp_succ, ih hfree, hmove]
    by_cases hj1 : j = 1
    · simp [hj1]
    · by_cases hjtop : j = k + 2
      · subst hjtop
        simp
      · simp only [hj1, if_false, Function.update_apply]
        split_ifs <;> first | rfl | omega

/-- The taken slots of a list are `1 … l.length`. -/
theorem isSome_ofList {l : List α} {j : Nat} : (ofList l j).isSome ↔ 1 ≤ j ∧ j ≤ l.length := by
  cases j with
  | zero => simp [ofList]
  | succ n => simp [ofList, Option.isSome_iff_ne_none]

theorem ofList_eq_none {l : List α} {j : Nat} (hj : l.length < j) : ofList l j = none := by
  cases j with
  | zero => rfl
  | succ n => exact List.getElem?_eq_none (by omega)

/-- Shifting a list whose slots stay below the loop's top, and writing `a` to slot 1,
    puts `a` in front of it. -/
theorem shiftUp_ofList {l : List α} {k : Nat} (hlen : l.length ≤ k) (a : α) :
    Function.update (shiftUp (ofList l) k) 1 (some a) = ofList (a :: l) := by
  funext j
  rw [Function.update_apply, shiftUp_apply (ofList_eq_none (by omega))]
  match j with
  | 0 => rfl
  | 1 => rfl
  | n + 2 =>
    rw [if_neg (by omega : n + 2 ≠ 1), if_neg (by omega : n + 2 ≠ 1)]
    split_ifs with hle
    · rfl
    · rw [ofList_eq_none (by omega), ofList, List.getElem?_cons_succ,
        List.getElem?_eq_none (by omega)]

/-- Clearing slot `k + 1` of a list of at most `k + 1` values keeps its first `k`. -/
theorem update_ofList_none {l : List α} {k : Nat} (hlen : l.length ≤ k + 1) :
    Function.update (ofList l) (k + 1) none = ofList (l.take k) := by
  funext j
  rw [Function.update_apply]
  match j with
  | 0 => rfl
  | n + 1 =>
    rw [ofList, ofList, List.getElem?_take]
    by_cases hn : n = k
    · rw [if_pos (by omega), if_neg (by omega)]
    · rw [if_neg (by omega)]
      split_ifs with hlt
      · rfl
      · exact List.getElem?_eq_none (by omega)

/-- Reading the slots `1 … top` of a list that fits gives the list back. -/
theorem filterMap_ofList {l : List α} {top : Nat} (hlen : l.length ≤ top) :
    (List.range' 1 top).filterMap (ofList l) = l := by
  induction l generalizing top with
  | nil =>
    rw [List.filterMap_eq_nil_iff]
    intro j _
    cases j <;> rfl
  | cons a l ih =>
    obtain ⟨t, rfl⟩ : ∃ t, top = t + 1 := ⟨top - 1, by simp at hlen; omega⟩
    rw [List.range'_succ, List.filterMap_cons_some (show ofList (a :: l) 1 = some a from rfl)]
    congr 1
    -- past slot 1, the slots of `a :: l` are those of `l`, one up
    have hrest : (List.range' 1 t).filterMap (ofList l) = l := ih (by simp at hlen; omega)
    rw [← List.map_add_range', List.filterMap_map]
    refine (List.filterMap_congr ?_).trans hrest
    intro j hj
    obtain ⟨i, rfl⟩ : ∃ i, j = i + 1 := ⟨j - 1, by simp [List.mem_range'_1] at hj; omega⟩
    simp [ofList, Nat.add_comm 1]

end Slots

end A3sBox.Lib
