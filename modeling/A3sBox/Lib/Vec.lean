import Mathlib

/-
  Rust's `Vec` and iterator operations on lists.

  `rposition p l` is `Iterator::rposition`: the index of the last element that `p`
  admits. `remove l i` is `Vec::remove`: the element at `i` and the list without it, or
  nothing when `i` is out of range, where Rust panics.

  Proved: `rposition` finds nothing exactly when `p` admits no element
  (`rposition_eq_none`), and otherwise splits the list at an admitted element with
  nothing admitted after it (`rposition_split`), where `remove` takes it out
  (`remove_split`).
-/

namespace A3sBox.Lib

variable {α : Type}

/-- `Iterator::rposition`. -/
def rposition (p : α → Bool) : List α → Option Nat
  | [] => none
  | x :: xs =>
    match rposition p xs with
    | some i => some (i + 1)
    | none => if p x then some 0 else none

/-- `Vec::remove`. -/
def remove (l : List α) (i : Nat) : Option (α × List α) :=
  l[i]?.map fun x => (x, l.eraseIdx i)

theorem rposition_eq_none {p : α → Bool} {l : List α} :
    rposition p l = none ↔ ∀ x ∈ l, p x = false := by
  induction l with
  | nil => simp [rposition]
  | cons x xs ih =>
    simp only [rposition, List.mem_cons, forall_eq_or_imp]
    cases hxs : rposition p xs with
    | some i => simp [ih.symm.not, hxs]
    | none =>
      have hall := ih.mp hxs
      cases hx : p x
      · simpa [hxs, hx] using hall
      · simp

/-- The element `rposition` finds, with the elements before and after it. -/
theorem rposition_split {p : α → Bool} {l : List α} {i : Nat} (h : rposition p l = some i) :
    ∃ pre x post, l = pre ++ x :: post ∧ pre.length = i ∧ p x = true ∧
      ∀ y ∈ post, p y = false := by
  induction l generalizing i with
  | nil => cases h
  | cons a xs ih =>
    simp only [rposition] at h
    cases hxs : rposition p xs with
    | some j =>
      rw [hxs, Option.some.injEq] at h
      subst h
      obtain ⟨pre, x, post, rfl, hlen, hx, hpost⟩ := ih hxs
      exact ⟨a :: pre, x, post, rfl, by simp [hlen], hx, hpost⟩
    | none =>
      -- nothing after `a` is admitted, so `a` is the one found
      rw [hxs] at h
      by_cases ha : p a = true
      · rw [if_pos ha, Option.some.injEq] at h
        subst h
        exact ⟨[], a, xs, rfl, rfl, ha, rposition_eq_none.mp hxs⟩
      · rw [if_neg ha] at h
        cases h

theorem remove_split {pre post : List α} {x : α} :
    remove (pre ++ x :: post) pre.length = some (x, pre ++ post) := by
  simp [remove, List.eraseIdx_append_of_length_le]

end A3sBox.Lib
