import Mathlib

/-
  Runs of a deterministic step function.

  A component whose every operation is `step : S → C → S` (one call `C`, under the
  component's lock, from one persisted state to the next) is run by applying calls in
  turn. `Reachable step init s` says that some sequence of calls leads from `init` to
  `s`; `Reachable.of_foldl` says every `List.foldl step init calls` is such a state.

  `Reachable.inv` is the induction rule for invariants: a property of `init` that every
  call keeps holds on every reachable state. A property of single calls that holds
  from every state with the invariant then holds on every call of every run.
  `Reachable.foldl` and `Reachable.trans` continue a run.
-/

namespace A3sBox.Lib

variable {S C : Type}

/-- The states reached from `init` by some sequence of calls. -/
inductive Reachable (step : S → C → S) (init : S) : S → Prop
  | init : Reachable step init init
  | step {s : S} (c : C) : Reachable step init s → Reachable step init (step s c)

variable {step : S → C → S} {init : S}

/-- Every sequence of calls from `init` ends in a reachable state. -/
theorem Reachable.of_foldl (calls : List C) : Reachable step init (calls.foldl step init) := by
  suffices h : ∀ s, Reachable step init s → Reachable step init (calls.foldl step s) from
    h init .init
  induction calls with
  | nil => exact fun s hs => hs
  | cons c calls ih => exact fun s hs => ih (step s c) (hs.step c)

/-- A sequence of calls from a reachable state ends in a reachable state. -/
theorem Reachable.foldl {s : S} (h : Reachable step init s) (calls : List C) :
    Reachable step init (calls.foldl step s) := by
  induction calls generalizing s with
  | nil => exact h
  | cons c calls ih => exact ih (h.step c)

/-- A state reached from a reachable state is reachable. -/
theorem Reachable.trans {s t : S} (hs : Reachable step init s) (ht : Reachable step s t) :
    Reachable step init t := by
  induction ht with
  | init => exact hs
  | step c _ ih => exact ih.step c

/-- An invariant of `init` kept by every call holds on every reachable state. -/
theorem Reachable.inv (I : S → Prop) (h0 : I init) (hstep : ∀ s c, I s → I (step s c))
    {s : S} (h : Reachable step init s) : I s := by
  induction h with
  | init => exact h0
  | step c _ ih => exact hstep _ c ih

end A3sBox.Lib
