import Mathlib

/-
  Fallible computations and strict read-modify-write transactions.

  `Except` is the model of a Rust `Result`; the `?` operator is `>>=`. The lemmas
  `ok_bind`, `error_bind` and `bind_eq_ok` let a proof peel a chain of `?` apart with
  `obtain` instead of unfolding the function that contains it. `ensure cond e` is the
  guard `if !cond { return Err(e) }`.

  `atomically body s` keeps the state `body` returns only when it succeeds.
  `transact validate ioError body s` is a transaction over a state `s` that must stay
  valid: the loaded state is checked, the body runs on it, and its new state is checked
  again before it replaces the old one. Any failure returns an error and keeps `s`
  (`transact_error_state`); a success returns a valid state (`transact_ok`). A state
  store that validates on both load and write instantiates it. `tryThen x k s` is `x?` in
  a computation that writes its state only after its last `?`; a computation that keeps what
  its failed step wrote is an `ExceptT` over `StateM`, read through its `Std.Do` triples
  (`triple_run_state`, `triple_run`, `triple_run_state_of`).
-/

namespace A3sBox.Lib

variable {ε α β : Type}

@[simp] theorem ok_bind (a : α) (f : α → Except ε β) : (Except.ok a >>= f) = f a := rfl

@[simp] theorem error_bind (e : ε) (f : α → Except ε β) :
    (Except.error e >>= f) = Except.error e := rfl

/-- A chain of `?` succeeds exactly when its first step does and the rest does on
    that value. -/
theorem bind_eq_ok {x : Except ε α} {f : α → Except ε β} {b : β} :
    x >>= f = .ok b ↔ ∃ a, x = .ok a ∧ f a = .ok b := by
  cases x with
  | error e => simp
  | ok a => simp

theorem bind_eq_error {x : Except ε α} {f : α → Except ε β} {e : ε} :
    x >>= f = .error e ↔ x = .error e ∨ ∃ a, x = .ok a ∧ f a = .error e := by
  cases x with
  | error e' => simp
  | ok a => simp

/-- A check that returns `()` is followed by the rest only when it passes. -/
@[simp] theorem bind_unit_eq_ok {x : Except ε Unit} {f : Unit → Except ε β} {b : β} :
    x >>= f = .ok b ↔ x = .ok () ∧ f () = .ok b := by
  cases x with
  | error e => simp
  | ok u => simp

theorem map_eq_ok {f : α → β} {x : Except ε α} {b : β} :
    f <$> x = .ok b ↔ ∃ a, x = .ok a ∧ f a = b := by
  cases x with
  | error e => simp [Functor.map, Except.map]
  | ok a => simp [Functor.map, Except.map]

theorem map_eq_error {f : α → β} {x : Except ε α} {e : ε} :
    f <$> x = .error e ↔ x = .error e := by
  cases x with
  | error e' => simp [Functor.map, Except.map]
  | ok a => simp [Functor.map, Except.map]

@[simp] theorem pure_eq_ok {a b : α} : (pure a : Except ε α) = .ok b ↔ a = b := by
  simp [pure, Except.pure]

/-- `if !cond { return Err(error) }`. -/
def ensure (cond : Bool) (error : ε) : Except ε Unit :=
  if cond then .ok () else .error error

@[simp] theorem ensure_true (error : ε) : ensure true error = .ok () := rfl

@[simp] theorem ensure_false (error : ε) : ensure false error = .error error := rfl

@[simp] theorem ensure_eq_ok {cond : Bool} {error : ε} {u : Unit} :
    ensure cond error = .ok u ↔ cond = true := by
  cases cond <;> simp [ensure]

theorem ensure_eq_error {cond : Bool} {error e : ε} :
    ensure cond error = .error e ↔ cond = false ∧ e = error := by
  cases cond <;> simp [ensure, eq_comm]

/-- The guard `if cond { return Err(error) }` written inline before the rest. -/
theorem ite_throw_eq_ok {cond : Prop} [Decidable cond] {error : ε} {x : Except ε α} {b : α} :
    (if cond then throw error else x) = .ok b ↔ ¬ cond ∧ x = .ok b := by
  by_cases hcond : cond
  · simp [hcond, throw, throwThe, MonadExceptOf.throw]
  · simp [hcond]

/-- `ok_or_else(|| error)`. -/
def okOr (x : Option α) (error : ε) : Except ε α :=
  match x with
  | some a => .ok a
  | none => .error error

@[simp] theorem okOr_some (a : α) (error : ε) : okOr (some a) error = .ok a := rfl

@[simp] theorem okOr_none (error : ε) : okOr (none : Option α) error = .error error := rfl

@[simp] theorem okOr_eq_ok {x : Option α} {error : ε} {a : α} : okOr x error = .ok a ↔ x = some a := by
  cases x <;> simp

/-- `map_err`. -/
theorem mapError_eq_ok {ε' : Type} {x : Except ε α} {g : ε → ε'} {a : α} :
    x.mapError g = .ok a ↔ x = .ok a := by
  cases x <;> simp [Except.mapError]

theorem mapError_eq_error {ε' : Type} {x : Except ε α} {g : ε → ε'} {e' : ε'} :
    x.mapError g = .error e' ↔ ∃ e, x = .error e ∧ g e = e' := by
  cases x <;> simp [Except.mapError]

/-! ## Loops

  A Rust loop with a `?` in its body is `List.foldlM` in `Except`. These are its
  invariant rules: if every step, from a state satisfying `I`, succeeds (or avoids an
  error) and keeps `I`, so does the loop.
-/

section Loops

variable {σ : Type} {step : σ → β → Except ε σ}

/-- A loop succeeds when each step does from every state the invariant allows. -/
theorem foldlM_exists_ok (I : σ → Prop) {xs : List β}
    (hstep : ∀ x ∈ xs, ∀ t, I t → ∃ t', step t x = .ok t' ∧ I t') {t : σ} (hinv : I t) :
    ∃ s, xs.foldlM step t = .ok s := by
  induction xs generalizing t with
  | nil => exact ⟨t, rfl⟩
  | cons x xs ih =>
    obtain ⟨t₁, hx, hinv₁⟩ := hstep x List.mem_cons_self t hinv
    obtain ⟨s, hrest⟩ := ih (fun y hy => hstep y (List.mem_cons_of_mem _ hy)) hinv₁
    exact ⟨s, by rw [List.foldlM_cons, hx, ok_bind, hrest]⟩

/-- A loop never fails with `e` when no step does from a state the invariant allows. -/
theorem foldlM_ne_error (I : σ → Prop) {e : ε} {xs : List β}
    (hstep : ∀ x ∈ xs, ∀ t, I t → step t x ≠ .error e ∧ ∀ t', step t x = .ok t' → I t')
    {t : σ} (hinv : I t) : xs.foldlM step t ≠ .error e := by
  induction xs generalizing t with
  | nil => exact fun h => nomatch h
  | cons x xs ih =>
    obtain ⟨hne, hkeep⟩ := hstep x List.mem_cons_self t hinv
    rw [List.foldlM_cons]
    cases hx : step t x with
    | error e' =>
      rw [hx] at hne
      rwa [error_bind]
    | ok t₁ =>
      rw [ok_bind]
      exact ih (fun y hy => hstep y (List.mem_cons_of_mem _ hy)) (hkeep t₁ hx)

/-- A failed loop failed at one of its steps. -/
theorem foldlM_eq_error {xs : List β} {t : σ} {e : ε} (h : xs.foldlM step t = .error e) :
    ∃ x ∈ xs, ∃ t', step t' x = .error e := by
  induction xs generalizing t with
  | nil => exact nomatch h
  | cons x xs ih =>
    rw [List.foldlM_cons] at h
    cases hx : step t x with
    | error e' =>
      rw [hx, error_bind] at h
      exact ⟨x, List.mem_cons_self, t, hx.trans h⟩
    | ok t₁ =>
      rw [hx, ok_bind] at h
      obtain ⟨y, hy, t', hstep⟩ := ih h
      exact ⟨y, List.mem_cons_of_mem _ hy, t', hstep⟩

end Loops

/-! ## Validated transactions -/

variable {S E R : Type}

/-- Load `s` (checked by `validate`), run `body`, and store its state only if that
    state is valid too. -/
def transact (validate : S → Except String Unit) (ioError : String → E)
    (body : S → Except E (R × S)) (s : S) : Except E R × S :=
  match validate s with
  | .error msg => (.error (ioError msg), s)
  | .ok () =>
    match body s with
    | .error e => (.error e, s)
    | .ok (out, s') =>
      match validate s' with
      | .error msg => (.error (ioError msg), s)
      | .ok () => (.ok out, s')

variable {validate : S → Except String Unit} {ioError : String → E}
  {body : S → Except E (R × S)} {s : S}

/-- A failed transaction writes nothing. -/
theorem transact_error_state {e : E} (h : (transact validate ioError body s).1 = .error e) :
    (transact validate ioError body s).2 = s := by
  cases hv : validate s with
  | error msg => simp [transact, hv]
  | ok u =>
    cases hb : body s with
    | error e' => simp [transact, hv, hb]
    | ok p =>
      obtain ⟨out, s'⟩ := p
      cases hv' : validate s' with
      | error msg => simp [transact, hv, hb, hv']
      | ok u' => simp [transact, hv, hb, hv'] at h

/-- A successful transaction loaded a valid state, its body succeeded on it, and the
    state it stored is valid. -/
theorem transact_ok {out : R} (h : (transact validate ioError body s).1 = .ok out) :
    validate s = .ok () ∧ body s = .ok (out, (transact validate ioError body s).2) ∧
      validate (transact validate ioError body s).2 = .ok () := by
  cases hv : validate s with
  | error msg => simp [transact, hv] at h
  | ok u =>
    cases hb : body s with
    | error e' => simp [transact, hv, hb] at h
    | ok p =>
      obtain ⟨out', s'⟩ := p
      cases hv' : validate s' with
      | error msg => simp [transact, hv, hb, hv'] at h
      | ok u' =>
        simp only [transact, hv, hb, hv', Except.ok.injEq] at h ⊢
        simp [h]

/-- Every transaction leaves the state as it was or replaces it by a valid one. -/
theorem transact_state_cases :
    (transact validate ioError body s).2 = s ∨
      ((transact validate ioError body s).1.isOk ∧
        validate (transact validate ioError body s).2 = .ok ()) := by
  cases hres : (transact validate ioError body s).1 with
  | error e => exact .inl (transact_error_state hres)
  | ok out => exact .inr ⟨rfl, (transact_ok hres).2.2⟩

/-- A transaction on a valid state whose body fails returns the body's error. -/
theorem transact_of_body_error {e : E} (hv : validate s = .ok ()) (hb : body s = .error e) :
    transact validate ioError body s = (.error e, s) := by
  simp [transact, hv, hb]

/-- A transaction on a valid state whose body succeeds with a valid state stores it. -/
theorem transact_of_body_ok {out : R} {s' : S} (hv : validate s = .ok ())
    (hb : body s = .ok (out, s')) (hv' : validate s' = .ok ()) :
    transact validate ioError body s = (.ok out, s') := by
  simp [transact, hv, hb, hv']

/-! ## Computations that write only on success -/

/-- Run `body` on `s` and keep the state it returns only if it succeeds: a transaction
    that rolls back on error, or a `&mut self` method whose every `?` stands before its
    first write. -/
def atomically (body : S → Except E (R × S)) (s : S) : Except E R × S :=
  match body s with
  | .ok (out, s') => (.ok out, s')
  | .error e => (.error e, s)

theorem atomically_error_state {e : E} (h : (atomically body s).1 = .error e) :
    (atomically body s).2 = s := by
  unfold atomically at h ⊢
  cases hb : body s with
  | ok p => simp [hb] at h
  | error e' => rfl

theorem atomically_ok {out : R} (h : (atomically body s).1 = .ok out) :
    body s = .ok (out, (atomically body s).2) := by
  unfold atomically at h ⊢
  cases hb : body s with
  | ok p =>
    rw [hb] at h
    cases h
    rfl
  | error e' => simp [hb] at h

theorem atomically_of_body_error {e : E} (hb : body s = .error e) :
    atomically body s = (.error e, s) := by
  simp [atomically, hb]

theorem atomically_of_body_ok {out : R} {s' : S} (hb : body s = .ok (out, s')) :
    atomically body s = (.ok out, s') := by
  simp [atomically, hb]

/-! ## A `?` before a computation's write -/

section Then

variable {α : Type}

/-- `x?` and then `k`, in a computation on a state that it writes only after its last `?`:
    an error returns at once, with the state as it was. -/
def tryThen (x : Except E α) (k : α → S → Except E R × S) (s : S) : Except E R × S :=
  match x with
  | .error e => (.error e, s)
  | .ok a => k a s

@[simp] theorem tryThen_error (e : E) (k : α → S → Except E R × S) (s : S) :
    tryThen (.error e) k s = (.error e, s) := rfl

@[simp] theorem tryThen_ok (a : α) (k : α → S → Except E R × S) (s : S) :
    tryThen (.ok a) k s = k a s := rfl

/-- A relation between the state before and after that holds of the state left alone, and of
    every continuation, holds of the whole. -/
theorem tryThen_state {P : S → Prop} {x : Except E α} {k : α → S → Except E R × S}
    (hs : P s) (hk : ∀ a, x = .ok a → P (k a s).2) : P (tryThen x k s).2 := by
  cases x with
  | error e => exact hs
  | ok a => exact hk a rfl

end Then

/-! ## Computations that keep what their failed step wrote

`ExceptT E (StateM S)` is a computation on a state whose error returns the state as the failing
step left it: a method that writes through `&self` and stops at its first `?`. Its triples are
those of `Std.Do`. -/

section StateExcept

open Std.Do

variable {α : Type}

/-- A triple whose success and failure postconditions are one predicate of the state says the
    state after every run from a state the precondition admits. -/
theorem triple_run_state {P Q : S → Prop} {x : ExceptT E (StateM S) α}
    (h : ⦃fun s => ⌜P s⌝⦄ x ⦃post⟨fun _ s => ⌜Q s⌝, fun _ s => ⌜Q s⌝⟩⦄) {s : S} (hs : P s) :
    Q (x.run.run s).2 := by
  have hwp := h s hs
  simp [WP.wp] at hwp
  cases hrun : (StateT.run x.run s).run.1 <;> simp only [hrun] at hwp <;> exact hwp

/-- A triple says, of every run from a state the precondition admits, its success
    postcondition when the run returns and its failure postcondition when it throws. -/
theorem triple_run {P : S → Prop} {Q : α → S → Prop} {R : E → S → Prop}
    {x : ExceptT E (StateM S) α}
    (h : ⦃fun s => ⌜P s⌝⦄ x ⦃post⟨fun a s => ⌜Q a s⌝, fun e s => ⌜R e s⌝⟩⦄) {s : S} (hs : P s) :
    (∀ a, (x.run.run s).1 = .ok a → Q a (x.run.run s).2) ∧
      (∀ e, (x.run.run s).1 = .error e → R e (x.run.run s).2) := by
  have hwp := h s hs
  simp [WP.wp] at hwp
  constructor
  · intro a ha
    have hrun : (StateT.run x.run s).run.1 = .ok a := ha
    simp only [hrun] at hwp
    exact hwp
  · intro e he
    have hrun : (StateT.run x.run s).run.1 = .error e := he
    simp only [hrun] at hwp
    exact hwp

/-- What both postconditions of a triple say of the state holds after every run. -/
theorem triple_run_state_of {P : S → Prop} {Q : α → S → Prop} {R : E → S → Prop} {T : S → Prop}
    {x : ExceptT E (StateM S) α}
    (h : ⦃fun s => ⌜P s⌝⦄ x ⦃post⟨fun a s => ⌜Q a s⌝, fun e s => ⌜R e s⌝⟩⦄)
    (hQ : ∀ a s, Q a s → T s) (hR : ∀ e s, R e s → T s) {s : S} (hs : P s) :
    T (x.run.run s).2 := by
  obtain ⟨hok, herr⟩ := triple_run h hs
  cases hrun : (x.run.run s).1 with
  | ok a => exact hQ a _ (hok a hrun)
  | error e => exact hR e _ (herr e hrun)

end StateExcept

end A3sBox.Lib
