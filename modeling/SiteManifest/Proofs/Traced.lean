import SiteManifest.Proofs.Except
import SiteManifest.Traced

/-!
# Results of traced computations

What a computation ends with, step by step: it succeeds if all its steps do, and it fails as the first
step that fails. What is told on the way has no influence on this.
-/

namespace SiteManifest.Traced

variable {ω ε ε' α β : Type}

@[simp] theorem result_pure (a : α) : (pure a : Traced ω ε α).result = .ok a := rfl

@[simp] theorem result_throw (e : ε) : (throw e : Traced ω ε α).result = .error e := rfl

@[simp] theorem result_tell (event : ω) : (tell event : Traced ω ε Unit).result = .ok () := rfl

@[simp] theorem result_ofExcept (r : Except ε α) : (ofExcept r : Traced ω ε α).result = r := rfl

@[simp] theorem result_mapError (f : ε → ε') (x : Traced ω ε α) :
    (x.mapError f).result = x.result.mapError f := rfl

/-! ## Success -/

theorem result_bind_of_ok {x : Traced ω ε α} {a : α} (h : x.result = .ok a)
    (f : α → Traced ω ε β) : (x >>= f).result = (f a).result := by
  show (andThen x f).result = _
  unfold andThen
  rw [h]

theorem result_bind_of_error {x : Traced ω ε α} {e : ε} (h : x.result = .error e)
    (f : α → Traced ω ε β) : (x >>= f).result = .error e := by
  show (andThen x f).result = _
  unfold andThen
  rw [h]

theorem result_bind (x : Traced ω ε α) (f : α → Traced ω ε β) :
    (x >>= f).result = x.result.bind fun a => (f a).result := by
  cases hx : x.result with
  | error e => exact result_bind_of_error hx f
  | ok a => exact result_bind_of_ok hx f

/-- A computation in two steps succeeds exactly if both steps do. -/
theorem result_bind_eq_ok {x : Traced ω ε α} {f : α → Traced ω ε β} {b : β} :
    (x >>= f).result = .ok b ↔ ∃ a, x.result = .ok a ∧ (f a).result = .ok b := by
  cases hx : x.result with
  | error e =>
    rw [result_bind_of_error hx]
    constructor
    · intro h
      cases h
    · rintro ⟨a, ha, -⟩
      cases ha
  | ok a =>
    rw [result_bind_of_ok hx]
    refine ⟨fun h => ⟨a, rfl, h⟩, ?_⟩
    rintro ⟨a', ha, h⟩
    cases ha
    exact h

/-- A computation in two steps fails as the first step, or as the second one. -/
theorem result_bind_eq_error {x : Traced ω ε α} {f : α → Traced ω ε β} {e : ε} :
    (x >>= f).result = .error e
      ↔ x.result = .error e ∨ ∃ a, x.result = .ok a ∧ (f a).result = .error e := by
  rw [result_bind]
  exact Except.bind_eq_error

/-- Calling failures something else changes no success. -/
theorem result_mapError_eq_ok {f : ε → ε'} {x : Traced ω ε α} {a : α} :
    (x.mapError f).result = .ok a ↔ x.result = .ok a := by
  rw [result_mapError]
  cases x.result with
  | error e =>
    constructor
    · intro h
      cases h
    · intro h
      cases h
  | ok b =>
    constructor
    · intro h
      cases h
      rfl
    · intro h
      cases h
      rfl

/-- How a computation goes on matters only for what it goes on with. -/
theorem bind_congr_of_ok {x : Traced ω ε α} {f g : α → Traced ω ε β}
    (h : ∀ a, x.result = .ok a → f a = g a) : (x >>= f) = (x >>= g) := by
  show andThen x f = andThen x g
  unfold andThen
  cases hx : x.result with
  | error e => rfl
  | ok a =>
    dsimp only
    rw [h a hx]

/-! ## What is told -/

theorem events_bind_of_ok {x : Traced ω ε α} {a : α} (h : x.result = .ok a)
    (f : α → Traced ω ε β) : (x >>= f).events = x.events ++ (f a).events := by
  show (andThen x f).events = _
  unfold andThen
  rw [h]

theorem events_bind_of_error {x : Traced ω ε α} {e : ε} (h : x.result = .error e)
    (f : α → Traced ω ε β) : (x >>= f).events = x.events := by
  show (andThen x f).events = _
  unfold andThen
  rw [h]

/-! ## Failure -/

/-- The failure of a computation, if it fails. -/
def failure? (x : Traced ω ε α) : Option ε :=
  match x.result with
  | .error e => some e
  | .ok _ => none

theorem failure?_of_ok {x : Traced ω ε α} {a : α} (h : x.result = .ok a) : x.failure? = none := by
  unfold failure?
  rw [h]

theorem failure?_eq_some {x : Traced ω ε α} {e : ε} :
    x.failure? = some e ↔ x.result = .error e := by
  unfold failure?
  cases x.result with
  | error e' => simp
  | ok a => simp

theorem failure?_eq_none {x : Traced ω ε α} : x.failure? = none ↔ ∃ a, x.result = .ok a := by
  unfold failure?
  cases x.result with
  | error e => simp
  | ok a => simp

end SiteManifest.Traced
