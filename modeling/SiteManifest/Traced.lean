/-!
# Traced results

A computation that may fail and that tells on its way what happens. What was told before a failure is
kept, and nothing is told after it.
-/

namespace SiteManifest

/-- The events of a computation, in order, and its result. -/
structure Traced (ω ε α : Type) where
  events : List ω
  result : Except ε α
  deriving Repr

namespace Traced

variable {ω ε α β : Type}

/-- A result without any event. -/
def ofExcept (result : Except ε α) : Traced ω ε α := ⟨[], result⟩

/-- Tells one event. -/
def tell (event : ω) : Traced ω ε Unit := ⟨[event], .ok ()⟩

/-- Goes on with the result of a computation, if it has not failed. -/
def andThen (x : Traced ω ε α) (f : α → Traced ω ε β) : Traced ω ε β :=
  match x.result with
  | .error e => ⟨x.events, .error e⟩
  | .ok a => ⟨x.events ++ (f a).events, (f a).result⟩

instance : Monad (Traced ω ε) where
  pure a := ⟨[], .ok a⟩
  bind := andThen

instance : MonadExceptOf ε (Traced ω ε) where
  throw e := ⟨[], .error e⟩
  tryCatch x f :=
    match x.result with
    | .error e => ⟨x.events ++ (f e).events, (f e).result⟩
    | .ok _ => x

instance : LawfulMonad (Traced ω ε) := LawfulMonad.mk' (Traced ω ε)
  (fun x => by
    rcases x with ⟨es, _ | a⟩ <;> simp [Functor.map, andThen])
  (fun a f => by simp [bind, pure, andThen])
  (fun x f g => by
    rcases x with ⟨es, _ | a⟩
    · rfl
    · simp only [bind, andThen]
      rcases f a with ⟨es', _ | b⟩ <;> simp)

/-- Changes what a failure is called. -/
def mapError {ε' : Type} (f : ε → ε') (x : Traced ω ε α) : Traced ω ε' α :=
  ⟨x.events, x.result.mapError f⟩

end Traced

end SiteManifest
