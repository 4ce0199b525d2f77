/-!
# Operations on a state

An operation answers with a value or an error. What it did to the state before an error stays done.
-/

namespace HotelBooking

abbrev Action (σ ε : Type) : Type → Type := EStateM ε σ

namespace Action

variable {σ τ ε ε' α : Type}

/-- The operation that answers with a given result and leaves the state alone. -/
def ofExcept (r : Except ε α) : Action σ ε α := fun s =>
  match r with
  | .ok a => .ok a s
  | .error e => .error e s

def mapError (f : ε → ε') (x : Action σ ε α) : Action σ ε' α := fun s =>
  match x s with
  | .ok a t => .ok a t
  | .error e t => .error (f e) t

/-- Carries on after an error, with the error as the answer. -/
def attempt (x : Action σ ε α) : Action σ ε' (Except ε α) := fun s =>
  match x s with
  | .ok a t => .ok (.ok a) t
  | .error e t => .ok (.error e) t

/-- Runs an operation on a part of the state. -/
def zoom (get : σ → τ) (set : τ → σ → σ) (x : Action τ ε α) : Action σ ε α := fun s =>
  match x (get s) with
  | .ok a t => .ok a (set t s)
  | .error e t => .error e (set t s)

/-- The answer of an operation and the state after it. -/
def outcome (x : Action σ ε α) (s : σ) : Except ε α × σ :=
  match x s with
  | .ok a t => (.ok a, t)
  | .error e t => (.error e, t)

end Action
end HotelBooking
