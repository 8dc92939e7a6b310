/-
Computations that may fail and keep a state.

A computation hands back an answer or an error, and the state afterwards in
either case.  What was changed before an error stays changed.
-/
import Stencil.Error

namespace Stencil

/-- A computation that may fail, with a state that survives the failure. -/
abbrev Run (σ α : Type) := ExceptT Error (StateM σ) α

namespace Run

variable {σ τ α : Type}

/-- A computation that depends on the state and does not change it. -/
def read (f : σ → Except Error α) : Run σ α := fun s => (f s, s)

/-- A computation that changes the state if it succeeds. -/
def change (f : σ → Except Error (α × σ)) : Run σ α := fun s =>
  match f s with
  | .ok (a, s) => (.ok a, s)
  | .error e => (.error e, s)

/-- A computation on a part of the state. -/
def within (part : σ → τ) (put : τ → σ → σ) (r : Run τ α) : Run σ α := fun s =>
  let (result, t) := r (part s)
  (result, put t s)

end Run

end Stencil
