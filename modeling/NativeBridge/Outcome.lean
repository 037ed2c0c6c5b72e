/-
Module: NativeBridge.Outcome
Purpose: How a stretch of host code ends: with a result, with an error, or by panicking.
Main exports: Outcome, Outcome.ofExcept, Outcome.bind, panicText
-/
import NativeBridge.Error

namespace NativeBridge

/-- How a stretch of host code ended.  A panic carries a text or something that is none. -/
inductive Outcome (α : Type) where
  | returned (result : Except Error α)
  | panicked (message : Option String)

/-- The text of a panic. -/
def panicText (message : Option String) : String :=
  message.getD "unknown panic"

namespace Outcome

variable {α β : Type}

/-- Go on with the result; an error and a panic end everything. -/
def bind (outcome : Outcome α) (next : α → Outcome β) : Outcome β :=
  match outcome with
  | returned (.ok a) => next a
  | returned (.error error) => returned (.error error)
  | panicked message => panicked message

instance : Monad Outcome where
  pure a := returned (.ok a)
  bind := bind

instance : MonadLift (Except Error) Outcome := ⟨returned⟩

end Outcome

end NativeBridge
