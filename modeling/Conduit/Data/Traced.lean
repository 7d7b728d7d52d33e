/-!
# Traced computations

A traced computation leaves events and ends with a value or a failure. A failure ends it where it
happens, and the events up to there stay.
-/
namespace Conduit

structure Traced (τ ε α : Type) where
  events : List τ
  result : Except ε α

namespace Traced

variable {τ ε α β : Type}

/-- Prepends earlier events. -/
def after (earlier : List τ) (computation : Traced τ ε α) : Traced τ ε α :=
  ⟨earlier ++ computation.events, computation.result⟩

def bind (computation : Traced τ ε α) (next : α → Traced τ ε β) : Traced τ ε β :=
  match computation.result with
  | .ok value => (next value).after computation.events
  | .error fault => ⟨computation.events, .error fault⟩

instance : Monad (Traced τ ε) where
  pure value := ⟨[], .ok value⟩
  bind := bind

def ofExcept (events : List τ) (result : Except ε α) : Traced τ ε α := ⟨events, result⟩

end Traced

end Conduit
