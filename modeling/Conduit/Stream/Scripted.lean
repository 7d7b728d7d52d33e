import Conduit.Stream.Loop

/-!
# Scripted transports

A transport that gives the batches of a script in turn, some of which may be failures, and is idle
after the last. It takes every output, commit and flush, apart from the mishaps that are asked for.
-/
namespace Conduit

open Text.Utf8

/-- What goes wrong on the way out. -/
structure Mishaps where
  /-- The value that cannot be delivered. -/
  delivery : Option Bytes
  /-- The number of the commit that fails, from one on. -/
  commit : Option Nat
  flush : Bool

/-- The batches still to come, and the number of commits so far. -/
structure StreamScript where
  batches : List (Except StreamFault (List RawRecord))
  commits : Nat

namespace Mishaps

def none : Mishaps := ⟨.none, .none, false⟩

def failIf (mishap : Bool) (reason : String) : Except StreamFault Unit :=
  if mishap then .error (.stream reason) else .ok ()

def transport (mishaps : Mishaps) : Transport StreamScript where
  next script := (script.batches.headD (.ok []), { script with batches := script.batches.tail })
  send _ output script :=
    (failIf (mishaps.delivery.isSome && output.value == mishaps.delivery) "delivery failed", script)
  commit _ script :=
    (failIf (mishaps.commit == some (script.commits + 1)) "commit failed",
      { script with commits := script.commits + 1 })
  flush script := (failIf mishaps.flush "flush failed", script)

end Mishaps

end Conduit
