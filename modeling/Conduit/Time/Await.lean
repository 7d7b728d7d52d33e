import Conduit.Time.Duration

/-!
# Waiting for a condition

The condition is asked at once and then after every pause, until it holds, fails for good or the
time is up; the last pause is cut short so that the condition is asked once more exactly at the
deadline. The clock moves only in pauses. A pause takes at least one tick of the clock, so the time
left bounds the number of questions.
-/
namespace Conduit

/-- One answer of a condition. -/
inductive Check (ε : Type) where
  | holds
  | pending
  | failed (cause : ε)

/-- How waiting ends. -/
inductive Verdict (ε : Type) where
  | holds
  | failed (cause : ε)
  | timeout (after : Duration)

/-- What was seen while waiting: when the condition was asked, the end, its time, and the state
that the condition is asked in. -/
structure Watch (σ ε : Type) where
  askedAt : List Nat
  verdict : Verdict ε
  elapsed : Nat
  state : σ

structure Patience where
  timeout : Duration
  interval : Duration
  ignoreErrors : Bool

namespace Patience

/-- A second between two questions, and no error ignored. -/
def standard (timeout : Duration) : Patience := ⟨timeout, .ofSeconds 1, false⟩

/-- The verdict that an answer settles, if it settles one. -/
def settled {ε : Type} (patience : Patience) : Check ε → Option (Verdict ε)
  | .holds => some .holds
  | .pending => none
  | .failed cause => if patience.ignoreErrors then none else some (.failed cause)

/-- The pause before the deadline. -/
def pause (patience : Patience) (now : Nat) : Nat :=
  max 1 (min patience.interval.nanos (patience.timeout.nanos - now))

/-- Waits on at time `now`; `asked` holds the times of earlier questions, last first. -/
def watchFrom {σ ε : Type} (patience : Patience) (condition : σ → Check ε × σ) (now : Nat)
    (asked : List Nat) (state : σ) : Watch σ ε :=
  let (check, next) := condition state
  match patience.settled check with
  | some verdict => ⟨(now :: asked).reverse, verdict, now, next⟩
  | none =>
    if patience.timeout.nanos ≤ now then
      ⟨(now :: asked).reverse, .timeout patience.timeout, now, next⟩
    else watchFrom patience condition (now + patience.pause now) (now :: asked) next
termination_by patience.timeout.nanos - now
decreasing_by
  simp only [pause]
  omega

def watch {σ ε : Type} (patience : Patience) (condition : σ → Check ε × σ) (state : σ) :
    Watch σ ε :=
  patience.watchFrom condition 0 [] state

end Patience

end Conduit
