/-!
# Steps of a stream

A record passes the steps in order. A filter may drop it, and then no later step sees it. Values
are transformed where there is one, so a tombstone stays a tombstone; a peek sees the record as it
is at its place and leaves it alone.
-/
namespace Conduit

inductive Step (κ α : Type) where
  | filter (keep : Option κ → Option α → Bool)
  | mapValues (transform : α → α)
  | map (transform : Option κ → Option α → Option κ × Option α)
  | peek (label : String)

/-- What a peek sees. -/
structure Observation (κ α : Type) where
  label : String
  key : Option κ
  value : Option α

/-- What comes out of the steps, and what the peeks saw on the way. -/
structure Passage (κ α : Type) where
  observations : List (Observation κ α)
  result : Option (Option κ × Option α)

namespace Step

variable {κ α : Type}

def pass : List (Step κ α) → Option κ → Option α → Passage κ α
  | [], key, value => ⟨[], some (key, value)⟩
  | .filter keep :: rest, key, value => if keep key value then pass rest key value else ⟨[], none⟩
  | .mapValues transform :: rest, key, value => pass rest key (value.map transform)
  | .map transform :: rest, key, value =>
    pass rest (transform key value).1 (transform key value).2
  | .peek label :: rest, key, value =>
    let passage := pass rest key value
    ⟨⟨label, key, value⟩ :: passage.observations, passage.result⟩

end Step

end Conduit
