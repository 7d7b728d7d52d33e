import Conduit.Command.Arguments
import Conduit.Number.Numeral
import Conduit.Text.Blank
import Conduit.Text.Natural
import Conduit.Time.Duration

/-!
# Kinds of options

Options by what they take: nothing, any text, a span of time, or an integer between bounds. A value
that is not of its kind is refused with the reason that its reader gives.
-/
namespace Conduit

namespace Choice

variable {δ : Type}

/-- An option that takes a value once. -/
def single (name placeholder : String) (store : String → δ → Except String δ) : Choice δ :=
  ⟨name, some placeholder, false, false, none, store⟩

/-- An option that takes any text. -/
def text (name placeholder : String) (store : String → δ → δ) : Choice δ :=
  single name placeholder fun value draft => .ok (store value draft)

def flag (name : String) (store : δ → δ) : Choice δ :=
  ⟨name, none, false, false, none, fun _ draft => .ok (store draft)⟩

def duration (name placeholder : String) (store : Duration → δ → δ) : Choice δ :=
  single name placeholder fun value draft =>
    ((Duration.parse value).mapError Duration.Fault.outline).map fun duration =>
      store duration draft

/-- An integer between bounds; it is read as one of 64 bits first. -/
def integer (name placeholder : String) (least most : Int) (store : Int → δ → δ) : Choice δ :=
  single name placeholder fun value draft =>
    match Text.readInteger 64 value.toList with
    | .error cause => .error cause.message
    | .ok n =>
      if least ≤ n ∧ n ≤ most then .ok (store n draft)
      else .error (Number.integerText n ++ " is not in " ++ Number.integerText least ++ "..=" ++
        Number.integerText most)

/-- Makes an option required. -/
def needed (choice : Choice δ) : Choice δ := { choice with required := true }

end Choice

/-- Reads `key=value`; the key is trimmed and may not be blank, the value is left alone. -/
def parsePair (s : String) : Except String (String × String) :=
  match s.toList.dropWhile (· ≠ '=') with
  | [] => .error s!"Expected key=value, got: {s}"
  | _ :: value =>
    let key := String.ofList (s.toList.takeWhile (· ≠ '='))
    if Text.blank key then .error s!"Empty key in: {s}"
    else .ok (Text.trimmed key, String.ofList value)

end Conduit
