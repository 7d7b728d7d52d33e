/-!
# Integers as settings are written

A sign is optional, then come ASCII digits and nothing else. The digits are taken one at a time, so
of two faults the one that stands further left is reported: a letter before the digit that exceeds
the bound, or the bound before the letter. Digits in another base have neither sign nor bound.
-/
namespace Conduit.Text

inductive NumeralFault where
  | empty
  | invalidDigit
  | tooLarge
  | tooSmall
deriving DecidableEq, Repr

def NumeralFault.message : NumeralFault → String
  | .empty => "cannot parse integer from empty string"
  | .invalidDigit => "invalid digit found in string"
  | .tooLarge => "number too large to fit in target type"
  | .tooSmall => "number too small to fit in target type"

def digitValue (c : Char) : Nat := c.toNat - '0'.toNat

/-- Reads on with `value` gathered so far; `excess` names the fault of passing the bound. -/
def readDigits (bound : Nat) (excess : NumeralFault) : Nat → List Char → Except NumeralFault Nat
  | value, [] => .ok value
  | value, c :: rest =>
    if c.isDigit then
      if 10 * value + digitValue c ≤ bound then
        readDigits bound excess (10 * value + digitValue c) rest
      else .error excess
    else .error .invalidDigit

/-- A natural number up to the bound, with or without a plus sign. -/
def readNatural (bound : Nat) : List Char → Except NumeralFault Nat
  | [] => .error .empty
  | ['+'] => .error .invalidDigit
  | '+' :: digits => readDigits bound .tooLarge 0 digits
  | digits => readDigits bound .tooLarge 0 digits

/-- An integer of so many bits in two's complement. -/
def readInteger (bits : Nat) : List Char → Except NumeralFault Int
  | [] => .error .empty
  | ['+'] => .error .invalidDigit
  | ['-'] => .error .invalidDigit
  | '+' :: digits => (readDigits (Nat.pow 2 (bits - 1) - 1) .tooLarge 0 digits).map Int.ofNat
  | '-' :: digits => (readDigits (Nat.pow 2 (bits - 1)) .tooSmall 0 digits).map fun n => -(n : Int)
  | digits => (readDigits (Nat.pow 2 (bits - 1) - 1) .tooLarge 0 digits).map Int.ofNat

/-- The value of a digit in a base up to sixteen. -/
def baseDigit? (base : Nat) (c : Char) : Option Nat :=
  let value :=
    if '0' ≤ c ∧ c ≤ '9' then c.toNat - '0'.toNat
    else if 'a' ≤ c ∧ c ≤ 'f' then c.toNat - 'a'.toNat + 10
    else if 'A' ≤ c ∧ c ≤ 'F' then c.toNat - 'A'.toNat + 10
    else base
  if value < base then some value else none

/-- The value of digits in a base, if all are digits. -/
def digitsIn (base : Nat) (s : List Char) : Option Nat :=
  s.foldlM (fun value c => (baseDigit? base c).map fun d => base * value + d) 0

end Conduit.Text
