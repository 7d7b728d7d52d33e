import Conduit.Number.Numeral
import Conduit.Text.Blank
import Conduit.Text.Natural

/-!
# Spans of time

A span is a number of nanoseconds. It is given as a natural number with a unit: hours, minutes,
seconds (also without a unit) or milliseconds. Units are tried in a fixed order, milliseconds before
minutes and seconds because its suffix contains theirs. Whole seconds have 64 bits, so hours and
minutes have a check of their own after their number has been read.
-/
namespace Conduit

structure Duration where
  nanos : Nat
deriving DecidableEq, Repr

namespace Duration

def ofSeconds (seconds : Nat) : Duration := ⟨seconds * 1000000000⟩

def ofMillis (millis : Nat) : Duration := ⟨millis * 1000000⟩

def seconds (d : Duration) : Nat := d.nanos / 1000000000

def subsecond (d : Duration) : Nat := d.nanos % 1000000000

def millis (d : Duration) : Nat := d.nanos / 1000000

/-- A part of `10 ^ places` as digits after a point, without zeros at the end. -/
def fractionChars (part places : Nat) : List Char :=
  let digits := (Number.digitsOf part).map Number.Digit.char
  let padded := List.replicate (places - digits.length) '0' ++ digits
  let kept := (padded.reverse.dropWhile (· = '0')).reverse
  if part = 0 then [] else '.' :: kept

/-- The span in its largest unit of which it holds at least one. -/
def text (d : Duration) : String :=
  let inUnit (places : Nat) (unit : String) :=
    Number.naturalText (d.nanos / Nat.pow 10 places)
      ++ String.ofList (fractionChars (d.nanos % Nat.pow 10 places) places) ++ unit
  if 1000000000 ≤ d.nanos then inUnit 9 "s"
  else if 1000000 ≤ d.nanos then inUnit 6 "ms"
  else if 1000 ≤ d.nanos then inUnit 3 "µs"
  else inUnit 0 "ns"

inductive Unit where
  | milliseconds
  | hours
  | minutes
  | seconds
  | unmarked
deriving DecidableEq, Repr

namespace Unit

def suffix : Unit → List Char
  | milliseconds => ['m', 's']
  | hours => ['h']
  | minutes => ['m']
  | seconds => ['s']
  | unmarked => []

/-- The order in which units are tried. -/
def all : List Unit := [milliseconds, hours, minutes, seconds, unmarked]

def nanos : Unit → Nat
  | milliseconds => 1000000
  | hours => 3600 * 1000000000
  | minutes => 60 * 1000000000
  | seconds => 1000000000
  | unmarked => 1000000000

/-- The greatest number of units that is a span. -/
def limit : Unit → Nat
  | hours => (Nat.pow 2 64 - 1) / 3600
  | minutes => (Nat.pow 2 64 - 1) / 60
  | _ => Nat.pow 2 64 - 1

end Unit

inductive Fault where
  | empty
  | numeral (unit : Unit) (number : String) (cause : Text.NumeralFault)
  | tooLarge (unit : Unit) (number : String)
deriving DecidableEq, Repr

/-- What went wrong, without its cause. -/
def Fault.outline : Fault → String
  | .empty => "Empty duration string"
  | .numeral .milliseconds number _ => s!"Invalid milliseconds value: {number}"
  | .numeral .hours number _ => s!"Invalid hours value: {number}"
  | .numeral .minutes number _ => s!"Invalid minutes value: {number}"
  | .numeral .seconds number _ => s!"Invalid seconds value: {number}"
  | .numeral .unmarked number _ => s!"Invalid duration value: {number}"
  | .tooLarge .hours number => s!"Hours value too large: {number}"
  | .tooLarge .minutes number => s!"Minutes value too large: {number}"
  | .tooLarge _ number => s!"Value too large: {number}"

def Fault.message : Fault → String
  | .numeral unit number cause => (Fault.numeral unit number cause).outline ++ ": " ++ cause.message
  | fault => fault.outline

/-- What stands before a suffix. -/
def stripSuffix? (suffix s : List Char) : Option (List Char) :=
  if suffix.isSuffixOf s then some (s.take (s.length - suffix.length)) else none

/-- The first unit whose suffix ends the text, and the number before it. Every text ends without
a mark at least. -/
def unitOf (s : List Char) : Unit × List Char :=
  (Unit.all.findSome? fun unit =>
    (stripSuffix? unit.suffix s).map fun number => (unit, number)).getD (.unmarked, s)

def parse (s : String) : Except Fault Duration :=
  let s := Text.trim s.toList
  if s.isEmpty then .error .empty
  else
    let (unit, number) := unitOf s
    match Text.readNatural (Nat.pow 2 64 - 1) number with
    | .error cause => .error (.numeral unit (String.ofList number) cause)
    | .ok n =>
      if n ≤ unit.limit then .ok ⟨n * unit.nanos⟩
      else .error (.tooLarge unit (String.ofList number))

end Duration

end Conduit
