import Conduit.Number.Shortest
import Conduit.Text.Natural

/-!
# Numbers at the start of a text

Some settings are read by what they begin with: blanks, a sign, and then the longest piece that is a
number. Whatever follows it does not count, so `5 seconds` reads as five. An integer that begins
with a zero is octal, or hexadecimal if an x follows. A fraction is read as exactly what it says,
decimal or hexadecimal, and rounded once.
-/
namespace Conduit.Number

/-- Blanks as far as ASCII goes. -/
def isPlainBlank (c : Char) : Bool := c = ' ' || ('\t' ≤ c && c ≤ '\r')

def skipBlanks (s : List Char) : List Char := s.dropWhile isPlainBlank

/-- Whether a minus sign stands in front, and what follows the sign. -/
def splitSign : List Char → Bool × List Char
  | '-' :: rest => (true, rest)
  | '+' :: rest => (false, rest)
  | s => (false, s)

/-- The digits of a base in front, by their values, and what follows them. -/
def splitDigits (base : Nat) : List Char → List Nat × List Char
  | [] => ([], [])
  | c :: rest =>
    match Text.baseDigit? base c with
    | none => ([], c :: rest)
    | some digit => (digit :: (splitDigits base rest).1, (splitDigits base rest).2)

/-- The value of digits, most significant first. -/
def baseValue (base : Nat) (digits : List Nat) : Nat :=
  digits.foldl (fun value d => base * value + d) 0

/-- The sign of hexadecimal digits in front of them. -/
def splitHexMark : List Char → Option (List Char)
  | '0' :: 'x' :: rest => some rest
  | '0' :: 'X' :: rest => some rest
  | _ => none

/-- The natural number in front, in the base that it announces. -/
def leadingNatural? (s : List Char) : Option Nat :=
  let hex := (splitHexMark s).elim [] fun rest => (splitDigits 16 rest).1
  let base := if s.head? = some '0' then 8 else 10
  let digits := (splitDigits base s).1
  if !hex.isEmpty then some (baseValue 16 hex)
  else if digits.isEmpty then none
  else some (baseValue base digits)

/-- The integer that a text begins with. -/
def leadingInteger? (s : List Char) : Option Int :=
  let (negative, rest) := splitSign (skipBlanks s)
  (leadingNatural? rest).map fun n => if negative then -(n : Int) else n

/-- The magnitude of `n * base ^ exponent`. Beyond so many places on either side of the point there
are no doubles left but zero and infinity. -/
def magnitudeOf (base n : Nat) (exponent : Int) : Nat :=
  let lead := exponent + (Nat.toDigits base n).length
  if n = 0 ∨ lead < -5000 then 0
  else if 5000 < lead then Format.double.infinity
  else Format.double.nearest (n * Nat.pow base exponent.toNat) (Nat.pow base (-exponent).toNat)

/-- The exponent in front, behind its mark; without digits there is none. -/
def leadingExponent (mark : Char) : List Char → Int
  | c :: rest =>
    if c.toLower = mark then
      let (negative, digits) := splitSign rest
      let value : Int := baseValue 10 (splitDigits 10 digits).1
      if negative then -value else value
    else 0
  | [] => 0

/-- The digits in front on both sides of the point: their value, how many stand behind the point,
and what follows them. -/
def leadingDigits? (base : Nat) (s : List Char) : Option (Nat × Nat × List Char) :=
  let (whole, rest) := splitDigits base s
  let (fraction, more) := match rest with
    | '.' :: after => splitDigits base after
    | _ => ([], rest)
  if whole.isEmpty && fraction.isEmpty then none
  else some (baseValue base (whole ++ fraction), fraction.length, more)

/-- The magnitude in front that is written with digits. -/
def leadingMagnitude? (s : List Char) : Option Nat :=
  match (splitHexMark s).bind (leadingDigits? 16) with
  | some (n, places, rest) => some (magnitudeOf 2 n (leadingExponent 'p' rest - 4 * (places : Int)))
  | none =>
    (leadingDigits? 10 s).map fun (n, places, rest) =>
      magnitudeOf 10 n (leadingExponent 'e' rest - (places : Int))

/-- The number that a text begins with. Infinity and not-a-number have names, in whatever case. -/
def leadingDouble? (s : List Char) : Option Double :=
  let (negative, rest) := splitSign (skipBlanks s)
  let name := (rest.take 3).map Char.toLower
  if name = ['i', 'n', 'f'] then some (.infinite negative)
  else if name = ['n', 'a', 'n'] then some .nan
  else (leadingMagnitude? rest).map fun bits => .ofPattern (Format.double.signed negative bits)

example : leadingInteger? " -0x1Fz".toList = some (-31) := by decide

example : leadingInteger? "0x".toList = some 0 ∧ leadingInteger? "017".toList = some 15 := by decide

example : leadingInteger? "-".toList = none := by decide

end Conduit.Number
