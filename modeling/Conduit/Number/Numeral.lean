/-!
# Decimal numerals

A numeral is a number as it is written: digits before the point, perhaps digits after it, perhaps
an exponent. Keeping the parts apart keeps the difference between `5`, `5.0` and `5e0`, which
readers of integers need, and lets one type serve what is read and what is written.
-/
namespace Conduit.Number

abbrev Digit := Fin 10

namespace Digit

/-- The last digit of a number. -/
def ofNat (n : Nat) : Digit := Fin.ofNat 10 n

def zero : Digit := ofNat 0

def isZero (d : Digit) : Bool := d.val = 0

def char (d : Digit) : Char := Char.ofNat ('0'.toNat + d.val)

end Digit

/-- The value of digits, most significant first, after a value gathered before them. -/
def digitsValue (start : Nat) (digits : List Digit) : Nat :=
  digits.foldl (fun value d => 10 * value + d.val) start

/-- The digits of a natural number, least significant first, as many as the fuel allows. -/
def digitsUp : Nat → Nat → List Digit
  | 0, _ => []
  | fuel + 1, n =>
    if n < 10 then [Digit.ofNat n] else Digit.ofNat n :: digitsUp fuel (n / 10)

/-- A number has fewer digits than its successor counts, so the fuel suffices. -/
def digitsOf (n : Nat) : List Digit := (digitsUp (n + 1) n).reverse

def naturalText (n : Nat) : String := String.ofList ((digitsOf n).map Digit.char)

def integerText (n : Int) : String :=
  if n < 0 then "-" ++ naturalText n.natAbs else naturalText n.natAbs

inductive ExponentSign where
  | none
  | plus
  | minus
deriving DecidableEq, Repr

structure Exponent where
  sign : ExponentSign
  digits : List Digit
deriving DecidableEq, Repr

def Exponent.value (e : Exponent) : Int :=
  match e.sign with
  | .minus => -(digitsValue 0 e.digits : Int)
  | _ => digitsValue 0 e.digits

def Exponent.chars (e : Exponent) : List Char :=
  'e' :: (match e.sign with
    | .none => []
    | .plus => ['+']
    | .minus => ['-']) ++ e.digits.map Digit.char

/-- A numeral without a fraction has no point; one without an exponent has no exponent mark. -/
structure Numeral where
  negative : Bool
  whole : List Digit
  fraction : Option (List Digit)
  exponent : Option Exponent
deriving DecidableEq, Repr

namespace Numeral

def ofInt (n : Int) : Numeral := ⟨n < 0, digitsOf n.natAbs, none, none⟩

def ofNat (n : Nat) : Numeral := ⟨false, digitsOf n, none, none⟩

/-- Written with whole digits only. -/
def isWhole (n : Numeral) : Bool := n.fraction.isNone && n.exponent.isNone

/-- The integer that a numeral with whole digits only denotes. Zero has no negative spelling as an
integer. -/
def toInt? (n : Numeral) : Option Int :=
  if n.isWhole then
    match n.negative, digitsValue 0 n.whole with
    | true, 0 => none
    | true, value => some (-value)
    | false, value => some value
  else none

def signChars (negative : Bool) : List Char := if negative then ['-'] else []

def chars (n : Numeral) : List Char :=
  signChars n.negative ++ n.whole.map Digit.char
    ++ (match n.fraction with
      | none => []
      | some digits => '.' :: digits.map Digit.char)
    ++ (match n.exponent with
      | none => []
      | some e => Exponent.chars e)

end Numeral

end Conduit.Number
