import Conduit.Number.Notation

/-!
# Six significant digits

A number is rounded to six digits, exactly and a half to the even neighbour, and loses the zeros at
its end. It is written positionally from four places after the point up to six before it, and with
an exponent of at least two digits otherwise.
-/
namespace Conduit.Number

/-- How many digits count. -/
def significantPlaces : Nat := 6

/-- The digits of a positive magnitude, as a number of so many places, and the exponent of the
first. -/
def Magnitude.rounded (x : Magnitude) : Nat × Int :=
  let lead := x.decimalScale - 1
  let shift := (significantPlaces : Int) - 1 - lead
  let units := roundedQuotient (x.mantissa * Nat.pow 2 x.exponent.toNat * Nat.pow 10 shift.toNat)
    (Nat.pow 2 (-x.exponent).toNat * Nat.pow 10 (-shift).toNat)
  if units = Nat.pow 10 significantPlaces then (Nat.pow 10 (significantPlaces - 1), lead + 1)
  else (units, lead)

/-- A fraction, unless it has no digits. -/
def fraction? (digits : List Digit) : Option (List Digit) :=
  if digits.isEmpty then none else some digits

def twoPlaces (n : Nat) : List Digit := if n < 10 then [.zero, .ofNat n] else digitsOf n

/-- The numeral of digits of which the first has the exponent `lead`. -/
def roundedNumeral (negative : Bool) (digits : List Digit) (lead : Int) : Numeral :=
  let places := lead.toNat + 1
  if -4 ≤ lead ∧ lead < 0 then ⟨negative, [.zero], some (zeros (-lead - 1).toNat ++ digits), none⟩
  else if 0 ≤ lead ∧ lead < significantPlaces then
    ⟨negative, digits.take places ++ zeros (places - digits.length),
      fraction? (digits.drop places), none⟩
  else
    ⟨negative, digits.take 1, fraction? (digits.drop 1),
      some ⟨if lead < 0 then .minus else .plus, twoPlaces lead.natAbs⟩⟩

/-- A number to six significant digits. -/
def Double.roundedText (x : Double) : String :=
  match x.read with
  | .nan => "nan"
  | .infinite negative => if negative then "-inf" else "inf"
  | .finite negative mantissa _ =>
    let numeral :=
      if mantissa = 0 then ⟨negative, [.zero], none, none⟩
      else
        let (units, lead) := (Magnitude.ofPattern .double x.bits.toNat).rounded
        roundedNumeral negative (significant (digitsOf units)).1 lead
    String.ofList numeral.chars

end Conduit.Number
