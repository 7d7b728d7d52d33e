import Conduit.Number.Binary
import Conduit.Number.Numeral

/-!
# Reading a numeral as a binary number

The digits are gathered into a significand below 2^64; digits that no longer fit are dropped, a
dropped whole digit counting as a power of ten. The significand is rounded once, then multiplied or
divided by a rounded power of ten, which rounds a second time. Beyond 10^308 the power is taken in
two factors. A numeral that exceeds all finite doubles is refused; one below the least is zero.
Whole numerals of 64 bits are converted directly, with a single rounding in either format.
-/
namespace Conduit.Number

def significandBound : Nat := Nat.pow 2 64 - 1

/-- Gathers digits as long as they fit and tells how many were dropped. -/
def gather : Nat → List Digit → Nat × Nat
  | value, [] => (value, 0)
  | value, d :: rest =>
    if 10 * value + d.val ≤ significandBound then gather (10 * value + d.val) rest
    else (value, rest.length + 1)

/-- The significand and the power of ten that a numeral gives it. -/
def Numeral.scaled (n : Numeral) : Nat × Int :=
  let (whole, dropped) := gather 0 n.whole
  let written : Int := match n.exponent with
    | none => 0
    | some e => e.value
  match n.fraction with
  | none => (whole, dropped + written)
  | some digits =>
    let (all, lost) := gather whole digits
    (all, dropped - (digits.length - lost : Nat) + written)

/-- The pattern of the double nearest to a natural number. -/
def roundedNatural (n : Nat) : Nat := Format.double.nearest n 1

/-- The nearest magnitude of a product or quotient of two finite magnitudes. -/
def scaledMagnitude (bits : Nat) (power : Nat) (up : Bool) : Nat :=
  match Format.double.read bits, Format.double.read power with
  | .finite _ m e, .finite _ p k =>
    let exponent := if up then e + k else e - k
    let (num, den) := fractionOf 1 exponent
    if up then Format.double.nearest (m * p * num) den
    else Format.double.nearest (m * num) (p * den)
  | _, _ => Format.double.infinity

/-- The greatest power of ten among the doubles. -/
def tenLimit : Nat := 308

def rescale (bits : Nat) (exponent : Int) : Nat :=
  scaledMagnitude bits (roundedNatural (Nat.pow 10 exponent.natAbs)) (0 ≤ exponent)

/-- The magnitude of a significand times a power of ten; none beyond the finite doubles. -/
def magnitude? (significand : Nat) (exponent : Int) : Option Nat :=
  let start := roundedNatural significand
  if exponent.natAbs ≤ tenLimit then
    let bits := rescale start exponent
    if bits < Format.double.infinity then some bits else none
  else if start = 0 then some 0
  else if 0 < exponent then none
  else
    let further := exponent + tenLimit
    if further.natAbs ≤ tenLimit then some (rescale (rescale start (-tenLimit)) further) else some 0

namespace Numeral

/-- The integer of a whole numeral that fits 64 bits, signed if it is negative. -/
def word? (n : Numeral) : Option Int :=
  match n.toInt? with
  | some value => if -(Nat.pow 2 63) ≤ value ∧ value < Nat.pow 2 64 then some value else none
  | none => none

def ofIntIn (f : Format) (value : Int) : Nat := f.signed (value < 0) (f.nearest value.natAbs 1)

def toDouble? (n : Numeral) : Option Double :=
  match n.word? with
  | some value => some (.ofPattern (ofIntIn .double value))
  | none =>
    let (significand, exponent) := n.scaled
    (magnitude? significand exponent).map fun bits =>
      .ofPattern (Format.double.signed n.negative bits)

def toSingle? (n : Numeral) : Option Single :=
  match n.word? with
  | some value => some (.ofPattern (ofIntIn .single value))
  | none => n.toDouble?.map Double.narrow

end Numeral

end Conduit.Number
