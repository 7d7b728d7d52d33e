/-!
# Binary floating-point numbers

A format says how many bits the fraction and the exponent take; a value is kept as its bit
pattern. Every operation computes its exact result in the rationals and rounds it once, to the
nearest value of the format and to the even one of two that are equally near, so an operation is
its definition in mathematics followed by `nearest`.
-/
namespace Conduit.Number

structure Format where
  fractionBits : Nat
  exponentBits : Nat
deriving DecidableEq, Repr

namespace Format

def single : Format := ⟨23, 8⟩

def double : Format := ⟨52, 11⟩

/-- The exponent of the unit in the last place of the smallest values. -/
def leastExponent (f : Format) : Int := 2 - Nat.pow 2 (f.exponentBits - 1) - f.fractionBits

/-- The pattern of infinity, which is also the bound of all finite magnitudes. -/
def infinity (f : Format) : Nat := (Nat.pow 2 f.exponentBits - 1) * Nat.pow 2 f.fractionBits

def signPlace (f : Format) : Nat := Nat.pow 2 (f.fractionBits + f.exponentBits)

/-- A pattern of not-a-number. -/
def quietNaN (f : Format) : Nat := f.infinity + Nat.pow 2 (f.fractionBits - 1)

end Format

/-- Round half to even. -/
def roundedQuotient (num den : Nat) : Nat :=
  let quotient := num / den
  let twice := 2 * (num % den)
  if twice < den then quotient
  else if den < twice then quotient + 1
  else if quotient % 2 = 0 then quotient else quotient + 1

/-- The greatest `e` with `2 ^ e ≤ num / den`, for a positive quotient. -/
def binaryExponent (num den : Nat) : Int :=
  let estimate : Int := (num.log2 : Int) - den.log2
  if num * Nat.pow 2 (-estimate).toNat < den * Nat.pow 2 estimate.toNat then estimate - 1
  else estimate

/-- The magnitude nearest to `num / den`. A magnitude that rounds beyond the finite ones is
infinite. -/
def Format.nearest (f : Format) (num den : Nat) : Nat :=
  if num = 0 then 0
  else
    let unit := max f.leastExponent (binaryExponent num den - f.fractionBits)
    let units := roundedQuotient (num * Nat.pow 2 (-unit).toNat) (den * Nat.pow 2 unit.toNat)
    min f.infinity (units + (unit - f.leastExponent).toNat * Nat.pow 2 f.fractionBits)

/-- What a bit pattern stands for; a finite value is `mantissa * 2 ^ exponent`. -/
inductive Reading where
  | nan
  | infinite (negative : Bool)
  | finite (negative : Bool) (mantissa : Nat) (exponent : Int)
deriving DecidableEq, Repr

def Format.read (f : Format) (bits : Nat) : Reading :=
  let negative := f.signPlace ≤ bits
  let magnitude := bits % f.signPlace
  let field := magnitude / Nat.pow 2 f.fractionBits
  let fraction := magnitude % Nat.pow 2 f.fractionBits
  if magnitude < f.infinity then
    if field = 0 then .finite negative fraction f.leastExponent
    else .finite negative (Nat.pow 2 f.fractionBits + fraction) (f.leastExponent + (field - 1))
  else if magnitude = f.infinity then .infinite negative
  else .nan

def Format.signed (f : Format) (negative : Bool) (magnitude : Nat) : Nat :=
  if negative then f.signPlace + magnitude else magnitude

/-- Numerator and denominator of `mantissa * 2 ^ exponent`. -/
def fractionOf (mantissa : Nat) (exponent : Int) : Nat × Nat :=
  (mantissa * Nat.pow 2 exponent.toNat, Nat.pow 2 (-exponent).toNat)

/-- The same value in another format, rounded where that format is narrower. -/
def Format.convert (source target : Format) (bits : Nat) : Nat :=
  match source.read bits with
  | .nan => target.quietNaN
  | .infinite negative => target.signed negative target.infinity
  | .finite negative mantissa exponent =>
    let (num, den) := fractionOf mantissa exponent
    target.signed negative (target.nearest num den)

/-- A number of 64 bits. -/
structure Double where
  bits : UInt64
deriving DecidableEq, Repr

/-- A number of 32 bits. -/
structure Single where
  bits : UInt32
deriving DecidableEq, Repr

namespace Double

def read (x : Double) : Reading := Format.double.read x.bits.toNat

def ofPattern (bits : Nat) : Double := ⟨UInt64.ofNat bits⟩

def nan : Double := ofPattern Format.double.quietNaN

def infinite (negative : Bool) : Double :=
  ofPattern (Format.double.signed negative Format.double.infinity)

def isNaN (x : Double) : Bool := x.read = .nan

/-- The sign bit turned over. -/
def negate (x : Double) : Double := ⟨x.bits ^^^ 0x8000000000000000⟩

/-- Equality of numbers: not-a-number equals nothing, and the two zeros are equal. -/
def equals (x y : Double) : Bool :=
  !x.isNaN && !y.isNaN && (x = y || (x.bits ||| y.bits) = 0x8000000000000000)

/-- Whether a number is a natural number or above it. -/
def isAtLeast (x : Double) (n : Nat) : Bool :=
  match x.read with
  | .nan => false
  | .infinite negative => !negative
  | .finite negative mantissa exponent =>
    let (num, den) := fractionOf mantissa exponent
    if negative && 0 < num then false else n * den ≤ num

/-- Whether a number is below zero or above a natural number. -/
def isOutside (x : Double) (n : Nat) : Bool :=
  match x.read with
  | .nan => false
  | .infinite _ => true
  | .finite negative mantissa exponent =>
    let (num, den) := fractionOf mantissa exponent
    if negative then 0 < num else n * den < num

end Double

namespace Single

def read (x : Single) : Reading := Format.single.read x.bits.toNat

def ofPattern (bits : Nat) : Single := ⟨UInt32.ofNat bits⟩

def nan : Single := ofPattern Format.single.quietNaN

def infinite (negative : Bool) : Single :=
  ofPattern (Format.single.signed negative Format.single.infinity)

def isNaN (x : Single) : Bool := x.read = .nan

def equals (x y : Single) : Bool :=
  !x.isNaN && !y.isNaN && (x = y || (x.bits ||| y.bits) = 0x80000000)

/-- Every single is a double. -/
def widen (x : Single) : Double := .ofPattern (Format.single.convert .double x.bits.toNat)

end Single

def Double.narrow (x : Double) : Single := .ofPattern (Format.double.convert .single x.bits.toNat)

end Conduit.Number
