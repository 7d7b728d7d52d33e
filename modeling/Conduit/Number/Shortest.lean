import Conduit.Number.Binary
import Conduit.Number.Numeral

/-!
# The fewest digits that read back

The reals that round to a finite value form an interval that ends halfway to its two neighbours;
the ends belong to it when the value's mantissa is even. Written decimals are sought on ever finer
grids, first with one digit, then with two, and so on: of the two neighbours of the value on a grid
those in the interval are candidates, the nearer one wins, and of two equally near ones the even
one. The first grid with a candidate therefore gives the fewest digits. All comparisons are exact,
between products of naturals.
-/
namespace Conduit.Number

/-- A positive finite value `mantissa * 2 ^ exponent`. Below a power of two the gap to the
neighbour is half as wide as above it. -/
structure Magnitude where
  mantissa : Nat
  exponent : Int
  narrowBelow : Bool
deriving DecidableEq, Repr

/-- The decimal `digits * 10 ^ exponent`. -/
structure Decimal where
  digits : Nat
  exponent : Int
deriving DecidableEq, Repr

/-- How `a * 10 ^ i` compares with `n * 2 ^ j`. -/
def compareScaled (a : Nat) (i : Int) (n : Nat) (j : Int) : Ordering :=
  compare (a * Nat.pow 10 i.toNat * Nat.pow 2 (-j).toNat)
    (n * Nat.pow 2 j.toNat * Nat.pow 10 (-i).toNat)

namespace Magnitude

def ofPattern (f : Format) (bits : Nat) : Magnitude :=
  let magnitude := bits % f.signPlace
  let field := magnitude / Nat.pow 2 f.fractionBits
  let fraction := magnitude % Nat.pow 2 f.fractionBits
  if field = 0 then ⟨fraction, f.leastExponent, false⟩
  else ⟨Nat.pow 2 f.fractionBits + fraction, f.leastExponent + (field - 1),
    fraction = 0 && field > 1⟩

/-- The decimal lies among the reals that round to the value. -/
def readsBack (x : Magnitude) (d : Decimal) : Bool :=
  let low := if x.narrowBelow then 4 * x.mantissa - 1 else 4 * x.mantissa - 2
  let closed := x.mantissa % 2 = 0
  let fromLow := compareScaled d.digits d.exponent low (x.exponent - 2)
  let fromHigh := compareScaled d.digits d.exponent (4 * x.mantissa + 2) (x.exponent - 2)
  (fromLow = .gt || (closed && fromLow = .eq)) && (fromHigh = .lt || (closed && fromHigh = .eq))

/-- The least `k` with `x < 10 ^ k`: an estimate from the binary logarithm, then one step of
correction either way. -/
def decimalScale (x : Magnitude) : Int :=
  let estimate := ((x.mantissa.log2 : Int) + x.exponent) * 30103 / 100000 + 1
  if compareScaled 1 estimate x.mantissa x.exponent ≠ .gt then estimate + 1
  else if compareScaled 1 (estimate - 1) x.mantissa x.exponent = .gt then estimate - 1
  else estimate

/-- The greatest multiple of `10 ^ grid` that is at most `x`. -/
def below (x : Magnitude) (grid : Int) : Nat :=
  x.mantissa * Nat.pow 2 x.exponent.toNat * Nat.pow 10 (-grid).toNat
    / (Nat.pow 2 (-x.exponent).toNat * Nat.pow 10 grid.toNat)

/-- The candidate on a grid, if there is one. -/
def candidate? (x : Magnitude) (grid : Int) : Option Decimal :=
  let down : Decimal := ⟨x.below grid, grid⟩
  let up : Decimal := ⟨x.below grid + 1, grid⟩
  match x.readsBack down, x.readsBack up with
  | false, false => none
  | true, false => some down
  | false, true => some up
  | true, true =>
    match compareScaled (2 * x.below grid + 1) grid (2 * x.mantissa) x.exponent with
    | .gt => some down
    | .lt => some up
    | .eq => some (if down.digits % 2 = 0 then down else up)

/-- Tries the grids of `digits`, `digits + 1`, … places. -/
def search (x : Magnitude) (scale : Int) : Nat → Nat → Option Decimal
  | 0, _ => none
  | fuel + 1, digits =>
    match x.candidate? (scale - digits) with
    | some d => some d
    | none => search x scale fuel (digits + 1)

/-- The exact decimal value, for a search without result. -/
def exact (x : Magnitude) : Decimal :=
  if x.exponent < 0 then ⟨x.mantissa * Nat.pow 5 x.exponent.natAbs, x.exponent⟩
  else ⟨x.mantissa * Nat.pow 2 x.exponent.natAbs, 0⟩

/-- Seventeen digits tell any two values of 64 bits apart. -/
def shortest (x : Magnitude) : Decimal := (x.search x.decimalScale 17 1).getD x.exact

end Magnitude

/-- Digits without the zeros at their end, most significant first, and how many those were. -/
def significant (digits : List Digit) : List Digit × Nat :=
  let kept := digits.reverse.dropWhile Digit.isZero
  (kept.reverse, digits.length - kept.length)

end Conduit.Number
