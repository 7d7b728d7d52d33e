import Conduit.Number.Shortest

/-!
# How numbers are laid out

Which digits are written is settled by the shortest decimal that reads back. A layout adds which
exponents of the leading digit are written positionally; outside them the numeral has one whole
digit, a fraction only if there are more digits, and a signed exponent without leading zeros.
A positional numeral always has a fraction, so it never reads as an integer.
-/
namespace Conduit.Number

/-- The exponents of the leading digit that are written positionally, from least to greatest. -/
structure Layout where
  plainFrom : Int
  plainTo : Int
deriving DecidableEq, Repr

/-- Doubles are written positionally from five places after the point up to sixteen before it. -/
def doubleLayout : Layout := ⟨-5, 15⟩

def singleLayout : Layout := ⟨-6, 12⟩

def zeros (n : Nat) : List Digit := List.replicate n .zero

/-- Lays out digits whose first one has the exponent `lead`. -/
def Layout.arrange (layout : Layout) (negative : Bool) (digits : List Digit) (lead : Int) :
    Numeral :=
  if layout.plainFrom ≤ lead ∧ lead ≤ layout.plainTo then
    if lead < 0 then ⟨negative, [.zero], some (zeros (-lead - 1).toNat ++ digits), none⟩
    else
      let places := lead.toNat + 1
      let whole := digits.take places ++ zeros (places - digits.length)
      let fraction := digits.drop places
      ⟨negative, whole, some (if fraction.isEmpty then [.zero] else fraction), none⟩
  else
    let fraction := digits.drop 1
    ⟨negative, digits.take 1, if fraction.isEmpty then none else some fraction,
      some ⟨if lead < 0 then .minus else .plus, digitsOf lead.natAbs⟩⟩

/-- The numeral of a finite pattern. -/
def Layout.numeral (layout : Layout) (f : Format) (bits : Nat) : Numeral :=
  let negative := f.signPlace ≤ bits
  let x := Magnitude.ofPattern f bits
  if x.mantissa = 0 then ⟨negative, [.zero], some [.zero], none⟩
  else
    let d := x.shortest
    let (digits, dropped) := significant (digitsOf d.digits)
    layout.arrange negative digits (d.exponent + dropped + digits.length - 1)

def Double.numeral (x : Double) : Numeral := doubleLayout.numeral .double x.bits.toNat

def Single.numeral (x : Single) : Numeral := singleLayout.numeral .single x.bits.toNat

end Conduit.Number
