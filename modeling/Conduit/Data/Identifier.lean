import Conduit.Text.Hex

/-!
# Random identifiers

An identifier is 128 random bits, six of which are fixed to mark it as random, in 32 hexadecimal
digits without dashes.
-/
namespace Conduit

/-- The identifier of 128 random bits. -/
def identifierOf (random : Nat) : String :=
  let bits := random % Nat.pow 2 128
  let versioned := bits / Nat.pow 2 80 * Nat.pow 2 80 + 0x4 * Nat.pow 2 76 + bits % Nat.pow 2 76
  let marked :=
    versioned / Nat.pow 2 64 * Nat.pow 2 64 + 0x2 * Nat.pow 2 62 + versioned % Nat.pow 2 62
  String.ofList ((List.range 32).map fun place =>
    Text.Hex.digit (marked / Nat.pow 16 (31 - place) % 16))

end Conduit
