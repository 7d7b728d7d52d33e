import Conduit.Text.Utf8

/-!
# Hexadecimal digits

A byte is two digits, the high one first. Digits are written in the case that the format asks for
and read in either case.
-/
namespace Conduit.Text.Hex

open Utf8

def digit (n : Nat) : Char :=
  if n < 10 then Char.ofNat ('0'.toNat + n) else Char.ofNat ('a'.toNat + (n - 10))

def upperDigit (n : Nat) : Char :=
  if n < 10 then Char.ofNat ('0'.toNat + n) else Char.ofNat ('A'.toNat + (n - 10))

/-- The value of a digit. -/
def value? (b : UInt8) : Option Nat :=
  if 0x30 ≤ b ∧ b ≤ 0x39 then some (b.toNat - 0x30)
  else if 0x41 ≤ b ∧ b ≤ 0x46 then some (b.toNat - 0x41 + 10)
  else if 0x61 ≤ b ∧ b ≤ 0x66 then some (b.toNat - 0x61 + 10)
  else none

def ofByte (b : UInt8) : List Char := [digit (b.toNat / 16), digit (b.toNat % 16)]

def ofBytes (bytes : Bytes) : String := String.ofList (bytes.flatMap ofByte)

/-- The bytes that pairs of digits stand for. -/
def bytesOf? : Bytes → Option Bytes
  | [] => some []
  | [_] => none
  | high :: low :: rest => do
    let byte := UInt8.ofNat (16 * (← value? high) + (← value? low))
    return byte :: (← bytesOf? rest)

end Conduit.Text.Hex
