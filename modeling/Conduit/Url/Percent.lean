import Conduit.Text.Hex

/-!
# Percent encoding

A byte is written as a percent sign and two hexadecimal digits. Which characters have to be
written so is a set that differs by the part of an address; characters beyond ASCII always are,
byte by byte. A percent sign that no two digits follow stands for itself when read.
-/
namespace Conduit.Url

open Text.Utf8

def encodeByte (b : UInt8) : List Char :=
  ['%', Text.Hex.upperDigit (b.toNat / 16), Text.Hex.upperDigit (b.toNat % 16)]

def encodeChar (reserved : Char → Bool) (c : Char) : List Char :=
  if reserved c then (String.utf8EncodeChar c).flatMap encodeByte else [c]

def encode (reserved : Char → Bool) (s : List Char) : List Char := s.flatMap (encodeChar reserved)

/-- Control characters, the blank and everything beyond ASCII. -/
def outsideGraphic (c : Char) : Bool := c.toNat < 0x21 || 0x7F ≤ c.toNat

def reservedInPath (c : Char) : Bool :=
  outsideGraphic c || ['"', '#', '<', '>', '?', '`', '\x7b', '\x7d'].contains c

/-- What a name may not hold if it is to stay one segment of a path. -/
def reservedInSegment (c : Char) : Bool := reservedInPath c || ['%', '/', '\\'].contains c

def reservedInQuery (c : Char) : Bool :=
  outsideGraphic c || ['"', '#', '<', '>', '\''].contains c

/-- The bytes with every percent triple replaced by the byte that it stands for. -/
def decodeBytes : Bytes → Bytes
  | b :: high :: low :: rest =>
    if b = 0x25 then
      match Text.Hex.value? high, Text.Hex.value? low with
      | some h, some l => UInt8.ofNat (16 * h + l) :: decodeBytes rest
      | _, _ => b :: decodeBytes (high :: low :: rest)
    else b :: decodeBytes (high :: low :: rest)
  | short => short

end Conduit.Url
