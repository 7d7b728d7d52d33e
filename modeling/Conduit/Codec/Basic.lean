import Conduit.Json.Notation
import Conduit.Row.Json
import Conduit.Text.Utf8

/-!
# Byte codecs

Keys and values travel as bytes. Integers and doubles are big-endian and have a fixed size, texts
are UTF-8, rows are JSON documents, and bytes are themselves. A codec is a pair of functions;
writing always succeeds, and reading says why it does not.
-/
namespace Conduit

open Number Text.Utf8

/-- Why bytes are refused. -/
inductive CodecFault where
  | size (kind : String) (expected actual : Nat)
  | text (cause : Text.Utf8.Fault)
  | row
deriving DecidableEq, Repr

def CodecFault.message : CodecFault → String
  | .size kind expected actual =>
    s!"Size of data received by {kind} deserializer is not {expected} (got {actual})"
  | .text cause => "Invalid UTF-8 string: " ++ cause.message
  | .row => "Failed to decode row"

structure Codec (α : Type) where
  encode : α → Bytes
  decode : Bytes → Except CodecFault α

namespace Codec

/-- The so many lowest bytes of a number, most significant first. -/
def bigEndian : Nat → Nat → Bytes
  | 0, _ => []
  | size + 1, n => bigEndian size (n / 256) ++ [UInt8.ofNat (n % 256)]

def bigEndianValue (bytes : Bytes) : Nat := bytes.foldl (fun value b => 256 * value + b.toNat) 0

/-- Reads a fixed number of bytes. -/
def fixed {α : Type} (kind : String) (size : Nat) (ofValue : Nat → α) (bytes : Bytes) :
    Except CodecFault α :=
  if bytes.length = size then .ok (ofValue (bigEndianValue bytes))
  else .error (.size kind size bytes.length)

def int : Codec Int32 where
  encode n := bigEndian 4 n.toUInt32.toNat
  decode := fixed "int" 4 fun n => (UInt32.ofNat n).toInt32

def long : Codec Int64 where
  encode n := bigEndian 8 n.toUInt64.toNat
  decode := fixed "long" 8 fun n => (UInt64.ofNat n).toInt64

def double : Codec Double where
  encode x := bigEndian 8 x.bits.toNat
  decode := fixed "double" 8 fun n => ⟨UInt64.ofNat n⟩

def string : Codec String where
  encode := Text.Utf8.encode
  decode bytes := (Text.Utf8.decode bytes).mapError .text

def bytes : Codec Bytes where
  encode := id
  decode := .ok

def rowOfBytes (bytes : Bytes) : Option Row := (Json.read bytes).bind (Row.decode Json.allowance)

def row : Codec Row where
  encode r := encodeChars r.toJson.compact
  decode bytes := match rowOfBytes bytes with
    | some r => .ok r
    | none => .error .row

end Codec

/-- The codecs by name. -/
inductive CodecKind where
  | int
  | long
  | double
  | string
  | bytes
  | row
deriving DecidableEq, Repr

namespace CodecKind

instance : Json.Readable CodecKind := ⟨Json.oneOf
  [("int", .int), ("long", .long), ("double", .double), ("string", .string), ("bytes", .bytes),
    ("row", .row)]⟩

/-- The bytes of a value of the codec's type; values of other types have none. -/
def encode : CodecKind → Value → Option Bytes
  | int, .int n => some (Codec.int.encode n)
  | long, .long n => some (Codec.long.encode n)
  | double, .double x => some (Codec.double.encode x)
  | string, .string s => some (Codec.string.encode s)
  | bytes, .bytes b => some (Codec.bytes.encode b)
  | row, .row r => some (Codec.row.encode r)
  | _, _ => none

def decode (kind : CodecKind) (bytes : Bytes) : Except CodecFault Value :=
  match kind with
  | int => (Codec.int.decode bytes).map .int
  | long => (Codec.long.decode bytes).map .long
  | double => (Codec.double.decode bytes).map .double
  | string => (Codec.string.decode bytes).map .string
  | .bytes => (Codec.bytes.decode bytes).map .bytes
  | row => (Codec.row.decode bytes).map .row

end CodecKind

end Conduit
