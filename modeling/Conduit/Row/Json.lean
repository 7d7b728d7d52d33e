import Conduit.Json.Printer
import Conduit.Json.Reader
import Conduit.Json.Record
import Conduit.Number.Notation
import Conduit.Number.Reading
import Conduit.Row.Basic

/-!
# Rows as documents

A value is written as an object with its kind as the only name, nothing as the bare name. Numbers
that JSON lacks are written by name. Tags are left out when there are none. Each nested row opens
four brackets: its own, that of its cells, that of the cell and that of the value, so the allowance
of the decoder bounds how deep rows may nest, and only that.
-/
namespace Conduit

open Number

/-- A floating-point number: a numeral if it is finite, else one of three names. -/
def nonFiniteJson : Reading → Option Json
  | .nan => some (.ofString "NaN")
  | .infinite false => some (.ofString "Infinity")
  | .infinite true => some (.ofString "-Infinity")
  | .finite .. => none

def Number.Double.toJson (x : Double) : Json := (nonFiniteJson x.read).getD (.number x.numeral)

def Number.Single.toJson (x : Single) : Json := (nonFiniteJson x.read).getD (.number x.numeral)

mutual

def Value.toJson : Value → Json
  | .boolean value => .object [Json.member "Boolean" (.bool value)]
  | .byte value => .object [Json.member "Byte" (.ofInt value.toInt)]
  | .short value => .object [Json.member "Short" (.ofInt value.toInt)]
  | .int value => .object [Json.member "Int" (.ofInt value.toInt)]
  | .long value => .object [Json.member "Long" (.ofInt value.toInt)]
  | .float value => .object [Json.member "Float" value.toJson]
  | .double value => .object [Json.member "Double" value.toJson]
  | .string value => .object [Json.member "String" (.ofString value)]
  | .bytes value =>
    .object [Json.member "Bytes" (.array (value.map fun b => .ofNat b.toNat))]
  | .row value => .object [Json.member "Row" value.toJson]
  | .null => .ofString "Null"

def Cell.toJson : Cell → Json
  | ⟨name, value⟩ => .object [Json.member "name" (.ofString name), Json.member "value" value.toJson]

def Cell.listToJson : List Cell → List Json
  | [] => []
  | cell :: rest => cell.toJson :: Cell.listToJson rest

def Row.toJson : Row → Json
  | ⟨cells, []⟩ => .object [Json.member "cells" (.array (Cell.listToJson cells))]
  | ⟨cells, tags⟩ =>
    .object [Json.member "cells" (.array (Cell.listToJson cells)),
      Json.member "tags" (.array (tags.map Json.ofString))]

end

namespace Decode

/-- A floating-point number of a format: a numeral, or the name of a pattern that is not finite. -/
def floating {α : Type} (f : Format) (ofPattern : Nat → α) (read : Numeral → Option α) :
    Json.Decoder α
  | _, .number n => read n
  | _, .text (some "NaN") => some (ofPattern f.quietNaN)
  | _, .text (some "Infinity") => some (ofPattern (f.signed false f.infinity))
  | _, .text (some "-Infinity") => some (ofPattern (f.signed true f.infinity))
  | _, _ => none

def double : Json.Decoder Double := floating .double .ofPattern Numeral.toDouble?

def single : Json.Decoder Single := floating .single .ofPattern Numeral.toSingle?

/-- An integer of so many bits in two's complement. -/
def word (bits : Nat) : Json.Decoder Int :=
  Json.Decode.integer (-(Nat.pow 2 (bits - 1))) (Nat.pow 2 (bits - 1) - 1)

def bytes : Json.Decoder Text.Utf8.Bytes := fun depth json =>
  (Json.Decode.list (Json.Decode.natural 255) depth json).map fun values => values.map UInt8.ofNat

/-- A value of a kind that nests no row. -/
def plainValue (kind : String) (depth : Nat) (payload : Json) : Option Value :=
  match kind with
  | "Boolean" => (Json.Decode.bool depth payload).map .boolean
  | "Byte" => (word 8 depth payload).map fun n => .byte (Int8.ofInt n)
  | "Short" => (word 16 depth payload).map fun n => .short (Int16.ofInt n)
  | "Int" => (word 32 depth payload).map fun n => .int (Int32.ofInt n)
  | "Long" => (word 64 depth payload).map fun n => .long (Int64.ofInt n)
  | "Float" => (single depth payload).map .float
  | "Double" => (double depth payload).map .double
  | "String" => (Json.Decode.text depth payload).map .string
  | "Bytes" => (bytes depth payload).map .bytes
  | "Null" => match payload with
    | .null => some .null
    | _ => none
  | _ => none

end Decode

def Cell.fields : List Json.Field := [⟨"name", .required⟩, ⟨"value", .required⟩]

def Row.fields : List Json.Field := [⟨"cells", .required⟩, ⟨"tags", .defaulted⟩]

mutual

def Value.decode : Json.Decoder Value
  | depth, json =>
    match Json.choice json, depth with
    | some ("Null", none), _ => some .null
    | some ("Row", some payload), depth + 1 => (Row.decode depth payload).map .row
    | some (kind, some payload), depth + 1 => Decode.plainValue kind depth payload
    | _, _ => none

def Cell.decode : Json.Decoder Cell
  | depth + 1, json =>
    match Json.record Cell.fields json with
    | some [some name, some value] => do
      let name ← Json.Decode.text depth name
      let value ← Value.decode depth value
      return ⟨name, value⟩
    | _ => none
  | 0, _ => none

def Cell.decodeList : Json.Decoder (List Cell)
  | depth + 1, .array items => items.mapM (Cell.decode depth)
  | _, _ => none

def Row.decode : Json.Decoder Row
  | depth + 1, json =>
    match Json.record Row.fields json with
    | some [some cells, tags] => do
      let cells ← Cell.decodeList depth cells
      let tags ← Json.Decode.absentOr [] (Json.Decode.list Json.Decode.text) depth tags
      return ⟨cells, tags⟩
    | _ => none
  | 0, _ => none

end

end Conduit
