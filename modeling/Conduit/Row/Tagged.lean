import Conduit.Codec.Basic
import Conduit.Json.Notation

/-!
# Tagged values

An exact notation of values: an object with the name of the kind and the value. Floating-point
numbers are their bits, so nothing is rounded; only not-a-number has one name for all its bits. A
text may be tagged by a shorter name as well. A row is the list of its cells, each a name with a
value, and its tags, which may be left out when they are read.
-/
namespace Conduit

open Number Text.Utf8
open Json (Reading Readable Writable get getOr)
open Json.Writable (write)

theorem Json.sizeOf_lt_of_get? {json value : Json} {name : String}
    (found : json.get? name = some value) :
    sizeOf value < sizeOf json := by
  unfold Json.get? at found
  split at found
  next members =>
    obtain ⟨entry, isFirst, rfl⟩ := Option.map_eq_some_iff.mp found
    have inside := List.sizeOf_lt_of_mem (List.mem_of_find?_eq_some isFirst)
    have smaller : sizeOf entry.2 < sizeOf entry := by
      obtain ⟨key, value⟩ := entry
      simp only [Prod.mk.sizeOf_spec]
      omega
    rw [Json.object.sizeOf_spec]
    omega
  next => cases found

namespace Tagged

/-- The bits of a floating-point number. -/
def bits (json : Json) : Reading Nat :=
  Codec.bigEndianValue <$> (Readable.read json : Reading Bytes)

def plain (tag : String) (json : Json) : Reading Value :=
  match tag with
  | "boolean" => .boolean <$> Readable.read json
  | "byte" => (fun n => .byte (Int8.ofInt n)) <$> Readable.read json
  | "short" => (fun n => .short (Int16.ofInt n)) <$> Readable.read json
  | "int" => .int <$> Readable.read json
  | "long" => .long <$> Readable.read json
  | "float" => (fun n => .float ⟨UInt32.ofNat n⟩) <$> bits json
  | "double" => (fun n => .double ⟨UInt64.ofNat n⟩) <$> bits json
  | "string" | "str" => .string <$> Readable.read json
  | "bytes" => .bytes <$> Readable.read json
  | _ => .error "a kind of value"

mutual

def readValue (json : Json) : Reading Value := do
  let tag : String ← get json "t"
  match _ : json.get? "v" with
  | none => if tag = "null" then .ok .null else .error "a value"
  | some value =>
    if tag = "row" then .row <$> readRow value
    else plain tag value
termination_by sizeOf json
decreasing_by exact Json.sizeOf_lt_of_get? ‹_›

def readRow (json : Json) : Reading Row := do
  let tags ← getOr json "tags" []
  match _ : json.get? "cells" with
  | some (.array items) =>
    let cells ← items.attach.mapM fun
      | ⟨.array [name, value], inside⟩ => do
        let name ← Readable.read name
        let value ← readValue value
        return (⟨name, value⟩ : Cell)
      | _ => .error "a cell"
    return ⟨cells, tags⟩
  | _ => .error "cells"
termination_by sizeOf json
decreasing_by
  have outer := Json.sizeOf_lt_of_get? ‹json.get? "cells" = _›
  have inner := List.sizeOf_lt_of_mem inside
  simp only [Json.array.sizeOf_spec, List.cons.sizeOf_spec] at outer inner
  omega

end

def tagged (tag : String) (value : Json) : Json := .ofMembers [("t", write tag), ("v", value)]

/-- The bits of a number, or a name. -/
def float (isNaN : Bool) (bits : Bytes) : Json := if isNaN then write "nan" else write bits

mutual

def writeValue : Value → Json
  | .boolean value => tagged "boolean" (write value)
  | .byte value => tagged "byte" (write value.toInt)
  | .short value => tagged "short" (write value.toInt)
  | .int value => tagged "int" (write value)
  | .long value => tagged "long" (write value)
  | .float value => tagged "float" (float value.isNaN (Codec.bigEndian 4 value.bits.toNat))
  | .double value => tagged "double" (float value.isNaN (Codec.bigEndian 8 value.bits.toNat))
  | .string value => tagged "string" (write value)
  | .bytes value => tagged "bytes" (write value)
  | .row value => tagged "row" (writeRow value)
  | .null => .ofMembers [("t", write "null")]

def writeCell : Cell → Json
  | ⟨name, value⟩ => .array [write name, writeValue value]

def writeCells : List Cell → List Json
  | [] => []
  | cell :: rest => writeCell cell :: writeCells rest

def writeRow : Row → Json
  | ⟨cells, tags⟩ => .ofMembers [("cells", .array (writeCells cells)), ("tags", write tags)]

end

end Tagged

instance : Readable Value := ⟨Tagged.readValue⟩

instance : Readable Row := ⟨Tagged.readRow⟩

instance : Writable Double := ⟨fun x => Tagged.float x.isNaN (Codec.double.encode x)⟩

instance : Writable Value := ⟨Tagged.writeValue⟩

instance : Writable Cell := ⟨Tagged.writeCell⟩

instance : Writable Row := ⟨Tagged.writeRow⟩

end Conduit
