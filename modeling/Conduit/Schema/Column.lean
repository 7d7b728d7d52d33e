import Conduit.Json.Printer
import Conduit.Json.Reader
import Conduit.Schema.DataType

/-!
# Columns

A column list travels as a text, the JSON array of its columns. A blank text is the empty list.
Columns without a name can be written but are refused when read, so reading undoes writing exactly
on lists of named columns.
-/
namespace Conduit

/-- A column of a row schema: the field it is taken from, the name it goes by and its position. -/
structure Column where
  name : String
  newName : String
  dataType : DataType
  order : UInt32
deriving DecidableEq, Repr

namespace Column

def of (name : String) (dataType : DataType) (order : UInt32) : Column :=
  ⟨name, name, dataType, order⟩

/-- The option under which a connector receives its column list. -/
def optionKey : String := "ohara.columns"

inductive Fault where
  | json
  | nameless
deriving DecidableEq, Repr

def Fault.message : Fault → String
  | .json => "JSON error"
  | .nameless => "Invalid column definition: column name must not be empty"

def toJson (column : Column) : Json :=
  .object [Json.member "name" (.ofString column.name),
    Json.member "new_name" (.ofString column.newName),
    Json.member "data_type" column.dataType.toJson,
    Json.member "order" (.ofNat column.order.toNat)]

/-- The text of a column list. -/
def encode (columns : List Column) : String := (Json.array (columns.map toJson)).compactText

def fields : List Json.Field :=
  [⟨"name", .required⟩, ⟨"new_name", .required⟩, ⟨"data_type", .required⟩, ⟨"order", .required⟩]

def decodeJson : Json.Decoder Column
  | depth + 1, json => do
    match ← Json.record fields json with
    | [some name, some newName, some dataType, some order] =>
      let name ← Json.Decode.text depth name
      let newName ← Json.Decode.text depth newName
      let dataType ← DataType.decode depth dataType
      let order ← Json.Decode.natural (Nat.pow 2 32 - 1) depth order
      return ⟨name, newName, dataType, UInt32.ofNat order⟩
    | _ => none
  | 0, _ => none

/-- The columns of a text. -/
def decode (s : String) : Except Fault (List Column) :=
  let s := Text.trimmed s
  if s = "" then .ok []
  else match (Json.readText s).bind (Json.Decode.list decodeJson Json.allowance) with
    | none => .error .json
    | some columns =>
      if columns.all fun column => column.name ≠ "" then .ok columns else .error .nameless

open Json.Arguments (three four) in
/-- A column as a list of its name, type and position, and of its new name if it has another. -/
instance : Json.Readable Column := ⟨fun json => do
  let items ← Json.Readable.read json
  three Column.of items <|> four (fun name kind order newName =>
    ⟨name, newName, kind, order⟩) items⟩

open Json.Writable (write) in
instance : Json.Writable Column := ⟨fun column =>
  .array [write column.name, write column.dataType, write column.order, write column.newName]⟩

end Column

end Conduit
