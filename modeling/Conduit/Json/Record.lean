import Conduit.Json.Basic

/-!
# Records in documents

A decoder looks at a document with an allowance of open brackets: each array or object on the path
that it follows costs one, and what it does not look at costs nothing. A record is written as an
object, in which unknown members are skipped and a known one may occur once, or as an array of its
fields in order. What an absent field means is a property of the field: required fields must be
there, optional ones may be left out of an object, and those with a default also off the end of an
array. A choice is written as the name of an alternative or as an object whose only member is it.
-/
namespace Conduit.Json

/-- The allowance with which a document starts: one bracket less than 128. -/
def allowance : Nat := 127

/-- A decoder with the number of brackets that may still be opened. -/
abbrev Decoder (α : Type) := Nat → Json → Option α

inductive Presence where
  | required
  | optional
  | defaulted
deriving DecidableEq, Repr

structure Field where
  name : String
  presence : Presence
deriving DecidableEq, Repr

/-- The value of a member, if it occurs; no result if it occurs twice. -/
def member? (name : String) (members : List (Option String × Json)) : Option (Option Json) :=
  match members.filter fun member => member.1 = some name with
  | [] => some none
  | [member] => some (some member.2)
  | _ => none

def fieldOfObject (members : List (Option String × Json)) (field : Field) : Option (Option Json) :=
  match member? field.name members with
  | some none => if field.presence = .required then none else some none
  | found => found

/-- The fields' values along an array; none may be left over. -/
def fieldsOfArray : List Field → List Json → Option (List (Option Json))
  | [], [] => some []
  | [], _ :: _ => none
  | field :: fields, [] =>
    if field.presence = .defaulted then (fieldsOfArray fields []).map (none :: ·) else none
  | _ :: fields, item :: items => (fieldsOfArray fields items).map (some item :: ·)

/-- The fields of a record in their order. -/
def record (fields : List Field) : Json → Option (List (Option Json))
  | .object members =>
    if members.all fun member => member.1.isSome then fields.mapM (fieldOfObject members) else none
  | .array items => fieldsOfArray fields items
  | _ => none

/-- A choice by name, with its payload if it has one. -/
def choice : Json → Option (String × Option Json)
  | .text (some name) => some (name, none)
  | .object [(some name, payload)] => some (name, some payload)
  | _ => none

namespace Decode

def text : Decoder String
  | _, .text s => s
  | _, _ => none

def bool : Decoder Bool
  | _, .bool value => some value
  | _, _ => none

/-- An integer within bounds. -/
def integer (low high : Int) : Decoder Int
  | _, .number n =>
    match n.toInt? with
    | some value => if low ≤ value ∧ value ≤ high then some value else none
    | none => none
  | _, _ => none

def natural (high : Nat) : Decoder Nat :=
  fun depth json => (integer 0 high depth json).map Int.toNat

def list {α : Type} (item : Decoder α) : Decoder (List α)
  | depth + 1, .array items => items.mapM (item depth)
  | _, _ => none

/-- `null` or a value. -/
def nullable {α : Type} (value : Decoder α) : Decoder (Option α)
  | _, .null => some none
  | depth, json => (value depth json).map some

/-- A field that may be absent. -/
def absentOr {α : Type} (fallback : α) (value : Decoder α) (depth : Nat) : Option Json → Option α
  | none => some fallback
  | some json => value depth json

/-- An alternative without payload: its name, or an object with `null` under its name. -/
def named {α : Type} (names : List (String × α)) : Decoder α
  | _, .text (some name) => names.lookup name
  | _ + 1, .object [(some name, .null)] => names.lookup name
  | _, _ => none

end Decode

end Conduit.Json
