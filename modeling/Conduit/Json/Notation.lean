import Conduit.Data.Table
import Conduit.Json.Basic
import Conduit.Text.Hex

/-!
# Plain notation

How values of common types stand in documents when nothing but the value matters: lists and pairs
are arrays, tables are objects, bytes are hexadecimal digits and nothing is `null`. A call is an
array that begins with a name, and the rest of it are the arguments. Reading is lenient where a
decoder is strict, looks at no more than it needs and says what it misses.
-/
namespace Conduit.Json

open Text.Utf8

/-- What is read, or what is missing. -/
abbrev Reading := Except String

class Readable (α : Type) where
  read : Json → Reading α

class Writable (α : Type) where
  write : α → Json

open Readable (read)
open Writable (write)

def Reading.of {α : Type} (missing : String) : Option α → Reading α
  | some value => .ok value
  | none => .error missing

variable {α β γ δ ε : Type}

/-- The value of a member; of a repeated one the first. -/
def get? (json : Json) (name : String) : Option Json :=
  match json with
  | .object members => (members.find? fun member => member.1 == some name).map Prod.snd
  | _ => none

/-- A member; one that is missing reads as `null`. -/
def get [Readable α] (json : Json) (name : String) : Reading α :=
  (read ((json.get? name).getD .null)).mapError fun missing => s!"{name}: {missing}"

/-- A member, or something else in its place. -/
def getOr [Readable α] (json : Json) (name : String) (absent : α) : Reading α :=
  match json.get? name with
  | some value => read value
  | none => .ok absent

/-- An object of members with different names. -/
def ofMembers (members : List (String × Json)) : Json :=
  .object (members.map fun entry => member entry.1 entry.2)

instance : Readable Json := ⟨.ok⟩

instance : Readable String := ⟨fun
  | .text (some s) => .ok s
  | _ => .error "a text"⟩

instance : Readable Int := ⟨fun
  | .number n => .of "an integer" n.toInt?
  | _ => .error "a number"⟩

instance : Readable Nat := ⟨fun json => Int.toNat <$> read json⟩

instance : Readable Int32 := ⟨fun json => Int32.ofInt <$> read json⟩

instance : Readable Int64 := ⟨fun json => Int64.ofInt <$> read json⟩

instance : Readable UInt32 := ⟨fun json => UInt32.ofNat <$> read json⟩

instance : Readable Bool := ⟨fun
  | .bool value => .ok value
  | _ => .error "a truth value"⟩

instance [Readable α] : Readable (Option α) := ⟨fun
  | .null => .ok none
  | json => some <$> read json⟩

instance [Readable α] : Readable (List α) := ⟨fun
  | .array items => items.mapM read
  | _ => .error "a list"⟩

instance [Readable α] [Readable β] : Readable (α × β) := ⟨fun
  | .array [first, second] => do return (← read first, ← read second)
  | _ => .error "a pair"⟩

instance [Readable α] : Readable (Table String α) := ⟨fun
  | .object members => Table.ofList <$> members.mapM fun member => do
    return (← .of "a key" member.1, ← read member.2)
  | _ => .error "an object"⟩

instance : Readable Bytes := ⟨fun json => do
  .of "hexadecimal digits" (Text.Hex.bytesOf? (encode (← read json)))⟩

instance : Writable Json := ⟨id⟩

instance : Writable String := ⟨.ofString⟩

instance : Writable Int := ⟨.ofInt⟩

instance : Writable Nat := ⟨.ofNat⟩

instance : Writable Int32 := ⟨fun n => .ofInt n.toInt⟩

instance : Writable Int64 := ⟨fun n => .ofInt n.toInt⟩

instance : Writable UInt32 := ⟨fun n => .ofNat n.toNat⟩

instance : Writable UInt64 := ⟨fun n => .ofNat n.toNat⟩

instance : Writable Bool := ⟨.bool⟩

instance [Writable α] : Writable (Option α) := ⟨fun
  | some value => write value
  | none => .null⟩

instance [Writable α] : Writable (List α) := ⟨fun items => .array (items.map write)⟩

instance [Writable α] [Writable β] : Writable (α × β) :=
  ⟨fun pair => .array [write pair.1, write pair.2]⟩

instance [Writable α] : Writable (Table String α) :=
  ⟨fun table => ofMembers (table.entries.map fun entry => (entry.1, write entry.2))⟩

instance : Writable Bytes := ⟨fun bytes => .ofString (Text.Hex.ofBytes bytes)⟩

/-- One of several things, by its name. -/
def oneOf (choices : List (String × α)) (json : Json) : Reading α := do
  .of "a known name" (choices.lookup (← read json))

/-- What the arguments of a call come to. -/
abbrev Arguments (α : Type) := List Json → Reading α

namespace Arguments

def zero (value : α) : Arguments α
  | [] => .ok value
  | _ => .error "no further argument"

/-- Reads an argument and goes on with the rest. -/
def more [Readable α] (rest : α → Arguments β) : Arguments β
  | argument :: arguments => do rest (← read argument) arguments
  | [] => .error "an argument"

def one [Readable α] (f : α → β) : Arguments β := more fun a => zero (f a)

def two [Readable α] [Readable β] (f : α → β → γ) : Arguments γ := more fun a => one (f a)

def three [Readable α] [Readable β] [Readable γ] (f : α → β → γ → δ) : Arguments δ :=
  more fun a => two (f a)

def four [Readable α] [Readable β] [Readable γ] [Readable δ] (f : α → β → γ → δ → ε) :
    Arguments ε :=
  more fun a => three (f a)

end Arguments

/-- One of several calls. -/
def call (choices : List (String × Arguments α)) : Json → Reading α
  | .array (name :: arguments) => do (← oneOf choices name) arguments
  | _ => .error "a call"

end Conduit.Json
