import Conduit.Number.Binary
import Conduit.Schema.DataType
import Conduit.Text.Utf8

/-!
# Rows and values

A row is an ordered list of named values with free-form tags; names may repeat. Floating-point
values are bit patterns, so rows can be compared in two ways: structurally, and as values, where
the two zeros are equal and not-a-number equals nothing.
-/
namespace Conduit

open Number Text.Utf8

mutual

inductive Value where
  | boolean (value : Bool)
  | byte (value : Int8)
  | short (value : Int16)
  | int (value : Int32)
  | long (value : Int64)
  | float (value : Single)
  | double (value : Double)
  | string (value : String)
  | bytes (value : Bytes)
  | row (value : Row)
  | null

structure Cell where
  name : String
  value : Value

structure Row where
  cells : List Cell
  tags : List String

end

namespace Value

/-- The type of column that a value fits. Nothing and nested rows are objects. -/
def dataType : Value → DataType
  | boolean _ => .boolean
  | byte _ => .byte
  | short _ => .short
  | int _ => .int
  | long _ => .long
  | float _ => .float
  | double _ => .double
  | string _ => .string
  | bytes _ => .bytes
  | row _ => .object
  | null => .object

def isNull : Value → Bool
  | null => true
  | _ => false

def asBool : Value → Option Bool
  | boolean value => some value
  | _ => none

/-- Integers of every width. -/
def asInteger : Value → Option Int64
  | byte value => some value.toInt64
  | short value => some value.toInt64
  | int value => some value.toInt64
  | long value => some value
  | _ => none

/-- Floating-point numbers of either width. -/
def asDouble : Value → Option Double
  | float value => some value.widen
  | double value => some value
  | _ => none

def asText : Value → Option String
  | string value => some value
  | _ => none

def asBytes : Value → Option Bytes
  | bytes value => some value
  | _ => none

end Value

mutual

/-- Equality of values: numbers of the same width by their worth. -/
def Value.equals : Value → Value → Bool
  | .boolean a, .boolean b => a = b
  | .byte a, .byte b => a = b
  | .short a, .short b => a = b
  | .int a, .int b => a = b
  | .long a, .long b => a = b
  | .float a, .float b => a.equals b
  | .double a, .double b => a.equals b
  | .string a, .string b => a = b
  | .bytes a, .bytes b => a = b
  | .row a, .row b => a.equals b
  | .null, .null => true
  | _, _ => false

def Cell.equals : Cell → Cell → Bool
  | ⟨name, value⟩, ⟨otherName, otherValue⟩ => name = otherName && value.equals otherValue

def Cell.equalsAll : List Cell → List Cell → Bool
  | [], [] => true
  | cell :: rest, other :: others => cell.equals other && Cell.equalsAll rest others
  | _, _ => false

def Row.equals : Row → Row → Bool
  | ⟨cells, tags⟩, ⟨otherCells, otherTags⟩ => Cell.equalsAll cells otherCells && tags = otherTags

end

namespace Row

def of (cells : List Cell) : Row := ⟨cells, []⟩

def empty : Row := ⟨[], []⟩

def size (row : Row) : Nat := row.cells.length

def isEmpty (row : Row) : Bool := row.cells.isEmpty

def names (row : Row) : List String := row.cells.map Cell.name

def cell? (row : Row) (index : Nat) : Option Cell := row.cells[index]?

/-- The first cell of that name. -/
def find? (row : Row) (name : String) : Option Cell := row.cells.find? fun cell => cell.name = name

end Row

end Conduit
