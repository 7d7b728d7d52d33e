import Conduit.Json.Notation
import Conduit.Json.Record
import Conduit.Text.Blank

/-!
# Data types and connector states

Two closed lists of names. Both are written in upper case and read exactly so from documents; a
state given by a person is read without regard to blanks around it or to the case of its letters.
-/
namespace Conduit

inductive DataType where
  | boolean
  | byte
  | short
  | int
  | long
  | float
  | double
  | string
  | bytes
  | object
deriving DecidableEq, Repr

namespace DataType

def name : DataType → String
  | boolean => "BOOLEAN"
  | byte => "BYTE"
  | short => "SHORT"
  | int => "INT"
  | long => "LONG"
  | float => "FLOAT"
  | double => "DOUBLE"
  | string => "STRING"
  | bytes => "BYTES"
  | object => "OBJECT"

def all : List DataType := [boolean, byte, short, int, long, float, double, string, bytes, object]

def table : List (String × DataType) := all.map fun kind => (kind.name, kind)

def decode : Json.Decoder DataType := Json.Decode.named table

def toJson (kind : DataType) : Json := .ofString kind.name

instance : Json.Readable DataType := ⟨Json.oneOf table⟩

instance : Json.Writable DataType := ⟨toJson⟩

end DataType

/-- The state of a connector or of one of its tasks, as a worker reports it. -/
inductive ConnectorState where
  | unassigned
  | running
  | paused
  | failed
  | destroyed
  | restarting
deriving DecidableEq, Repr

namespace ConnectorState

def name : ConnectorState → String
  | unassigned => "UNASSIGNED"
  | running => "RUNNING"
  | paused => "PAUSED"
  | failed => "FAILED"
  | destroyed => "DESTROYED"
  | restarting => "RESTARTING"

def all : List ConnectorState := [unassigned, running, paused, failed, destroyed, restarting]

def table : List (String × ConnectorState) := all.map fun state => (state.name, state)

def decode : Json.Decoder ConnectorState := Json.Decode.named table

def toJson (state : ConnectorState) : Json := .ofString state.name

/-- No state has this name, given here in upper case. -/
structure Unknown where
  name : String
deriving DecidableEq, Repr

def Unknown.message (unknown : Unknown) : String := s!"unknown connector state: {unknown.name}"

def parse (s : String) : Except Unknown ConnectorState :=
  let name := Text.upperAscii (Text.trimmed s)
  match table.lookup name with
  | some state => .ok state
  | none => .error ⟨name⟩

end ConnectorState

end Conduit
