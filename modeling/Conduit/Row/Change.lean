import Conduit.Row.Basic
import Conduit.Text.Blank

/-!
# Ready-made changes of values

Changes and tests for the steps of a stream. A change leaves values of other types alone, and a
test is false of them. Integers wrap at their width.
-/
namespace Conduit.Value

/-- The letters of a text in upper case, those of ASCII only. -/
def upper : Value → Value
  | string s => string (Text.upperAscii s)
  | other => other

def append (more : String) : Value → Value
  | string s => string (s ++ more)
  | other => other

def add (n : Int) : Value → Value
  | int value => int (value + Int32.ofInt n)
  | long value => long (value + Int64.ofInt n)
  | other => other

def negate : Value → Value
  | double value => double value.negate
  | other => other

def startsWith (start : String) : Value → Bool
  | string s => s.startsWith start
  | _ => false

def exceeds (n : Int) (value : Value) : Bool := value.asInteger.any fun i => n < i.toInt

end Conduit.Value
