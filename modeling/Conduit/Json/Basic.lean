import Conduit.Number.Numeral

/-!
# JSON documents

A document is the tree of what is written, before anything is required of it: numbers stay numerals
of any size, members keep their order and may repeat, and a string whose escapes spell no text (a
lone surrogate, say) is still a string, with no text. Whether a document denotes a value of some
type is a question for the decoders, which look only at the parts that they use.
-/
namespace Conduit

open Number

inductive Json where
  | null
  | bool (value : Bool)
  | number (numeral : Numeral)
  /-- A string, with the text that it spells if it spells one. -/
  | text (spelled : Option String)
  | array (items : List Json)
  | object (members : List (Option String × Json))
deriving Inhabited

namespace Json

def ofString (s : String) : Json := .text (some s)

def ofInt (n : Int) : Json := .number (.ofInt n)

def ofNat (n : Nat) : Json := .number (.ofNat n)

def member (name : String) (value : Json) : Option String × Json := (some name, value)

end Json

end Conduit
