import Conduit.Text.Blank
import Conduit.Text.Utf8
import Conduit.Unicode.Direction
import Conduit.Unicode.Folding
import Conduit.Unicode.Joining
import Conduit.Unicode.Mark
import Conduit.Url.Punycode

/-!
# Domain names

A domain name is read to one form, so that all spellings of it give the same name. Its characters
are folded and composed, and labels that spell characters beyond ASCII in ASCII are decoded; what
they stand for has to be folded and composed already, so that there is no second way to spell it. A
name cannot hold characters that mean something in an address, in whatever spelling. No label begins
with a mark, signs about joints have to be in place, and once anything in the name is written from
right to left every label has to be of one direction.
-/
namespace Conduit.Url.Domain

open Text (pieces)
open Text.Utf8

/-- What no domain may hold: controls and the characters that mean something in an address. -/
def isForbidden (c : Char) : Bool :=
  c.toNat < 0x20 || c.toNat = 0x7F
    || [' ', '#', '/', ':', '<', '>', '?', '@', '[', '\\', ']', '^', '|', '%'].contains c

/-- The longest label beyond ASCII, in characters. -/
def labelLimit : Nat := 1000

/-- The longest ASCII spelling of a label, without its mark. -/
def spellingLimit : Nat := 2000

def isAscii (c : Char) : Bool := c.toNat < 0x80

/-- The ASCII spelling of a label, if it is one. -/
def spelling? : List Char → Option (List Char)
  | 'x' :: 'n' :: '-' :: '-' :: spelled => some spelled
  | _ => none

/-- A label in its only form that may stand in a name. -/
def isAcceptable (label : List Char) : Bool :=
  !label.any isForbidden && !label.head?.any Unicode.isMark && Unicode.areInPlace [] label
    && label.length ≤ labelLimit

/-- The folded and composed form of a text, if it has one. -/
def normalize? (s : List Char) : Option (List Char) := (Unicode.foldAll? s).map Unicode.compose

/-- The label that an ASCII spelling stands for. -/
def decodeLabel? (spelled : List Char) : Option (List Char) := do
  if !spelled.all isAscii || spelled.getLast?.all (· = '-') ||
      spellingLimit < spelled.length then none
  else
    let label ← Punycode.decode spelled
    if normalize? label = some label && isAcceptable label then some label else none

/-- The labels of a part between dots. Folding may bring further dots to light. -/
def labels? (part : List Char) : Option (List (List Char)) :=
  if part.all isAscii then
    let label := part.map Char.toLower
    match spelling? label with
    | some spelled => (decodeLabel? spelled).map fun decoded => [decoded]
    | none => if label.any isForbidden then none else some [label]
  else do
    (pieces '.' (← normalize? part)).mapM fun label =>
      match spelling? label with
      | some spelled => decodeLabel? spelled
      | none => if isAcceptable label then some label else none

/-- The one form of a name. -/
def ofText? (s : List Char) : Option (List Char) := do
  let labels := (← (pieces '.' s).mapM labels?).flatten
  if labels.any (·.any Unicode.runsLeftward) && !labels.all Unicode.isOneDirection then none
  else some (['.'].intercalate labels)

def ofBytes? (bytes : Bytes) : Option (List Char) := do
  ofText? (← (Text.Utf8.decode bytes).toOption).toList

end Conduit.Url.Domain
