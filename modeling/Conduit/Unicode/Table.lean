import Conduit.Text.Blank
import Conduit.Text.Natural

/-!
# Tables of characters

The properties of characters that names depend on are tables of code points, those of Unicode 17. A
table is written in hexadecimal, one entry after the other: a code point, the first and the last of
a range with a hyphen between them, or with a slash if only every other code point is meant; then,
if the table gives code points more than membership, an angle bracket and what it gives, with dots
between the numbers. A table need not be right for characters that no name may hold, so its ranges
may run over them.
-/
namespace Conduit.Unicode

structure Entry where
  first : Nat
  last : Nat
  stride : Nat
  target : List Nat
deriving DecidableEq, Repr

abbrev Table := List Entry

namespace Entry

def covers (entry : Entry) (point : Nat) : Bool :=
  entry.first ≤ point && point ≤ entry.last && (point - entry.first) % entry.stride = 0

/-- The target for a code point of the entry: its first number moves along with the code point. -/
def image (entry : Entry) (point : Nat) : List Nat :=
  entry.target.modifyHead fun start => start + (point - entry.first)

end Entry

namespace Table

def find? (table : Table) (c : Char) : Option Entry := List.find? (·.covers c.toNat) table

def contains (table : Table) (c : Char) : Bool := table.any (·.covers c.toNat)

/-- The words between blanks and line ends. -/
def words (text : String) : List (List Char) :=
  (text.toList.foldr (fun c words =>
    if c = ' ' ∨ c = '\n' then [] :: words
    else match words with
      | [] => [[c]]
      | word :: rest => (c :: word) :: rest) [[]]).filter (· ≠ [])

def hexadecimal? (digits : List Char) : Option Nat := Text.digitsIn 16 digits

def span? (word : List Char) : Option (Nat × Nat × Nat) := do
  match word.contains '/', Text.pieces '/' word, Text.pieces '-' word with
  | true, [first, last], _ => return (← hexadecimal? first, ← hexadecimal? last, 2)
  | false, _, [first, last] => return (← hexadecimal? first, ← hexadecimal? last, 1)
  | false, _, [only] => return (← hexadecimal? only, ← hexadecimal? only, 1)
  | _, _, _ => none

def entry? (word : List Char) : Option Entry := do
  match Text.pieces '>' word with
  | [points] =>
    let (first, last, stride) ← span? points
    return ⟨first, last, stride, []⟩
  | [points, target] =>
    let (first, last, stride) ← span? points
    return ⟨first, last, stride, ← (Text.pieces '.' target).mapM hexadecimal?⟩
  | _ => none

def ofText (text : String) : Table := (words text).filterMap entry?

end Table

end Conduit.Unicode
