import Conduit.Text.Utf8

/-!
# Patterns

A pattern describes texts. From a place in a text it leads to further places, one for each way in
which it can be passed; a text has the pattern if there is a way from any of its places. A
repetition counts its rounds: beyond the length of the text a round either is impossible or changes
nothing, so the rounds that are tried are bounded by it. Texts are taken byte by byte, each byte as
a character of its own, so a character beyond ASCII counts as often as it has bytes.
-/
namespace Conduit

open Text.Utf8

/-- The bytes of a text, each as a character. -/
def bytewise (s : String) : List Char := (encode s).map fun b => Char.ofNat b.toNat

/-- Characters by ranges, or all the others. -/
structure CharSet where
  ranges : List (Char × Char)
  inverted : Bool
deriving DecidableEq, Repr

namespace CharSet

def contains (set : CharSet) (c : Char) : Bool :=
  (set.ranges.any fun range => range.1 ≤ c && c ≤ range.2) != set.inverted

def single (c : Char) : CharSet := ⟨[(c, c)], false⟩

/-- Every character but the zero. -/
def any : CharSet := ⟨[(Char.ofNat 0, Char.ofNat 0)], true⟩

def letters : List (Char × Char) := [('A', 'Z'), ('a', 'z')]

def digits : List (Char × Char) := [('0', '9')]

def blanks : List (Char × Char) := [('\t', '\r'), (' ', ' ')]

/-- Letters, digits and the underscore. -/
def wordRanges : List (Char × Char) := letters ++ digits ++ [('_', '_')]

/-- The ranges of a class by its name. -/
def classRanges : List (String × List (Char × Char)) :=
  [("alpha", letters), ("digit", digits), ("alnum", letters ++ digits), ("upper", [('A', 'Z')]),
    ("lower", [('a', 'z')]), ("space", blanks), ("blank", [('\t', '\t'), (' ', ' ')]),
    ("punct", [('!', '/'), (':', '@'), ('[', '\x60'), ('\x7b', '~')]), ("print", [(' ', '~')]),
    ("graph", [('!', '~')]), ("cntrl", [(Char.ofNat 0, '\x1f'), ('\x7f', '\x7f')]),
    ("xdigit", digits ++ [('A', 'F'), ('a', 'f')])]

end CharSet

/-- What is asked of a place without passing a character. -/
inductive Anchor where
  | textStart
  | textEnd
  | wordStart
  | wordEnd
  | wordEdge
  | noWordEdge
deriving DecidableEq, Repr

/-- Whether the character at a place belongs to a word. -/
def isWordAt (text : Array Char) (i : Nat) : Bool :=
  text[i]?.any (CharSet.contains ⟨CharSet.wordRanges, false⟩)

def Anchor.holds (anchor : Anchor) (text : Array Char) (i : Nat) : Bool :=
  let before := 0 < i && isWordAt text (i - 1)
  let after := isWordAt text i
  match anchor with
  | textStart => i = 0
  | textEnd => i = text.size
  | wordStart => !before && after
  | wordEnd => before && !after
  | wordEdge => before != after
  | noWordEdge => before = after

inductive Pattern where
  | empty
  | one (set : CharSet)
  | anchor (anchor : Anchor)
  | sequence (first second : Pattern)
  | either (first second : Pattern)
  /-- At least so many rounds, and at most so many if there is a bound. -/
  | rounds (body : Pattern) (least : Nat) (most : Option Nat)
  /-- A group by its number. -/
  | group (number : Nat) (body : Pattern)
  /-- What the group of the number has passed, once more. -/
  | again (number : Nat)
deriving DecidableEq, Repr

/-- A place in a text, with what the groups have passed on the way. -/
structure Place where
  index : Nat
  groups : List (Nat × List Char)
deriving DecidableEq, Repr

namespace Pattern

/-- The places that exactly so many steps lead to. -/
def stepped (step : Place → List Place) : Nat → List Place → List Place
  | 0, places => places
  | n + 1, places => stepped step n (places.flatMap step).eraseDups

/-- The places that at most so many steps lead to. -/
def reached (step : Place → List Place) : Nat → List Place → List Place
  | 0, places => places
  | n + 1, places =>
    if places.isEmpty then []
    else (places ++ reached step n (places.flatMap step).eraseDups).eraseDups

/-- The places to which a pattern leads. -/
def next (text : Array Char) : Pattern → Place → List Place
  | empty, place => [place]
  | one set, place =>
    if text[place.index]?.any set.contains then [{ place with index := place.index + 1 }] else []
  | .anchor asked, place => if asked.holds text place.index then [place] else []
  | sequence first second, place => ((first.next text place).flatMap (second.next text)).eraseDups
  | either first second, place => (first.next text place ++ second.next text place).eraseDups
  | rounds body least most, place =>
    let bound := text.size + 1
    let further := (most.map (· - least)).getD bound
    reached (body.next text) (min further bound)
      (stepped (body.next text) (min least bound) [place])
  | group number body, place =>
    (body.next text place).map fun after =>
      let passed := (text.extract place.index after.index).toList
      { after with groups := (number, passed) :: after.groups.filter (·.1 ≠ number) }
  | again number, place =>
    match place.groups.lookup number with
    | none => []
    | some passed =>
      let index := place.index + passed.length
      if (text.extract place.index index).toList = passed then [{ place with index }] else []

/-- Whether a text has the pattern anywhere. -/
def isIn (pattern : Pattern) (s : String) : Bool :=
  let text := (bytewise s).toArray
  (List.range (text.size + 1)).any fun i => !(pattern.next text ⟨i, []⟩).isEmpty

end Pattern

end Conduit
