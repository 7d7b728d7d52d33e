import Conduit.Url.Percent

/-!
# Paths

A path is the list of its segments; it is written with a slash before each, so the root is the list
of one empty segment, and a path that ends in a slash has an empty last segment. In a written path
a single dot stands for nothing and two dots lead out of the segment before them, unless that names
a drive. Appending names to a path is different: a name that is one or two dots is left out, and any
other name is encoded so that it is one segment, once tabs and line ends have been dropped from it.
-/
namespace Conduit.Url

abbrev Path := List (List Char)

namespace Path

def chars (path : Path) : List Char := path.flatMap fun segment => '/' :: segment

/-- One dot, or its percent triple. -/
def isSingleDot (segment : List Char) : Bool :=
  [['.'], ['%', '2', 'e']].contains (segment.map Char.toLower)

/-- Two dots, each spelled either way. -/
def isDoubleDot (segment : List Char) : Bool :=
  [['.', '.'], ['.', '%', '2', 'e'], ['%', '2', 'e', '.'], ['%', '2', 'e', '%', '2', 'e']].contains
    (segment.map Char.toLower)

/-- A letter and a colon or a bar. -/
def isDrive : List Char → Bool
  | [letter, mark] => letter.isAlpha && (mark = ':' || mark = '|')
  | _ => false

/-- Where two dots lead: out of the last segment, but not out of a drive. -/
def parent (path : Path) : Path := if path.getLast?.any isDrive then path else path.dropLast

/-- Resolves the written segments one after the other; dots at the end leave an empty segment. -/
def resolve : Path → List (List Char) → Path
  | path, [] => path
  | path, [last] =>
    if isDoubleDot last then parent path ++ [[]]
    else if isSingleDot last then path ++ [[]]
    else path ++ [encode reservedInPath last]
  | path, segment :: rest =>
    if isDoubleDot segment then resolve (parent path) rest
    else if isSingleDot segment then resolve path rest
    else resolve (path ++ [encode reservedInPath segment]) rest

/-- The path without an empty last segment. -/
def base (path : Path) : Path := if path.getLast? = some [] then path.dropLast else path

def isRoot (path : Path) : Bool := path = [] || path = [[]]

/-- Adds a segment; the root has none of its own. -/
def push (path : Path) (segment : List Char) : Path :=
  if isRoot path then [segment] else path ++ [segment]

/-- Tabs and line ends are not part of an address. -/
def isDropped (c : Char) : Bool := c = '\t' || c = '\n' || c = '\r'

def cleaned (name : List Char) : List Char := name.filter fun c => !isDropped c

/-- Appends a name as one segment. -/
def append (path : Path) (name : List Char) : Path :=
  if name = ['.'] ∨ name = ['.', '.'] then path
  else if cleaned name = ['.', '.'] then push (parent path) []
  else if cleaned name = ['.'] then push path []
  else push path (encode reservedInSegment (cleaned name))

def extend (path : Path) (names : List String) : Path :=
  names.foldl (fun path name => append path name.toList) (base path)

end Path

end Conduit.Url
