/-!
# Blank characters and trimming

Blank means the Unicode property White_Space: 25 code points in ten ranges, among them the line
separators and the ideographic space, but neither the zero-width space nor the byte order mark.
Trimming, blankness of a whole text and the pieces between separators are defined on lists of
characters, so that their laws are laws of `dropWhile` and `append`.
-/
namespace Conduit.Text

/-- The ranges of the property White_Space, ascending. -/
def blankRanges : List (Nat × Nat) :=
  [(0x09, 0x0D), (0x20, 0x20), (0x85, 0x85), (0xA0, 0xA0), (0x1680, 0x1680), (0x2000, 0x200A),
   (0x2028, 0x2029), (0x202F, 0x202F), (0x205F, 0x205F), (0x3000, 0x3000)]

def isBlank (c : Char) : Bool :=
  blankRanges.any fun range => range.1 ≤ c.toNat && c.toNat ≤ range.2

def trimStart (s : List Char) : List Char := s.dropWhile isBlank

def trimEnd (s : List Char) : List Char := (s.reverse.dropWhile isBlank).reverse

def trim (s : List Char) : List Char := trimEnd (trimStart s)

/-- A text without the blanks around it. -/
def trimmed (s : String) : String := String.ofList (trim s.toList)

/-- The empty text is blank too. -/
def blank (s : String) : Bool := s.toList.all isBlank

/-- The pieces between the marks. There is always one more piece than there are marks. -/
def pieces (mark : Char) : List Char → List (List Char)
  | [] => [[]]
  | c :: rest =>
    if c = mark then [] :: pieces mark rest
    else match pieces mark rest with
      | [] => [[c]]
      | piece :: more => (c :: piece) :: more

/-- The trimmed pieces of a comma-separated list; those that are blank do not count. -/
def listed (s : String) : List String :=
  ((pieces ',' s.toList).map fun piece => String.ofList (trim piece)).filter fun piece => piece ≠ ""

def joined (mark : String) (parts : List String) : String := mark.intercalate parts

/-- Upper case for the ASCII letters; every other character stays. -/
def upperAscii (s : String) : String := s.map Char.toUpper

def lowerAscii (s : String) : String := s.map Char.toLower

example : (blankRanges.map fun range => range.2 + 1 - range.1).sum = 25 := by decide

end Conduit.Text
