import Conduit.Json.Basic
import Conduit.Text.Hex

/-!
# Writing documents

Strings escape the quotation mark, the backslash and the control characters below U+0020, five of
them by a letter and the others by four hexadecimal digits; everything else stands for itself. The
compact form has no blanks. The indented form puts each item on a line of its own, two blanks
deeper than its container, and keeps empty containers together.
-/
namespace Conduit.Json

def escaped (c : Char) : List Char :=
  if c = '"' then ['\\', '"']
  else if c = '\\' then ['\\', '\\']
  else if c.toNat = 0x08 then ['\\', 'b']
  else if c.toNat = 0x09 then ['\\', 't']
  else if c.toNat = 0x0A then ['\\', 'n']
  else if c.toNat = 0x0C then ['\\', 'f']
  else if c.toNat = 0x0D then ['\\', 'r']
  else if c.toNat < 0x20 then
    ['\\', 'u', '0', '0', Text.Hex.digit (c.toNat / 16), Text.Hex.digit (c.toNat % 16)]
  else [c]

def quoted (s : String) : List Char := '"' :: s.toList.flatMap escaped ++ ['"']

/-- A string that spells no text has no written form of its own; it is written as the empty one. -/
def quotedText (s : Option String) : List Char := quoted (s.getD "")

def boolChars (value : Bool) : List Char := if value then "true".toList else "false".toList

mutual

/-- The document without blanks. -/
def compact : Json → List Char
  | .null => "null".toList
  | .bool value => boolChars value
  | .number n => n.chars
  | .text s => quotedText s
  | .array items => '[' :: compactItems items ++ [']']
  | .object members => '\x7b' :: compactMembers members ++ ['\x7d']

def compactItems : List Json → List Char
  | [] => []
  | [item] => item.compact
  | item :: next :: rest => item.compact ++ ',' :: compactItems (next :: rest)

def compactMembers : List (Option String × Json) → List Char
  | [] => []
  | [(name, value)] => quotedText name ++ ':' :: value.compact
  | (name, value) :: next :: rest =>
    quotedText name ++ ':' :: value.compact ++ ',' :: compactMembers (next :: rest)

end

def lineBreak (depth : Nat) : List Char := '\n' :: List.replicate (2 * depth) ' '

mutual

/-- The document over several lines, its first line starting at some depth. -/
def indented (depth : Nat) : Json → List Char
  | .array [] => ['[', ']']
  | .object [] => ['\x7b', '\x7d']
  | .null => "null".toList
  | .bool value => boolChars value
  | .number n => n.chars
  | .text s => quotedText s
  | .array items => '[' :: indentedItems (depth + 1) items ++ lineBreak depth ++ [']']
  | .object members => '\x7b' :: indentedMembers (depth + 1) members ++ lineBreak depth ++ ['\x7d']

def indentedItems (depth : Nat) : List Json → List Char
  | [] => []
  | [item] => lineBreak depth ++ item.indented depth
  | item :: next :: rest =>
    lineBreak depth ++ item.indented depth ++ ',' :: indentedItems depth (next :: rest)

def indentedMembers (depth : Nat) : List (Option String × Json) → List Char
  | [] => []
  | [(name, value)] => lineBreak depth ++ quotedText name ++ ':' :: ' ' :: value.indented depth
  | (name, value) :: next :: rest =>
    lineBreak depth ++ quotedText name ++ ':' :: ' ' :: value.indented depth
      ++ ',' :: indentedMembers depth (next :: rest)

end

def compactText (json : Json) : String := String.ofList json.compact

def indentedText (json : Json) : String := String.ofList (json.indented 0)

end Conduit.Json
