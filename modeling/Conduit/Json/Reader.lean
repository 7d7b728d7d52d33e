import Conduit.Json.Basic
import Conduit.Text.Hex

/-!
# Reading documents

The reader is a machine that takes one byte at a time. It keeps the token that is being read, the
containers that are open, innermost first, and what may come next. A number ends at the first byte
that does not continue it, and that byte is then taken as the start of the next token. Because the
containers are held in a list, nesting of any depth is read; how deep a decoder looks is its own
affair. The bytes of a string are gathered first and checked to be UTF-8 at its end, so a string
with ill-formed bytes is a string without text.
-/
namespace Conduit.Json

open Number Text.Utf8

/-- A string of which part has been read: its bytes, last first, a leading surrogate that awaits
its partner, and whether all surrogates so far were paired. -/
structure Spelling where
  bytes : Bytes
  lead : Option Nat
  paired : Bool

namespace Spelling

def empty : Spelling := ⟨[], none, true⟩

/-- Adds bytes that complete no surrogate pair. -/
def append (s : Spelling) (more : Bytes) : Spelling :=
  ⟨more.reverse ++ s.bytes, none, s.paired && s.lead.isNone⟩

/-- Adds a 16-bit unit given by an escape. -/
def appendUnit (s : Spelling) (unit : Nat) : Spelling :=
  if 0xDC00 ≤ unit ∧ unit < 0xE000 then
    match s.lead with
    | some lead =>
      let c := Char.ofNat (0x10000 + (lead - 0xD800) * 0x400 + (unit - 0xDC00))
      ⟨(String.utf8EncodeChar c).reverse ++ s.bytes, none, s.paired⟩
    | none => ⟨s.bytes, none, false⟩
  else if 0xD800 ≤ unit ∧ unit < 0xDC00 then ⟨s.bytes, some unit, s.paired && s.lead.isNone⟩
  else s.append (String.utf8EncodeChar (Char.ofNat unit))

/-- The text of a finished string. -/
def text? (s : Spelling) : Option String :=
  if s.paired && s.lead.isNone then (decode s.bytes.reverse).toOption else none

end Spelling

/-- Where a numeral stands between two of its bytes. -/
inductive NumeralPhase where
  | sign
  | zero
  | whole
  | point
  | fraction
  | mark
  | markSign
  | exponent
deriving DecidableEq, Repr

/-- A numeral of which part has been read; digits are kept last first. -/
structure PartNumeral where
  phase : NumeralPhase
  negative : Bool
  whole : List Digit
  fraction : List Digit
  exponentSign : ExponentSign
  exponent : List Digit

def digit? (b : UInt8) : Option Digit :=
  if 0x30 ≤ b ∧ b ≤ 0x39 then some (.ofNat (b.toNat - 0x30)) else none

namespace PartNumeral

def start (b : UInt8) : Option PartNumeral :=
  if b = 0x2D then some ⟨.sign, true, [], [], .none, []⟩
  else match digit? b with
    | some d => some ⟨if d.isZero then .zero else .whole, false, [d], [], .none, []⟩
    | none => none

def isMark (b : UInt8) : Bool := b = 0x65 || b = 0x45

/-- After the whole digits come a point, an exponent mark or the end. -/
def afterWhole (n : PartNumeral) (b : UInt8) : Option PartNumeral :=
  if b = 0x2E then some { n with phase := .point }
  else if isMark b then some { n with phase := .mark }
  else none

/-- The byte continues the numeral, or there is no result. -/
def next (n : PartNumeral) (b : UInt8) : Option PartNumeral :=
  match n.phase, digit? b with
  | .sign, some d => some { n with phase := if d.isZero then .zero else .whole, whole := [d] }
  | .sign, none => none
  | .zero, some _ => none
  | .zero, none => n.afterWhole b
  | .whole, some d => some { n with whole := d :: n.whole }
  | .whole, none => n.afterWhole b
  | .point, some d => some { n with phase := .fraction, fraction := d :: n.fraction }
  | .point, none => none
  | .fraction, some d => some { n with fraction := d :: n.fraction }
  | .fraction, none => if isMark b then some { n with phase := .mark } else none
  | .mark, some d => some { n with phase := .exponent, exponent := d :: n.exponent }
  | .mark, none =>
    if b = 0x2B then some { n with phase := .markSign, exponentSign := .plus }
    else if b = 0x2D then some { n with phase := .markSign, exponentSign := .minus }
    else none
  | .markSign, some d => some { n with phase := .exponent, exponent := d :: n.exponent }
  | .markSign, none => none
  | .exponent, some d => some { n with exponent := d :: n.exponent }
  | .exponent, none => none

/-- The numeral may end here. -/
def numeral? (n : PartNumeral) : Option Numeral :=
  let fraction := if n.fraction.isEmpty then none else some n.fraction.reverse
  match n.phase with
  | .zero | .whole | .fraction => some ⟨n.negative, n.whole.reverse, fraction, none⟩
  | .exponent =>
    some ⟨n.negative, n.whole.reverse, fraction, some ⟨n.exponentSign, n.exponent.reverse⟩⟩
  | .sign | .point | .mark | .markSign => none

end PartNumeral

/-- The token that is being read. -/
inductive Lexeme where
  | between
  | word (rest : Bytes) (value : Json)
  | string (s : Spelling)
  | escape (s : Spelling)
  | unit (s : Spelling) (digits : Nat) (value : Nat)
  | numeral (n : PartNumeral)

/-- An open container. Items and members are kept last first; an object stands apart from the
member whose value is being read. -/
inductive Frame where
  | array (items : List Json)
  | object (members : List (Option String × Json))
  | member (members : List (Option String × Json)) (name : Option String)

/-- What may come next. -/
inductive Expectation where
  | value
  | itemOrEnd
  | nameOrEnd
  | name
  | colon
  | separator
  | finished (json : Json)

inductive Punctuation where
  | openArray
  | closeArray
  | openObject
  | closeObject
  | comma
  | colon
deriving DecidableEq, Repr

structure Reader where
  lexeme : Lexeme
  stack : List Frame
  expects : Expectation

namespace Reader

def initial : Reader := ⟨.between, [], .value⟩

/-- A value has been read completely: it is the document, an item or the value of a member. -/
def complete (value : Json) : List Frame → Option Reader
  | [] => some ⟨.between, [], .finished value⟩
  | .array items :: stack => some ⟨.between, .array (value :: items) :: stack, .separator⟩
  | .member members name :: stack =>
    some ⟨.between, .object ((name, value) :: members) :: stack, .separator⟩
  | .object _ :: _ => none

/-- A value that is no container. -/
def scalar (value : Json) (reader : Reader) : Option Reader :=
  match reader.expects with
  | .value | .itemOrEnd => complete value reader.stack
  | _ => none

/-- A string is a value, or the name of a member. -/
def string (s : Option String) (reader : Reader) : Option Reader :=
  match reader.expects, reader.stack with
  | .name, .object members :: stack | .nameOrEnd, .object members :: stack =>
    some ⟨.between, .member members s :: stack, .colon⟩
  | _, _ => scalar (.text s) reader

def punctuation (mark : Punctuation) (reader : Reader) : Option Reader :=
  match mark, reader.expects, reader.stack with
  | .openArray, .value, stack | .openArray, .itemOrEnd, stack =>
    some ⟨.between, .array [] :: stack, .itemOrEnd⟩
  | .openObject, .value, stack | .openObject, .itemOrEnd, stack =>
    some ⟨.between, .object [] :: stack, .nameOrEnd⟩
  | .closeArray, .itemOrEnd, .array items :: stack
  | .closeArray, .separator, .array items :: stack => complete (.array items.reverse) stack
  | .closeObject, .nameOrEnd, .object members :: stack
  | .closeObject, .separator, .object members :: stack => complete (.object members.reverse) stack
  | .comma, .separator, .array items :: stack => some ⟨.between, .array items :: stack, .value⟩
  | .comma, .separator, .object members :: stack =>
    some ⟨.between, .object members :: stack, .name⟩
  | .colon, .colon, stack => some ⟨.between, stack, .value⟩
  | _, _, _ => none

def isSpace (b : UInt8) : Bool := b = 0x20 || b = 0x09 || b = 0x0A || b = 0x0D

def punctuation? (b : UInt8) : Option Punctuation :=
  if b = 0x5B then some .openArray
  else if b = 0x5D then some .closeArray
  else if b = 0x7B then some .openObject
  else if b = 0x7D then some .closeObject
  else if b = 0x2C then some .comma
  else if b = 0x3A then some .colon
  else none

/-- The bytes of a word after its first one, and its value. -/
def word? (b : UInt8) : Option (Bytes × Json) :=
  if b = 0x74 then some ([0x72, 0x75, 0x65], .bool true)
  else if b = 0x66 then some ([0x61, 0x6C, 0x73, 0x65], .bool false)
  else if b = 0x6E then some ([0x75, 0x6C, 0x6C], .null)
  else none

/-- A byte between two tokens. -/
def begin (b : UInt8) (reader : Reader) : Option Reader :=
  if isSpace b then some { reader with lexeme := .between }
  else match punctuation? b with
    | some mark => punctuation mark reader
    | none =>
      if b = 0x22 then some { reader with lexeme := .string .empty }
      else match word? b with
        | some (rest, value) => some { reader with lexeme := .word rest value }
        | none => (PartNumeral.start b).map fun n => { reader with lexeme := .numeral n }

/-- The byte that a letter after a backslash stands for. -/
def escape? (b : UInt8) : Option UInt8 :=
  if b = 0x22 ∨ b = 0x5C ∨ b = 0x2F then some b
  else if b = 0x62 then some 0x08
  else if b = 0x66 then some 0x0C
  else if b = 0x6E then some 0x0A
  else if b = 0x72 then some 0x0D
  else if b = 0x74 then some 0x09
  else none

def step (reader : Reader) (b : UInt8) : Option Reader :=
  match reader.lexeme with
  | .between => reader.begin b
  | .word [] _ => none
  | .word (expected :: rest) value =>
    if b = expected then
      if rest.isEmpty then reader.scalar value else some { reader with lexeme := .word rest value }
    else none
  | .string s =>
    if b = 0x22 then reader.string s.text?
    else if b = 0x5C then some { reader with lexeme := .escape s }
    else if b < 0x20 then none
    else some { reader with lexeme := .string (s.append [b]) }
  | .escape s =>
    if b = 0x75 then some { reader with lexeme := .unit s 4 0 }
    else (escape? b).map fun byte => { reader with lexeme := .string (s.append [byte]) }
  | .unit s digits value =>
    match Text.Hex.value? b, digits with
    | some d, left + 2 => some { reader with lexeme := .unit s (left + 1) (16 * value + d) }
    | some d, _ => some { reader with lexeme := .string (s.appendUnit (16 * value + d)) }
    | none, _ => none
  | .numeral n =>
    match n.next b with
    | some further => some { reader with lexeme := .numeral further }
    | none => do
      let numeral ← n.numeral?
      let settled ← reader.scalar (.number numeral)
      settled.begin b

/-- The document, if the bytes may end here. -/
def finish (reader : Reader) : Option Json :=
  match reader.lexeme, reader.expects with
  | .between, .finished json => some json
  | .numeral n, _ => do
    let numeral ← n.numeral?
    match (← reader.scalar (.number numeral)).expects with
    | .finished json => some json
    | _ => none
  | _, _ => none

end Reader

/-- The one document that the bytes spell. -/
def read (bytes : Bytes) : Option Json := do
  let reader ← bytes.foldlM Reader.step Reader.initial
  reader.finish

def readText (s : String) : Option Json := read (encode s)

end Conduit.Json
