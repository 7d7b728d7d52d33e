/-!
# UTF-8

Bytes are read one at a time. Between characters the next byte opens a character; inside one it
has to lie in a range that depends on the bytes before it, which is what excludes overlong forms,
surrogates and everything above U+10FFFF. A refusal names the index at which the character began
and how many of its bytes could still have opened one, so the bytes before that index are the
longest well-formed beginning. A text that ends inside a character is incomplete, not invalid.
-/
namespace Conduit.Text.Utf8

abbrev Bytes := List UInt8

/-- A character of which the first bytes have been read: how many, how many are owed after the
next one, the range of the next one, and the bits gathered so far. -/
structure Begun where
  seen : Nat
  owed : Nat
  low : UInt8
  high : UInt8
  bits : Nat
deriving DecidableEq, Repr

inductive Step where
  | whole (c : Char)
  | begun (state : Begun)
  | refused
deriving DecidableEq, Repr

def first (b : UInt8) : Step :=
  if b < 0x80 then .whole (Char.ofNat b.toNat)
  else if b < 0xC2 then .refused
  else if b < 0xE0 then .begun ⟨1, 0, 0x80, 0xBF, b.toNat - 0xC0⟩
  else if b < 0xF0 then
    .begun ⟨1, 1, if b = 0xE0 then 0xA0 else 0x80, if b = 0xED then 0x9F else 0xBF, b.toNat - 0xE0⟩
  else if b < 0xF5 then
    .begun ⟨1, 2, if b = 0xF0 then 0x90 else 0x80, if b = 0xF4 then 0x8F else 0xBF, b.toNat - 0xF0⟩
  else .refused

def Begun.next (state : Begun) (b : UInt8) : Step :=
  if state.low ≤ b ∧ b ≤ state.high then
    let bits := 64 * state.bits + (b.toNat - 0x80)
    match state.owed with
    | 0 => .whole (Char.ofNat bits)
    | owed + 1 => .begun ⟨state.seen + 1, owed, 0x80, 0xBF, bits⟩
  else .refused

inductive Fault where
  /-- The bytes at the index, as many as the length says, open no character. -/
  | invalid (index length : Nat)
  /-- The text ends inside the character that began at the index. -/
  | incomplete (index : Nat)
deriving DecidableEq, Repr

def Fault.message : Fault → String
  | .invalid index length => s!"invalid utf-8 sequence of {length} bytes from index {index}"
  | .incomplete index => s!"incomplete utf-8 byte sequence from index {index}"

/-- Reads on at `index`, where the current character began. -/
def decodeFrom : Nat → Option Begun → Bytes → Except Fault (List Char)
  | _, none, [] => .ok []
  | index, some _, [] => .error (.incomplete index)
  | index, none, b :: rest =>
    match first b with
    | .whole c => (decodeFrom (index + 1) none rest).map (c :: ·)
    | .begun state => decodeFrom index (some state) rest
    | .refused => .error (.invalid index 1)
  | index, some state, b :: rest =>
    match state.next b with
    | .whole c => (decodeFrom (index + state.seen + 1) none rest).map (c :: ·)
    | .begun further => decodeFrom index (some further) rest
    | .refused => .error (.invalid index state.seen)

def decode (bytes : Bytes) : Except Fault String :=
  (decodeFrom 0 none bytes).map String.ofList

def encodeChars (s : List Char) : Bytes := s.flatMap String.utf8EncodeChar

def encode (s : String) : Bytes := encodeChars s.toList

def replacement : Char := Char.ofNat 0xFFFD

/-- Reads what can be read: each stretch that opens no character becomes one replacement mark. -/
def mendFrom : Option Begun → Bytes → List Char
  | none, [] => []
  | some _, [] => [replacement]
  | none, b :: rest =>
    match first b with
    | .whole c => c :: mendFrom none rest
    | .begun state => mendFrom (some state) rest
    | .refused => replacement :: mendFrom none rest
  | some state, b :: rest =>
    match state.next b with
    | .whole c => c :: mendFrom none rest
    | .begun further => mendFrom (some further) rest
    | .refused =>
      replacement :: match first b with
        | .whole c => c :: mendFrom none rest
        | .begun opened => mendFrom (some opened) rest
        | .refused => replacement :: mendFrom none rest

def mend (bytes : Bytes) : String := String.ofList (mendFrom none bytes)

end Conduit.Text.Utf8
