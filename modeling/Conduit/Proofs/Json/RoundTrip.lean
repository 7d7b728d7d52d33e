import Conduit.Json.Printer
import Conduit.Proofs.Json.Grammar

/-!
# Reading back a written document

A document is printable if its strings have texts and its numerals are well formed. What is written
for it in the compact form spells it, so it is read back as the same document. The proof follows the
document.
-/
namespace Conduit.Json

open Number Text.Utf8

mutual

/-- What is written for the document tells all of it. -/
def Printable : Json → Prop
  | .null => True
  | .bool _ => True
  | .number n => n.WellFormed
  | .text s => s.isSome
  | .array items => PrintableItems items
  | .object members => PrintableMembers members

def PrintableItems : List Json → Prop
  | [] => True
  | item :: rest => item.Printable ∧ PrintableItems rest

def PrintableMembers : List (Option String × Json) → Prop
  | [] => True
  | (name, value) :: rest => name.isSome ∧ value.Printable ∧ PrintableMembers rest

end

/-! ### Strings -/

/-- A byte that stands for itself in a string. -/
def Plain (b : UInt8) : Prop := b ≠ 0x22 ∧ b ≠ 0x5C ∧ ¬b < 0x20

/-- A string of which so many bytes were read, last first. -/
def spelling (bytes : Bytes) : Spelling := ⟨bytes, none, true⟩

theorem Spelling.Continues.trans {s t u : Spelling} {inside more : Bytes}
    (first : s.Continues inside t) (second : t.Continues more u) :
    s.Continues (inside ++ more) u := by
  induction first with
  | done => exact second
  | plain noQuote noEscape noControl further ih =>
    exact .plain noQuote noEscape noControl (ih second)
  | escape escapes further ih => exact .escape escapes (ih second)
  | unit four hex further ih =>
    rw [List.cons_append, List.cons_append, List.append_assoc]
    exact .unit four hex (ih second)

theorem continues_plain {more : Bytes} (plain : ∀ b ∈ more, Plain b) (bytes : Bytes) :
    (spelling bytes).Continues more (spelling (more.reverse ++ bytes)) := by
  -- Nothing waits for a second half here, so every byte is appended as it is.
  induction more generalizing bytes with
  | nil => exact .done _
  | cons b more ih =>
    obtain ⟨noQuote, noEscape, noControl⟩ := plain b List.mem_cons_self
    have further := ih (fun b member => plain b (List.mem_cons_of_mem _ member)) (b :: bytes)
    rw [List.reverse_cons, List.append_assoc]
    exact .plain noQuote noEscape (UInt8.not_lt.mp noControl) further

theorem plain_of_mem {c : Char} (noQuote : c ≠ '"') (noEscape : c ≠ '\\')
    (noControl : ¬c.toNat < 0x20) {b : UInt8} (member : b ∈ String.utf8EncodeChar c) : Plain b := by
  -- Within ASCII a character is its own byte; outside all bytes are too high to be marks.
  by_cases ascii : c.toNat < 0x80
  · rw [utf8EncodeChar_of_ascii ascii, List.mem_singleton] at member
    subst member
    have value : (UInt8.ofNat c.toNat).toNat = c.toNat :=
      UInt8.toNat_ofNat_of_lt' (by omega : c.toNat < 256)
    refine ⟨fun same => ?_, fun same => ?_, ?_⟩
    · have := congrArg UInt8.toNat same
      exact noQuote (Char.toNat_inj.mp (value ▸ this))
    · have := congrArg UInt8.toNat same
      exact noEscape (Char.toNat_inj.mp (value ▸ this))
    · rw [UInt8.lt_iff_toNat_lt, value]
      exact noControl
  · have high := le_of_mem_utf8EncodeChar (Nat.not_lt.mp ascii) member
    rw [UInt8.le_iff_toNat_le] at high
    simp only [UInt8.reduceToNat] at high
    refine ⟨?_, ?_, ?_⟩
    · rintro rfl
      simp at high
    · rintro rfl
      simp at high
    · rw [UInt8.lt_iff_toNat_lt]
      simp only [UInt8.reduceToNat]
      omega

private theorem hexDigit : ∀ d < 16,
    String.utf8EncodeChar (Text.Hex.digit d) = [UInt8.ofNat (Text.Hex.digit d).toNat] ∧
      Text.Hex.value? (UInt8.ofNat (Text.Hex.digit d).toNat) = some d := by
  decide

/-- A control character by its number. -/
private theorem continues_unit {c : Char} (control : c.toNat < 0x20) (bytes : Bytes) :
    (spelling bytes).Continues (encodeChars ['\\', 'u', '0', '0', Text.Hex.digit (c.toNat / 16),
      Text.Hex.digit (c.toNat % 16)]) (spelling ((String.utf8EncodeChar c).reverse ++ bytes)) := by
  obtain ⟨highByte, highValue⟩ := hexDigit (c.toNat / 16) (by omega)
  obtain ⟨lowByte, lowValue⟩ := hexDigit (c.toNat % 16) (by omega)
  have whole : 16 * (c.toNat / 16) + c.toNat % 16 = c.toNat := by omega
  -- A control character is no half of a pair, so it is appended at once.
  have unit : (spelling bytes).appendUnit c.toNat =
      spelling ((String.utf8EncodeChar c).reverse ++ bytes) := by
    have noTrail : ¬(0xDC00 ≤ c.toNat ∧ c.toNat < 0xE000) := by omega
    have noLead : ¬(0xD800 ≤ c.toNat ∧ c.toNat < 0xDC00) := by omega
    rw [Spelling.appendUnit, if_neg noTrail, if_neg noLead, Char.ofNat_toNat]
    rfl
  have encoded : encodeChars ['\\', 'u', '0', '0', Text.Hex.digit (c.toNat / 16),
      Text.Hex.digit (c.toNat % 16)] = 0x5C :: 0x75 :: ([0x30, 0x30,
        UInt8.ofNat (Text.Hex.digit (c.toNat / 16)).toNat,
        UInt8.ofNat (Text.Hex.digit (c.toNat % 16)).toNat] ++ []) := by
    simp only [encodeChars, List.flatMap_cons, List.flatMap_nil, highByte, lowByte]
    rfl
  have zero : Text.Hex.value? 0x30 = some 0 := rfl
  have hex : hexUnit 0 [0x30, 0x30, UInt8.ofNat (Text.Hex.digit (c.toNat / 16)).toNat,
      UInt8.ofNat (Text.Hex.digit (c.toNat % 16)).toNat] = some c.toNat := by
    simp [hexUnit, zero, highValue, lowValue, whole]
  rw [encoded, ← unit]
  exact .unit rfl hex (.done _)

/-- However a character is written, it adds its own bytes. -/
theorem continues_escaped (c : Char) (bytes : Bytes) :
    (spelling bytes).Continues (encodeChars (escaped c))
      (spelling ((String.utf8EncodeChar c).reverse ++ bytes)) := by
  have named {n : Nat} (value : c.toNat = n) : c = Char.ofNat n := by rw [← value, Char.ofNat_toNat]
  have letter {b byte : UInt8} (escapes : Reader.escape? b = some byte) :
      (spelling bytes).Continues [0x5C, b] (spelling (byte :: bytes)) := .escape escapes (.done _)
  -- One case for each way to write a character, in the order in which the writer tries them.
  unfold escaped
  split
  next quote =>
    subst quote
    exact letter rfl
  split
  next escape =>
    subst escape
    exact letter rfl
  split
  next backspace =>
    rw [named backspace]
    exact letter rfl
  split
  next tab =>
    rw [named tab]
    exact letter rfl
  split
  next lineFeed =>
    rw [named lineFeed]
    exact letter rfl
  split
  next formFeed =>
    rw [named formFeed]
    exact letter rfl
  split
  next carriageReturn =>
    rw [named carriageReturn]
    exact letter rfl
  split
  next control =>
    exact continues_unit control bytes
  next noQuote noEscape _ _ _ _ _ noControl =>
    rw [encodeChars, List.flatMap_cons, List.flatMap_nil, List.append_nil]
    exact continues_plain (fun b member => plain_of_mem noQuote noEscape noControl member) bytes

theorem continues_characters (s : List Char) (bytes : Bytes) :
    (spelling bytes).Continues (encodeChars (s.flatMap escaped))
      (spelling ((encodeChars s).reverse ++ bytes)) := by
  induction s generalizing bytes with
  | nil => exact .done _
  | cons c s ih =>
    have further := (continues_escaped c bytes).trans (ih _)
    rw [List.flatMap_cons, encodeChars_append]
    simpa [encodeChars] using further

/-- A text between quotes spells itself. -/
theorem spelled_quoted (s : String) : Token.Spelled (.text (some s)) (encodeChars (quoted s)) := by
  have encoded : encodeChars (quoted s) =
      0x22 :: (encodeChars (s.toList.flatMap escaped) ++ [0x22]) :=
    encodeChars_append ('"' :: s.toList.flatMap escaped) ['"']
  -- The bytes of the string are gathered last one first and decoded at the closing quote.
  have spelled : (spelling ((encodeChars s.toList).reverse ++ [])).text? = some s := by
    simp only [Spelling.text?, spelling, List.append_nil, List.reverse_reverse, decode_encodeChars,
      String.ofList_toList]
    rfl
  rw [encoded, ← spelled]
  exact .text (continues_characters s.toList [])

/-! ### Documents -/

theorem ends_mark : ∀ (mark : Punctuation) (rest : Bytes), Ends (mark.byte :: rest) := by
  rintro (_ | _ | _ | _ | _ | _) rest <;> exact ⟨rfl, by decide, rfl⟩

theorem Spaced.mark {tokens : List Token} {rest : Bytes} (spaced : Spaced tokens rest)
    (mark : Punctuation) :
    Spaced (.mark mark :: tokens) (mark.byte :: rest) :=
  .token (.mark mark) trivial spaced

mutual

theorem spaced_compact : ∀ (json : Json) {tokens : List Token} {rest : Bytes},
    json.Printable → Ends rest → Spaced tokens rest →
    Spaced (json.tokens ++ tokens) (encodeChars json.compact ++ rest)
  | .null, _, _, _, _, further => .token .null trivial further
  | .bool true, _, _, _, _, further => .token .true trivial further
  | .bool false, _, _, _, _, further => .token .false trivial further
  | .number n, _, _, printable, ends, further => by
    rw [Printable] at printable
    rw [compact]
    exact .token (.number printable (PartNumeral.map_smallMark_chars n)) ends further
  -- A string without a text is written as something else, but it is not printable.
  | .text none, _, _, printable, _, _ => by simp [Printable] at printable
  | .text (some s), _, _, _, _, further => .token (spelled_quoted s) trivial further
  | .array items, tokens, rest, printable, _, further => by
    rw [Printable] at printable
    have written : encodeChars (compact (.array items)) ++ rest =
        0x5B :: (encodeChars (compactItems items) ++ 0x5D :: rest) := by
      rw [compact, encodeChars_append ('[' :: compactItems items) [']'], List.append_assoc]
      rfl
    rw [written, Json.tokens, List.cons_append, List.append_assoc]
    exact (spaced_items items printable further).mark .openArray
  | .object members, tokens, rest, printable, _, further => by
    rw [Printable] at printable
    have written : encodeChars (compact (.object members)) ++ rest =
        0x7B :: (encodeChars (compactMembers members) ++ 0x7D :: rest) := by
      rw [compact, encodeChars_append ('\x7b' :: compactMembers members) ['\x7d'],
        List.append_assoc]
      rfl
    rw [written, Json.tokens, List.cons_append, List.append_assoc]
    exact (spaced_members members printable further).mark .openObject

theorem spaced_items : ∀ (items : List Json) {tokens : List Token} {rest : Bytes},
    PrintableItems items → Spaced tokens rest →
    Spaced (tokensOfItems items ++ .mark .closeArray :: tokens)
      (encodeChars (compactItems items) ++ 0x5D :: rest)
  | [], _, _, _, further => further.mark .closeArray
  -- Behind the last item stands the bracket, behind any other one a comma.
  | [item], _, _, printable, further => by
    rw [PrintableItems] at printable
    rw [compactItems, tokensOfItems]
    exact spaced_compact item printable.1 (ends_mark .closeArray _) (further.mark .closeArray)
  | item :: next :: others, tokens, rest, printable, further => by
    rw [PrintableItems] at printable
    have written : encodeChars (compactItems (item :: next :: others)) ++ 0x5D :: rest =
        encodeChars item.compact ++
          0x2C :: (encodeChars (compactItems (next :: others)) ++ 0x5D :: rest) := by
      rw [compactItems, encodeChars_append, List.append_assoc]
      rfl
    rw [written, tokensOfItems, List.append_assoc]
    exact spaced_compact item printable.1 (ends_mark .comma _)
      ((spaced_items (next :: others) printable.2 further).mark .comma)

theorem spaced_members : ∀ (members : List (Option String × Json)) {tokens : List Token}
    {rest : Bytes}, PrintableMembers members → Spaced tokens rest →
    Spaced (tokensOfMembers members ++ .mark .closeObject :: tokens)
      (encodeChars (compactMembers members) ++ 0x7D :: rest)
  | [], _, _, _, further => further.mark .closeObject
  -- A member without a name is not printable.
  | (none, value) :: others, _, _, printable, _ => by simp [PrintableMembers] at printable
  | [(some name, value)], tokens, rest, printable, further => by
    rw [PrintableMembers] at printable
    have written : encodeChars (compactMembers [(some name, value)]) ++ 0x7D :: rest =
        encodeChars (quoted name) ++ 0x3A :: (encodeChars value.compact ++ 0x7D :: rest) := by
      rw [compactMembers, encodeChars_append, List.append_assoc]
      rfl
    rw [written, tokensOfMembers]
    have last := spaced_compact value printable.2.1 (ends_mark .closeObject _)
      (further.mark .closeObject)
    exact .token (spelled_quoted name) trivial (last.mark .colon)
  | (some name, value) :: next :: others, tokens, rest, printable, further => by
    rw [PrintableMembers] at printable
    have written :
        encodeChars (compactMembers ((some name, value) :: next :: others)) ++ 0x7D :: rest =
          encodeChars (quoted name) ++ 0x3A :: (encodeChars value.compact ++
            0x2C :: (encodeChars (compactMembers (next :: others)) ++ 0x7D :: rest)) := by
      rw [compactMembers, encodeChars_append, encodeChars_append, List.append_assoc,
        List.append_assoc]
      rfl
    rw [written, tokensOfMembers, List.cons_append, List.cons_append, List.append_assoc]
    have others := (spaced_members (next :: others) printable.2.2 further).mark .comma
    exact .token (spelled_quoted name) trivial
      ((spaced_compact value printable.2.1 (ends_mark .comma _) others).mark .colon)

end

/-- A printable document is read back as it was. -/
theorem read_compact {json : Json} (printable : json.Printable) :
    read (encodeChars json.compact) = some json := by
  have ends : Ends [] := trivial
  have spells := spaced_compact json printable ends .done
  rw [List.append_nil, List.append_nil] at spells
  exact read_eq_some_iff.mpr spells

end Conduit.Json
