import Conduit.Proofs.Json.Numeral
import Conduit.Proofs.Json.Tokens

/-!
# How tokens are spelled

A mark is one byte and a word is its letters. A numeral is spelled by its characters, a string by
bytes that stand for themselves and by escapes, between quotes. A token that is spelled is taken as
a whole, whatever comes after it; only a numeral has to be followed by a byte that continues no
numeral.
-/
namespace Conduit.Json

open Number Text.Utf8

def Punctuation.byte : Punctuation → UInt8
  | openArray => 0x5B
  | closeArray => 0x5D
  | openObject => 0x7B
  | closeObject => 0x7D
  | comma => 0x2C
  | colon => 0x3A

/-- The unit that hexadecimal digits give, after the digits before them. -/
def hexUnit (start : Nat) (digits : Bytes) : Option Nat :=
  digits.foldlM (fun value b => (Text.Hex.value? b).map (16 * value + ·)) start

/-- The bytes of a string that lead from one part of it to another. -/
inductive Spelling.Continues : Spelling → Bytes → Spelling → Prop where
  | done (s : Spelling) : Continues s [] s
  | plain {s t : Spelling} {b : UInt8} {inside : Bytes} (noQuote : b ≠ 0x22) (noEscape : b ≠ 0x5C)
      (noControl : 0x20 ≤ b) (further : Continues (s.append [b]) inside t) :
      Continues s (b :: inside) t
  | escape {s t : Spelling} {letter byte : UInt8} {inside : Bytes}
    (escapes : Reader.escape? letter = some byte) (further : Continues (s.append [byte]) inside t) :
      Continues s (0x5C :: letter :: inside) t
  | unit {s t : Spelling} {digits inside : Bytes} {unit : Nat} (four : digits.length = 4)
      (hex : hexUnit 0 digits = some unit) (further : Continues (s.appendUnit unit) inside t) :
      Continues s (0x5C :: 0x75 :: (digits ++ inside)) t

inductive Token.Spelled : Token → Bytes → Prop where
  | mark (mark : Punctuation) : Spelled (.mark mark) [mark.byte]
  | null : Spelled .null (encode "null")
  | true : Spelled (.bool true) (encode "true")
  | false : Spelled (.bool false) (encode "false")
  /-- The letter before the exponent may be a capital. -/
  | number {n : Numeral} {bytes : Bytes} (wellFormed : n.WellFormed)
      (spelled : bytes.map smallMark = encodeChars n.chars) : Spelled (.number n) bytes
  | text {s : Spelling} {inside : Bytes} (continues : Spelling.empty.Continues inside s) :
      Spelled (.text s.text?) (0x22 :: (inside ++ [0x22]))

/-- What may follow a numeral. -/
def Ends : Bytes → Prop
  | [] => True
  | b :: _ => Foreign b

/-- What may follow a token. -/
def Token.Apart : Token → Bytes → Prop
  | .number _, rest => Ends rest
  | _, _ => True

namespace Reader

/-- What the reader makes of the bytes that are left. -/
def run (reader : Reader) (bytes : Bytes) : Option Json := (bytes.foldlM step reader).bind finish

theorem run_cons (reader : Reader) (b : UInt8) (rest : Bytes) :
    reader.run (b :: rest) = (reader.step b).bind fun next => next.run rest := by
  rw [run, List.foldlM_cons]
  exact Option.bind_assoc _ _ _

theorem run_of_step {reader next : Reader} {b : UInt8} (step : reader.step b = some next)
    (rest : Bytes) :
    reader.run (b :: rest) = next.run rest := by
  rw [run_cons, step, Option.bind_some]

theorem step_between {reader : Reader} (between : reader.lexeme = .between) (b : UInt8) :
    reader.step b = reader.begin b := by
  rw [step, between]

variable {stack : List Frame} {expects : Expectation} {rest : Bytes}

/-! ### Marks and words -/

theorem begin_mark : ∀ mark : Punctuation, isSpace mark.byte = false ∧
    punctuation? mark.byte = some mark := by
  rintro (_ | _ | _ | _ | _ | _) <;> decide

theorem run_mark (reader : Reader) (between : reader.lexeme = .between) (mark : Punctuation)
    (rest : Bytes) :
    reader.run (mark.byte :: rest) = (reader.take (.mark mark)).bind fun next => next.run rest := by
  obtain ⟨noSpace, punctuates⟩ := begin_mark mark
  rw [run_cons, step_between between, begin, noSpace, punctuates]
  rfl

theorem run_letters {letters : Bytes} (value : Json) (nonempty : letters ≠ []) (rest : Bytes) :
    run ⟨.word letters value, stack, expects⟩ (letters ++ rest) =
      (scalar value ⟨.between, stack, expects⟩).bind fun next => next.run rest := by
  -- Each letter has to be the next one of the word, and the last one completes it.
  induction letters with
  | nil => exact absurd rfl nonempty
  | cons b letters ih =>
    rw [List.cons_append, run_cons]
    cases letters with
    | nil =>
      simp only [step, if_true, List.isEmpty_nil]
      rfl
    | cons next letters => simpa [step] using ih (List.cons_ne_nil next letters)

theorem run_word {first : UInt8} {letters : Bytes} {value : Json}
    (word : word? first = some (letters, value)) (rest : Bytes) :
    run ⟨.between, stack, expects⟩ (first :: letters ++ rest) =
      (scalar value ⟨.between, stack, expects⟩).bind fun next => next.run rest := by
  have begun : isSpace first = false ∧ punctuation? first = none ∧ first ≠ 0x22 ∧ letters ≠ [] := by
    unfold word? at word
    split at word
    next here =>
      cases word
      rw [here]
      decide
    split at word
    next here =>
      cases word
      rw [here]
      decide
    split at word
    next here =>
      cases word
      rw [here]
      decide
    · exact absurd word (Option.some_ne_none _).symm
  -- The first letter is asked for only after spaces, marks and quotes are ruled out.
  obtain ⟨noSpace, noMark, noQuote, nonempty⟩ := begun
  have step : step ⟨.between, stack, expects⟩ first =
      some ⟨.word letters value, stack, expects⟩ := by
    simp [step, begin, noSpace, noMark, noQuote, word]
  rw [List.cons_append, run_of_step step, run_letters value nonempty]

/-! ### Numerals -/

/-- A numeral begins with a byte that begins nothing else. -/
theorem begin_numeral {b : UInt8} {first : PartNumeral} (started : PartNumeral.start b = some first)
    (reader : Reader) : reader.begin b = some { reader with lexeme := .numeral first } := by
  -- A sign or a digit is neither space nor mark nor quote, and no word begins with it.
  have digits : ∀ d : Digit, isSpace (digitByte d) = false ∧ punctuation? (digitByte d) = none ∧
      digitByte d ≠ 0x22 ∧ (word? (digitByte d)).isNone := by
    decide
  have none : isSpace b = false ∧ punctuation? b = none ∧ b ≠ 0x22 ∧ (word? b).isNone := by
    unfold PartNumeral.start at started
    split at started
    next sign =>
      rw [sign]
      decide
    · split at started
      next d digit =>
        rw [eq_digitByte digit]
        exact digits d
      · exact absurd started (Option.some_ne_none first).symm
  obtain ⟨noSpace, noMark, noQuote, noWord⟩ := none
  simp [begin, noSpace, noMark, noQuote, Option.isNone_iff_eq_none.mp noWord, started]

theorem run_feed {n further : PartNumeral} {bytes : Bytes} (fed : n.feed bytes = some further)
    (rest : Bytes) :
    run ⟨.numeral n, stack, expects⟩ (bytes ++ rest) =
      run ⟨.numeral further, stack, expects⟩ rest := by
  -- The reader is at the numeral all the time: no byte that is fed ends it.
  induction bytes generalizing n with
  | nil =>
    cases fed
    rfl
  | cons b bytes ih =>
    cases next : n.next b with
    | none => simp [PartNumeral.feed, next] at fed
    | some after =>
      have taken : step ⟨.numeral n, stack, expects⟩ b = some ⟨.numeral after, stack, expects⟩ := by
        simp [step, next]
      rw [PartNumeral.feed_cons next] at fed
      rw [List.cons_append, run_of_step taken, ih fed]

theorem finish_between {reader : Reader} (between : reader.lexeme = .between) :
    reader.finish = match reader.expects with
      | .finished json => some json
      | _ => none := by
  obtain ⟨lexeme, stack, expects⟩ := reader
  obtain rfl : lexeme = .between := between
  cases expects <;> rfl

theorem run_numeral {n : Numeral} (wellFormed : n.WellFormed) {bytes : Bytes}
    (spelled : bytes.map smallMark = encodeChars n.chars) (ends : Ends rest) :
    run ⟨.between, stack, expects⟩ (bytes ++ rest) =
      (scalar (.number n) ⟨.between, stack, expects⟩).bind fun next => next.run rest := by
  obtain ⟨b, more, first, last, rfl, started, fed, numeral, foreign⟩ :=
    PartNumeral.reads_spelled wellFormed spelled
  have begun : step ⟨.between, stack, expects⟩ b = some ⟨.numeral first, stack, expects⟩ :=
    begin_numeral started _
  rw [List.cons_append, run_of_step begun, run_feed fed]
  -- A numeral has no end of its own: it ends with the bytes, or before the byte that comes next.
  cases rest with
  | nil =>
    simp only [run, List.foldlM_nil]
    change finish ⟨.numeral last, stack, expects⟩ =
      (scalar (.number n) ⟨.between, stack, expects⟩).bind finish
    simp only [finish, numeral]
    change (scalar (.number n) ⟨.between, stack, expects⟩).bind _ = _
    cases settled : scalar (.number n) ⟨.between, stack, expects⟩ with
    | none => rfl
    | some next => exact (finish_between (lexeme_scalar settled)).symm
  | cons b rest =>
    have turned : step ⟨.numeral last, stack, expects⟩ b =
        (scalar (.number n) ⟨.between, stack, expects⟩).bind fun next => next.begin b := by
      simp only [step, foreign b ends, numeral]
      rfl
    rw [run_cons, turned, Option.bind_assoc]
    cases settled : scalar (.number n) ⟨.between, stack, expects⟩ with
    | none => rfl
    | some next =>
      rw [Option.bind_some, Option.bind_some, run_cons, step_between (lexeme_scalar settled)]

/-! ### Strings -/

theorem run_unit {s : Spelling} {digits : Bytes} {value unit : Nat} (nonempty : digits ≠ [])
    (hex : hexUnit value digits = some unit) (rest : Bytes) :
    run ⟨.unit s digits.length value, stack, expects⟩ (digits ++ rest) =
      run ⟨.string (s.appendUnit unit), stack, expects⟩ rest := by
  induction digits generalizing value with
  | nil => exact absurd rfl nonempty
  | cons b digits ih =>
    rw [hexUnit, List.foldlM_cons] at hex
    cases digit : Text.Hex.value? b with
    | none => simp [digit] at hex
    | some d =>
      rw [digit] at hex
      rw [List.cons_append, run_cons]
      cases digits with
      | nil =>
        cases hex
        simp [step, digit]
      | cons next digits => simpa [step, digit] using ih (List.cons_ne_nil next digits) hex

/-- The reader goes along a string. -/
theorem run_inside {s t : Spelling} {inside : Bytes} (continues : s.Continues inside t)
    (rest : Bytes) :
    run ⟨.string s, stack, expects⟩ (inside ++ rest) = run ⟨.string t, stack, expects⟩ rest := by
  induction continues with
  | done => rfl
  | @plain s t b inside noQuote noEscape noControl further ih =>
    have taken : step ⟨.string s, stack, expects⟩ b =
        some ⟨.string (s.append [b]), stack, expects⟩ := by
      have printable : ¬b < 0x20 := UInt8.not_lt.mpr noControl
      simp [step, noQuote, noEscape, printable]
    rw [List.cons_append, run_of_step taken, ih]
  | @escape s t letter byte inside escapes further ih =>
    have opened : step ⟨.string s, stack, expects⟩ 0x5C = some ⟨.escape s, stack, expects⟩ := rfl
    have taken : step ⟨.escape s, stack, expects⟩ letter =
        some ⟨.string (s.append [byte]), stack, expects⟩ := by
      have noUnit : letter ≠ 0x75 := by
        rintro rfl
        simp [escape?] at escapes
      simp [step, noUnit, escapes]
    rw [List.cons_append, List.cons_append, run_of_step opened, run_of_step taken, ih]
  | @unit s t digits inside unit four hex further ih =>
    have opened : step ⟨.string s, stack, expects⟩ 0x5C = some ⟨.escape s, stack, expects⟩ := rfl
    have begun : step ⟨.escape s, stack, expects⟩ 0x75 = some ⟨.unit s 4 0, stack, expects⟩ := rfl
    have nonempty : digits ≠ [] := by
      rintro rfl
      cases four
    rw [List.cons_append, List.cons_append, List.append_assoc, run_of_step opened,
      run_of_step begun, ← four, run_unit nonempty hex, ih]

/-- A token that is spelled is taken as a whole. -/
theorem run_token {token : Token} {bytes : Bytes} (spelled : token.Spelled bytes)
    (apart : token.Apart rest) :
    run ⟨.between, stack, expects⟩ (bytes ++ rest) =
      (take ⟨.between, stack, expects⟩ token).bind fun next => next.run rest := by
  cases spelled with
  | mark mark => exact run_mark _ rfl mark rest
  | null => exact run_word rfl rest
  | true => exact run_word rfl rest
  | false => exact run_word rfl rest
  | number wellFormed spelled => exact run_numeral wellFormed spelled apart
  | @text s inside continues =>
    have opened : step ⟨.between, stack, expects⟩ 0x22 =
        some ⟨.string .empty, stack, expects⟩ := rfl
    have closed : step ⟨.string s, stack, expects⟩ 0x22 =
        string s.text? ⟨.string s, stack, expects⟩ := rfl
    rw [List.cons_append, run_of_step opened, List.append_assoc, run_inside continues,
      List.singleton_append, run_cons, closed]
    rfl

end Reader

end Conduit.Json
