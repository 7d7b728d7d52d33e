import Conduit.Json.Reader
import Conduit.Proofs.Number.Numeral
import Conduit.Proofs.Text.Utf8

/-!
# Reading a written numeral

A well-formed numeral is read in three stages, its whole digits, its fraction and its exponent, of
which the last two may be missing. After the last stage the numeral may end, and it does end at any
byte that continues no numeral. The other way round, what is read as a numeral is well formed, and
the bytes are those that are written for it, but for the case of the letter before the exponent.
-/
namespace Conduit.Json

open Number Text.Utf8

/-- A byte that continues no numeral. -/
def Foreign (b : UInt8) : Prop := digit? b = none ∧ b ≠ 0x2E ∧ PartNumeral.isMark b = false

def digitByte (d : Digit) : UInt8 := UInt8.ofNat (0x30 + d.val)

theorem digit?_digitByte : ∀ d : Digit, digit? (digitByte d) = some d := by
  decide

theorem eq_digitByte {b : UInt8} {d : Digit} (digit : digit? b = some d) : b = digitByte d := by
  unfold digit? at digit
  split at digit
  next range =>
    rw [UInt8.le_iff_toNat_le, UInt8.le_iff_toNat_le] at range
    simp only [UInt8.reduceToNat] at range
    cases digit
    -- A byte in the range of digits is its distance from zero, and that is below ten.
    have value : (Digit.ofNat (b.toNat - 0x30)).val = b.toNat - 0x30 := Nat.mod_eq_of_lt (by omega)
    have small : 0x30 + (b.toNat - 0x30) < 256 := by omega
    rw [← UInt8.toNat_inj, digitByte, value, UInt8.toNat_ofNat_of_lt' small]
    omega
  · exact absurd digit (Option.some_ne_none d).symm

/-- The mark before an exponent may be a capital letter. -/
def smallMark (b : UInt8) : UInt8 := if b = 0x45 then 0x65 else b

theorem smallMark_digitByte : ∀ d : Digit, smallMark (digitByte d) = digitByte d := by
  decide

theorem encodeChars_digits (digits : List Digit) :
    encodeChars (digits.map Digit.char) = digits.map digitByte := by
  have one : ∀ d : Digit, String.utf8EncodeChar d.char = [digitByte d] := by decide
  induction digits with
  | nil => rfl
  | cons d rest ih =>
    rw [List.map_cons, encodeChars, List.flatMap_cons, one, ← encodeChars, ih]
    rfl

/-! ### The bytes of a numeral -/

def signBytes (negative : Bool) : Bytes := if negative then [0x2D] else []

def fractionBytes : Option (List Digit) → Bytes
  | none => []
  | some digits => 0x2E :: digits.map digitByte

def exponentSignBytes : ExponentSign → Bytes
  | .none => []
  | .plus => [0x2B]
  | .minus => [0x2D]

def exponentBytes : Option Exponent → Bytes
  | none => []
  | some e => 0x65 :: exponentSignBytes e.sign ++ e.digits.map digitByte

theorem encodeChars_exponent (e : Exponent) : encodeChars e.chars = exponentBytes (some e) := by
  obtain ⟨sign, digits⟩ := e
  rw [exponentBytes, ← encodeChars_digits]
  cases sign <;> rfl

theorem encodeChars_numeral (negative : Bool) (whole : List Digit) (fraction : Option (List Digit))
    (exponent : Option Exponent) :
    encodeChars (Numeral.chars ⟨negative, whole, fraction, exponent⟩) =
      signBytes negative ++ whole.map digitByte ++ fractionBytes fraction ++
        exponentBytes exponent := by
  have sign : encodeChars (Numeral.signChars negative) = signBytes negative := by
    cases negative <;> rfl
  have point (digits : List Digit) :
      encodeChars ('.' :: digits.map Digit.char) = fractionBytes (some digits) := by
    rw [fractionBytes, ← encodeChars_digits]
    rfl
  simp only [Numeral.chars, encodeChars_append, encodeChars_digits, sign]
  cases fraction <;> cases exponent <;> simp only [point, encodeChars_exponent] <;> rfl

namespace PartNumeral

/-- Takes bytes that all continue the numeral. -/
def feed (n : PartNumeral) (bytes : Bytes) : Option PartNumeral := bytes.foldlM next n

theorem feed_append (n : PartNumeral) (earlier later : Bytes) :
    n.feed (earlier ++ later) = (n.feed earlier).bind fun further => further.feed later :=
  List.foldlM_append

theorem feed_cons {n further : PartNumeral} {b : UInt8} (continues : n.next b = some further)
    (bytes : Bytes) :
    n.feed (b :: bytes) = further.feed bytes := by
  rw [feed, List.foldlM_cons, continues]
  rfl

/-- Digits gather where every digit that comes next is gathered. -/
theorem feed_digits (part : List Digit → PartNumeral)
    (gathers : ∀ gathered d, (part gathered).next (digitByte d) = some (part (d :: gathered)))
    (gathered digits : List Digit) :
    (part gathered).feed (digits.map digitByte) = some (part (digits.reverse ++ gathered)) := by
  -- Digits are gathered last one first, so what was gathered before is general.
  induction digits generalizing gathered with
  | nil => rfl
  | cons d rest ih =>
    rw [List.map_cons, feed_cons (gathers gathered d), ih, List.reverse_cons, List.append_assoc]
    rfl

/-! ### The stages -/

/-- After the whole digits. -/
def wholeRead (negative : Bool) (whole : List Digit) : PartNumeral :=
  ⟨if whole = [.zero] then .zero else .whole, negative, whole.reverse, [], .none, []⟩

/-- After the fraction, if there is one. -/
def fractionRead (negative : Bool) (whole : List Digit) : Option (List Digit) → PartNumeral
  | none => wholeRead negative whole
  | some fraction => ⟨.fraction, negative, whole.reverse, fraction.reverse, .none, []⟩

/-- After the exponent, if there is one. -/
def exponentRead (negative : Bool) (whole : List Digit) (fraction : Option (List Digit)) :
    Option Exponent → PartNumeral
  | none => fractionRead negative whole fraction
  | some e => { fractionRead negative whole fraction with
      phase := .exponent, exponentSign := e.sign, exponent := e.digits.reverse }

theorem start_whole (negative : Bool) {whole : List Digit} (unpadded : Unpadded whole) :
    ∃ b bytes first, signBytes negative ++ whole.map digitByte = b :: bytes ∧
      start b = some first ∧ first.feed bytes = some (wholeRead negative whole) := by
  -- The first digit decides whether more digits may follow.
  have digits : ∃ d rest, whole = d :: rest ∧
      (⟨if d.isZero then .zero else .whole, negative, [d], [], .none, []⟩ : PartNumeral).feed
        (rest.map digitByte) = some (wholeRead negative whole) := by
    rcases unpadded with rfl | ⟨d, rest, rfl, nonzero⟩
    · exact ⟨.zero, [], rfl, rfl⟩
    · refine ⟨d, rest, rfl, ?_⟩
      have several : ¬d :: rest = [.zero] := by
        rintro ⟨⟩
        exact absurd nonzero (by decide)
      have gathered := feed_digits (fun whole => ⟨.whole, negative, whole, [], .none, []⟩)
        (fun gathered d => by simp [next, digit?_digitByte]) [d] rest
      simpa [nonzero, wholeRead, several] using gathered
  obtain ⟨d, rest, rfl, fed⟩ := digits
  cases negative with
  | false =>
    refine ⟨digitByte d, rest.map digitByte, _, rfl, ?_, fed⟩
    have plain : ∀ d : Digit, digitByte d ≠ 0x2D := by decide
    simp [start, digit?_digitByte, plain]
  | true =>
    have first : (⟨.sign, true, [], [], .none, []⟩ : PartNumeral).next (digitByte d) =
        some ⟨if d.isZero then .zero else .whole, true, [d], [], .none, []⟩ := by
      simp [next, digit?_digitByte]
    refine ⟨0x2D, (d :: rest).map digitByte, _, rfl, rfl, ?_⟩
    rw [List.map_cons, feed_cons first]
    exact fed

theorem wholeRead_feed_fraction (negative : Bool) (whole : List Digit)
    {fraction : Option (List Digit)} (nonempty : fraction ≠ some []) :
    (wholeRead negative whole).feed (fractionBytes fraction) =
      some (fractionRead negative whole fraction) := by
  match fraction with
  | none => rfl
  | some [] => exact absurd rfl nonempty
  | some (d :: rest) =>
    -- First the point, then a digit that has to come, then as many as there are.
    have point : (wholeRead negative whole).next 0x2E =
        some { wholeRead negative whole with phase := .point } := by
      unfold wholeRead
      split <;> rfl
    have first :
        ({ wholeRead negative whole with phase := .point } : PartNumeral).next (digitByte d) =
          some ⟨.fraction, negative, whole.reverse, [d], .none, []⟩ := by
      simp [next, digit?_digitByte, wholeRead]
    have gathered := feed_digits
      (fun fraction => ⟨.fraction, negative, whole.reverse, fraction, .none, []⟩)
      (fun gathered d => by simp [next, digit?_digitByte]) [d] rest
    rw [fractionBytes, feed_cons point, List.map_cons, feed_cons first, gathered, fractionRead,
      List.reverse_cons]

/-- Before the mark nothing is known of an exponent. -/
theorem fractionRead_fresh (negative : Bool) (whole : List Digit) (fraction : Option (List Digit)) :
    (fractionRead negative whole fraction).exponentSign = .none ∧
      (fractionRead negative whole fraction).exponent = [] := by
  cases fraction <;> exact ⟨rfl, rfl⟩

theorem fractionRead_feed_exponent (negative : Bool) (whole : List Digit)
    (fraction : Option (List Digit)) {exponent : Option Exponent}
    (digits : ∀ e, exponent = some e → e.digits ≠ []) :
    (fractionRead negative whole fraction).feed (exponentBytes exponent) =
      some (exponentRead negative whole fraction exponent) := by
  cases exponent with
  | none => rfl
  | some e =>
    obtain ⟨sign, written⟩ := e
    obtain ⟨d, rest, rfl⟩ := List.exists_cons_of_ne_nil (digits _ rfl)
    have fresh := fractionRead_fresh negative whole fraction
    have mark : (fractionRead negative whole fraction).next 0x65 =
        some { fractionRead negative whole fraction with phase := .mark } := by
      cases fraction with
      | none =>
        simp only [fractionRead, wholeRead]
        split <;> rfl
      | some _ => rfl
    dsimp only [exponentRead]
    -- From here on it does not matter what was read before.
    generalize fractionRead negative whole fraction = before at fresh mark
    have first : ({ before with phase := .mark } : PartNumeral).feed
      (exponentSignBytes sign ++ [digitByte d]) =
        some { before with phase := .exponent, exponentSign := sign, exponent := [d] } := by
      cases sign <;> simp [feed, exponentSignBytes, next, digit?_digitByte, fresh] <;> rfl
    have gathered := feed_digits
      (fun exponent =>
        { before with phase := .exponent, exponentSign := sign, exponent := exponent })
      (fun gathered d => by simp [next, digit?_digitByte]) [d] rest
    have bytes : exponentBytes (some ⟨sign, d :: rest⟩) =
        0x65 :: (exponentSignBytes sign ++ [digitByte d] ++ rest.map digitByte) := by
      simp [exponentBytes]
    rw [bytes, feed_cons mark, feed_append, first, Option.bind_some, gathered, List.reverse_cons]

/-- A well-formed numeral that is read may end where it was meant to end. -/
theorem exponentRead_ready {n : Numeral} (wellFormed : n.WellFormed) :
    (exponentRead n.negative n.whole n.fraction n.exponent).numeral? = some n ∧
      ∀ b, Foreign b → (exponentRead n.negative n.whole n.fraction n.exponent).next b = none := by
  obtain ⟨negative, whole, fraction, exponent⟩ := n
  -- A numeral may end after a digit only, and each part has one.
  have nonempty : ∀ digits, fraction = some digits → digits.reverse.isEmpty = false := by
    rintro digits rfl
    have := wellFormed.fraction
    cases digits <;> simp at this ⊢
  constructor
  · match fraction, exponent with
    | none, none =>
      by_cases zero : whole = [.zero] <;>
        simp [exponentRead, fractionRead, wholeRead, numeral?, zero]
    | some digits, none => simp [exponentRead, fractionRead, numeral?, nonempty]
    | none, some e => simp [exponentRead, fractionRead, wholeRead, numeral?]
    | some digits, some e => simp [exponentRead, fractionRead, numeral?, nonempty]
  · rintro b ⟨noDigit, noPoint, noMark⟩
    match fraction, exponent with
    | none, none =>
      by_cases zero : whole = [.zero] <;>
        simp [exponentRead, fractionRead, wholeRead, next, afterWhole, zero, noDigit,
          noPoint, noMark]
    | some digits, none => simp [exponentRead, fractionRead, next, noDigit, noMark]
    | none, some e => simp [exponentRead, fractionRead, next, noDigit]
    | some digits, some e => simp [exponentRead, fractionRead, next, noDigit]

/-- A well-formed numeral is read byte by byte from its first byte on. -/
theorem reads_numeral {n : Numeral} (wellFormed : n.WellFormed) :
    ∃ b bytes first last, encodeChars n.chars = b :: bytes ∧ start b = some first ∧
      first.feed bytes = some last ∧ last.numeral? = some n ∧
      ∀ b, Foreign b → last.next b = none := by
  -- Whole digits, fraction and exponent are fed one after the other.
  obtain ⟨b, bytes, first, begins, started, fed⟩ := start_whole n.negative wellFormed.whole
  obtain ⟨ready, ends⟩ := exponentRead_ready wellFormed
  refine ⟨b, bytes ++ (fractionBytes n.fraction ++ exponentBytes n.exponent), first, _, ?_, started,
    ?_, ready, ends⟩
  · rw [encodeChars_numeral, begins, List.append_assoc, List.cons_append]
  · rw [feed_append, fed, Option.bind_some, feed_append,
      wholeRead_feed_fraction _ _ wellFormed.fraction, Option.bind_some]
    exact fractionRead_feed_exponent _ _ _ wellFormed.exponent

theorem next_smallMark (n : PartNumeral) (b : UInt8) : n.next (smallMark b) = n.next b := by
  by_cases capital : b = 0x45
  · subst capital
    obtain ⟨phase, negative, whole, fraction, sign, exponent⟩ := n
    cases phase <;> rfl
  · rw [smallMark, if_neg capital]

theorem start_smallMark (b : UInt8) : start (smallMark b) = start b := by
  by_cases capital : b = 0x45
  · subst capital
    rfl
  · rw [smallMark, if_neg capital]

theorem feed_smallMarks (n : PartNumeral) (bytes : Bytes) :
    n.feed (bytes.map smallMark) = n.feed bytes := by
  rw [feed, List.foldlM_map]
  simp only [next_smallMark]
  rfl

/-- The mark apart, a numeral is spelled by its characters. -/
theorem reads_spelled {n : Numeral} (wellFormed : n.WellFormed) {bytes : Bytes}
    (spelled : bytes.map smallMark = encodeChars n.chars) :
    ∃ b rest first last, bytes = b :: rest ∧ start b = some first ∧ first.feed rest = some last ∧
      last.numeral? = some n ∧ ∀ b, Foreign b → last.next b = none := by
  obtain ⟨b, rest, first, last, written, started, fed, numeral, foreign⟩ := reads_numeral wellFormed
  rw [← spelled] at written
  obtain ⟨b, rest, rfl, rfl, rfl⟩ := List.map_eq_cons_iff.mp written
  rw [start_smallMark] at started
  rw [feed_smallMarks] at fed
  exact ⟨b, rest, first, last, rfl, started, fed, numeral, foreign⟩

/-! ### What a numeral was read from -/

/-- What is written has a small letter before the exponent. -/
theorem map_smallMark_chars (n : Numeral) :
    (encodeChars n.chars).map smallMark = encodeChars n.chars := by
  obtain ⟨negative, whole, fraction, exponent⟩ := n
  have digits (digits : List Digit) :
      (digits.map digitByte).map smallMark = digits.map digitByte := by
    simp [smallMark_digitByte]
  have sign : (signBytes negative).map smallMark = signBytes negative := by cases negative <;> rfl
  have front : (fractionBytes fraction).map smallMark = fractionBytes fraction := by
    cases fraction with
    | none => rfl
    | some written => rw [fractionBytes, List.map_cons, digits, smallMark, if_neg (by decide)]
  have last : (exponentBytes exponent).map smallMark = exponentBytes exponent := by
    cases exponent with
    | none => rfl
    | some e =>
      obtain ⟨sign, written⟩ := e
      rw [exponentBytes, List.map_append, digits]
      cases sign <;> rfl
  rw [encodeChars_numeral, List.map_append, List.map_append, List.map_append, sign, digits,
    front, last]

/-- The bytes that have led to a part of a numeral. -/
inductive Gathered : PartNumeral → Bytes → Prop where
  | sign : Gathered ⟨.sign, true, [], [], .none, []⟩ [0x2D]
  | whole {n : Numeral} (wellFormed : n.WellFormed) :
      Gathered (exponentRead n.negative n.whole n.fraction n.exponent) (encodeChars n.chars)
  | point (negative : Bool) {whole : List Digit} (unpadded : Unpadded whole) :
      Gathered { wholeRead negative whole with phase := .point }
        (encodeChars (Numeral.chars ⟨negative, whole, none, none⟩) ++ [0x2E])
  | mark (negative : Bool) {whole : List Digit} {fraction : Option (List Digit)}
      (unpadded : Unpadded whole) (nonempty : fraction ≠ some []) :
      Gathered { fractionRead negative whole fraction with phase := .mark }
        (encodeChars (Numeral.chars ⟨negative, whole, fraction, none⟩) ++ [0x65])
  | markSign (negative : Bool) {whole : List Digit} {fraction : Option (List Digit)}
      (unpadded : Unpadded whole) (nonempty : fraction ≠ some []) (sign : ExponentSign) :
    Gathered { fractionRead negative whole fraction with phase := .markSign, exponentSign := sign }
      (encodeChars (Numeral.chars ⟨negative, whole, fraction, none⟩) ++
        0x65 :: exponentSignBytes sign)

theorem smallMark_of_isMark {b : UInt8} (mark : isMark b = true) : smallMark b = 0x65 := by
  unfold isMark at mark
  simp only [Bool.or_eq_true, decide_eq_true_eq] at mark
  rcases mark with rfl | rfl <;> rfl

theorem Gathered.firstDigit (negative : Bool) (d : Digit) :
    Gathered ⟨if d.isZero then .zero else .whole, negative, [d], [], .none, []⟩
      (signBytes negative ++ [digitByte d]) := by
  have phase : ∀ d : Digit, (if [d] = [Digit.zero] then NumeralPhase.zero else .whole) =
      if d.isZero then .zero else .whole := by
    decide
  have unpadded : Unpadded [d] := by
    by_cases zero : d = .zero
    · exact Or.inl (by rw [zero])
    · exact Or.inr ⟨d, [], rfl, by revert d; decide⟩
  have whole : Gathered (wholeRead negative [d]) _ :=
    .whole (n := ⟨negative, [d], none, none⟩) ⟨unpadded, nofun, nofun⟩
  rwa [encodeChars_numeral, fractionBytes, exponentBytes, List.append_nil, List.append_nil,
    wholeRead, phase] at whole

theorem Gathered.start {b : UInt8} {first : PartNumeral}
    (started : PartNumeral.start b = some first) :
    Gathered first [smallMark b] := by
  unfold PartNumeral.start at started
  split at started
  next sign =>
    cases started
    rw [sign]
    exact .sign
  · split at started
    next d digit =>
      cases started
      rw [eq_digitByte digit, smallMark_digitByte]
      exact .firstDigit false d
    · cases started

theorem Gathered.afterWhole (negative : Bool) {whole : List Digit} (unpadded : Unpadded whole)
    {b : UInt8} {further : PartNumeral}
    (continued : (wholeRead negative whole).afterWhole b = some further) :
    Gathered further
      (encodeChars (Numeral.chars ⟨negative, whole, none, none⟩) ++ [smallMark b]) := by
  unfold PartNumeral.afterWhole at continued
  split at continued
  next point =>
    cases continued
    rw [point]
    exact .point negative unpadded
  · split at continued
    next mark =>
      cases continued
      rw [smallMark_of_isMark mark]
      exact @Gathered.mark negative whole none unpadded nofun
    · cases continued

theorem Gathered.of_read (negative : Bool) (whole : List Digit) (fraction : Option (List Digit))
    (exponent : Option Exponent)
    (wellFormed : Numeral.WellFormed ⟨negative, whole, fraction, exponent⟩) {part : PartNumeral}
    (read : part = exponentRead negative whole fraction exponent) {bytes : Bytes}
    (written : bytes = signBytes negative ++ whole.map digitByte ++ fractionBytes fraction ++
      exponentBytes exponent) : Gathered part bytes := by
  have gathered := Gathered.whole wellFormed
  rwa [encodeChars_numeral, ← written, ← read] at gathered

/-- After whole digits, or after the zero that stands alone. -/
theorem Gathered.next_whole (negative : Bool) {whole : List Digit} (unpadded : Unpadded whole)
    {b : UInt8} {further : PartNumeral}
    (continued : (wholeRead negative whole).next b = some further) :
    Gathered further
      (encodeChars (Numeral.chars ⟨negative, whole, none, none⟩) ++ [smallMark b]) := by
  cases digit : digit? b with
  | none =>
    refine .afterWhole negative unpadded ?_
    rw [← continued]
    by_cases zero : whole = [.zero] <;> simp [wholeRead, zero, PartNumeral.next, digit]
  | some d =>
    rcases unpadded with rfl | ⟨first, rest, rfl, nonzero⟩
    · simp [wholeRead, PartNumeral.next, digit] at continued
    · have several : first :: rest ≠ [.zero] := by
        rintro ⟨⟩
        exact absurd nonzero (by decide)
      simp only [wholeRead, several, if_false, PartNumeral.next, digit] at continued
      cases continued
      rw [eq_digitByte digit, smallMark_digitByte, encodeChars_numeral]
      refine .of_read negative (first :: (rest ++ [d])) none none
        ⟨Or.inr ⟨first, rest ++ [d], rfl, nonzero⟩, nofun, nofun⟩ ?_ ?_
      · have longer : first :: (rest ++ [d]) ≠ [.zero] := by simp
        simp [exponentRead, fractionRead, wholeRead, longer]
      · simp [fractionBytes, exponentBytes]

theorem Gathered.next_fraction (negative : Bool) {whole digits : List Digit}
    (unpadded : Unpadded whole) (nonempty : digits ≠ []) {b : UInt8} {further : PartNumeral}
    (continued : (fractionRead negative whole (some digits)).next b = some further) :
    Gathered further
      (encodeChars (Numeral.chars ⟨negative, whole, some digits, none⟩) ++ [smallMark b]) := by
  cases digit : digit? b with
  | some d =>
    simp only [fractionRead, PartNumeral.next, digit] at continued
    cases continued
    rw [eq_digitByte digit, smallMark_digitByte, encodeChars_numeral]
    refine .of_read negative whole (some (digits ++ [d])) none ⟨unpadded, by simp, nofun⟩ ?_ ?_
    · simp [exponentRead, fractionRead]
    · simp [fractionBytes, exponentBytes]
  | none =>
    simp only [fractionRead, PartNumeral.next, digit] at continued
    split at continued
    next mark =>
      cases continued
      rw [smallMark_of_isMark mark]
      exact @Gathered.mark negative whole (some digits) unpadded (by simpa using nonempty)
    · cases continued

theorem Gathered.next_mark (negative : Bool) {whole : List Digit} {fraction : Option (List Digit)}
    (unpadded : Unpadded whole) (nonempty : fraction ≠ some []) {b : UInt8} {further : PartNumeral}
    (continued : ({ fractionRead negative whole fraction with phase := .mark } : PartNumeral).next
      b = some further) :
    Gathered further
      (encodeChars (Numeral.chars ⟨negative, whole, fraction, none⟩) ++ [0x65] ++
        [smallMark b]) := by
  obtain ⟨noSign, noDigits⟩ := fractionRead_fresh negative whole fraction
  -- Behind the mark of an exponent stands a digit or a sign.
  cases digit : digit? b with
  | some d =>
    simp only [PartNumeral.next, digit] at continued
    cases continued
    rw [eq_digitByte digit, smallMark_digitByte, encodeChars_numeral]
    refine .of_read negative whole fraction (some ⟨.none, [d]⟩) ⟨unpadded, nonempty, by simp⟩ ?_ ?_
    · simp [exponentRead, noSign, noDigits]
    · simp [exponentBytes, exponentSignBytes]
  | none =>
    simp only [PartNumeral.next, digit] at continued
    split at continued
    next plus =>
      cases continued
      rw [plus, List.append_assoc]
      exact .markSign negative unpadded nonempty .plus
    · split at continued
      next minus =>
        cases continued
        rw [minus, List.append_assoc]
        exact .markSign negative unpadded nonempty .minus
      · cases continued

theorem Gathered.next {part further : PartNumeral} {bytes : Bytes} (gathered : Gathered part bytes)
    {b : UInt8} (continued : part.next b = some further) :
    Gathered further (bytes ++ [smallMark b]) := by
  cases gathered with
  | @whole n wellFormed =>
    obtain ⟨negative, whole, fraction, exponent⟩ := n
    match fraction, exponent with
    | none, none => exact next_whole negative wellFormed.whole continued
    | some digits, none =>
      exact next_fraction negative wellFormed.whole (by simpa using wellFormed.fraction) continued
    | fraction, some e =>
      cases digit : digit? b with
      | none => simp [exponentRead, PartNumeral.next, digit] at continued
      | some d =>
        simp only [exponentRead, PartNumeral.next, digit] at continued
        cases continued
        rw [eq_digitByte digit, smallMark_digitByte, encodeChars_numeral]
        refine .of_read negative whole fraction (some ⟨e.sign, e.digits ++ [d]⟩)
          ⟨wellFormed.whole, wellFormed.fraction, by simp⟩ ?_ ?_
        · simp [exponentRead]
        · simp [exponentBytes]
  | mark negative unpadded nonempty => exact next_mark negative unpadded nonempty continued
  -- Here a digit has to come.
  | sign =>
    cases digit : digit? b with
    | none => simp [PartNumeral.next, digit] at continued
    | some d =>
      simp only [PartNumeral.next, digit] at continued
      cases continued
      rw [eq_digitByte digit, smallMark_digitByte]
      exact .firstDigit true d
  | @point negative whole unpadded =>
    cases digit : digit? b with
    | none => simp [PartNumeral.next, digit] at continued
    | some d =>
      simp only [PartNumeral.next, digit] at continued
      cases continued
      rw [eq_digitByte digit, smallMark_digitByte, encodeChars_numeral]
      refine .of_read negative whole (some [d]) none ⟨unpadded, by simp, nofun⟩ ?_ ?_
      · simp [exponentRead, fractionRead, wholeRead]
      · simp [fractionBytes, exponentBytes]
  | @markSign negative whole fraction unpadded nonempty sign =>
    cases digit : digit? b with
    | none => simp [PartNumeral.next, digit] at continued
    | some d =>
      simp only [PartNumeral.next, digit] at continued
      cases continued
      obtain ⟨-, noDigits⟩ := fractionRead_fresh negative whole fraction
      rw [eq_digitByte digit, smallMark_digitByte, encodeChars_numeral]
      refine .of_read negative whole fraction (some ⟨sign, [d]⟩) ⟨unpadded, nonempty, by simp⟩ ?_ ?_
      · simp [exponentRead, noDigits]
      · simp [exponentBytes]

theorem Gathered.numeral {part : PartNumeral} {bytes : Bytes} (gathered : Gathered part bytes)
    {n : Numeral} (ends : part.numeral? = some n) : n.WellFormed ∧ bytes = encodeChars n.chars := by
  cases gathered with
  | @whole m wellFormed =>
    rw [(exponentRead_ready wellFormed).1] at ends
    cases ends
    exact ⟨wellFormed, rfl⟩
  | sign | point | mark | markSign => cases ends

theorem Gathered.feed {part last : PartNumeral} {bytes : Bytes} (gathered : Gathered part bytes)
    {more : Bytes} (fed : part.feed more = some last) :
    Gathered last (bytes ++ more.map smallMark) := by
  induction more generalizing part bytes with
  | nil =>
    cases fed
    rwa [List.map_nil, List.append_nil]
  | cons b more ih =>
    rw [PartNumeral.feed, List.foldlM_cons] at fed
    obtain ⟨further, continued, onward⟩ := Option.bind_eq_some_iff.mp fed
    have last := ih (gathered.next continued) onward
    rwa [List.append_assoc] at last

/-- What is read as a numeral is the spelling of a well-formed one. -/
theorem spelled_of_read {b : UInt8} {rest : Bytes} {first last : PartNumeral} {n : Numeral}
    (started : start b = some first) (fed : first.feed rest = some last)
    (ends : last.numeral? = some n) :
    n.WellFormed ∧ (b :: rest).map smallMark = encodeChars n.chars :=
  ((Gathered.start started).feed fed).numeral ends

end PartNumeral

end Conduit.Json
