import Conduit.Number.Numeral
import Conduit.Text.Natural
import Mathlib.Logic.Basic

/-!
# Natural numbers as they are written in settings

A natural number is written as digits, among them any zeros in front, after a plus sign or none.
Reading within a bound takes exactly these texts, if the number is within the bound. The bound is
looked at digit by digit; that it holds of the whole number is enough because a number does not get
less by more digits. Digits without a bound are read too, even if there are none.
-/
namespace Conduit.Text

open Number

theorem isDigit_char (d : Digit) : d.char.isDigit = true := by
  revert d
  decide

theorem digitValue_char (d : Digit) : digitValue d.char = d.val := by
  revert d
  decide

theorem ne_char {c : Char} (noDigit : c.isDigit = false) (d : Digit) : c ≠ d.char := by
  rintro rfl
  rw [isDigit_char] at noDigit
  cases noDigit

theorem char_injective {d e : Digit} (same : d.char = e.char) : d = e := by
  have values := congrArg digitValue same
  rw [digitValue_char, digitValue_char] at values
  exact Fin.ext values

theorem exists_char_of_isDigit {c : Char} (digit : c.isDigit = true) : ∃ d : Digit, c = d.char := by
  have range : 48 ≤ c.toNat ∧ c.toNat ≤ 57 := by
    simpa [Char.isDigit, UInt32.le_iff_toNat_le] using digit
  have back : '0'.toNat + (c.toNat - 48) = c.toNat := Nat.add_sub_cancel' range.1
  refine ⟨⟨c.toNat - 48, by omega⟩, ?_⟩
  rw [Digit.char, back, Char.ofNat_toNat]

theorem digitsValue_cons (value : Nat) (d : Digit) (digits : List Digit) :
    digitsValue value (d :: digits) = digitsValue (10 * value + d.val) digits := rfl

/-- Digits add to what was gathered before them. -/
theorem le_digitsValue (value : Nat) (digits : List Digit) : value ≤ digitsValue value digits := by
  induction digits generalizing value with
  | nil => exact Nat.le_refl value
  | cons d digits ih =>
    have more := ih (10 * value + d.val)
    rw [digitsValue_cons]
    omega

theorem readDigits_eq_ok_iff {bound value n : Nat} {excess : NumeralFault} {s : List Char}
    (within : value ≤ bound) : readDigits bound excess value s = .ok n ↔
      ∃ digits : List Digit, s = digits.map Digit.char ∧ n = digitsValue value digits ∧
        n ≤ bound := by
  induction s generalizing value with
  | nil =>
    constructor
    · intro read
      obtain rfl := Except.ok.inj read
      exact ⟨[], rfl, rfl, within⟩
    · rintro ⟨digits, none, rfl, -⟩
      obtain rfl := List.map_eq_nil_iff.mp none.symm
      rfl
  | cons c rest ih =>
    rw [readDigits]
    by_cases digit : c.isDigit = true
    · obtain ⟨d, rfl⟩ := exists_char_of_isDigit digit
      rw [if_pos digit, digitValue_char]
      -- A text that begins with this digit is read on from the value with the digit.
      have tail : (∃ digits : List Digit, d.char :: rest = digits.map Digit.char ∧
          n = digitsValue value digits ∧ n ≤ bound) ↔
            ∃ digits : List Digit, rest = digits.map Digit.char ∧
              n = digitsValue (10 * value + d.val) digits ∧ n ≤ bound := by
        constructor
        · rintro ⟨digits, written, whole, small⟩
          obtain ⟨e, more, rfl, first, others⟩ := List.map_eq_cons_iff.mp written.symm
          obtain rfl := char_injective first
          exact ⟨more, others.symm, whole, small⟩
        · rintro ⟨digits, rfl, whole, small⟩
          exact ⟨d :: digits, rfl, whole, small⟩
      rw [tail]
      by_cases fits : 10 * value + d.val ≤ bound
      · rw [if_pos fits, ih fits]
      · rw [if_neg fits]
        refine iff_of_false (fun read => by cases read) ?_
        rintro ⟨digits, -, rfl, small⟩
        exact fits (Nat.le_trans (le_digitsValue _ digits) small)
    · rw [if_neg digit]
      refine iff_of_false (fun read => by cases read) ?_
      rintro ⟨digits, written, -, -⟩
      obtain ⟨d, more, -, first, -⟩ := List.map_eq_cons_iff.mp written.symm
      exact ne_char (by simpa using digit) d first.symm

/-- How a natural number is written: in digits, of which there is one at least, with or without a
plus sign. -/
inductive Spells : List Char → Nat → Prop
  | bare {digits : List Digit} (some : digits ≠ []) :
      Spells (digits.map Digit.char) (digitsValue 0 digits)
  | signed {digits : List Digit} (some : digits ≠ []) :
      Spells ('+' :: digits.map Digit.char) (digitsValue 0 digits)

/-- A natural number is read if and only if it is written as one and within the bound. -/
theorem readNatural_eq_ok_iff {bound n : Nat} {s : List Char} :
    readNatural bound s = .ok n ↔ Spells s n ∧ n ≤ bound := by
  constructor
  · intro read
    unfold readNatural at read
    split at read
    · cases read
    · cases read
    next digits lone =>
      obtain ⟨digits, rfl, rfl, small⟩ := (readDigits_eq_ok_iff (Nat.zero_le bound)).mp read
      exact ⟨.signed fun none => lone (by rw [none]; rfl), small⟩
    next empty lone signed =>
      obtain ⟨digits, rfl, rfl, small⟩ := (readDigits_eq_ok_iff (Nat.zero_le bound)).mp read
      exact ⟨.bare fun none => empty (by rw [none]; rfl), small⟩
  · rintro ⟨spelled, small⟩
    cases spelled with
    | @bare digits some =>
      -- No digit is taken for a sign, so the text goes to the last branch.
      obtain ⟨d, more, rfl⟩ := List.exists_cons_of_ne_nil some
      have read : readDigits bound .tooLarge 0 ((d :: more).map Digit.char) =
          .ok (digitsValue 0 (d :: more)) :=
        (readDigits_eq_ok_iff (Nat.zero_le bound)).mpr ⟨_, rfl, rfl, small⟩
      unfold readNatural
      split
      next none => cases none
      next sign => exact absurd (List.cons.inj sign).1.symm (ne_char rfl d)
      next sign => exact absurd (List.cons.inj sign).1.symm (ne_char rfl d)
      · exact read
    | @signed digits some =>
      obtain ⟨d, more, rfl⟩ := List.exists_cons_of_ne_nil some
      exact (readDigits_eq_ok_iff (Nat.zero_le bound)).mpr ⟨_, rfl, rfl, small⟩

theorem Spells.ends_in_digit {s : List Char} {n : Nat} (spelled : Spells s n) :
    ∃ front, ∃ d : Digit, s = front ++ [d.char] := by
  cases spelled with
  | @bare digits some =>
    obtain ⟨front, last, rfl⟩ := (List.eq_nil_or_concat digits).resolve_left some
    exact ⟨front.map Digit.char, last,
      by rw [List.concat_eq_append, List.map_append, List.map_singleton]⟩
  | @signed digits some =>
    obtain ⟨front, last, rfl⟩ := (List.eq_nil_or_concat digits).resolve_left some
    exact ⟨'+' :: front.map Digit.char, last, by
      rw [List.concat_eq_append, List.map_append, List.map_singleton, List.cons_append]⟩

/-! ### Digits without a bound -/

theorem baseDigit?_char (d : Digit) : baseDigit? 10 d.char = some d.val := by
  revert d
  decide

/-- The digits of base ten, and no letters. -/
theorem baseDigit?_ten_eq_some_iff {c : Char} {n : Nat} :
    baseDigit? 10 c = some n ↔ ∃ d : Digit, c = d.char ∧ n = d.val := by
  constructor
  · intro read
    by_cases digit : c.isDigit = true
    · obtain ⟨d, rfl⟩ := exists_char_of_isDigit digit
      rw [baseDigit?_char] at read
      exact ⟨d, rfl, (Option.some.inj read).symm⟩
    · have outside : ¬('0' ≤ c ∧ c ≤ '9') := by
        simpa [Char.isDigit, Char.le_def] using digit
      -- A letter is ten at least, and so is what stands for no digit.
      have large : ¬(if 'a' ≤ c ∧ c ≤ 'f' then c.toNat - 'a'.toNat + 10
          else if 'A' ≤ c ∧ c ≤ 'F' then c.toNat - 'A'.toNat + 10 else 10) < 10 := by
        split
        · omega
        · split <;> omega
      rw [baseDigit?, if_neg outside, if_neg large] at read
      cases read
  · rintro ⟨d, rfl, rfl⟩
    exact baseDigit?_char d

theorem foldlM_baseDigit?_eq_some_iff {value n : Nat} {s : List Char} :
    s.foldlM (fun value c => (baseDigit? 10 c).map fun d => 10 * value + d) value = some n ↔
      ∃ digits : List Digit, s = digits.map Digit.char ∧ n = digitsValue value digits := by
  induction s generalizing value with
  | nil =>
    constructor
    · rintro ⟨⟩
      exact ⟨[], rfl, rfl⟩
    · rintro ⟨digits, none, rfl⟩
      obtain rfl := List.map_eq_nil_iff.mp none.symm
      rfl
  | cons c rest ih =>
    simp only [List.foldlM_cons, bind, Option.bind_eq_some_iff, Option.map_eq_some_iff,
      baseDigit?_ten_eq_some_iff, ih]
    constructor
    · rintro ⟨_, ⟨_, ⟨d, rfl, rfl⟩, rfl⟩, digits, rfl, rfl⟩
      exact ⟨d :: digits, rfl, rfl⟩
    · rintro ⟨digits, written, rfl⟩
      obtain ⟨d, more, rfl, rfl, rfl⟩ := List.map_eq_cons_iff.mp written.symm
      exact ⟨_, ⟨_, ⟨d, rfl, rfl⟩, rfl⟩, more, rfl, rfl⟩

/-- The empty text is read as zero. -/
theorem digitsIn_ten_eq_some_iff {n : Nat} {s : List Char} :
    digitsIn 10 s = some n ↔
      ∃ digits : List Digit, s = digits.map Digit.char ∧ n = digitsValue 0 digits :=
  foldlM_baseDigit?_eq_some_iff

end Conduit.Text
