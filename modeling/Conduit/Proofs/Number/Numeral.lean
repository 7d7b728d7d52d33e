import Conduit.Number.Notation
import Mathlib.Data.List.DropRight

/-!
# Well-formed numerals

A numeral is well formed if it has whole digits, does not pad them with zeros in front, and has a
digit behind each mark. All numerals that are written are well formed: those of integers because
their digits are those of a natural number, those of floating-point numbers because the decimal
found for a value that is not zero is not zero either, whichever layout it is put in. What is
written for an integer is read back as that integer.
-/
namespace Conduit.Number

/-- The first digit is not zero. -/
def Leads (digits : List Digit) : Prop :=
  ∃ first rest, digits = first :: rest ∧ first.isZero = false

/-- No zeros in front, except for the number zero. -/
def Unpadded (digits : List Digit) : Prop := digits = [.zero] ∨ Leads digits

structure Numeral.WellFormed (n : Numeral) : Prop where
  whole : Unpadded n.whole
  fraction : n.fraction ≠ some []
  exponent : ∀ e, n.exponent = some e → e.digits ≠ []

/-! ### The digits of a natural number -/

theorem digitsValue_concat (start : Nat) (digits : List Digit) (last : Digit) :
    digitsValue start (digits ++ [last]) = 10 * digitsValue start digits + last.val := by
  simp [digitsValue]

theorem digitsValue_digitsUp {fuel n : Nat} (enough : n < fuel) :
    digitsValue 0 (digitsUp fuel n).reverse = n := by
  -- One digit at a time from the end: the digits before it are those of the tenth part.
  induction fuel generalizing n with
  | zero => exact absurd enough (Nat.not_lt_zero n)
  | succ fuel ih =>
    have last : (Digit.ofNat n).val = n % 10 := rfl
    rw [digitsUp]
    split
    next small =>
      simp only [List.reverse_singleton, digitsValue, List.foldl_cons, List.foldl_nil, last]
      omega
    next large =>
      rw [List.reverse_cons, digitsValue_concat, ih (show n / 10 < fuel by omega), last]
      omega

theorem digitsValue_digitsOf (n : Nat) : digitsValue 0 (digitsOf n) = n :=
  digitsValue_digitsUp (Nat.lt_succ_self n)

theorem digitsUp_leads {fuel n : Nat} (enough : n < fuel) (positive : n ≠ 0) :
    Leads (digitsUp fuel n).reverse := by
  -- The digit found last is the first one; it is the number itself when that is below ten.
  induction fuel generalizing n with
  | zero => exact absurd enough (Nat.not_lt_zero n)
  | succ fuel ih =>
    rw [digitsUp]
    split
    next small =>
      have value : (Digit.ofNat n).val = n := Nat.mod_eq_of_lt small
      exact ⟨_, [], rfl, by simpa [Digit.isZero, value] using positive⟩
    next large =>
      obtain ⟨first, rest, digits, nonzero⟩ := ih (show n / 10 < fuel by omega) (by omega)
      exact ⟨first, rest ++ [Digit.ofNat n], by rw [List.reverse_cons, digits]; rfl, nonzero⟩

theorem digitsOf_leads {n : Nat} (positive : n ≠ 0) : Leads (digitsOf n) :=
  digitsUp_leads (Nat.lt_succ_self n) positive

theorem digitsOf_unpadded (n : Nat) : Unpadded (digitsOf n) := by
  by_cases zero : n = 0
  · exact Or.inl (zero ▸ rfl)
  · exact Or.inr (digitsOf_leads zero)

theorem Digit.char_eq_digitChar (d : Digit) : d.char = Nat.digitChar d.val := by
  revert d
  decide

theorem map_char_digitsUp {fuel n : Nat} (enough : n < fuel) :
    (digitsUp fuel n).reverse.map Digit.char = Nat.toDigits 10 n := by
  induction fuel generalizing n with
  | zero => exact absurd enough (Nat.not_lt_zero n)
  | succ fuel ih =>
    have last : (Digit.ofNat n).char = Nat.digitChar (n % 10) := Digit.char_eq_digitChar _
    rw [digitsUp]
    split
    next small =>
      rw [Nat.toDigits_of_lt_base small, List.reverse_singleton, List.map_singleton, last,
        Nat.mod_eq_of_lt small]
    next large =>
      rw [Nat.toDigits_of_base_le (by decide) (Nat.le_of_not_lt large), List.reverse_cons,
        List.map_append, ih (show n / 10 < fuel by omega), List.map_singleton, last]

/-- A natural number is written as decimals usually are. -/
theorem naturalText_eq_repr (n : Nat) : naturalText n = n.repr := by
  rw [naturalText, digitsOf, map_char_digitsUp (Nat.lt_succ_self n), Nat.repr_eq_ofList_toDigits]

theorem Unpadded.ne_nil {digits : List Digit} (unpadded : Unpadded digits) : digits ≠ [] := by
  rcases unpadded with rfl | ⟨first, rest, rfl, -⟩ <;> simp

/-! ### Integers -/

namespace Numeral

theorem wellFormed_ofInt (n : Int) : (ofInt n).WellFormed where
  whole := digitsOf_unpadded n.natAbs
  fraction := nofun
  exponent := nofun

theorem toInt?_ofInt (n : Int) : (ofInt n).toInt? = some n := by
  simp only [toInt?, isWhole, ofInt, digitsValue_digitsOf, Option.isNone_none, Bool.and_self,
    if_true]
  by_cases negative : n < 0
  · obtain ⟨m, magnitude⟩ : ∃ m, n.natAbs = m + 1 := ⟨n.natAbs - 1, by omega⟩
    simp only [negative, decide_true, magnitude]
    exact congrArg some (by omega)
  · simp only [negative, decide_false]
    exact congrArg some (by omega)

theorem ofNat_eq_ofInt (n : Nat) : ofNat n = ofInt n := by
  simp [ofNat, ofInt]

end Numeral

/-! ### Floating-point numbers -/

theorem significant_leads {digits : List Digit} (leads : Leads digits) :
    Leads (significant digits).1 := by
  obtain ⟨first, rest, rfl, nonzero⟩ := leads
  change Leads ((first :: rest).rdropWhile Digit.isZero)
  -- Zeros are dropped at the end, so the first digit is dropped only if it is a zero.
  have start := List.rdropWhile_prefix Digit.isZero (first :: rest)
  cases kept : (first :: rest).rdropWhile Digit.isZero with
  | nil =>
    have zero := List.rdropWhile_eq_nil_iff.mp kept first List.mem_cons_self
    rw [nonzero] at zero
    exact absurd zero Bool.false_ne_true
  | cons head tail =>
    rw [kept, List.cons_prefix_cons] at start
    exact ⟨head, tail, rfl, start.1 ▸ nonzero⟩

/-- Every layout of digits that begin with no zero is well formed. -/
theorem Layout.wellFormed_arrange (layout : Layout) (negative : Bool) {digits : List Digit}
    (lead : Int) (leads : Leads digits) : (layout.arrange negative digits lead).WellFormed := by
  obtain ⟨first, rest, rfl, nonzero⟩ := leads
  unfold arrange
  -- Below one the whole part is a zero; in any other layout the first digit leads it.
  split
  · split
    · exact ⟨Or.inl rfl, by simp, nofun⟩
    · refine ⟨Or.inr ⟨first, _, rfl, nonzero⟩, ?_, nofun⟩
      dsimp only
      split
      · simp
      next some =>
        simpa using some
  · refine ⟨Or.inr ⟨first, [], rfl, nonzero⟩, ?_, ?_⟩
    · cases rest <;> simp
    · rintro _ ⟨⟩
      exact (digitsOf_unpadded _).ne_nil

private theorem compareScaled_zero {n : Nat} (i j : Int) (positive : 0 < n) :
    compareScaled 0 i n j = .lt := by
  have two : 0 < Nat.pow 2 j.toNat := Nat.pow_pos (by decide)
  have ten : 0 < Nat.pow 10 (-i).toNat := Nat.pow_pos (by decide)
  simp only [compareScaled, Nat.zero_mul, Nat.compare_eq_lt]
  exact Nat.mul_pos (Nat.mul_pos positive two) ten

namespace Magnitude

variable {x : Magnitude}

/-- Zero rounds to no other value. -/
theorem readsBack_zero (positive : x.mantissa ≠ 0) (grid : Int) :
    x.readsBack ⟨0, grid⟩ = false := by
  -- What rounds to a value that is not zero is at least the lower end of its range, which is
  -- positive.
  have low : 0 < if x.narrowBelow then 4 * x.mantissa - 1 else 4 * x.mantissa - 2 := by
    split <;> omega
  simp [readsBack, compareScaled_zero _ _ low]

theorem candidate?_ne_zero (positive : x.mantissa ≠ 0) {grid : Int} {d : Decimal}
    (found : x.candidate? grid = some d) : d.digits ≠ 0 := by
  -- The lower neighbour is a candidate only if it reads back, so it is not zero then.
  have below : x.readsBack ⟨x.below grid, grid⟩ = true → x.below grid ≠ 0 := by
    intro reads zero
    rw [zero, readsBack_zero positive] at reads
    exact absurd reads Bool.false_ne_true
  unfold candidate? at found
  dsimp only at found
  split at found
  · exact absurd found (Option.some_ne_none d).symm
  next down _ =>
    cases found
    exact below down
  · cases found
    exact Nat.succ_ne_zero _
  next down _ =>
    split at found
    · cases found
      exact below down
    · cases found
      exact Nat.succ_ne_zero _
    · split at found <;> cases found
      · exact below down
      · exact Nat.succ_ne_zero _

theorem search_ne_zero (positive : x.mantissa ≠ 0) {scale : Int} {fuel digits : Nat} {d : Decimal}
    (found : x.search scale fuel digits = some d) : d.digits ≠ 0 := by
  -- The search tries one digit more each time, until a candidate is found.
  induction fuel generalizing digits with
  | zero => exact absurd found (Option.some_ne_none d).symm
  | succ fuel ih =>
    rw [search] at found
    split at found
    next other candidate =>
      cases found
      exact candidate?_ne_zero positive candidate
    · exact ih found

theorem exact_ne_zero (positive : x.mantissa ≠ 0) : x.exact.digits ≠ 0 := by
  unfold exact
  split
  · exact Nat.mul_ne_zero positive (Nat.pow_pos (by decide)).ne'
  · exact Nat.mul_ne_zero positive (Nat.pow_pos (by decide)).ne'

theorem shortest_ne_zero (positive : x.mantissa ≠ 0) : x.shortest.digits ≠ 0 := by
  unfold shortest
  cases found : x.search x.decimalScale 17 1 with
  | none => exact exact_ne_zero positive
  | some d => exact search_ne_zero positive found

end Magnitude

theorem Layout.wellFormed_numeral (layout : Layout) (f : Format) (bits : Nat) :
    (layout.numeral f bits).WellFormed := by
  unfold numeral
  dsimp only
  split
  · exact ⟨Or.inl rfl, by simp, nofun⟩
  next positive =>
    have leads := digitsOf_leads (Magnitude.shortest_ne_zero positive)
    exact layout.wellFormed_arrange _ _ (significant_leads leads)

theorem Double.wellFormed_numeral (x : Double) : x.numeral.WellFormed :=
  doubleLayout.wellFormed_numeral .double x.bits.toNat

theorem Single.wellFormed_numeral (x : Single) : x.numeral.WellFormed :=
  singleLayout.wellFormed_numeral .single x.bits.toNat

end Conduit.Number
