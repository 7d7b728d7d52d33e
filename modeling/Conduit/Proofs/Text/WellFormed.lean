import Conduit.Proofs.Text.Utf8

/-!
# Well-formed UTF-8

A character is spelled by the bits of its number behind marks, six in each byte but the first. The
spelling is well formed if no shorter one stands for the number, and the number is one of a
character. The reader accepts exactly the bytes that are well-formed characters one after the other.
Where it stops, all before is well formed, and no longer beginning is: the bytes from there on begin
no character, or they are the beginning of one.
-/
namespace Conduit.Text.Utf8

/-! ### The form -/

/-- The bytes stand for the number. Nothing is said of spellings that are too long, or of numbers
that are no characters. -/
inductive Stands : Nat → Bytes → Prop where
  | one {a : Nat} (lead : a < 0x80) : Stands a [.ofNat a]
  | two {a b : Nat} (lead : a < 0x20) (second : b < 0x40) :
      Stands (64 * a + b) [.ofNat (a + 0xC0), .ofNat (b + 0x80)]
  | three {a b c : Nat} (lead : a < 0x10) (second : b < 0x40) (third : c < 0x40) :
      Stands (64 * (64 * a + b) + c) [.ofNat (a + 0xE0), .ofNat (b + 0x80), .ofNat (c + 0x80)]
  | four {a b c d : Nat} (lead : a < 8) (second : b < 0x40) (third : c < 0x40) (fourth : d < 0x40) :
      Stands (64 * (64 * (64 * a + b) + c) + d)
        [.ofNat (a + 0xF0), .ofNat (b + 0x80), .ofNat (c + 0x80), .ofNat (d + 0x80)]

/-- The shortest bytes that stand for a number that is no surrogate and not above U+10FFFF. -/
def IsCharacter (bytes : Bytes) : Prop :=
  ∃ n, Stands n bytes ∧ (∀ other, Stands n other → bytes.length ≤ other.length) ∧ n.isValidChar

/-- Characters one after the other. -/
def WellFormed (bytes : Bytes) : Prop :=
  ∃ characters : List Bytes, (∀ one ∈ characters, IsCharacter one) ∧ characters.flatten = bytes

theorem stands_utf8EncodeChar (c : Char) : Stands c.toNat (String.utf8EncodeChar c) := by
  have valid : c.val.toNat < 0xD800 ∨ 0xDFFF < c.val.toNat ∧ c.val.toNat < 0x110000 := c.valid
  unfold String.utf8EncodeChar
  change Stands c.val.toNat _
  generalize c.val.toNat = v at *
  dsimp only
  -- The parts of each spelling make the whole value again.
  split
  next one => exact .one (by omega)
  split
  next two =>
    have whole : 64 * (v / 64 % 32) + v % 64 = v := by omega
    simpa only [whole] using Stands.two (a := v / 64 % 32) (b := v % 64) (by omega) (by omega)
  split
  next three =>
    have whole : 64 * (64 * (v / 4096 % 16) + v / 64 % 64) + v % 64 = v := by omega
    simpa only [whole] using
      Stands.three (a := v / 4096 % 16) (b := v / 64 % 64) (c := v % 64) (by omega) (by omega)
        (by omega)
  next four =>
    have whole : 64 * (64 * (64 * (v / 262144 % 8) + v / 4096 % 64) + v / 64 % 64) + v % 64 =
        v := by omega
    simpa only [whole] using Stands.four (a := v / 262144 % 8) (b := v / 4096 % 64)
      (c := v / 64 % 64) (d := v % 64) (by omega) (by omega) (by omega) (by omega)

/-- No spelling of a character is shorter. -/
theorem length_utf8EncodeChar_le {c : Char} {bytes : Bytes} (stands : Stands c.toNat bytes) :
    (String.utf8EncodeChar c).length ≤ bytes.length := by
  unfold String.utf8EncodeChar
  change Stands c.val.toNat bytes at stands
  generalize c.val.toNat = v at *
  dsimp only
  cases stands <;> split <;> (try split) <;> (try split) <;> simp <;> omega

/-- Among spellings of one length there is one for a number at most. -/
theorem Stands.unique {n m : Nat} {one other : Bytes} (here : Stands n one) (there : Stands m other)
    (equal : n = m) (long : one.length = other.length) : one = other := by
  -- The parts of the number are its digits to the base 64.
  cases here with
  | one =>
    cases there with
    | one => rw [equal]
    | two | three | four => cases long
  | @two a b =>
    cases there with
    | @two a' b' =>
      obtain ⟨rfl, rfl⟩ : a = a' ∧ b = b' := by omega
      rfl
    | one | three | four => cases long
  | @three a b c =>
    cases there with
    | @three a' b' c' =>
      obtain ⟨rfl, rfl, rfl⟩ : a = a' ∧ b = b' ∧ c = c' := by omega
      rfl
    | one | two | four => cases long
  | @four a b c d =>
    cases there with
    | @four a' b' c' d' =>
      obtain ⟨rfl, rfl, rfl, rfl⟩ : a = a' ∧ b = b' ∧ c = c' ∧ d = d' := by omega
      rfl
    | one | two | three => cases long

/-- The shortest spelling of a character's number is the character's own. -/
theorem Stands.utf8EncodeChar_eq {n : Nat} {bytes : Bytes} (stands : Stands n bytes)
    (shortest : ∀ other, Stands n other → bytes.length ≤ other.length) (valid : n.isValidChar) :
    String.utf8EncodeChar (Char.ofNat n) = bytes := by
  have number : (Char.ofNat n).toNat = n := by
    rw [Char.ofNat, dif_pos valid]
    rfl
  have spelled := stands_utf8EncodeChar (Char.ofNat n)
  have below : (String.utf8EncodeChar (Char.ofNat n)).length ≤ bytes.length :=
    length_utf8EncodeChar_le (number.symm ▸ stands)
  have above := shortest _ (number ▸ spelled)
  exact spelled.unique stands number (Nat.le_antisymm below above)

/-- Larger numbers take more bytes. -/
theorem Stands.le_length {n : Nat} {bytes : Bytes} (stands : Stands n bytes) :
    (0x80 ≤ n → 2 ≤ bytes.length) ∧ (0x800 ≤ n → 3 ≤ bytes.length) ∧
    (0x10000 ≤ n → 4 ≤ bytes.length) := by
  cases stands <;> simp <;> omega

theorem isCharacter_iff {bytes : Bytes} :
    IsCharacter bytes ↔ ∃ c : Char, String.utf8EncodeChar c = bytes := by
  constructor
  · rintro ⟨n, stands, shortest, valid⟩
    exact ⟨Char.ofNat n, stands.utf8EncodeChar_eq shortest valid⟩
  · rintro ⟨c, rfl⟩
    exact ⟨c.toNat, stands_utf8EncodeChar c, fun other => length_utf8EncodeChar_le, c.valid⟩

theorem wellFormed_iff {bytes : Bytes} : WellFormed bytes ↔ ∃ s, encodeChars s = bytes := by
  constructor
  · rintro ⟨characters, each, rfl⟩
    induction characters with
    | nil => exact ⟨[], rfl⟩
    | cons one characters ih =>
      obtain ⟨here, others⟩ := List.forall_mem_cons.mp each
      obtain ⟨c, rfl⟩ := isCharacter_iff.mp here
      obtain ⟨s, spelled⟩ := ih others
      exact ⟨c :: s, by
        rw [encodeChars, List.flatMap_cons, ← encodeChars, spelled, List.flatten_cons]⟩
  · rintro ⟨s, rfl⟩
    refine ⟨s.map String.utf8EncodeChar, fun one member => ?_, List.flatMap_def.symm⟩
    obtain ⟨c, -, rfl⟩ := List.mem_map.mp member
    exact isCharacter_iff.mpr ⟨c, rfl⟩

/-! ### Characters in parts -/

/-- The first bytes of a character after which the reader is inside it. -/
inductive Opens : Bytes → Begun → Prop where
  | first {b : UInt8} {state : Begun} (begun : first b = .begun state) : Opens [b] state
  | next {taken : Bytes} {state further : Begun} {b : UInt8} (opens : Opens taken state)
      (begun : state.next b = .begun further) : Opens (taken ++ [b]) further

/-- The bytes complete the character that has begun. -/
inductive Completes : Begun → Bytes → Char → Prop where
  | last {state : Begun} {b : UInt8} {c : Char} (whole : state.next b = .whole c) :
      Completes state [b] c
  | more {state further : Begun} {b : UInt8} {rest : Bytes} {c : Char}
      (begun : state.next b = .begun further) (completes : Completes further rest c) :
      Completes state (b :: rest) c

/-- A byte that opens a character and is not all of it has the upper half of the bits of two, three
or four bytes. -/
theorem first_eq_begun {b : UInt8} {state : Begun} (begun : first b = .begun state) :
    (∃ a < 0x20, 2 ≤ a ∧ b = .ofNat (a + 0xC0) ∧ state = ⟨1, 0, 0x80, 0xBF, a⟩) ∨
    (∃ a < 0x10, b = .ofNat (a + 0xE0) ∧
      state = ⟨1, 1, if a = 0 then 0xA0 else 0x80, if a = 13 then 0x9F else 0xBF, a⟩) ∨
    ∃ a < 5, b = .ofNat (a + 0xF0) ∧
      state = ⟨1, 2, if a = 0 then 0x90 else 0x80, if a = 4 then 0x8F else 0xBF, a⟩ := by
  have spelled (n : Nat) (low : n ≤ b.toNat) : b = .ofNat (b.toNat - n + n) := by
    rw [Nat.sub_add_cancel low, UInt8.ofNat_toNat]
  have range := begun
  simp only [first, UInt8.lt_iff_toNat_lt, UInt8.reduceToNat] at range
  have small := b.toNat_lt
  -- The byte is in one of three ranges, for in all others it is a character or refused.
  split at range
  · cases range
  split at range
  · cases range
  split at range
  · have lead := spelled 0xC0 (by omega)
    rw [lead, first_two (b.toNat - 0xC0) (by omega) (by omega)] at begun
    exact Or.inl ⟨b.toNat - 0xC0, by omega, by omega, lead, (Step.begun.inj begun).symm⟩
  split at range
  · have lead := spelled 0xE0 (by omega)
    rw [lead, first_three (b.toNat - 0xE0) (by omega)] at begun
    exact Or.inr (Or.inl ⟨b.toNat - 0xE0, by omega, lead, (Step.begun.inj begun).symm⟩)
  split at range
  · have lead := spelled 0xF0 (by omega)
    rw [lead, first_four (b.toNat - 0xF0) (by omega)] at begun
    exact Or.inr (Or.inr ⟨b.toNat - 0xF0, by omega, lead, (Step.begun.inj begun).symm⟩)
  · cases range

theorem first_eq_whole {b : UInt8} {c : Char} (whole : first b = .whole c) :
    String.utf8EncodeChar c = [b] := by
  simp only [first, UInt8.lt_iff_toNat_lt, UInt8.reduceToNat] at whole
  split at whole
  next ascii =>
    cases whole
    have number : (Char.ofNat b.toNat).toNat = b.toNat := by
      rw [Char.ofNat, dif_pos (Or.inl (by omega))]
      rfl
    rw [utf8EncodeChar_of_ascii (by omega), number, UInt8.ofNat_toNat]
  · repeat' split at whole
    all_goals cases whole

/-- Where the next byte has to lie. -/
def Begun.Ranges (state : Begun) : Prop :=
  0x80 ≤ state.low.toNat ∧ state.low.toNat ≤ state.high.toNat ∧ state.high.toNat ≤ 0xBF

/-- A byte that is not refused gives six bits. -/
theorem Begun.next_cases {state : Begun} (ranges : state.Ranges) (b : UInt8) :
    state.next b = .refused ∨ ∃ x < 0x40, b = .ofNat (x + 0x80) ∧ state.low.toNat ≤ x + 0x80 ∧
      x + 0x80 ≤ state.high.toNat ∧ state.next b = match state.owed with
        | 0 => .whole (Char.ofNat (64 * state.bits + x))
        | owed + 1 => .begun ⟨state.seen + 1, owed, 0x80, 0xBF, 64 * state.bits + x⟩ := by
  obtain ⟨low, -, high⟩ := ranges
  by_cases inside : state.low ≤ b ∧ b ≤ state.high
  · have bounds := inside
    rw [UInt8.le_iff_toNat_le, UInt8.le_iff_toNat_le] at bounds
    have further : b = .ofNat (b.toNat - 0x80 + 0x80) := by
      rw [Nat.sub_add_cancel (by omega), UInt8.ofNat_toNat]
    refine Or.inr ⟨b.toNat - 0x80, by omega, further, by omega, by omega, ?_⟩
    have taken := next_inside state (b.toNat - 0x80) (by omega) (by omega) (by omega)
    rwa [← further] at taken
  · exact Or.inl (if_neg inside)

theorem Completes.cases {state : Begun} (ranges : state.Ranges) {tail : Bytes} {c : Char}
    (completes : Completes state tail c) : ∃ x < 0x40, ∃ rest, tail = .ofNat (x + 0x80) :: rest ∧
      state.low.toNat ≤ x + 0x80 ∧ x + 0x80 ≤ state.high.toNat ∧ match state.owed with
        | 0 => rest = [] ∧ c = Char.ofNat (64 * state.bits + x)
        | owed + 1 => Completes ⟨state.seen + 1, owed, 0x80, 0xBF, 64 * state.bits + x⟩ rest c := by
  -- The number of bytes that are owed tells which of the two ways to complete a character it is.
  cases completes with
  | @last _ b _ whole =>
    rcases Begun.next_cases ranges b with refused | ⟨x, small, rfl, low, high, next⟩
    · rw [refused] at whole
      cases whole
    · rw [next] at whole
      refine ⟨x, small, [], rfl, low, high, ?_⟩
      cases owes : state.owed with
      | zero =>
        rw [owes] at whole
        exact ⟨rfl, (Step.whole.inj whole).symm⟩
      | succ owed =>
        rw [owes] at whole
        cases whole
  | @more _ further b rest _ begun completes =>
    rcases Begun.next_cases ranges b with refused | ⟨x, small, rfl, low, high, next⟩
    · rw [refused] at begun
      cases begun
    · rw [next] at begun
      refine ⟨x, small, rest, rfl, low, high, ?_⟩
      cases owes : state.owed with
      | zero =>
        rw [owes] at begun
        cases begun
      | succ owed =>
        rw [owes] at begun
        obtain rfl := Step.begun.inj begun
        exact completes

theorem Begun.ranges_plain (seen owed bits : Nat) : (Begun.mk seen owed 0x80 0xBF bits).Ranges := by
  refine ⟨?_, ?_, ?_⟩ <;> simp

theorem Opens.ranges {taken : Bytes} {state : Begun} (opens : Opens taken state) :
    state.Ranges := by
  cases opens with
  | first begun =>
    rcases first_eq_begun begun with ⟨a, -, -, -, rfl⟩ | ⟨a, -, -, rfl⟩ | ⟨a, -, -, rfl⟩
    · exact Begun.ranges_plain _ _ _
    · by_cases zero : a = 0 <;> by_cases last : a = 13 <;> simp [Begun.Ranges, zero, last]
    · by_cases zero : a = 0 <;> by_cases last : a = 4 <;> simp [Begun.Ranges, zero, last]
  | @next taken state _ b opens begun =>
    unfold Begun.next at begun
    split at begun
    · dsimp only at begun
      split at begun
      · cases begun
      · cases begun
        exact Begun.ranges_plain _ _ _
    · cases begun

/-- What begins as a character can be completed. -/
theorem exists_completes {state : Begun} (ranges : state.Ranges) :
    ∃ tail c, Completes state tail c := by
  obtain ⟨seen, owed, low, high, bits⟩ := state
  -- The lowest byte that will do is taken each time.
  induction owed generalizing seen low high bits with
  | zero =>
    obtain ⟨least, order, most⟩ := ranges
    dsimp only at least order most
    have next := Begun.next_inside ⟨seen, 0, low, high, bits⟩ (low.toNat - 0x80) (by omega)
      (by dsimp only; omega) (by dsimp only; omega)
    exact ⟨_, _, .last next⟩
  | succ owed ih =>
    obtain ⟨least, order, most⟩ := ranges
    dsimp only at least order most
    have next := Begun.next_inside ⟨seen, owed + 1, low, high, bits⟩ (low.toNat - 0x80) (by omega)
      (by dsimp only; omega) (by dsimp only; omega)
    obtain ⟨tail, c, completes⟩ :=
      ih (seen + 1) 0x80 0xBF (64 * bits + (low.toNat - 0x80)) (Begun.ranges_plain _ _ _)
    exact ⟨_, c, .more next completes⟩

theorem utf8EncodeChar_of_first {b : UInt8} {state : Begun} (begun : first b = .begun state)
    {tail : Bytes} {c : Char} (completes : Completes state tail c) :
    String.utf8EncodeChar c = b :: tail := by
  have ranges := (Opens.first begun).ranges
  rcases first_eq_begun begun with
    ⟨a, small, large, rfl, rfl⟩ | ⟨a, small, rfl, rfl⟩ | ⟨a, small, rfl, rfl⟩
  · obtain ⟨x, _, rest, rfl, -, -, rfl, rfl⟩ := completes.cases ranges
    dsimp only
    refine Stands.utf8EncodeChar_eq (.two small ‹_›) (fun other stands => ?_) (Or.inl (by omega))
    exact stands.le_length.1 (by omega)
  · obtain ⟨x, _, rest, rfl, low, high, completes⟩ := completes.cases ranges
    obtain ⟨y, _, rest, rfl, -, -, rfl, rfl⟩ := completes.cases (Begun.ranges_plain _ _ _)
    -- The narrower ranges after some first bytes keep out what is too long, and the surrogates.
    have range : (a = 0 → 0x20 ≤ x) ∧ (a = 13 → x < 0x20) := by
      constructor
      · rintro rfl
        simpa using low
      · rintro rfl
        simp at high
        omega
    dsimp only
    refine Stands.utf8EncodeChar_eq (.three small ‹_› ‹_›) (fun other stands => ?_) ?_
    · exact stands.le_length.2.1 (by omega)
    · change _ < _ ∨ _ < _ ∧ _ < _
      omega
  · obtain ⟨x, _, rest, rfl, low, high, completes⟩ := completes.cases ranges
    obtain ⟨y, _, rest, rfl, -, -, completes⟩ := completes.cases (Begun.ranges_plain _ _ _)
    obtain ⟨z, _, rest, rfl, -, -, rfl, rfl⟩ := completes.cases (Begun.ranges_plain _ _ _)
    have range : (a = 0 → 0x10 ≤ x) ∧ (a = 4 → x < 0x10) := by
      constructor
      · rintro rfl
        simpa using low
      · rintro rfl
        simp at high
        omega
    dsimp only
    refine Stands.utf8EncodeChar_eq (.four (by omega) ‹_› ‹_› ‹_›) (fun other stands => ?_) ?_
    · exact stands.le_length.2.2 (by omega)
    · change _ < _ ∨ _ < _ ∧ _ < _
      omega

namespace Opens

variable {taken : Bytes} {state : Begun}

theorem seen_eq (opens : Opens taken state) : state.seen = taken.length := by
  induction opens with
  | first begun =>
    rcases first_eq_begun begun with ⟨a, -, -, -, rfl⟩ | ⟨a, -, -, rfl⟩ | ⟨a, -, -, rfl⟩ <;> rfl
  | @next taken state further b opens begun ih =>
    rcases Begun.next_cases opens.ranges b with refused | ⟨x, -, -, -, -, next⟩
    · rw [refused] at begun
      cases begun
    · rw [next] at begun
      split at begun
      · cases begun
      · cases begun
        rw [List.length_append, ← ih]
        rfl

/-- A character that is completed is spelled by all the bytes that were taken. -/
theorem utf8EncodeChar_eq (opens : Opens taken state) {tail : Bytes} {c : Char}
    (completes : Completes state tail c) :
    String.utf8EncodeChar c = taken ++ tail := by
  induction opens generalizing tail with
  | first begun => exact utf8EncodeChar_of_first begun completes
  | next opens begun ih => rw [ih (.more begun completes), List.append_assoc, List.singleton_append]

theorem decodeFrom_append (opens : Opens taken state) (index : Nat) (rest : Bytes) :
    decodeFrom index none (taken ++ rest) = decodeFrom index (some state) rest := by
  induction opens generalizing rest with
  | first begun => simp only [List.singleton_append, decodeFrom, begun]
  | next opens begun ih =>
    simp only [List.append_assoc, List.singleton_append, ih, decodeFrom, begun]

/-- What was taken is less than some character. -/
theorem exists_character (opens : Opens taken state) : ∃ c, taken <+: String.utf8EncodeChar c ∧
    taken ≠ String.utf8EncodeChar c := by
  obtain ⟨tail, c, completes⟩ := exists_completes opens.ranges
  have spelled := opens.utf8EncodeChar_eq completes
  refine ⟨c, ⟨tail, spelled.symm⟩, fun same => ?_⟩
  rw [← same] at spelled
  obtain rfl := List.self_eq_append_right.mp spelled
  cases completes

end Opens

/-! ### What the reader tells -/

/-- A reader that stops with a fault whatever follows has not been given the beginning of a
character. -/
theorem not_prefix_of_stopped {bytes : Bytes} {fault : Fault}
    (stopped : ∀ more, decodeFrom 0 none (bytes ++ more) = .error fault) (c : Char) :
    ¬bytes <+: String.utf8EncodeChar c := by
  rintro ⟨more, whole⟩
  have read := decodeFrom_utf8EncodeChar 0 c []
  rw [List.append_nil, ← whole, stopped] at read
  cases read

theorem not_prefix_of_first {b : UInt8} (refused : first b = .refused) (rest : Bytes) (c : Char) :
    ¬b :: rest <+: String.utf8EncodeChar c :=
  not_prefix_of_stopped (fun more => by simp only [List.cons_append, decodeFrom, refused]; rfl) c

theorem Opens.not_prefix {taken : Bytes} {state : Begun} (opens : Opens taken state) {b : UInt8}
    (refused : state.next b = .refused) (rest : Bytes) (c : Char) :
    ¬taken ++ b :: rest <+: String.utf8EncodeChar c := by
  have stopped (more : Bytes) :
      decodeFrom 0 none (taken ++ b :: rest ++ more) = .error (.invalid 0 state.seen) := by
    rw [List.append_assoc, opens.decodeFrom_append]
    simp only [List.cons_append, decodeFrom, refused]
  exact not_prefix_of_stopped stopped c

/-- What is told of bytes that begin at the index: the characters they spell, or where the first
stretch begins that is none, and whether it is the beginning of one. -/
inductive Told (index : Nat) (bytes : Bytes) : Except Fault (List Char) → Prop where
  | read {s : List Char} (spelled : encodeChars s = bytes) : Told index bytes (.ok s)
  | invalid {s : List Char} {rest : Bytes} {length : Nat} (split : encodeChars s ++ rest = bytes)
      (foreign : ∀ c, ¬rest <+: String.utf8EncodeChar c) :
      Told index bytes (.error (.invalid (index + (encodeChars s).length) length))
  | incomplete {s : List Char} {rest : Bytes} (split : encodeChars s ++ rest = bytes)
      (inside : ∃ c, rest <+: String.utf8EncodeChar c ∧ rest ≠ String.utf8EncodeChar c) :
      Told index bytes (.error (.incomplete (index + (encodeChars s).length)))

theorem Told.cons {index : Nat} {bytes : Bytes} {answer : Except Fault (List Char)} (c : Char)
    (told : Told (index + (String.utf8EncodeChar c).length) bytes answer) :
    Told index (String.utf8EncodeChar c ++ bytes) (answer.map (c :: ·)) := by
  have spelled (s : List Char) :
      encodeChars (c :: s) = String.utf8EncodeChar c ++ encodeChars s := rfl
  have long (s : List Char) : index + (String.utf8EncodeChar c).length + (encodeChars s).length =
      index + (encodeChars (c :: s)).length := by
    rw [spelled, List.length_append, Nat.add_assoc]
  cases told with
  | read here => exact .read (by rw [spelled, here])
  | @invalid s rest length split foreign =>
    rw [long]
    exact .invalid (by rw [spelled, List.append_assoc, split]) foreign
  | @incomplete s rest split inside =>
    rw [long]
    exact .incomplete (by rw [spelled, List.append_assoc, split]) inside

/-- What the reader tells is so, between characters and inside one. -/
theorem told_decodeFrom (bytes : Bytes) (index : Nat) :
    Told index bytes (decodeFrom index none bytes) ∧
    ∀ {taken state}, Opens taken state → Told index (taken ++ bytes)
      (decodeFrom index (some state) bytes) := by
  -- The two parts go together, since each byte may lead from between characters into one or back.
  induction bytes generalizing index with
  | nil =>
    refine ⟨.read rfl, fun {taken state} opens => ?_⟩
    rw [List.append_nil]
    exact .incomplete (s := []) rfl opens.exists_character
  | cons b rest ih =>
    constructor
    · rw [decodeFrom]
      cases opened : first b with
      | whole c =>
        have spelled := first_eq_whole opened
        rw [← List.singleton_append, ← spelled]
        exact Told.cons c (by rw [spelled]; exact (ih (index + 1)).1)
      | begun state => exact (ih index).2 (.first opened)
      | refused => exact .invalid (s := []) rfl (not_prefix_of_first opened rest)
    -- Inside a character the bytes that were taken belong to what is told.
    · intro taken state opens
      rw [decodeFrom]
      cases next : state.next b with
      | whole c =>
        have spelled := opens.utf8EncodeChar_eq (.last next)
        have long : index + state.seen + 1 = index + (String.utf8EncodeChar c).length := by
          rw [spelled, opens.seen_eq, List.length_append, List.length_singleton, Nat.add_assoc]
        rw [show taken ++ b :: rest = String.utf8EncodeChar c ++ rest by simp [spelled], long]
        exact (ih _).1.cons c
      | begun further =>
        have told := (ih index).2 (.next opens next)
        rwa [List.append_assoc, List.singleton_append] at told
      | refused => exact .invalid (s := []) rfl (opens.not_prefix next rest)

def Fault.index : Fault → Nat
  | .invalid index _ => index
  | .incomplete index => index

theorem Told.le_index {index : Nat} {bytes : Bytes} {fault : Fault}
    (told : Told index bytes (.error fault)) :
    index ≤ fault.index := by
  cases told with
  | invalid | incomplete => exact Nat.le_add_right _ _

theorem decodeFrom_encodeChars_append (s : List Char) (index : Nat) (rest : Bytes) :
    decodeFrom index none (encodeChars s ++ rest) =
      (decodeFrom (index + (encodeChars s).length) none rest).map (s ++ ·) := by
  induction s generalizing index with
  | nil => cases read : decodeFrom index none rest <;> simp [encodeChars, read, Except.map]
  | cons c s ih =>
    have spelled : encodeChars (c :: s) = String.utf8EncodeChar c ++ encodeChars s := rfl
    rw [spelled, List.append_assoc, decodeFrom_utf8EncodeChar, ih, List.length_append,
      Nat.add_assoc]
    cases decodeFrom
      (index + ((String.utf8EncodeChar c).length + (encodeChars s).length)) none rest <;> rfl

/-- No well-formed beginning goes further than the reader. -/
theorem WellFormed.length_le {front rest : Bytes} (formed : WellFormed front) {fault : Fault}
    (refused : decodeFrom 0 none (front ++ rest) = .error fault) : front.length ≤ fault.index := by
  obtain ⟨s, rfl⟩ := wellFormed_iff.mp formed
  rw [decodeFrom_encodeChars_append, Nat.zero_add] at refused
  have told := (told_decodeFrom rest (encodeChars s).length).1
  cases read : decodeFrom (encodeChars s).length none rest with
  | ok t =>
    rw [read] at refused
    cases refused
  | error cause =>
    rw [read] at refused told
    cases refused
    exact told.le_index

/-! ### Texts -/

theorem decode_encode (text : String) : decode (encode text) = .ok text := by
  rw [encode, decode_encodeChars, String.ofList_toList]

theorem encode_of_decode {bytes : Bytes} {text : String} (read : decode bytes = .ok text) :
    encode text = bytes := by
  have told := (told_decodeFrom bytes 0).1
  unfold decode at read
  cases answer : decodeFrom 0 none bytes with
  | error cause =>
    rw [answer] at read
    cases read
  | ok s =>
    rw [answer] at read told
    cases read
    cases told with
    | read spelled => rw [encode, String.toList_ofList, spelled]

theorem decode_isOk_iff {bytes : Bytes} : (∃ text, decode bytes = .ok text) ↔ WellFormed bytes := by
  rw [wellFormed_iff]
  constructor
  · rintro ⟨text, read⟩
    exact ⟨text.toList, encode_of_decode read⟩
  · rintro ⟨s, rfl⟩
    exact ⟨String.ofList s, decode_encodeChars s⟩

/-- Begins a character, and is not all of it. -/
def BeginsCharacter (bytes : Bytes) : Prop := ∃ one, IsCharacter one ∧ bytes <+: one ∧ bytes ≠ one

/-- A refusal names the end of the longest well-formed beginning, and calls the rest incomplete if
it could be completed. -/
theorem decode_refusal {bytes : Bytes} {fault : Fault} (refused : decode bytes = .error fault) :
    (fault.index ≤ bytes.length ∧ WellFormed (bytes.take fault.index) ∧
      ∀ longer ≤ bytes.length, WellFormed (bytes.take longer) → longer ≤ fault.index) ∧
    (BeginsCharacter (bytes.drop fault.index) ∧ fault = .incomplete fault.index ∨
      ¬BeginsCharacter (bytes.drop fault.index) ∧
      ∃ length, fault = .invalid fault.index length) := by
  have told := (told_decodeFrom bytes 0).1
  have stopped : decodeFrom 0 none bytes = .error fault := by
    unfold decode at refused
    cases answer : decodeFrom 0 none bytes with
    | ok s =>
      rw [answer] at refused
      cases refused
    | error cause =>
      rw [answer] at refused
      cases refused
      rfl
  have furthest : ∀ longer ≤ bytes.length, WellFormed (bytes.take longer) →
      longer ≤ fault.index := by
    intro longer inside formed
    have whole := List.take_append_drop longer bytes
    have below := formed.length_le (whole.symm ▸ stopped)
    rwa [List.length_take, Nat.min_eq_left inside] at below
  rw [stopped] at told
  -- The bytes before the place are characters, so the place is within the bytes.
  have placed {s : List Char} {rest : Bytes} (split : encodeChars s ++ rest = bytes)
      (place : fault.index = 0 + (encodeChars s).length) :
      (fault.index ≤ bytes.length ∧ WellFormed (bytes.take fault.index)) ∧
      bytes.drop fault.index = rest := by
    rw [place, Nat.zero_add, ← split, List.length_append, List.take_left, List.drop_left]
    exact ⟨⟨Nat.le_add_right _ _, wellFormed_iff.mpr ⟨s, rfl⟩⟩, rfl⟩
  cases told with
  | @invalid s rest length split foreign =>
    obtain ⟨⟨inside, formed⟩, left⟩ := placed split rfl
    refine ⟨⟨inside, formed, furthest⟩, Or.inr ⟨?_, length, rfl⟩⟩
    rintro ⟨one, character, begins, -⟩
    obtain ⟨c, rfl⟩ := isCharacter_iff.mp character
    exact foreign c (left ▸ begins)
  | @incomplete s rest split inside =>
    obtain ⟨⟨within, formed⟩, remains⟩ := placed split rfl
    obtain ⟨c, begins, less⟩ := inside
    refine ⟨⟨within, formed, furthest⟩, Or.inl ⟨?_, rfl⟩⟩
    rw [remains]
    exact ⟨_, isCharacter_iff.mpr ⟨c, rfl⟩, begins, less⟩

end Conduit.Text.Utf8
