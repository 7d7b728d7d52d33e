import Conduit.Proofs.Text.Natural
import Conduit.Time.Duration

/-!
# Spans of time as they are written

A span is written as a natural number and the suffix of a unit. The suffixes overlap, but a number
ends in a digit and no suffix has one, so the unit that is tried first among those whose suffix fits
is the unit that was written. What is read is that number of units, if its whole seconds fit into a
word of 64 bits.
-/
namespace Conduit.Duration

open Number

/-- So many units, as whole seconds and the nanoseconds beside them. -/
def Unit.parts : Unit → Nat → Nat × Nat
  | milliseconds, n => (n / 1000, n % 1000 * 1000000)
  | hours, n => (n * 3600, 0)
  | minutes, n => (n * 60, 0)
  | seconds, n => (n, 0)
  | unmarked, n => (n, 0)

/-- A text denotes so many units of time: it is the number with the suffix of the unit, the number
fits into a word of 64 bits, and so do the whole seconds. -/
structure Denotes (text : List Char) (unit : Unit) (n : Nat) : Prop where
  written : ∃ number, Text.Spells number n ∧ text = number ++ unit.suffix
  word : n < UInt64.size
  seconds : (unit.parts n).1 < UInt64.size

theorem eq_of_parts {a b : Duration} (whole : a.seconds = b.seconds)
    (rest : a.subsecond = b.subsecond) : a = b := by
  obtain ⟨a⟩ := a
  obtain ⟨b⟩ := b
  simp only [seconds, subsecond] at whole rest
  exact congrArg Duration.mk (by omega)

theorem Unit.parts_eq (unit : Unit) (n : Nat) :
    unit.parts n = (Duration.seconds ⟨n * unit.nanos⟩, Duration.subsecond ⟨n * unit.nanos⟩) := by
  cases unit <;> simp only [Unit.parts, Duration.seconds, Duration.subsecond, Unit.nanos,
    Prod.mk.injEq] <;> omega

theorem Unit.le_limit_iff (unit : Unit) {n : Nat} (word : n < UInt64.size) :
    n ≤ unit.limit ↔ (unit.parts n).1 < UInt64.size := by
  have size : Nat.pow 2 64 = UInt64.size := rfl
  cases unit <;> simp only [Unit.parts, Unit.limit, size, UInt64.size] at * <;> omega

theorem stripSuffix?_eq_some_iff {suffix s number : List Char} :
    stripSuffix? suffix s = some number ↔ s = number ++ suffix := by
  rw [stripSuffix?]
  split
  next ends =>
    obtain ⟨front, rfl⟩ := List.isSuffixOf_iff_suffix.mp ends
    simp [eq_comm]
  next differs =>
    refine iff_of_false (fun some => by cases some) ?_
    rintro rfl
    exact differs (List.isSuffixOf_iff_suffix.mpr (List.suffix_append number suffix))

/-- The number and the suffix of its unit are the text. -/
theorem append_suffix_of_unitOf {s number : List Char} {unit : Unit}
    (split : unitOf s = (unit, number)) :
    s = number ++ unit.suffix := by
  rw [unitOf] at split
  cases found : Unit.all.findSome? fun unit =>
      (stripSuffix? unit.suffix s).map fun number => (unit, number) with
  | none =>
    rw [found] at split
    obtain ⟨rfl, rfl⟩ := Prod.mk.inj split
    exact (List.append_nil s).symm
  | some pair =>
    rw [found] at split
    obtain rfl : pair = (unit, number) := split
    obtain ⟨tried, -, stripped⟩ := List.exists_of_findSome?_eq_some found
    obtain ⟨rest, strips, same⟩ := Option.map_eq_some_iff.mp stripped
    obtain ⟨rfl, rfl⟩ := Prod.mk.inj same
    exact stripSuffix?_eq_some_iff.mp strips

/-- A number with a suffix is split where it was put together: no suffix has a digit, so none that
is tried earlier fits. -/
theorem unitOf_append {number : List Char} {n : Nat} (spelled : Text.Spells number n)
    (unit : Unit) :
    unitOf (number ++ unit.suffix) = (unit, number) := by
  obtain ⟨front, last, rfl⟩ := spelled.ends_in_digit
  have m : 'm' ≠ last.char := Text.ne_char rfl last
  have h : 'h' ≠ last.char := Text.ne_char rfl last
  have s : 's' ≠ last.char := Text.ne_char rfl last
  cases unit <;>
    simp [unitOf, Unit.all, stripSuffix?, Unit.suffix, List.isSuffixOf, m, h, s, List.take_append,
      List.take_of_length_le]

theorem parse_of_denotes {s : String} {unit : Unit} {n : Nat}
    (denotes : Denotes (Text.trim s.toList) unit n) :
    parse s = .ok ⟨n * unit.nanos⟩ := by
  obtain ⟨⟨number, spelled, written⟩, word, seconds⟩ := denotes
  have some : (number ++ unit.suffix).isEmpty = false := by
    obtain ⟨front, last, rfl⟩ := spelled.ends_in_digit
    simp
  have read : Text.readNatural (Nat.pow 2 64 - 1) number = .ok n :=
    Text.readNatural_eq_ok_iff.mpr ⟨spelled, Nat.le_sub_one_of_lt word⟩
  unfold parse
  dsimp only
  rw [written, some, if_neg Bool.false_ne_true, unitOf_append spelled]
  dsimp only
  rw [read]
  exact if_pos ((unit.le_limit_iff word).mpr seconds)

theorem denotes_of_parse {s : String} {d : Duration} (read : parse s = .ok d) :
    ∃ (unit : Unit) (n : Nat), Denotes (Text.trim s.toList) unit n ∧ d = ⟨n * unit.nanos⟩ := by
  unfold parse at read
  dsimp only at read
  split at read
  · cases read
  rcases split : unitOf (Text.trim s.toList) with ⟨unit, number⟩
  rw [split] at read
  dsimp only at read
  split at read
  · cases read
  next n readNumber =>
    obtain ⟨spelled, small⟩ := Text.readNatural_eq_ok_iff.mp readNumber
    have word : n < UInt64.size := Nat.lt_of_le_sub_one (by decide) small
    split at read
    next within =>
      obtain rfl := Except.ok.inj read
      have written := append_suffix_of_unitOf split
      have seconds := (unit.le_limit_iff word).mp within
      exact ⟨unit, n, ⟨⟨number, spelled, written⟩, word, seconds⟩, rfl⟩
    · cases read

/-- A text is read as a span if and only if, without the blanks around it, it denotes so many units
of time, and the span has exactly their whole seconds and the nanoseconds beside them. Every other
text is refused. -/
theorem parse_reads_denoted (s : String) :
    (∀ d, parse s = .ok d ↔ ∃ (unit : Unit) (n : Nat), Denotes (Text.trim s.toList) unit n ∧
      (d.seconds, d.subsecond) = unit.parts n) ∧
    ((∃ fault, parse s = .error fault) ↔
      ¬∃ (unit : Unit) (n : Nat), Denotes (Text.trim s.toList) unit n) := by
  refine ⟨fun d => ⟨fun read => ?_, ?_⟩, ⟨?_, fun senseless => ?_⟩⟩
  · obtain ⟨unit, n, denotes, rfl⟩ := denotes_of_parse read
    exact ⟨unit, n, denotes, (unit.parts_eq n).symm⟩
  · rintro ⟨unit, n, denotes, parts⟩
    rw [unit.parts_eq] at parts
    obtain ⟨seconds, subsecond⟩ := Prod.mk.inj parts
    rw [parse_of_denotes denotes, eq_of_parts seconds subsecond]
  · rintro ⟨fault, refused⟩ ⟨unit, n, denotes⟩
    rw [parse_of_denotes denotes] at refused
    cases refused
  · cases read : parse s with
    | error fault => exact ⟨fault, rfl⟩
    | ok d =>
      obtain ⟨unit, n, denotes, -⟩ := denotes_of_parse read
      exact absurd ⟨unit, n, denotes⟩ senseless

example : parse " +007ms\n" = .ok ⟨7000000⟩ := by rfl

end Conduit.Duration
