import Conduit.Proofs.Broker.Offsets

/-!
# Positions in a log

A log holds the records of each partition by ascending offset, with gaps where records are gone. A
reader that starts from committed offsets is served each partition in this order. After it has read
some records its position is just behind the last of them in each partition, and where it has read
none it is where it started; committing the records one batch after the other leads to the same
position, which never moves back.
-/
namespace Conduit

open Text.Utf8

/-- What there is to read. The offset behind a record is an offset itself. -/
structure SourceLog where
  records : TopicPartition → List RawRecord
  placed : ∀ part, ∀ record ∈ records part, record.place = part
  ascending : ∀ part, (records part).Pairwise fun a b => a.offset < b.offset
  bounded : ∀ part, ∀ record ∈ records part, record.offset < Int64.maxValue

/-- The offset from which each partition is read on, if one is committed. -/
abbrev Commitment := TopicPartition → Option Int64

/-- The commitment after a batch is committed. -/
def Commitment.advance (base : Commitment) (batch : List RawRecord) : Commitment :=
  fun part => ((offsetsPast batch).find? part).or (base part)

/-- A record that is not read again from what is committed. -/
def Below (committed : Commitment) (record : RawRecord) : Prop :=
  ∃ offset, committed record.place = some offset ∧ record.offset < offset

/-- One commitment is nowhere ahead of another. -/
def NoFurther (one other : Commitment) : Prop := ∀ part, one part ≤ other part

/-- Behind the last record of each partition, or where nothing was read at the start. -/
def positionAfter (base : Commitment) (read : List RawRecord) : Commitment :=
  fun part => ((recordsIn part read).getLast?.map Record.past).or (base part)

theorem NoFurther.below {one other : Commitment} (further : NoFurther one other)
    {record : RawRecord} (below : Below one record) : Below other record := by
  obtain ⟨offset, here, less⟩ := below
  have ahead := further record.place
  rw [here] at ahead
  cases there : other record.place with
  | none => simp [there] at ahead
  | some later =>
    rw [there, Option.some_le_some] at ahead
    exact ⟨later, there, Std.lt_of_lt_of_le less ahead⟩

theorem NoFurther.refl (base : Commitment) : NoFurther base base := by
  intro part
  cases base part <;> simp [Std.le_refl]

theorem NoFurther.trans {one two three : Commitment} (first : NoFurther one two)
    (second : NoFurther two three) : NoFurther one three := by
  intro part
  have ahead := first part
  have further := second part
  cases h₁ : one part <;> cases h₂ : two part <;> cases h₃ : three part <;> simp_all
  exact Std.le_trans ahead further

theorem Record.offset_lt_past {record : RawRecord} (bounded : record.offset < Int64.maxValue) :
    record.offset < record.past := by
  rw [Int64.lt_iff_toInt_lt, Record.past_toInt bounded]
  omega

namespace SourceLog

variable (log : SourceLog) (base : Commitment)

/-- The records of a partition that are read from a commitment on: all if there is none. -/
def onward (part : TopicPartition) : List RawRecord :=
  (log.records part).filter fun record => (base part).all (· ≤ record.offset)

/-- Each partition is served in offset order from the commitment on. -/
def Serves (read : List RawRecord) : Prop := ∀ part, recordsIn part read <+: log.onward base part

variable {log base} {read batch : List RawRecord} {part : TopicPartition} {record : RawRecord}

theorem Serves.earlier (serves : log.Serves base (read ++ batch)) : log.Serves base read := by
  intro part
  have both := serves part
  rw [recordsIn_append] at both
  exact (List.prefix_append _ _).trans both

/-- Reading one partition only. -/
theorem serves_of_one (part : TopicPartition) (inside : ∀ record ∈ read, record.place = part)
    (onward : read <+: log.onward base part) : log.Serves base read := by
  intro other
  -- Of all other partitions nothing is read.
  by_cases here : other = part
  · rw [here, recordsIn, List.filter_eq_self.mpr (by simpa using inside)]
    exact onward
  · have none : recordsIn other read = [] := by
      refine List.filter_eq_nil_iff.mpr fun record member => ?_
      simpa [inside record member] using Ne.symm here
    rw [none]
    exact List.nil_prefix

theorem Serves.mem_log (serves : log.Serves base read) (member : record ∈ recordsIn part read) :
    record ∈ log.records part ∧ ∀ offset, base part = some offset → offset ≤ record.offset := by
  have onward := (serves part).mem member
  rw [SourceLog.onward, List.mem_filter] at onward
  refine ⟨onward.1, fun offset start => ?_⟩
  simpa [start] using onward.2

theorem Serves.bounded (serves : log.Serves base read) {part : TopicPartition}
    (member : record ∈ recordsIn part read) : record.offset < Int64.maxValue :=
  log.bounded part record (serves.mem_log member).1

theorem Serves.bounded_later (serves : log.Serves base (read ++ batch)) {part : TopicPartition}
    (member : record ∈ recordsIn part batch) : record.offset < Int64.maxValue := by
  have whole : record ∈ recordsIn part (read ++ batch) := by
    rw [recordsIn_append]
    exact List.mem_append_right _ member
  exact serves.bounded whole

theorem onward_ascending (log : SourceLog) (base : Commitment) (part : TopicPartition) :
    (log.onward base part).Pairwise fun a b => a.offset < b.offset :=
  (log.ascending part).sublist List.filter_sublist

theorem Serves.ascending (serves : log.Serves base read) (part : TopicPartition) :
    (recordsIn part read).Pairwise fun a b => a.offset < b.offset :=
  (onward_ascending log base part).sublist (serves part).sublist

/-- No record is served that lies below the commitment. -/
theorem Serves.not_below (serves : log.Serves base read) (member : record ∈ read) :
    ¬Below base record := by
  rintro ⟨offset, start, less⟩
  have least := (serves.mem_log (mem_recordsIn.mpr ⟨member, rfl⟩)).2 offset start
  exact absurd (Std.lt_of_lt_of_le less least) Std.lt_irrefl

private theorem offset_le_getLast {records : List RawRecord} {last : RawRecord}
    (ascending : records.Pairwise fun a b => a.offset < b.offset) (member : record ∈ records)
    (final : records.getLast? = some last) : record.offset ≤ last.offset := by
  obtain ⟨before, rfl⟩ := List.getLast?_eq_some_iff.mp final
  rcases List.mem_append.mp member with earlier | same
  · exact Std.le_of_lt
      ((List.pairwise_append.mp ascending).2.2 record earlier last List.mem_cons_self)
  · rw [List.mem_singleton.mp same]
    exact Std.le_refl _

/-- What was read is below the position behind it. -/
theorem Serves.below_position (serves : log.Serves base read) (member : record ∈ read) :
    Below (positionAfter base read) record := by
  have inside : record ∈ recordsIn record.place read := mem_recordsIn.mpr ⟨member, rfl⟩
  cases final : (recordsIn record.place read).getLast? with
  | none => simp [List.getLast?_eq_none_iff.mp final] at inside
  | some last =>
    refine ⟨last.past, by simp [positionAfter, final], ?_⟩
    have most := offset_le_getLast (serves.ascending record.place) inside final
    exact Std.lt_of_le_of_lt most
      (Record.offset_lt_past (serves.bounded (List.mem_of_getLast? final)))

/-- What is below the position was below the start, or it was read: nothing is skipped. -/
theorem Serves.read_of_below (serves : log.Serves base read) (member : record ∈ log.records part)
    (below : Below (positionAfter base read) record) : Below base record ∨ record ∈ read := by
  have here := log.placed part record member
  obtain ⟨offset, position, less⟩ := below
  rw [positionAfter, here] at position
  cases final : (recordsIn part read).getLast? with
  | none => exact Or.inl ⟨offset, by simpa [final, here] using position, less⟩
  | some last =>
    by_cases start : Below base record
    · exact Or.inl start
    · right
      -- At the start or behind it, the record is in the part of the log that is read.
      have ahead : record ∈ log.onward base part := by
        refine List.mem_filter.mpr ⟨member, ?_⟩
        cases from_ : base part with
        | none => rfl
        | some offset =>
          have least : ¬record.offset < offset := fun less => start ⟨offset, here ▸ from_, less⟩
          simpa [from_] using Std.not_lt.mp least
      obtain ⟨rest, whole⟩ := serves part
      rw [← whole] at ahead
      -- So it was read, or it stands behind the last one that was read, and then not below the
      -- position.
      rcases List.mem_append.mp ahead with inside | behind
      · exact (mem_recordsIn.mp inside).1
      · have member := List.mem_of_getLast? final
        have order := onward_ascending log base part
        rw [← whole] at order
        have further := (List.pairwise_append.mp order).2.2 last member record behind
        have bounded := serves.bounded member
        simp only [final, Option.map_some, Option.some_or, Option.some.injEq] at position
        subst position
        rw [Int64.lt_iff_toInt_lt] at less further
        rw [Record.past_toInt bounded] at less
        omega

theorem Serves.start_noFurther (serves : log.Serves base read) :
    NoFurther base (positionAfter base read) := by
  intro part
  cases final : (recordsIn part read).getLast? with
  | none => simpa [positionAfter, final] using NoFurther.refl base part
  | some last =>
    cases start : base part with
    | none => simp
    | some offset =>
      -- What was read last was not below the start.
      have member := List.mem_of_getLast? final
      have least := (serves.mem_log member).2 offset start
      have less := Record.offset_lt_past (serves.bounded member)
      simpa [positionAfter, final] using Std.le_of_lt (Std.lt_of_le_of_lt least less)

/-- Committing a further batch moves the position behind it. -/
theorem Serves.advance_position (serves : log.Serves base (read ++ batch)) :
    (positionAfter base read).advance batch = positionAfter base (read ++ batch) := by
  funext part
  have ascending := serves.ascending part
  rw [recordsIn_append] at ascending
  -- In offset order the batch is committed just behind its last record, which is the last one read.
  rw [Commitment.advance, find?_offsetsPast_of_ascending (List.pairwise_append.mp ascending).2.1,
    positionAfter, positionAfter, recordsIn_append, List.getLast?_append]
  cases (recordsIn part batch).getLast? <;> simp

/-- A further batch never moves the position back. -/
theorem Serves.position_noFurther (serves : log.Serves base (read ++ batch)) :
    NoFurther (positionAfter base read) (positionAfter base (read ++ batch)) := by
  intro part
  cases final : (recordsIn part batch).getLast? with
  | none =>
    rw [List.getLast?_eq_none_iff] at final
    simpa [positionAfter, recordsIn_append, final] using NoFurther.refl
      (positionAfter base read) part
  | some last =>
    cases before : (recordsIn part read).getLast? with
    | none =>
      rw [List.getLast?_eq_none_iff] at before
      have start := serves.start_noFurther part
      simpa [positionAfter, recordsIn_append, before] using start
    | some earlier =>
      -- Both positions are behind a record, and the later record has the higher offset.
      have ascending := serves.ascending part
      rw [recordsIn_append] at ascending
      have less := (List.pairwise_append.mp ascending).2.2 earlier (List.mem_of_getLast? before)
        last (List.mem_of_getLast? final)
      have bounded := serves.bounded_later (List.mem_of_getLast? final)
      have behind : earlier.past ≤ last.past := by
        rw [Int64.lt_iff_toInt_lt] at less
        rw [Int64.le_iff_toInt_le, Record.past_toInt bounded,
          Record.past_toInt (serves.earlier.bounded (List.mem_of_getLast? before))]
        omega
      simpa [positionAfter, recordsIn_append, before, final] using behind

end SourceLog

end Conduit
