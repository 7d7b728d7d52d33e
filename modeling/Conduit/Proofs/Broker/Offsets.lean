import Conduit.Broker.Consumer
import Conduit.Proofs.Data.Table
import Mathlib.Data.List.Induction

/-!
# The offsets that are committed

Committing records sets each of their partitions just past the highest record in it. The offsets are
gathered record by record in a table, so what they come to is found by adding one record at the end.
Where the records of a partition are in offset order, the highest one is the last one.
-/
namespace Conduit

variable {κ α : Type}

/-- The partition that a record is in. -/
def Record.place (record : Record κ α) : TopicPartition := ⟨record.topic, record.partition⟩

/-- The offset behind a record. -/
def Record.past (record : Record κ α) : Int64 := record.offset + 1

/-- The records of one partition. -/
def recordsIn (part : TopicPartition) (records : List (Record κ α)) : List (Record κ α) :=
  records.filter fun record => record.place = part

theorem mem_recordsIn {part : TopicPartition} {records : List (Record κ α)} {record : Record κ α} :
    record ∈ recordsIn part records ↔ record ∈ records ∧ record.place = part := by
  simp [recordsIn]

theorem recordsIn_cons (part : TopicPartition) (record : Record κ α) (rest : List (Record κ α)) :
    recordsIn part (record :: rest) =
      if record.place = part then record :: recordsIn part rest else recordsIn part rest := by
  simp only [recordsIn, List.filter_cons, decide_eq_true_eq]

theorem recordsIn_append (part : TopicPartition) (earlier later : List (Record κ α)) :
    recordsIn part (earlier ++ later) = recordsIn part earlier ++ recordsIn part later :=
  List.filter_append earlier later

theorem recordsIn_eq_self {part : TopicPartition} {records : List (Record κ α)}
    (inside : ∀ record ∈ records, record.place = part) : recordsIn part records = records :=
  List.filter_eq_self.mpr (by simpa using inside)

theorem recordsIn_eq_nil {part : TopicPartition} {records : List (Record κ α)}
    (outside : ∀ record ∈ records, record.place ≠ part) : recordsIn part records = [] :=
  List.filter_eq_nil_iff.mpr (by simpa using outside)

theorem Record.past_toInt {record : Record κ α} (bounded : record.offset < Int64.maxValue) :
    record.past.toInt = record.offset.toInt + 1 := by
  have low := Int64.minValue_le_toInt record.offset
  have high := Int64.lt_iff_toInt_lt.mp bounded
  rw [past, Int64.toInt_add]
  simp only [Int64.toInt_maxValue, Int64.toInt_minValue, Int64.toInt_one] at *
  -- The offset is below the greatest one, so the sum does not wrap.
  rw [Int.bmod_eq_of_le] <;> omega

/-- Of two offsets the greater one is one of them. -/
instance instMaxEqOrInt64 : Std.MaxEqOr Int64 := ⟨fun a b => by
  change (if a ≤ b then b else a) = a ∨ (if a ≤ b then b else a) = b
  split <;> simp⟩

private theorem max?_concat (xs : List Int64) (x : Int64) :
    (xs ++ [x]).max? = some (match xs.max? with
      | some most => max most x
      | none => x) := by
  cases xs with
  | nil => rfl
  | cons first rest => simp [List.max?_cons', List.foldl_append]

instance instLawfulOrderMaxInt64 : Std.LawfulOrderMax Int64 where
  max_le_iff a b c := by
    change (if a ≤ b then b else a) ≤ c ↔ a ≤ c ∧ b ≤ c
    split
    next less => exact ⟨fun bound => ⟨Int64.le_trans less bound, bound⟩, And.right⟩
    next more =>
      have less : b ≤ a := (Int64.le_total a b).resolve_left more
      exact ⟨fun bound => ⟨bound, Int64.le_trans less bound⟩, And.left⟩

theorem find?_highestOffsets (records : List (Record κ α)) (part : TopicPartition) :
    (highestOffsets records).find? part = ((recordsIn part records).map Record.offset).max? := by
  -- Records are gathered from the left, so the induction takes them off at the end.
  induction records using List.reverseRecOn with
  | nil => rfl
  | append_singleton earlier last ih =>
    have step : highestOffsets (earlier ++ [last]) = (highestOffsets earlier).insert last.place
        (match (highestOffsets earlier).find? last.place with
          | some offset => max offset last.offset
          | none => last.offset) := by
      simp only [highestOffsets, List.foldl_append, List.foldl_cons, List.foldl_nil]
      rfl
    rw [step, Table.find?_insert, recordsIn_append]
    by_cases here : part = last.place
    · subst here
      simp [recordsIn, max?_concat, ih]
    · have elsewhere : ¬last.place = part := fun same => here same.symm
      simp [recordsIn, here, elsewhere, ih]

/-- The offset for a partition is the one behind its highest record. -/
theorem find?_offsetsPast (records : List (Record κ α)) (part : TopicPartition) :
    (offsetsPast records).find? part =
      ((recordsIn part records).map Record.offset).max?.map (· + 1) := by
  rw [offsetsPast, Table.find?_map, find?_highestOffsets]

/-- In offset order the last record of a partition decides. -/
theorem find?_offsetsPast_of_ascending {records : List (Record κ α)} {part : TopicPartition}
    (ascending : (recordsIn part records).Pairwise fun a b => a.offset < b.offset) :
    (offsetsPast records).find? part = (recordsIn part records).getLast?.map Record.past := by
  rw [find?_offsetsPast]
  generalize recordsIn part records = inside at ascending
  rcases List.eq_nil_or_concat inside with rfl | ⟨earlier, last, rfl⟩
  · rfl
  · rw [List.concat_eq_append] at *
    rw [List.map_append, List.map_cons, List.map_nil, max?_concat, List.getLast?_concat]
    cases most : (earlier.map Record.offset).max? with
    | none => rfl
    | some most =>
      -- The highest of the earlier offsets is that of an earlier record, so it is lower.
      obtain ⟨record, member, rfl⟩ := List.mem_map.mp (List.max?_mem most)
      have less := (List.pairwise_append.mp ascending).2.2 record member last List.mem_cons_self
      have highest : max record.offset last.offset = last.offset := if_pos (Int64.le_of_lt less)
      simp only [highest, Option.map_some, Record.past]

/-- What a group has committed in a partition, after it committed records. -/
theorem Consumer.committed_commitRecords (consumer : Consumer κ α) (records : List (Record κ α))
    (cluster : Cluster) (standing : Standing) (part : TopicPartition) :
    (consumer.commitRecords records cluster standing).1.committed consumer.group part =
      ((offsetsPast records).find? part).or (cluster.committed consumer.group part) := by
  -- No records commit nothing; else the new offsets go over those that were committed before.
  unfold commitRecords
  split
  next none =>
    rw [List.isEmpty_iff.mp none]
    rfl
  · simp only [Cluster.committed, Cluster.commit, Table.find?_insert, beq_self_eq_true, if_true,
      Option.getD_some, Table.find?_extend]

/-- Nothing but what groups have committed changes. -/
theorem Consumer.commitRecords_kept (consumer : Consumer κ α) (records : List (Record κ α))
    (cluster : Cluster) (standing : Standing) :
    (consumer.commitRecords records cluster standing).1 =
      { cluster with groups := (consumer.commitRecords records cluster standing).1.groups } := by
  unfold commitRecords
  split <;> rfl

end Conduit
