import Conduit.Proofs.Broker.Offsets
import Conduit.Proofs.Stream.CommitOrder
import Conduit.Proofs.Stream.Reference

/-!
# Times of partitions

Records are processed one after the other, and one that fails does not keep the next from being
processed. A record that can be decoded and gets past the steps raises the time of its partition to
the one extracted for it; no other record moves a time, and none moves that of another partition. So
the time that a record comes upon is the highest of those before it in its partition, and what
becomes of the records of a partition does not depend on what stands between them.
-/
namespace Conduit

/-- A record as it was processed: the time of its partition that it came upon, which the extractor
is told, and what became of it. -/
structure Processed (κ α : Type) where
  record : RawRecord
  partitionTime : Int64
  handling : Handling κ α

/-- The record's own time, unless it is negative. -/
def Record.stamp {κ α : Type} (record : Record κ α) : Option Int64 :=
  record.timestamp.filter (0 ≤ ·)

theorem Record.stamp_valid {κ α : Type} {record : Record κ α} {time : Int64}
    (carried : record.stamp = some time) :
    0 ≤ time := by
  simpa using (Option.filter_eq_some_iff.mp carried).2

namespace RecordStream

variable {κ α : Type} (stream : RecordStream κ α)

/-- Records processed in turn by a stream that has got so far. -/
def processAll : Progress → List RawRecord → List (Processed κ α)
  | _, [] => []
  | progress, record :: rest =>
    ⟨record, progress.time record.partition, (stream.process progress record).1⟩ ::
      processAll (stream.process progress record).2 rest

/-- The record can be decoded, and the steps do not drop it. -/
def survives (record : RawRecord) : Bool :=
  ((stream.decoded record).toOption.bind (Step.apply stream.steps)).isSome

/-- The records that count for the time of a partition, whether or not they could be encoded. -/
def countedIn (part : Int32) (processed : List (Processed κ α)) : List (Processed κ α) :=
  processed.filter fun one => one.record.partition = part && stream.survives one.record

def extracted (one : Processed κ α) : Int64 := stream.plan.extractor one.record one.partitionTime

/-! ### One record -/

theorem time_process (progress : Progress) (record : RawRecord) (part : Int32) :
    (stream.process progress record).2.time part =
      if record.partition = part && stream.survives record then
        max (progress.time part) (stream.plan.extractor record (progress.time part))
      else progress.time part := by
  obtain ⟨-, -, -, moved⟩ := @process_eq _ _ stream progress _ (fun _ => rfl) record
  rw [moved, timesPast, survives]
  cases (stream.decoded record).toOption.bind (Step.apply stream.steps) with
  | none => simp
  | some made =>
    by_cases here : record.partition = part
    · subst here
      simp
    · simp [here, Function.update_of_ne (Ne.symm here)]

/-! ### Records in turn -/

variable {stream} {progress : Progress}

theorem map_record_processAll (records : List RawRecord) :
    (stream.processAll progress records).map Processed.record = records := by
  induction records generalizing progress with
  | nil => rfl
  | cons record rest ih => rw [processAll, List.map_cons, ih]

theorem processAll_append (earlier later : List RawRecord) :
    stream.processAll progress (earlier ++ later) =
      stream.processAll progress earlier ++
        stream.processAll (stream.progressPast progress earlier) later := by
  induction earlier generalizing progress with
  | nil => rfl
  | cons record rest ih => rw [List.cons_append, processAll, processAll, ih, List.cons_append]; rfl

/-- The time of a partition is the highest that was noted for its records, whatever is noted of
them, if it raises the time of the partition as the time extracted does. -/
theorem time_progressPast {noted : RawRecord → Int64 → Option Int64}
    (raises : ∀ record time, (noted record time).elim time (max time) =
      max time (stream.plan.extractor record time))
    (records : List RawRecord) (part : Int32) :
    (stream.progressPast progress records).time part =
      ((stream.countedIn part (stream.processAll progress records)).filterMap fun one =>
        noted one.record one.partitionTime).foldl max (progress.time part) := by
  induction records generalizing progress with
  | nil => rfl
  | cons record rest ih =>
    have later : (stream.progressPast progress (record :: rest)).time part = _ :=
      @ih (stream.process progress record).2
    rw [time_process, ← raises] at later
    rw [processAll, countedIn, List.filter_cons]
    -- What is noted of a record that counts comes first; any other leaves the time as it was.
    split at later
    next counts =>
      have here : record.partition = part := by
        simpa using (Bool.and_eq_true_iff.mp counts).1
      subst here
      rw [if_pos counts, List.filterMap_cons]
      cases noting : noted record (progress.time record.partition) with
      | none =>
        rw [noting] at later
        exact later
      | some time =>
        rw [noting] at later
        exact later
    next idle =>
      rw [if_neg idle]
      exact later

theorem of_processAll_eq {records : List RawRecord} {earlier later : List (Processed κ α)}
    {one : Processed κ α} (split : stream.processAll progress records = earlier ++ one :: later) :
    earlier = stream.processAll progress (earlier.map Processed.record) ∧
      one.partitionTime =
        (stream.progressPast progress (earlier.map Processed.record)).time one.record.partition ∧
      one.handling = stream.handle one.partitionTime one.record := by
  have whole :
      records = earlier.map Processed.record ++ one.record :: later.map Processed.record := by
    rw [← @map_record_processAll _ _ stream progress records, split, List.map_append, List.map_cons]
  have again := split
  rw [whole, processAll_append, processAll] at again
  have long : (stream.processAll progress (earlier.map Processed.record)).length =
      earlier.length := by
    rw [← List.length_map Processed.record, map_record_processAll, List.length_map]
  obtain ⟨same, rest⟩ := List.append_inj again long
  obtain ⟨head, -⟩ := List.cons.inj rest
  refine ⟨same.symm, ?_, ?_⟩
  · rw [← head]
  · rw [← head]
    rfl

theorem extracted_raises (record : RawRecord) (time : Int64) :
    (some (stream.plan.extractor record time)).elim time (max time) =
      max time (stream.plan.extractor record time) :=
  rfl

theorem partitionTime_eq {noted : RawRecord → Int64 → Option Int64}
    (raises : ∀ record time, (noted record time).elim time (max time) =
      max time (stream.plan.extractor record time))
    {records : List RawRecord} {earlier later : List (Processed κ α)} {one : Processed κ α}
    (split : stream.processAll progress records = earlier ++ one :: later) :
    one.partitionTime = ((stream.countedIn one.record.partition earlier).filterMap fun other =>
      noted other.record other.partitionTime).foldl max (progress.time one.record.partition) := by
  obtain ⟨prefixed, came, -⟩ := of_processAll_eq split
  rw [came, time_progressPast raises, ← prefixed]

theorem le_foldl_max (start : Int64) (times : List Int64) : start ≤ times.foldl max start := by
  rw [List.foldl_max]
  exact Std.left_le_max

theorem partitionTime_le {records : List RawRecord} {earlier later : List (Processed κ α)}
    {one other : Processed κ α}
    (split : stream.processAll progress records = earlier ++ one :: later)
    (before : other ∈ earlier) (same : other.record.partition = one.record.partition) :
    other.partitionTime ≤ one.partitionTime := by
  obtain ⟨first, between, rfl⟩ := List.append_of_mem before
  rw [List.append_assoc, List.cons_append] at split
  have whole : stream.processAll progress records =
      (first ++ other :: between) ++ one :: later := by
    rw [split, List.append_assoc, List.cons_append]
  have earlier := partitionTime_eq extracted_raises split
  have now := partitionTime_eq extracted_raises whole
  -- What is noted before the one is noted before the other too, and comes first.
  rw [← same, countedIn, List.filter_append, List.filterMap_append, List.foldl_append] at now
  rw [now, earlier]
  exact le_foldl_max _ _

/-! ### Times that the records carry -/

theorem record_eq_getD_stamp (record : RawRecord) (time : Int64) :
    Extractor.record record time = record.stamp.getD time := by
  unfold Record.stamp Extractor.record
  cases record.timestamp with
  | none => rfl
  | some own => by_cases valid : 0 ≤ own <;> simp [Option.filter, valid]

theorem stamp_raises (kept : stream.plan.extractor = .record) (record : RawRecord) (time : Int64) :
    record.stamp.elim time (max time) = max time (stream.plan.extractor record time) := by
  rw [kept, record_eq_getD_stamp]
  cases record.stamp with
  | none => exact Std.max_self.symm
  | some own => rfl

private theorem ok_of_bind {ε β γ : Type} {first : Except ε β} {next : β → Except ε γ} {last : γ}
    (done : first.bind next = .ok last) : ∃ value, first = .ok value ∧ next value = .ok last := by
  cases first with
  | error fault => cases done
  | ok value => exact ⟨value, rfl, done⟩

theorem timestamp_of_fate {time : Int64} {record : RawRecord} {output : Output}
    (result : stream.fate time record = .ok (some output)) :
    output.timestamp = (some (stream.plan.extractor record time)).filter (0 ≤ ·) := by
  obtain ⟨pair, -, passed⟩ := ok_of_bind result
  cases made : Step.apply stream.steps pair with
  | none => simp [made] at passed
  | some kept =>
    simp only [made] at passed
    cases encoded : stream.encoded kept (stream.plan.extractor record time) with
    | error fault =>
      rw [encoded] at passed
      cases passed
    | ok written =>
      rw [encoded] at passed
      cases passed
      obtain ⟨key, -, rest⟩ := ok_of_bind encoded
      obtain ⟨value, -, stamped⟩ := ok_of_bind rest
      cases stamped
      simp [Option.filter]

/-- A stream that keeps the times of its records stamps an output with the record's own time, or
else with the highest one that was carried before in its partition. -/
theorem timestamp_eq (kept : stream.plan.extractor = .record) {record : RawRecord}
    {stamps : List Int64} (valid : ∀ time ∈ stamps, 0 ≤ time) {output : Output}
    (result : stream.fate (stamps.foldl max (-1)) record = .ok (some output)) :
    output.timestamp = record.stamp.or stamps.max? := by
  rw [timestamp_of_fate result, kept, record_eq_getD_stamp, List.foldl_max]
  cases own : record.stamp with
  | some time =>
    have positive := Record.stamp_valid own
    simp [positive]
  | none =>
    cases highest : stamps.max? with
    | none => rfl
    | some time =>
      have positive := valid time (List.max?_mem highest)
      have greater : max (-1) time = time := if_pos (Int64.le_trans (by decide) positive)
      simp [greater, positive]

/-- Records that count for the times of no others may be left out. -/
theorem filter_processAll (keep : RawRecord → Bool)
    (closed : ∀ kept other, keep kept → other.partition = kept.partition → stream.survives other →
      keep other)
    (records : List RawRecord) {one two : Progress}
    (same : ∀ kept, keep kept → one.time kept.partition = two.time kept.partition) :
    (stream.processAll one records).filter (fun processed => keep processed.record) =
      stream.processAll two (records.filter keep) := by
  induction records generalizing one two with
  | nil => rfl
  | cons record rest ih =>
    rw [processAll, List.filter_cons, List.filter_cons]
    by_cases keeps : keep record
    · have handled : (stream.process one record).1 = (stream.process two record).1 := by
        rw [process, process, same record keeps]
      have moved : ∀ kept, keep kept → (stream.process one record).2.time kept.partition =
          (stream.process two record).2.time kept.partition := by
        intro kept here
        rw [time_process, time_process, same kept here]
      rw [if_pos keeps, if_pos keeps, processAll, ih moved, handled, same record keeps]
    · have still : ∀ kept, keep kept → (stream.process one record).2.time kept.partition =
          two.time kept.partition := by
        intro kept here
        rw [time_process, if_neg, same kept here]
        intro counts
        simp only [Bool.and_eq_true, decide_eq_true_eq] at counts
        exact keeps (closed kept record here counts.1 counts.2)
      rw [if_neg keeps, if_neg keeps]
      exact ih still

/-- What becomes of the records of a partition does not depend on the others. -/
theorem filter_partition_processAll (records : List RawRecord) (part : Int32) :
    (stream.processAll progress records).filter (fun one => one.record.partition = part) =
      stream.processAll progress (records.filter fun record => record.partition = part) := by
  refine filter_processAll (fun record => record.partition = part) ?_ records fun _ _ => rfl
  intro kept other here alike _
  simpa [alike] using here

/-- The time that a record comes upon is the highest of -1 and the times extracted for the records
before it in its partition that survive, so it is never below theirs. A stream that keeps the times
of its records stamps an output with the record's own one, or else with the highest one that such a
record carried. Records that do not survive may be left out; and in any two orders that agree within
each partition, the same becomes of the records of each partition. -/
theorem partition_times_apart (stream : RecordStream κ α) (records : List RawRecord) :
    let all := stream.processAll .fresh records
    all.map Processed.record = records ∧
    (∀ earlier one later, all = earlier ++ one :: later →
      let before := stream.countedIn one.record.partition earlier
      one.handling.result = stream.fate one.partitionTime one.record ∧
      one.partitionTime = (before.map stream.extracted).foldl max (-1) ∧
      -1 ≤ one.partitionTime ∧
      (∀ other ∈ earlier, other.record.partition = one.record.partition →
        other.partitionTime ≤ one.partitionTime) ∧
      (stream.plan.extractor = .record → ∀ output, one.handling.result = .ok (some output) →
        output.timestamp =
          one.record.stamp.or (before.filterMap fun other => other.record.stamp).max?)) ∧
    all.filter (fun one => stream.survives one.record) =
      stream.processAll .fresh (records.filter stream.survives) ∧
    ∀ others : List RawRecord,
      (∀ part, others.filter (fun record => record.partition = part) =
        records.filter fun record => record.partition = part) →
      ∀ part, (stream.processAll .fresh others).filter (fun one => one.record.partition = part) =
        all.filter fun one => one.record.partition = part := by
  intro all
  refine ⟨map_record_processAll records, ?_, ?_, ?_⟩
  · intro earlier one later split before
    obtain ⟨-, -, handled⟩ := of_processAll_eq split
    have result : one.handling.result = stream.fate one.partitionTime one.record :=
      handled ▸ (stream.handle_eq one.partitionTime one.record).1
    have highest : one.partitionTime =
        ((stream.countedIn one.record.partition earlier).map stream.extracted).foldl max (-1) := by
      rw [← List.filterMap_eq_map]
      exact partitionTime_eq extracted_raises split
    have bounded : -1 ≤ one.partitionTime := highest ▸ le_foldl_max _ _
    refine ⟨result, highest, bounded, ?_, ?_⟩
    · intro other before same
      exact partitionTime_le split before same
    · -- The times that records carry raise the time of the partition as the extracted ones do.
      intro kept output sent
      have carried := partitionTime_eq (stamp_raises kept) split
      have valid : ∀ time ∈ (stream.countedIn one.record.partition earlier).filterMap
          fun other => other.record.stamp, 0 ≤ time := by
        intro time among
        obtain ⟨other, -, stamped⟩ := List.mem_filterMap.mp among
        exact Record.stamp_valid stamped
      exact timestamp_eq kept valid ((carried ▸ result).symm.trans sent)
  · exact filter_processAll _ (fun _ _ _ _ counts => counts) records fun _ _ => rfl
  · intro others same part
    rw [filter_partition_processAll, filter_partition_processAll, same]

/-- The letters of one partition: the second is dropped, the third is late and the last has no time
of its own. -/
def letters : List RawRecord :=
  [letter 0 (some 100) (some [1]), letter 1 (some 900) none, letter 2 (some 50) (some [2]),
    letter 3 none (some [3])]

/-- A letter of another partition, without a time. -/
def elsewhere : RawRecord := { letter 0 none (some [4]) with partition := 1 }

/-- The last letter takes the time of the first one, wherever the other partition's letter
stands. -/
theorem last_letter_takes_highest_time :
    ∃ earlier one, lively.processAll .fresh (elsewhere :: letters) = earlier ++ [one] ∧
      one.partitionTime = 100 ∧ one.handling.result = .ok (some ⟨none, some [3], some 100⟩) ∧
      ((lively.countedIn 0 earlier).filterMap fun other => other.record.stamp).max? = some 100 ∧
      (∀ other ∈ earlier, other.record.partition = 0 → other.partitionTime ≤ 100) ∧
      (lively.processAll .fresh (letters ++ [elsewhere])).filter
          (fun one => one.record.partition = 0) =
        (lively.processAll .fresh (elsewhere :: letters)).filter
          fun one => one.record.partition = 0 := by
  obtain ⟨-, each, -, apart⟩ := partition_times_apart lively (elsewhere :: letters)
  have split : lively.processAll .fresh (elsewhere :: letters) =
      (lively.processAll .fresh (elsewhere :: letters)).take 4 ++
        [⟨letter 3 none (some [3]), 100, lively.handle 100 (letter 3 none (some [3]))⟩] := rfl
  obtain ⟨-, -, -, below, stamped⟩ := each _ _ [] split
  have carried := stamped rfl ⟨none, some [3], some 100⟩ rfl
  refine ⟨_, _, split, rfl, rfl, carried.symm, below,
    apart (letters ++ [elsewhere]) (fun part => ?_) 0⟩
  by_cases zero : (0 : Int32) = part
  · subst zero
    rfl
  · simp [letters, letter, List.filter_cons, zero]

end RecordStream

end Conduit
