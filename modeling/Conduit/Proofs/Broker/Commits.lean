import Conduit.Proofs.Broker.Offsets
import Mathlib.Data.List.Dedup

/-!
# Committing a list of records

What is committed for a list of records has one offset for each partition that has a record in the
list, the one behind the highest of them. It is told by the records alone and not by their order, so
any list with the same records commits the same, and so does the list of the highest record of each
partition.
-/
namespace Conduit

variable {κ α : Type} {records : List (Record κ α)}

/-- A record that no other record of its partition is behind. -/
def IsHighest (records : List (Record κ α)) (record : Record κ α) : Prop :=
  record ∈ records ∧ ∀ other ∈ records, other.place = record.place → other.offset ≤ record.offset

/-- The offset that is committed for a partition is the one behind its highest record. -/
theorem find?_offsetsPast_eq_some_iff {part : TopicPartition} {offset : Int64} :
    (offsetsPast records).find? part = some offset ↔
      ∃ record, IsHighest records record ∧ record.place = part ∧ record.past = offset := by
  rw [find?_offsetsPast, Option.map_eq_some_iff]
  simp only [List.max?_eq_some_iff, List.mem_map, mem_recordsIn]
  constructor
  · rintro ⟨_, ⟨⟨record, ⟨member, rfl⟩, rfl⟩, most⟩, rfl⟩
    refine ⟨record, ⟨member, fun other among same => ?_⟩, rfl, rfl⟩
    exact most _ ⟨other, ⟨among, same⟩, rfl⟩
  · rintro ⟨record, ⟨member, highest⟩, rfl, rfl⟩
    refine ⟨record.offset, ⟨⟨record, ⟨member, rfl⟩, rfl⟩, ?_⟩, rfl⟩
    rintro _ ⟨other, ⟨among, same⟩, rfl⟩
    exact highest other among same

/-- The highest record of each partition, the first of those that are equally high. -/
def highestRecords (records : List (Record κ α)) : List (Record κ α) :=
  (records.map Record.place).dedup.filterMap fun part =>
    (recordsIn part records).maxOn? Record.offset

/-- There is one of them for each partition. -/
theorem map_place_highestRecords (records : List (Record κ α)) :
    (highestRecords records).map Record.place = (records.map Record.place).dedup := by
  have each : ∀ part ∈ (records.map Record.place).dedup,
      ((recordsIn part records).maxOn? Record.offset).map Record.place = some part := by
    intro part occurs
    obtain ⟨record, member, here⟩ := List.mem_map.mp (List.mem_dedup.mp occurs)
    obtain ⟨top, most⟩ := Option.isSome_iff_exists.mp
      (List.isSome_maxOn?_of_mem (f := Record.offset) (mem_recordsIn.mpr ⟨member, here⟩))
    rw [most]
    exact congrArg some (mem_recordsIn.mp (List.maxOn?_mem most)).2
  rw [highestRecords, List.map_filterMap, List.filterMap_congr each, List.filterMap_some]

theorem isHighest_of_mem_highestRecords {top : Record κ α} (member : top ∈ highestRecords records) :
    IsHighest records top := by
  obtain ⟨part, -, most⟩ := List.mem_filterMap.mp member
  obtain ⟨among, rfl⟩ := mem_recordsIn.mp (List.maxOn?_mem most)
  refine ⟨among, fun other elsewhere same => ?_⟩
  simpa [most] using List.le_apply_get_maxOn?_of_mem (f := Record.offset)
    (mem_recordsIn.mpr ⟨elsewhere, same⟩)

theorem exists_mem_highestRecords {record : Record κ α} (member : record ∈ records) :
    ∃ top ∈ highestRecords records, top.place = record.place := by
  have occurs : record.place ∈ (highestRecords records).map Record.place := by
    rw [map_place_highestRecords, List.mem_dedup]
    exact List.mem_map_of_mem member
  exact List.mem_map.mp occurs

/-- A list of some of the records commits the same if it has records as high as the highest ones. -/
theorem offsetsPast_congr {others : List (Record κ α)} (among : ∀ other ∈ others, other ∈ records)
    (reaches : ∀ record, IsHighest records record →
      ∃ other ∈ others, other.place = record.place ∧ other.offset = record.offset) :
    offsetsPast others = offsetsPast records := by
  refine Table.eq_of_find? fun part => Option.ext fun offset => ?_
  rw [find?_offsetsPast_eq_some_iff, find?_offsetsPast_eq_some_iff]
  constructor
  · rintro ⟨other, ⟨member, highest⟩, rfl, rfl⟩
    refine ⟨other, ⟨among other member, fun record inside here => ?_⟩, rfl, rfl⟩
    -- The highest record of the partition is no higher than a record of the other list.
    obtain ⟨top, isTop, same⟩ := exists_mem_highestRecords inside
    have top' := isHighest_of_mem_highestRecords isTop
    obtain ⟨equal, member', place, offset⟩ := reaches top top'
    calc record.offset ≤ top.offset := top'.2 record inside same.symm
      _ = equal.offset := offset.symm
      _ ≤ other.offset := highest equal member' (place.trans (same.trans here))
  · rintro ⟨record, highest, rfl, rfl⟩
    obtain ⟨other, member, same, equal⟩ := reaches record highest
    refine ⟨other, ⟨member, fun another inside here => ?_⟩,
      same, by rw [Record.past, equal, Record.past]⟩
    rw [equal]
    exact highest.2 another (among another inside) (here.trans same)

theorem Consumer.commitRecords_eq (consumer : Consumer κ α) (records : List (Record κ α))
    (cluster : Cluster) (standing : Standing) : consumer.commitRecords records cluster standing =
      if records = [] then (cluster, standing)
      else (cluster.commit consumer.group (offsetsPast records),
        { standing with committed := standing.committed.extend (offsetsPast records) }) := by
  rw [commitRecords]
  cases records with
  | nil => rfl
  | cons record rest => rfl

theorem Consumer.commitRecords_congr (consumer : Consumer κ α) {others : List (Record κ α)}
    (among : ∀ other ∈ others, other ∈ records)
    (reaches : ∀ record, IsHighest records record →
      ∃ other ∈ others, other.place = record.place ∧ other.offset = record.offset)
    (cluster : Cluster) (standing : Standing) :
    consumer.commitRecords others cluster standing =
      consumer.commitRecords records cluster standing := by
  have empty : others = [] ↔ records = [] := by
    constructor
    · rintro rfl
      refine List.eq_nil_iff_forall_not_mem.mpr fun record member => ?_
      obtain ⟨top, isTop, -⟩ := exists_mem_highestRecords member
      obtain ⟨other, none, -⟩ := reaches top (isHighest_of_mem_highestRecords isTop)
      cases none
    · rintro rfl
      exact List.eq_nil_iff_forall_not_mem.mpr fun other member => nomatch among other member
  rw [commitRecords_eq, commitRecords_eq, offsetsPast_congr among reaches]
  simp only [empty]

/-- The highest records of a partition are equally high. -/
theorem IsHighest.offset_eq {one two : Record κ α} (first : IsHighest records one)
    (second : IsHighest records two) (same : one.place = two.place) : one.offset = two.offset :=
  Int64.le_antisymm (second.2 one first.1 same) (first.2 two second.1 same.symm)

theorem mem_keys_offsetsPast {part : TopicPartition} :
    part ∈ (offsetsPast records).keys ↔ ∃ record ∈ records, record.place = part := by
  simp only [Table.mem_keys_iff, find?_offsetsPast_eq_some_iff]
  constructor
  · rintro ⟨-, record, highest, here, -⟩
    exact ⟨record, highest.1, here⟩
  · rintro ⟨record, member, rfl⟩
    obtain ⟨top, isTop, same⟩ := exists_mem_highestRecords member
    exact ⟨top.past, top, isHighest_of_mem_highestRecords isTop, same, rfl⟩

/-- Committing records hands over one offset for each of their partitions and none else, just past
the highest record of the partition, and no records hand over nothing. Neither the order of the
records nor the records below the highest one of their partition make a difference. No offset is the
last one there is, so none wraps. -/
theorem Consumer.commits_past_highest (consumer : Consumer κ α) (records : List (Record κ α))
    (bounded : ∀ record ∈ records, record.offset < Int64.maxValue) :
    (∀ cluster standing, consumer.commitRecords records cluster standing =
      if records = [] then (cluster, standing)
      else (cluster.commit consumer.group (offsetsPast records),
        { standing with committed := standing.committed.extend (offsetsPast records) })) ∧
    ((offsetsPast records).keys.Nodup ∧
      ∀ part, part ∈ (offsetsPast records).keys ↔ ∃ record ∈ records, record.place = part) ∧
    (∀ part offset, (part, offset) ∈ (offsetsPast records).entries ↔
      ∃ record ∈ records, record.place = part ∧ offset.toInt = 1 + record.offset.toInt ∧
        ∀ other ∈ records, other.place = part → other.offset ≤ record.offset) ∧
    (∀ others : List (Record κ α), others.Perm records → ∀ cluster standing,
      consumer.commitRecords others cluster standing =
        consumer.commitRecords records cluster standing) ∧
    ((highestRecords records).map Record.place = (records.map Record.place).dedup ∧
      (∀ top ∈ highestRecords records, IsHighest records top) ∧ ∀ cluster standing,
        consumer.commitRecords (highestRecords records) cluster standing =
          consumer.commitRecords records cluster standing) ∧
    ∀ record ∈ records, (record.offset + 1).toInt = record.offset.toInt + 1 := by
  refine ⟨consumer.commitRecords_eq records,
    ⟨(offsetsPast records).nodup_keys, fun part => mem_keys_offsetsPast⟩,
    fun part offset => ?_, fun others same => ?_,
    ⟨map_place_highestRecords records, fun top => isHighest_of_mem_highestRecords, ?_⟩,
    fun record member => Record.past_toInt (bounded record member)⟩
  · -- Past a record means one more, as no offset is the last one there is.
    rw [← Table.find?_eq_some_iff, find?_offsetsPast_eq_some_iff]
    refine exists_congr fun record => ?_
    rw [IsHighest, and_assoc]
    refine and_congr_right fun member => ?_
    have behind : record.past = offset ↔ offset.toInt = 1 + record.offset.toInt := by
      rw [← Int64.toInt_inj, Record.past_toInt (bounded record member), Int.add_comm, eq_comm]
    constructor
    · rintro ⟨highest, rfl, past⟩
      exact ⟨rfl, behind.mp past, highest⟩
    · rintro ⟨rfl, past, highest⟩
      exact ⟨highest, rfl, behind.mpr past⟩
  · exact consumer.commitRecords_congr (fun other => same.mem_iff.mp) fun record highest =>
      ⟨record, same.mem_iff.mpr highest.1, rfl, rfl⟩
  · refine consumer.commitRecords_congr (fun top member =>
      (isHighest_of_mem_highestRecords member).1) ?_
    intro record highest
    -- Of several records that are highest in a partition one was chosen, with the same offset.
    obtain ⟨top, isTop, same⟩ := exists_mem_highestRecords highest.1
    exact ⟨top, isTop, same, (isHighest_of_mem_highestRecords isTop).offset_eq highest same⟩

/-- Records of two topics out of order, one of them twice. -/
def mixedRecords : List RawRecord :=
  [⟨"orders", 0, 7, none, none, none, []⟩, ⟨"refunds", 0, 3, none, none, none, []⟩,
    ⟨"orders", 0, 5, none, none, none, []⟩, ⟨"orders", 1, 0, none, none, none, []⟩,
    ⟨"orders", 0, 7, none, none, none, []⟩]

def mixedReader : Consumer Text.Utf8.Bytes Text.Utf8.Bytes :=
  ⟨⟨.empty⟩, ["orders", "refunds"], .bytes, .bytes⟩

theorem mixedRecords_committed :
    (offsetsPast mixedRecords).keys = [⟨"orders", 0⟩, ⟨"orders", 1⟩, ⟨"refunds", 0⟩] ∧
    (⟨"orders", 0⟩, 8) ∈ (offsetsPast mixedRecords).entries ∧
    mixedReader.commitRecords mixedRecords.reverse (.bare "" 0) .fresh =
      mixedReader.commitRecords (highestRecords mixedRecords) (.bare "" 0) .fresh := by
  have bounded : ∀ record ∈ mixedRecords, record.offset < Int64.maxValue := by decide
  obtain ⟨-, -, entries, order, ⟨-, -, highest⟩, -⟩ :=
    mixedReader.commits_past_highest mixedRecords bounded
  refine ⟨by decide,
    (entries ⟨"orders", 0⟩ 8).mpr ⟨_, List.mem_cons_self, rfl, by decide, by decide⟩, ?_⟩
  rw [order _ (List.reverse_perm mixedRecords), highest]

end Conduit
