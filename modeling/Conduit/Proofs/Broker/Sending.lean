import Conduit.Proofs.Broker.Delivery
import Conduit.Proofs.Broker.Joining
import Conduit.Proofs.Data.Action
import Conduit.Proofs.Text.Utf8

/-!
# What is sent is what is polled

A send that names its partition and its time and is acknowledged appends one record to the log of
that partition, and its receipt tells where. A consumer that reads the topic from its first records
on therefore polls each partition as it was sent: the same keys, values, headers and times in the
same order, at the offsets of the receipts.
-/
namespace Conduit

variable {κ α : Type}

theorem ofNat_toNat_toInt {n : Int32} (positive : 0 ≤ n) : Int32.ofNat n.toInt.toNat = n := by
  rw [Int32.le_iff_toInt_le, Int32.toInt_zero] at positive
  have small := n.toInt_lt
  apply Int32.toInt_inj.mp
  rw [Int32.toInt_ofNat_of_lt (by omega)]
  omega

namespace Cluster

theorem log_withTopic (cluster : Cluster) (topic : String) (part : TopicPartition) :
    (cluster.withTopic topic).log part = cluster.log part := by
  unfold withTopic
  split
  · rfl
  next absent =>
    by_cases here : part.topic = topic
    · subst here
      simp only [Table.contains, Bool.not_eq_true, Option.isSome_eq_false_iff,
        Option.isNone_iff_eq_none] at absent
      simp only [log, Table.find?_insert, absent, beq_self_eq_true, if_true, Option.getD_some,
        Option.getD_none, List.getElem?_replicate, List.getElem?_nil]
      split
      · rfl
      · split <;> rfl
    · simp [log, Table.find?_insert, here]

theorem log_append {cluster : Cluster} {part : TopicPartition} (valid : 0 ≤ part.index)
    (inside : part.index.toInt.toNat < (cluster.partitions part.topic).length)
    (record : StoredRecord) (other : TopicPartition) :
    (cluster.append part record).log other =
      if other = part then cluster.log part ++ [record] else cluster.log other := by
  cases found : cluster.topics.find? part.topic with
  | none => simp [partitions, found] at inside
  | some logs =>
    simp only [partitions, found, Option.getD_some, List.length_map, List.length_range] at inside
    have appended : (cluster.append part record).topics =
        cluster.topics.insert part.topic
          (logs.set part.index.toInt.toNat (cluster.log part ++ [record])) := by
      rw [append, found]
    by_cases here : other = part
    · subst here
      rw [if_pos rfl, log, if_neg (Int32.not_lt.mpr valid), appended, Table.find?_insert,
        if_pos (beq_self_eq_true _), Option.getD_some, List.getElem?_set_self inside,
        Option.getD_some]
    · rw [if_neg here, log, log, appended, Table.find?_insert]
      split
      · rfl
      next positive =>
        split
        next same =>
          have topic : other.topic = part.topic := by simpa using same
          -- The topic is the same, so the numbers are not.
          have apart : part.index.toInt.toNat ≠ other.index.toInt.toNat := by
            intro number
            apply here
            obtain ⟨name, index⟩ := other
            obtain rfl : name = part.topic := topic
            have equal : index = part.index := by
              apply Int32.toInt_inj.mp
              dsimp only at positive number
              rw [Int32.not_lt, Int32.le_iff_toInt_le] at positive
              rw [Int32.le_iff_toInt_le] at valid
              simp only [Int32.toInt_zero] at positive valid
              omega
            rw [equal]
          rw [Option.getD_some, List.getElem?_set_ne apart, topic, found, Option.getD_some]
        · rfl

end Cluster

theorem Consumer.unreadIn_append {cluster other : Cluster} {part : TopicPartition}
    {stored : StoredRecord} (appended : other.log part = cluster.log part ++ [stored]) :
    unreadIn other part 0 = unreadIn cluster part 0 ++
      [⟨part.topic, part.index, Int64.ofNat (cluster.log part).length, timeOf stored, stored.key,
        stored.value, stored.headers⟩] := by
  simp [unreadIn, appended, List.zipIdx_append]

/-- A record as it was sent, where its receipt says. -/
def Receipt.record (receipt : Receipt) (outgoing : Outgoing κ α) : Record κ α :=
  ⟨receipt.topic, receipt.partition, receipt.offset, outgoing.timestamp, outgoing.key,
    outgoing.value, outgoing.headers⟩

namespace Producer

variable (producer : Producer κ α)

/-- A record with the bytes of its key and its value. -/
def encoded (record : Record κ α) : RawRecord :=
  ⟨record.topic, record.partition, record.offset, record.timestamp,
    record.key.map producer.key.encode, record.value.map producer.value.encode, record.headers⟩

/-- A record that names its partition and its time, and whose key and value the codecs read as they
write them. -/
structure Carries (outgoing : Outgoing κ α) : Prop where
  placed : ∃ index, outgoing.partition = some index ∧ 0 ≤ index
  stamped : ∃ time, outgoing.timestamp = some time ∧ 0 < time
  key : ∀ key ∈ outgoing.key, producer.key.decode (producer.key.encode key) = .ok key
  value : ∀ value ∈ outgoing.value, producer.value.decode (producer.value.encode value) = .ok value

variable {producer} {topic : String} {outgoing : Outgoing κ α} {cluster after : Cluster}
  {receipt : Receipt}

def stored (producer : Producer κ α) (cluster : Cluster) (outgoing : Outgoing κ α) : StoredRecord :=
  ⟨stamp cluster outgoing.timestamp, outgoing.key.map producer.key.encode,
    outgoing.value.map producer.value.encode, outgoing.headers⟩

/-- A send that succeeds appends the record and tells where. -/
theorem send_ok (sent : (producer.send topic outgoing).run cluster = (.ok receipt, after)) :
    ∃ index,
      place producer.config.partitioner outgoing.partition (outgoing.key.map producer.key.encode)
        ((cluster.withTopic topic).partitions topic).length = some index ∧
      after = (cluster.withTopic topic).append ⟨topic, Int32.ofNat index⟩
        (producer.stored (cluster.withTopic topic) outgoing) ∧
      receipt = ⟨topic, Int32.ofNat index,
        if producer.config.acknowledges then
          Int64.ofNat ((cluster.withTopic topic).log ⟨topic, Int32.ofNat index⟩).length
        else unknownOffset⟩ := by
  unfold send at sent
  simp only [Action.run_bind, Action.run_ite, Action.run_throw, Action.run_get] at sent
  -- Whatever speaks against the record makes the send fail.
  iterate 4
    split at sent
    · cases sent
  cases found :
    place producer.config.partitioner outgoing.partition (outgoing.key.map producer.key.encode)
    ((cluster.withTopic topic).partitions topic).length with
  | none =>
    rw [found] at sent
    cases sent
  | some index =>
    simp only [found, Action.run_bind, Action.run_set, Action.run_pure] at sent
    obtain ⟨told, appended⟩ := Prod.mk.inj sent
    exact ⟨index, rfl, appended.symm, (Except.ok.inj told).symm⟩

theorem place_named {partitioner : Partitioner} {asked : Int32} (valid : 0 ≤ asked)
    {key : Option Text.Utf8.Bytes} {count index : Nat}
    (placed : place partitioner (some asked) key count = some index) :
    index = asked.toInt.toNat ∧ index < count := by
  have named : asked ≠ -1 := by
    rintro rfl
    exact absurd valid (by decide)
  have kept : (some asked).filter (· ≠ -1) = some asked := by simp [named]
  rw [place, kept] at placed
  dsimp only at placed
  split at placed
  next inside =>
    cases placed
    exact ⟨rfl, inside.2⟩
  · cases placed

theorem stamp_positive (cluster : Cluster) {time : Int64} (positive : 0 < time) :
    stamp cluster (some time) = time := by
  have set : time ≠ 0 := by
    rintro rfl
    exact absurd positive (by decide)
  have kept : (some time).filter (· ≠ 0) = some time := by simp [set]
  rw [stamp, kept, Option.getD_some]

/-- A send appends its record, at the offset of the receipt, to what can be read of the
partition. -/
theorem unreadIn_send (acknowledges : producer.config.acknowledges)
    (carries : producer.Carries outgoing)
    (sent : (producer.send topic outgoing).run cluster = (.ok receipt, after)) :
    receipt.topic = topic ∧ outgoing.partition = some receipt.partition ∧
      ∀ part, Consumer.unreadIn after part 0 = Consumer.unreadIn cluster part 0 ++
        (recordsIn part [receipt.record outgoing]).map producer.encoded := by
  obtain ⟨index, placed, rfl, rfl⟩ := send_ok sent
  obtain ⟨asked, partition, valid⟩ := carries.placed
  obtain ⟨time, timestamp, positive⟩ := carries.stamped
  rw [partition] at placed
  obtain ⟨rfl, inside⟩ := place_named valid placed
  rw [ofNat_toNat_toInt valid]
  refine ⟨rfl, partition, fun part => ?_⟩
  have appended := @Cluster.log_append (cluster.withTopic topic) ⟨topic, asked⟩ valid inside
    (producer.stored (cluster.withTopic topic) outgoing) part
  simp only [Cluster.log_withTopic] at appended
  by_cases here : part = ⟨topic, asked⟩
  · -- The log of the partition is longer by the record, with the time that was asked for.
    subst here
    rw [if_pos rfl] at appended
    have unset : time ≠ -1 := by
      rintro rfl
      exact absurd positive (by decide)
    rw [Consumer.unreadIn_append appended]
    simp [recordsIn, Record.place, Receipt.record, encoded, stored, acknowledges, timestamp,
      stamp_positive _ positive, Consumer.timeOf, unset, cluster.log_withTopic]
  · rw [if_neg here] at appended
    have elsewhere : ¬TopicPartition.mk topic asked = part := fun same => here same.symm
    simp [Consumer.unreadIn, appended, recordsIn, Record.place, Receipt.record, elsewhere]

/-- What sends one after the other add to what can be read. -/
theorem unreadIn_sends (acknowledges : producer.config.acknowledges)
    {outgoings : List (Outgoing κ α)} (carries : ∀ outgoing ∈ outgoings, producer.Carries outgoing)
    {receipts : List Receipt}
    (sent : (outgoings.mapM (producer.send topic)).run cluster = (.ok receipts, after)) :
    List.Forall₂ (fun receipt outgoing =>
      receipt.topic = topic ∧ outgoing.partition = some receipt.partition)
        receipts outgoings ∧
      ∀ part, Consumer.unreadIn after part 0 = Consumer.unreadIn cluster part 0 ++
        (recordsIn part (List.zipWith Receipt.record receipts outgoings)).map producer.encoded := by
  -- Record by record; the cluster that a send leaves is the one for the next.
  induction outgoings generalizing cluster receipts with
  | nil =>
    rw [List.mapM_nil, Action.run_pure] at sent
    cases sent
    exact ⟨.nil, fun part => (List.append_nil _).symm⟩
  | cons outgoing rest ih =>
    obtain ⟨now, later⟩ := List.forall_mem_cons.mp carries
    rw [List.mapM_cons, Action.run_bind] at sent
    rcases first : (producer.send topic outgoing).run cluster with ⟨_ | receipt, next⟩
    · rw [first] at sent
      cases sent
    · rw [first] at sent
      dsimp only at sent
      rw [Action.run_bind] at sent
      rcases others : (rest.mapM (producer.send topic)).run next with ⟨_ | more, last⟩
      · rw [others] at sent
        cases sent
      · rw [others] at sent
        cases sent
        obtain ⟨told, place, added⟩ := unreadIn_send acknowledges now first
        obtain ⟨matched, further⟩ := ih later others
        refine ⟨.cons ⟨told, place⟩ matched, fun part => ?_⟩
        rw [further, added, List.append_assoc, ← List.map_append, ← recordsIn_append]
        rfl

theorem decode_encoded {consumer : Consumer κ α} (sameKey : consumer.key = producer.key)
    (sameValue : consumer.value = producer.value) (carries : producer.Carries outgoing)
    (receipt : Receipt) :
    consumer.decode (producer.encoded (receipt.record outgoing)) =
      .ok (receipt.record outgoing) := by
  have back {ι : Type} {codec : Codec ι} {content : Option ι}
      (reads : ∀ item ∈ content, codec.decode (codec.encode item) = .ok item) :
      (content.map codec.encode).mapM codec.decode = .ok content := by
    cases content with
    | none => rfl
    | some item => simp [Option.mapM_some, reads item rfl]
  have key := back carries.key
  have value := back carries.value
  simp only [Consumer.decode, encoded, Receipt.record, sameKey, sameValue, key, value]
  rfl

end Producer

theorem Cluster.mem_partitions_of_log {cluster : Cluster} {part : TopicPartition}
    (some : cluster.log part ≠ []) :
    part ∈ cluster.partitions part.topic := by
  rw [Cluster.log] at some
  split at some
  · exact absurd rfl some
  next positive =>
    have inside : part.index.toInt.toNat < ((cluster.topics.find? part.topic).getD []).length := by
      by_contra outside
      rw [List.getElem?_eq_none (Nat.not_lt.mp outside)] at some
      exact some rfl
    refine List.mem_map.mpr ⟨part.index.toInt.toNat, List.mem_range.mpr inside, ?_⟩
    rw [ofNat_toNat_toInt (Int32.not_lt.mp positive)]

theorem Consumer.map_offset_unreadIn (cluster : Cluster) (part : TopicPartition) :
    (unreadIn cluster part 0).map Record.offset =
      (List.range (unreadIn cluster part 0).length).map Int64.ofNat := by
  simp only [unreadIn, Int64.toInt_zero, Int.toNat_zero, List.drop_zero, List.map_map,
    List.length_map, List.length_zipIdx, List.range_eq_range',
    ← List.zipIdx_map_snd 0 (cluster.log part)]
  rfl

/-- A topic holds the records that a producer wrote, and nothing else. -/
structure Producer.Wrote (producer : Producer κ α) (topic : String) (cluster : Cluster)
    (records : List (Record κ α)) : Prop where
  about : ∀ record ∈ records, record.topic = topic
  readable : ∀ consumer : Consumer κ α,
    consumer.key = producer.key → consumer.value = producer.value →
    ∀ record ∈ records, consumer.decode (producer.encoded record) = .ok record
  held : ∀ part, part.topic = topic →
    Consumer.unreadIn cluster part 0 = (recordsIn part records).map producer.encoded

namespace Producer

variable {producer : Producer κ α} {topic : String} {cluster after : Cluster}

theorem wrote_of_sends (acknowledges : producer.config.acknowledges)
    {outgoings : List (Outgoing κ α)} (carries : ∀ outgoing ∈ outgoings, producer.Carries outgoing)
    (empty : ∀ part : TopicPartition, part.topic = topic → cluster.log part = [])
    {receipts : List Receipt}
    (sent : (outgoings.mapM (producer.send topic)).run cluster = (.ok receipts, after)) :
    List.Forall₂ (fun receipt outgoing =>
      receipt.topic = topic ∧ outgoing.partition = some receipt.partition)
        receipts outgoings ∧
      producer.Wrote topic after (List.zipWith Receipt.record receipts outgoings) := by
  obtain ⟨matched, added⟩ := unreadIn_sends acknowledges carries sent
  have made : ∀ record ∈ List.zipWith Receipt.record receipts outgoings, record.topic = topic ∧
      ∃ receipt : Receipt, ∃ outgoing ∈ outgoings, record = receipt.record outgoing := by
    clear added sent carries
    induction matched with
    | nil => exact fun record member => absurd member List.not_mem_nil
    | cons first _ ih =>
      refine List.forall_mem_cons.mpr ⟨⟨first.1, _, _, List.mem_cons_self, rfl⟩,
        fun record member => ?_⟩
      obtain ⟨about, receipt, outgoing, among, same⟩ := ih record member
      exact ⟨about, receipt, outgoing, List.mem_cons_of_mem _ among, same⟩
  refine ⟨matched, fun record member => (made record member).1,
    fun consumer sameKey sameValue record member => ?_, fun part here => ?_⟩
  · obtain ⟨-, receipt, outgoing, among, rfl⟩ := made record member
    exact decode_encoded sameKey sameValue (carries outgoing among) receipt
  · -- There was nothing in the partition but what was sent.
    have nothing : Consumer.unreadIn cluster part 0 = [] := by
      simp [Consumer.unreadIn, empty part here]
    rw [added, nothing, List.nil_append]

namespace Wrote

variable {records : List (Record κ α)} {consumer : Consumer κ α} {inbox : List Arrival}

theorem offsets (wrote : producer.Wrote topic cluster records) (part : TopicPartition) :
    (recordsIn part records).map Record.offset =
      (List.range (recordsIn part records).length).map Int64.ofNat := by
  by_cases here : part.topic = topic
  · have numbered := Consumer.map_offset_unreadIn cluster part
    rw [wrote.held part here, List.map_map, List.length_map] at numbered
    exact numbered
  · have none : recordsIn part records = [] := by
      refine recordsIn_eq_nil fun record member same => here ?_
      rw [← same]
      exact wrote.about record member
    rw [none]
    rfl

theorem readable_of_brings (wrote : producer.Wrote topic cluster records)
    (sameKey : consumer.key = producer.key) (sameValue : consumer.value = producer.value)
    (brings : Brings cluster (cluster.partitions topic) (fun _ => 0) inbox) :
    ∀ raw ∈ recordsOf inbox, ∃ record, consumer.decode raw = .ok record := by
  intro raw member
  have inside := brings.place_mem member
  have held : raw ∈ recordsIn raw.place (recordsOf inbox) := mem_recordsIn.mpr ⟨member, rfl⟩
  rw [brings.ordered _ inside, wrote.held _ (Cluster.topic_of_mem_partitions inside)] at held
  obtain ⟨record, among, rfl⟩ := List.mem_map.mp held
  exact ⟨record, wrote.readable consumer sameKey sameValue record (mem_recordsIn.mp among).1⟩

/-- What can be decoded of what a topic holds is what was written, partition by partition. -/
theorem recordsIn_decodable (wrote : producer.Wrote topic cluster records)
    (sameKey : consumer.key = producer.key) (sameValue : consumer.value = producer.value)
    (brings : Brings cluster (cluster.partitions topic) (fun _ => 0) inbox)
    (part : TopicPartition) :
    recordsIn part (consumer.decodable inbox) = recordsIn part records := by
  rw [Consumer.recordsIn_decodable]
  by_cases inside : part ∈ cluster.partitions topic
  · rw [brings.ordered part inside, wrote.held part (Cluster.topic_of_mem_partitions inside),
      List.filterMap_map]
    have back : ∀ record ∈ recordsIn part records,
        (consumer.decode (producer.encoded record)).toOption = some record := by
      intro record member
      rw [wrote.readable consumer sameKey sameValue record (mem_recordsIn.mp member).1]
      rfl
    exact (List.filterMap_congr back).trans List.filterMap_some
  · have unbrought : recordsIn part (recordsOf inbox) = [] :=
      recordsIn_eq_nil fun raw member same => inside (same ▸ brings.place_mem member)
    rw [unbrought, List.filterMap_nil]
    symm
    refine recordsIn_eq_nil fun record member same => inside ?_
    have here : part.topic = topic := by
      rw [← same]
      exact wrote.about record member
    -- A record that was written is in the log, so its partition is there.
    have logged : cluster.log part ≠ [] := by
      intro none
      have held := wrote.held part here
      simp only [Consumer.unreadIn, none, List.zipIdx_nil, List.drop_nil, List.map_nil] at held
      have nothing := List.map_eq_nil_iff.mp held.symm
      have among : record ∈ recordsIn part records := mem_recordsIn.mpr ⟨member, same⟩
      rw [nothing] at among
      exact absurd among List.not_mem_nil
    rw [← here]
    exact Cluster.mem_partitions_of_log logged

end Wrote

end Producer

/-- The consumer can reach the cluster, and it reads one topic from its first records on. -/
structure Consumer.ReadsWhole (consumer : Consumer κ α) (topic : String) (cluster : Cluster) :
    Prop where
  reaches : consumer.Reaches cluster
  topics : consumer.topics = [topic]
  plain : Subscription.isPattern topic = false
  fromBegin : consumer.config.fromBegin
  uncommitted : ∀ part, cluster.committed consumer.group part = none

theorem Consumer.ReadsWhole.brings {consumer : Consumer κ α} {topic : String} {cluster : Cluster}
    (reads : consumer.ReadsWhole topic cluster) (fits : cluster.Fits) :
    Brings cluster (cluster.partitions topic) (fun _ => 0)
      (consumer.inbox cluster (consumer.assign cluster .fresh)) := by
  have parts : consumer.partitions cluster = cluster.partitions topic := by
    rw [partitions, reads.topics]
    exact cluster.partitionsFor_of_plain reads.plain
  have first : consumer.start cluster = fun _ => 0 := by
    funext part
    simp only [Consumer.start, reads.uncommitted, reads.fromBegin, if_true]
  rw [← parts, ← first]
  exact Consumer.brings_fresh reads.reaches fits

/-- Records that name their partition and their time are sent one after the other, all are
acknowledged, and the topic held nothing before. The receipts name the partitions that were asked
for, and count the records of each from zero. A consumer with the same codecs that is handed the
topic from its first records on, in whatever order the partitions take turns, never fails; what its
polls return, and then what is left, is of each partition what was sent: the same keys, values,
headers and times, in the order of sending and at the offsets of the receipts. A poll in time that
wants as many as were sent returns all of them. So it is with the polls of a cluster. -/
theorem Producer.polled_as_sent (producer : Producer κ α) (consumer : Consumer κ α) (topic : String)
    (outgoings : List (Outgoing κ α)) {cluster after : Cluster} {receipts : List Receipt}
    (sameKey : consumer.key = producer.key) (sameValue : consumer.value = producer.value)
    (acknowledges : producer.config.acknowledges)
    (carries : ∀ outgoing ∈ outgoings, producer.Carries outgoing)
    (empty : ∀ part : TopicPartition, part.topic = topic → cluster.log part = [])
    (sent : (outgoings.mapM (producer.send topic)).run cluster = (.ok receipts, after)) :
    let records := List.zipWith Receipt.record receipts outgoings
    List.Forall₂ (fun receipt outgoing =>
      receipt.topic = topic ∧ outgoing.partition = some receipt.partition)
        receipts outgoings ∧
      (∀ part, (recordsIn part records).map Record.offset =
        (List.range (recordsIn part records).length).map Int64.ofNat) ∧
      (∀ inbox, Brings after (after.partitions topic) (fun _ => 0) inbox →
        (∀ calls, (∀ report ∈ consumer.reports calls inbox, ∃ polled, report.result = .ok polled) ∧
          ∀ part, recordsIn part ((consumer.reports calls inbox).flatMap PollReport.returned ++
            consumer.decodable (consumer.inboxAfter calls inbox)) = recordsIn part records) ∧
        ∀ wanted left, outgoings.length ≤ wanted → waited inbox < left →
          ∃ polled, (consumer.poll wanted left inbox).result = .ok polled ∧
            ∀ part, recordsIn part polled = recordsIn part records) ∧
      (after.Fits → consumer.ReadsWhole topic after →
        let inbox := consumer.inbox after (consumer.assign after .fresh)
        Brings after (after.partitions topic) (fun _ => 0) inbox ∧
          ∀ calls, (consumer.readAll after calls .fresh).1 =
            (consumer.reports calls inbox).map PollReport.result) := by
  obtain ⟨matched, wrote⟩ := wrote_of_sends acknowledges carries empty sent
  refine ⟨matched, wrote.offsets, fun inbox brings => ?_, fun fits reads =>
    ⟨reads.brings fits, fun calls => ?_⟩⟩
  · have readable := wrote.readable_of_brings sameKey sameValue brings
    have agree := wrote.recordsIn_decodable sameKey sameValue brings
    constructor
    · intro calls
      have every : ∀ arrival ∈ inbox, (consumer.recordOf arrival).isSome := by
        intro arrival member
        obtain ⟨raw, content⟩ := brings.sound arrival member
        obtain ⟨record, decoded⟩ :=
          readable raw (List.mem_filterMap.mpr ⟨arrival, member, by rw [content]; rfl⟩)
        simp [Consumer.recordOf, content, decoded, Except.toOption]
      obtain ⟨succeeds, whole⟩ := Consumer.reports_of_decodable every calls
      exact ⟨succeeds, fun part => by rw [whole, agree]⟩
    · intro wanted left enough inTime
      have all := Consumer.mapM_decode readable
      rw [← Consumer.decodable_eq_filterMap] at all
      -- No more messages are there than records were sent, so none is left behind.
      have few : (recordsOf inbox).length ≤ wanted := by
        have same := length_eq_of_recordsIn agree
        have pairs : (List.zipWith Receipt.record receipts outgoings).length =
            outgoings.length := by
          rw [List.length_zipWith, matched.length_eq, Nat.min_self]
        have read := (mapM_ok_iff.mp all).length_eq
        omega
      refine ⟨consumer.decodable inbox, ?_, agree⟩
      rw [consumer.poll_inTime brings.sound inTime, List.take_of_length_le few, all]
  · exact (Consumer.readAll_eq_reports reads.reaches fits calls .fresh).1

open Text.Utf8

/-- Letters for two boxes: the first says nothing, and the second one has nothing in it to say
that. -/
def letters : List (Outgoing String Bytes) :=
  [⟨some "ann", some [], some 1, some 7, [("via", [1]), ("via", [])]⟩,
    ⟨none, none, some 0, some 8, []⟩, ⟨some "", some [0x62], some 1, some 9, []⟩]

def letterWriter : Producer String Bytes :=
  ⟨⟨.ofList [("metadata.broker.list", .text (some "here"))]⟩, .string, .bytes⟩

def letterReader : Consumer String Bytes := .reader "here" "boxes" "letters" .string .bytes

def letterCluster : Cluster := { Cluster.bare "here" 0 with topics := .ofList [("letters",
  [[⟨8, none, none, []⟩],
    [⟨7, some [0x61, 0x6E, 0x6E], some [], [("via", [1]), ("via", [])]⟩,
      ⟨9, some [], some [0x62], []⟩], [], []])] }

theorem letters_polled : ∃ polled, (letterReader.read letterCluster 5 10 .fresh).1 = .ok polled ∧
    recordsIn ⟨"letters", 0⟩ polled = [⟨"letters", 0, 0, some 8, none, none, []⟩] ∧
    recordsIn ⟨"letters", 1⟩ polled =
      [⟨"letters", 1, 0, some 7, some "ann", some [], [("via", [1]), ("via", [])]⟩,
        ⟨"letters", 1, 1, some 9, some "", some [0x62], []⟩] := by
  have sent : (letters.mapM (letterWriter.send "letters")).run (Cluster.bare "here" 0) =
      (.ok [⟨"letters", 1, 0⟩, ⟨"letters", 0, 0⟩, ⟨"letters", 1, 1⟩], letterCluster) := rfl
  have text (s : String) : Codec.string.decode (Codec.string.encode s) = .ok s := by
    simp only [Codec.string, encode, decode_encodeChars, String.ofList_toList]
    rfl
  have carries : ∀ outgoing ∈ letters, letterWriter.Carries outgoing := by
    have named : ∀ outgoing ∈ letters, (∃ index, outgoing.partition = some index ∧ 0 ≤ index) ∧
        ∃ time, outgoing.timestamp = some time ∧ 0 < time := by
      simp only [letters, List.forall_mem_cons]
      decide
    intro outgoing member
    obtain ⟨placed, stamped⟩ := named outgoing member
    exact ⟨placed, stamped, fun key _ => text key, fun _ _ => rfl⟩
  have fits : letterCluster.Fits := .of_single rfl (by decide) (by decide)
  have reads : letterReader.ReadsWhole "letters" letterCluster :=
    ⟨(Consumer.reader_reaches_iff ..).mpr (by decide +kernel), rfl, by decide +kernel,
      ClientConfig.fromBegin_ofReader _ _, fun _ => rfl⟩
  obtain ⟨-, -, polls, whole⟩ := letterWriter.polled_as_sent letterReader "letters" letters rfl rfl
    (by decide +kernel) carries
      (fun _ _ => by simp [Cluster.log, Cluster.bare, Table.find?, Table.empty]) sent
  obtain ⟨brings, -⟩ := whole fits reads
  have inTime :
      waited (letterReader.inbox letterCluster (letterReader.assign letterCluster .fresh)) < 5 := by
    rw [(Consumer.due_inbox _ _ _).waited]
    decide
  obtain ⟨polled, result, agree⟩ := (polls _ brings).2 10 5 (by decide) inTime
  refine ⟨polled, ?_, (agree _).trans rfl, (agree _).trans rfl⟩
  rw [(Consumer.read_poll reads.reaches fits 5 10 .fresh).1, result]

end Conduit
