import Conduit.Proofs.Broker.Offsets
import Conduit.Proofs.Broker.Polling
import Mathlib.Data.List.Nodup

/-!
# Reads of a cluster

What waits for a consumer at a cluster is what each of its partitions holds from the consumer's
position on. A read polls this inbox and moves the positions behind what it took, whatever came of
it, so what waits afterwards is what it left. Reads of a cluster that nobody writes to are therefore
polls of one inbox.
-/
namespace Conduit

variable {κ α : Type}

/-- The cluster's partitions can be numbered, and so can the records in each of them. -/
def Cluster.Fits (cluster : Cluster) : Prop :=
  ∀ topic logs, cluster.topics.find? topic = some logs →
    logs.length < 0x80000000 ∧ ∀ log ∈ logs, log.length < 0x8000000000000000

namespace Cluster

variable {cluster : Cluster}

theorem Fits.length_log (fits : cluster.Fits) (part : TopicPartition) :
    (cluster.log part).length < 0x8000000000000000 := by
  rw [log]
  split
  · simp
  · cases found : cluster.topics.find? part.topic with
    | none => simp
    | some logs =>
      simp only [Option.getD_some]
      cases place : logs[part.index.toInt.toNat]? with
      | none => simp
      | some log => exact (fits _ _ found).2 log (List.mem_of_getElem? place)

theorem Fits.nodup_partitions (fits : cluster.Fits) (topic : String) :
    (cluster.partitions topic).Nodup := by
  have few : ((cluster.topics.find? topic).getD []).length < 0x80000000 := by
    cases found : cluster.topics.find? topic with
    | none => simp
    | some logs => exact (fits _ _ found).1
  refine List.Nodup.map_on (fun one first other second same => ?_) List.nodup_range
  rw [List.mem_range] at first second
  have numbers := congrArg (fun part : TopicPartition => part.index.toInt) same
  simp only [Int32.toInt_ofNat_of_lt (Nat.lt_trans first few),
    Int32.toInt_ofNat_of_lt (Nat.lt_trans second few)] at numbers
  omega

theorem Fits.of_single {topic : String} {logs : List (List StoredRecord)}
    (single : cluster.topics = .ofList [(topic, logs)]) (few : logs.length < 0x80000000)
    (short : ∀ log ∈ logs, log.length < 0x8000000000000000) : cluster.Fits := by
  intro other found held
  rw [single] at held
  have only := (Table.find?_insert .empty topic other logs).symm.trans held
  split at only
  · obtain rfl := Option.some.inj only
    exact ⟨few, short⟩
  · cases only

theorem topic_of_mem_partitions {part : TopicPartition} {topic : String}
    (member : part ∈ cluster.partitions topic) : part.topic = topic := by
  obtain ⟨index, -, rfl⟩ := List.mem_map.mp member
  rfl

end Cluster

/-- Nothing is listed twice once what is listed twice is left out. -/
theorem nodup_eraseDups {ι : Type} [BEq ι] [LawfulBEq ι] (items : List ι) :
    items.eraseDups.Nodup := by
  match items with
  | [] => simp
  | first :: rest =>
    -- The rest is cleared of the first item; it is shorter, but no tail of the list.
    rw [List.eraseDups_cons, List.nodup_cons]
    exact ⟨by simp [List.mem_eraseDups], nodup_eraseDups _⟩
termination_by items.length
decreasing_by exact Nat.lt_succ_of_le (List.length_filter_le _ _)

/-- A front of all pieces one after the other is a front of each. -/
theorem take_flatMap {ι τ : Type} [DecidableEq ι] {items : List ι} (distinct : items.Nodup)
    (f : ι → List τ) (n : Nat) : ∃ count : ι → Nat,
      (items.flatMap f).take n = items.flatMap (fun item => (f item).take (count item)) ∧
      (items.flatMap f).drop n = items.flatMap (fun item => (f item).drop (count item)) := by
  induction items generalizing n with
  | nil => exact ⟨fun _ => 0, by simp⟩
  | cons first rest ih =>
    obtain ⟨apart, others⟩ := List.nodup_cons.mp distinct
    obtain ⟨count, taken, left⟩ := ih others (n - (f first).length)
    -- The counts of the others stay; none of them is the first one.
    have stays (g : Nat → ι → List τ) :
        rest.flatMap (fun item => g (Function.update count first n item) item) =
          rest.flatMap (fun item => g (count item) item) :=
      List.flatMap_congr fun item member => by
        rw [Function.update_of_ne (ne_of_mem_of_not_mem member apart)]
    refine ⟨Function.update count first n, ?_, ?_⟩
    · rw [List.flatMap_cons, List.flatMap_cons, List.take_append, taken, Function.update_self,
        stays fun k item => (f item).take k]
    · rw [List.flatMap_cons, List.flatMap_cons, List.drop_append, left, Function.update_self,
        stays fun k item => (f item).drop k]

namespace Consumer

variable (consumer : Consumer κ α) (cluster : Cluster)

theorem nodup_partitions (fits : cluster.Fits) : (consumer.partitions cluster).Nodup := by
  refine List.nodup_flatMap.mpr ⟨fun topic _ => fits.nodup_partitions topic, ?_⟩
  have distinct : (Subscription.topicsAmong cluster.topics.keys consumer.topics).Nodup := by
    rw [Subscription.topicsAmong]
    exact nodup_eraseDups _
  refine distinct.imp fun different part here there => different ?_
  rw [← Cluster.topic_of_mem_partitions here, Cluster.topic_of_mem_partitions there]

variable {cluster}

theorem place_of_mem_unreadIn {part : TopicPartition} {position : Int64} {record : RawRecord}
    (member : record ∈ unreadIn cluster part position) : record.place = part := by
  obtain ⟨⟨stored, index⟩, -, rfl⟩ := List.mem_map.mp member
  rfl

/-- The records that are read have their places in the log for offsets. -/
theorem offset_getElem_unreadIn (fits : cluster.Fits) {part : TopicPartition} {position : Int64}
    {i : Nat} (inside : i < (unreadIn cluster part position).length) :
    (unreadIn cluster part position)[i].offset.toInt = position.toInt.toNat + i ∧
      position.toInt.toNat + i < (cluster.log part).length := by
  have bound : position.toInt.toNat + i < (cluster.log part).length := by
    simp only [unreadIn, List.length_map, List.length_drop, List.length_zipIdx] at inside
    omega
  refine ⟨?_, bound⟩
  simp only [unreadIn, List.getElem_map, List.getElem_drop, List.getElem_zipIdx, Nat.zero_add]
  rw [Int64.toInt_ofNat_of_lt (Nat.lt_trans bound (fits.length_log part))]
  omega

theorem unreadIn_ascending (fits : cluster.Fits) (part : TopicPartition) (position : Int64) :
    (unreadIn cluster part position).Pairwise (fun a b => a.offset < b.offset) ∧
      ∀ record ∈ unreadIn cluster part position, record.offset < Int64.maxValue := by
  have fit := fits.length_log part
  constructor
  · refine List.pairwise_iff_getElem.mpr fun i j first second less => ?_
    rw [Int64.lt_iff_toInt_lt, (offset_getElem_unreadIn fits first).1,
      (offset_getElem_unreadIn fits second).1]
    omega
  · intro record member
    obtain ⟨i, inside, rfl⟩ := List.getElem_of_mem member
    obtain ⟨offset, bound⟩ := offset_getElem_unreadIn fits inside
    rw [Int64.lt_iff_toInt_lt, offset, Int64.toInt_maxValue]
    omega

theorem unreadIn_of_further (part : TopicPartition) {position further : Int64} {count : Nat}
    (behind : further.toInt.toNat = position.toInt.toNat + count) :
    unreadIn cluster part further = (unreadIn cluster part position).drop count := by
  rw [unreadIn, unreadIn, ← List.map_drop, List.drop_drop, behind]

/-- Behind what was read of a partition is what was not. -/
theorem unreadIn_past (fits : cluster.Fits) (part : TopicPartition) (position : Int64)
    (count : Nat) :
    unreadIn cluster part
      ((((unreadIn cluster part position).take count).getLast?.map Record.past).getD position) =
        (unreadIn cluster part position).drop count := by
  cases read : ((unreadIn cluster part position).take count).getLast? with
  | none =>
    rw [List.getLast?_eq_none_iff, List.take_eq_nil_iff] at read
    rcases read with none | none <;> simp [none]
  | some last =>
    rw [List.getLast?_eq_getElem?, List.getElem?_eq_some_iff] at read
    obtain ⟨inside, rfl⟩ := read
    have within : min count (unreadIn cluster part position).length - 1 <
        (unreadIn cluster part position).length := by
      simp only [List.length_take] at inside
      omega
    simp only [List.length_take, List.getElem_take, Option.map_some, Option.getD_some] at inside ⊢
    -- The last record read is at its number in the log, and the position is one further.
    obtain ⟨offset, bound⟩ := offset_getElem_unreadIn fits within
    have fit := fits.length_log part
    have behind :
        (unreadIn cluster part position)[
            min count (unreadIn cluster part position).length - 1].past.toInt.toNat =
          position.toInt.toNat + min count (unreadIn cluster part position).length := by
      rw [Record.past_toInt ((unreadIn_ascending fits part position).2 _ (List.getElem_mem _)),
        offset]
      omega
    rw [unreadIn_of_further part behind]
    exact List.drop_eq_drop_iff.mpr (by omega)

/-- What a partition holds from the position on. -/
def waitingIn (cluster : Cluster) (standing : Standing) (part : TopicPartition) : List RawRecord :=
  unreadIn cluster part ((standing.positions.find? part).getD 0)

/-- The consumer can reach the cluster. -/
def Reaches (consumer : Consumer κ α) (cluster : Cluster) : Prop :=
  consumer.config.servers?.any cluster.reachedBy

theorem inbox_of_reaches {consumer : Consumer κ α} (reaches : consumer.Reaches cluster)
    (standing : Standing) :
    consumer.inbox cluster standing =
      ((consumer.partitions cluster).flatMap (waitingIn cluster standing)).map fun raw =>
        ⟨0, .ok raw⟩ := by
  rw [Reaches, Option.any_eq_true] at reaches
  obtain ⟨servers, found, reached⟩ := reaches
  rw [inbox, found]
  simp only [reached, if_true, List.map_flatMap, waitingIn]

/-- What is in one partition, of pieces for each. -/
theorem recordsIn_flatMap {parts : List TopicPartition} (distinct : parts.Nodup)
    {pieces : TopicPartition → List RawRecord}
    (placed : ∀ part, ∀ record ∈ pieces part, record.place = part) {part : TopicPartition}
    (member : part ∈ parts) : recordsIn part (parts.flatMap pieces) = pieces part := by
  induction parts with
  | nil => simp at member
  | cons first rest ih =>
    obtain ⟨apart, others⟩ := List.nodup_cons.mp distinct
    rw [List.flatMap_cons, recordsIn_append]
    rcases List.mem_cons.mp member with rfl | later
    · have elsewhere : ∀ record ∈ rest.flatMap pieces, record.place ≠ part := by
        intro record found here
        obtain ⟨other, among, found⟩ := List.mem_flatMap.mp found
        exact apart (here ▸ placed other record found ▸ among)
      rw [recordsIn_eq_self (placed part), recordsIn_eq_nil elsewhere, List.append_nil]
    · have elsewhere : ∀ record ∈ pieces first, record.place ≠ part := fun record found here =>
        apart (placed first record found ▸ here ▸ later)
      rw [recordsIn_eq_nil elsewhere, ih others later, List.nil_append]

/-- What was taken is a front of what a partition holds, and what it holds next is the rest. -/
theorem waitingIn_advance (fits : cluster.Fits) {standing : Standing} {part : TopicPartition}
    {taken : List RawRecord} {count : Nat}
    (front : recordsIn part taken = (waitingIn cluster standing part).take count) :
    waitingIn cluster (advance standing (taken.map fun raw => ⟨0, .ok raw⟩)) part =
      (waitingIn cluster standing part).drop count := by
  obtain ⟨ascending, bounded⟩ :=
    unreadIn_ascending fits part ((standing.positions.find? part).getD 0)
  have raws : (taken.map fun raw => (⟨0, .ok raw⟩ : Arrival)).filterMap
      (fun arrival => arrival.content.toOption) = taken := by
    rw [List.filterMap_map]
    exact List.filterMap_some
  -- Its last record in what was taken sets the position, which stays as it was if there is none.
  have moved :
      ((advance standing (taken.map fun raw => ⟨0, .ok raw⟩)).positions.find? part).getD 0 =
        (((waitingIn cluster standing part).take count).getLast?.map Record.past).getD
          ((standing.positions.find? part).getD 0) := by
    rw [advance, raws, Table.find?_extend, find?_offsetsPast_of_ascending, front, Option.getD_or]
    · rw [front]
      exact ascending.sublist (List.take_sublist _ _)
  rw [waitingIn, moved]
  exact unreadIn_past fits part _ count

/-- What waits behind what was taken is what was left. -/
theorem inbox_advance {consumer : Consumer κ α} (reaches : consumer.Reaches cluster)
    (fits : cluster.Fits) (standing : Standing) (count : Nat) :
    consumer.inbox cluster (advance standing ((consumer.inbox cluster standing).take count)) =
      (consumer.inbox cluster standing).drop count := by
  have distinct := consumer.nodup_partitions cluster fits
  obtain ⟨counts, taken, left⟩ := take_flatMap distinct (waitingIn cluster standing) count
  rw [inbox_of_reaches reaches, inbox_of_reaches reaches, ← List.map_take, ← List.map_drop,
    taken, left]
  refine congrArg (List.map _) (List.flatMap_congr fun part member => waitingIn_advance fits ?_)
  exact recordsIn_flatMap distinct
    (fun _ record found => place_of_mem_unreadIn (List.mem_of_mem_take found)) member

/-! ### From read to read -/

theorem contains_foldl_insert (start : TopicPartition → Int64) (parts : List TopicPartition)
    (positions : Offsets) {part : TopicPartition} (known : positions.contains part ∨ part ∈ parts) :
    (parts.foldl (fun positions part => if positions.contains part then positions
      else positions.insert part (start part)) positions).contains part := by
  induction parts generalizing positions with
  | nil => simpa using known
  | cons first rest ih =>
    rw [List.foldl_cons]
    refine ih _ ?_
    rcases known with old | new
    · left
      split
      · exact old
      · rw [Table.contains, Table.find?_insert]
        split
        · rfl
        · exact old
    · rcases List.mem_cons.mp new with rfl | later
      · left
        split
        next old => exact old
        · simp [Table.contains, Table.find?_insert]
      · exact Or.inr later

/-- Every partition has its position. -/
def Placed (consumer : Consumer κ α) (cluster : Cluster) (standing : Standing) : Prop :=
  ∀ part ∈ consumer.partitions cluster, standing.positions.contains part

variable {consumer : Consumer κ α}

theorem placed_assign (consumer : Consumer κ α) (cluster : Cluster) (standing : Standing) :
    consumer.Placed cluster (consumer.assign cluster standing) :=
  fun _ member => contains_foldl_insert _ _ _ (Or.inr member)

theorem assign_of_placed {standing : Standing} (placed : consumer.Placed cluster standing) :
    consumer.assign cluster standing = standing := by
  have kept : (consumer.partitions cluster).foldl (fun positions part =>
    if positions.contains part then positions
    else positions.insert part (consumer.start cluster part)) standing.positions =
        standing.positions := by
    rw [Placed] at placed
    generalize consumer.partitions cluster = parts at placed
    induction parts with
    | nil => rfl
    | cons first rest ih =>
      obtain ⟨here, others⟩ := List.forall_mem_cons.mp placed
      rw [List.foldl_cons, if_pos here, ih others]
  rw [assign, kept]

theorem Placed.advance {standing : Standing} (placed : consumer.Placed cluster standing)
    (taken : List Arrival) :
    consumer.Placed cluster (advance standing taken) := by
  intro part member
  have known := placed part member
  rw [Table.contains] at known ⊢
  rw [Consumer.advance, Table.find?_extend, Option.isSome_or, known, Bool.or_true]

/-- The messages of a cluster are there already. -/
def Due (inbox : List Arrival) : Prop := ∀ arrival ∈ inbox, arrival.wait = 0

theorem due_inbox (consumer : Consumer κ α) (cluster : Cluster) (standing : Standing) :
    Due (consumer.inbox cluster standing) := by
  intro arrival member
  rw [inbox] at member
  split at member
  · simp at member
  · split at member
    · obtain ⟨part, -, found⟩ := List.mem_flatMap.mp member
      obtain ⟨raw, -, rfl⟩ := List.mem_map.mp found
      rfl
    · simp_all

theorem Due.paused {inbox : List Arrival} (due : Due inbox) (pause : Nat) :
    paused pause inbox = inbox := by
  induction inbox generalizing pause with
  | nil => rfl
  | cons arrival rest ih =>
    obtain ⟨now, later⟩ := List.forall_mem_cons.mp due
    obtain ⟨wait, content⟩ := arrival
    obtain rfl : wait = 0 := now
    rw [Conduit.paused]
    split
    · simp
    · rw [ih later]

/-- A poll leaves an end of the inbox where nothing is to be waited for. -/
theorem Due.poll (consumer : Consumer κ α) {inbox : List Arrival} (due : Due inbox)
    (wanted left : Nat) : (consumer.poll wanted left inbox).inbox <:+ inbox := by
  fun_induction consumer.poll wanted left inbox with
  | case1 | case2 | case3 => exact List.suffix_rfl
  | case4 wanted left arrival rest late =>
    rw [due arrival List.mem_cons_self] at late
    omega
  | case5 | case6 => exact List.suffix_cons _ _
  | case7 wanted left arrival rest _ remaining raw content record decoded polled ih =>
    exact (ih (List.forall_mem_cons.mp due).2).trans (List.suffix_cons _ _)

/-- A read is a poll of what waits, and what it left waits next. -/
theorem read_poll (reaches : consumer.Reaches cluster) (fits : cluster.Fits) (time wanted : Nat)
    (standing : Standing) :
    (consumer.read cluster time wanted standing).1 =
        (consumer.poll wanted time
          (consumer.inbox cluster (consumer.assign cluster standing))).result ∧
      consumer.inbox cluster
        (consumer.assign cluster (consumer.read cluster time wanted standing).2.2) =
          (consumer.poll wanted time
            (consumer.inbox cluster (consumer.assign cluster standing))).inbox := by
  by_cases idle : time = 0 ∨ wanted = 0
  · -- Such a read does not look at the cluster, and such a poll does not look at the inbox.
    rw [read, if_pos idle]
    rcases idle with rfl | rfl
    · cases wanted <;> exact ⟨rfl, rfl⟩
    · exact ⟨rfl, rfl⟩
  · have placed := (placed_assign consumer cluster standing).advance
    have left :=
      (due_inbox consumer cluster (consumer.assign cluster standing)).poll consumer wanted time
    rw [read, if_neg idle]
    refine ⟨rfl, ?_⟩
    dsimp only
    rw [assign_of_placed (placed _), inbox_advance reaches fits]
    exact (List.suffix_iff_eq_drop.mp left).symm

/-- Reads the cluster once for every call: what comes of it, and where the consumer is then. -/
def readAll (consumer : Consumer κ α) (cluster : Cluster) :
    List PollCall → Standing → List (Except Fault (List (Record κ α))) × Standing
  | [], standing => ([], standing)
  | call :: rest, standing =>
    let (result, _, later) := consumer.read cluster call.time call.wanted standing
    let (results, last) := readAll consumer cluster rest later
    (result :: results, last)

/-- Reads of a cluster are polls of what waits for the consumer, and they lead to where the rest
waits. -/
theorem readAll_eq_reports (reaches : consumer.Reaches cluster) (fits : cluster.Fits)
    (calls : List PollCall) (standing : Standing) :
    (consumer.readAll cluster calls standing).1 =
        (consumer.reports calls (consumer.inbox cluster (consumer.assign cluster standing))).map
          PollReport.result ∧
      consumer.inbox cluster (consumer.assign cluster (consumer.readAll cluster calls standing).2) =
        consumer.inboxAfter calls (consumer.inbox cluster (consumer.assign cluster standing)) := by
  induction calls generalizing standing with
  | nil => exact ⟨rfl, rfl⟩
  | cons call rest ih =>
    obtain ⟨result, left⟩ := read_poll reaches fits call.time call.wanted standing
    obtain ⟨results, last⟩ := ih (consumer.read cluster call.time call.wanted standing).2.2
    have due := (due_inbox consumer cluster (consumer.assign cluster standing)).paused call.pause
    simp only [readAll, reports, inboxAfter, List.foldl_cons, List.map_cons, due]
    rw [results, last, result, left]
    exact ⟨rfl, rfl⟩

/-- Whatever calls are made and whatever comes in, each message received is taken by one call, in
order; a call for nothing or without time takes none, and none returns more than it wants. A call
returns what is in the messages that it took, or it fails at the last of them. So what could be
decoded is returned, in order, but for what a call took in front of a message at which it failed. At
a cluster the consumer moves past all of it, what is lost included. -/
theorem lost_iff_spoiled (consumer : Consumer κ α) (calls : List PollCall) (inbox : List Arrival) :
    let reports := consumer.reports calls inbox
    reports.map PollReport.call = calls ∧
      (reports.flatMap PollReport.taken ++ consumer.inboxAfter calls inbox).map Arrival.content =
        inbox.map Arrival.content ∧
      (∀ report ∈ reports, report.returned.length ≤ report.call.wanted ∧
        (report.call.time = 0 ∨ report.call.wanted = 0 → report.taken = [] ∧
          report.result = .ok []) ∧
        consumer.Settles report.taken report.result) ∧
      (reports.flatMap PollReport.returned).Sublist
        (consumer.decodable (reports.flatMap PollReport.taken)) ∧
      (reports.flatMap PollReport.returned = consumer.decodable (reports.flatMap PollReport.taken) ↔
        ∀ report ∈ reports, ¬report.Spoils) ∧
      ∀ cluster standing, consumer.Reaches cluster → cluster.Fits →
        inbox = consumer.inbox cluster (consumer.assign cluster standing) →
        (consumer.readAll cluster calls standing).1 = reports.map PollReport.result ∧
          consumer.inbox cluster
            (consumer.assign cluster (consumer.readAll cluster calls standing).2) =
              consumer.inboxAfter calls inbox := by
  obtain ⟨called, answered, shared⟩ := consumer.reports_share calls inbox
  obtain ⟨part, whole⟩ := returned_reports answered
  refine ⟨called, shared, fun report member => ⟨(answered report member).length_returned_le,
    (answered report member).idle, (answered report member).settles⟩, part, whole, ?_⟩
  rintro cluster standing reaches fits rfl
  exact readAll_eq_reports reaches fits calls standing

open Text.Utf8

/-- A note as it is stored, and as it is read. -/
def note {α : Type} (offset : Int64) (value : α) : Record Bytes α :=
  ⟨"notes", 0, offset, none, none, some value, []⟩

/-- One that reads notes as texts, from the first one on. -/
def noteReader : Consumer Bytes String :=
  ⟨⟨.ofList [("metadata.broker.list", .text "here"), ("auto.offset.reset", .name "earliest")]⟩,
    ["notes"], .bytes, .string⟩

/-- Two notes, and one between them that is no text. -/
def notes : List Arrival :=
  [⟨0, .ok (note 0 [0x61])⟩, ⟨0, .ok (note 1 [0xFF])⟩, ⟨0, .ok (note 2 [0x62])⟩]

def noteLog : List StoredRecord :=
  [⟨-1, none, some [0x61], []⟩, ⟨-1, none, some [0xFF], []⟩, ⟨-1, none, some [0x62], []⟩]

def noteCluster : Cluster := { Cluster.bare "here" 0 with topics := .ofList [("notes", [noteLog])] }

theorem noteCluster_fits : noteCluster.Fits :=
  Cluster.Fits.of_single rfl (by decide) (by decide)

/-- One note at a time, nothing that can be decoded is lost. -/
theorem notes_one_by_one :
    noteReader.inbox noteCluster (noteReader.assign noteCluster .fresh) = notes ∧
    (noteReader.reports [⟨0, 5, 1⟩, ⟨2, 0, 3⟩, ⟨0, 5, 3⟩, ⟨0, 5, 3⟩] notes).flatMap
      PollReport.returned = [note 0 "a", note 2 "b"] ∧
    (noteReader.readAll noteCluster [⟨0, 5, 1⟩, ⟨2, 0, 3⟩, ⟨0, 5, 3⟩, ⟨0, 5, 3⟩] .fresh).1.map
      Except.toOption = [some [note 0 "a"], some [], none, some [note 2 "b"]] := by
  have reaches : noteReader.Reaches noteCluster := by rfl
  have parts : noteReader.partitions noteCluster = [⟨"notes", 0⟩] := by decide +kernel
  have waiting : notes = noteReader.inbox noteCluster (noteReader.assign noteCluster .fresh) := by
    rw [inbox_of_reaches reaches, assign, parts]
    rfl
  obtain ⟨-, -, -, -, whole, reads⟩ :=
    noteReader.lost_iff_spoiled [⟨0, 5, 1⟩, ⟨2, 0, 3⟩, ⟨0, 5, 3⟩, ⟨0, 5, 3⟩] notes
  have unspoiled : ∀ report ∈ noteReader.reports [⟨0, 5, 1⟩, ⟨2, 0, 3⟩, ⟨0, 5, 3⟩, ⟨0, 5, 3⟩] notes,
      ¬report.Spoils := by decide
  obtain ⟨results, -⟩ := reads noteCluster .fresh reaches noteCluster_fits waiting
  exact ⟨waiting.symm, (whole.mpr unspoiled).trans rfl, by rw [results]; rfl⟩

/-- Two notes at a time, the first one is lost: a read of the cluster fails at the second, the next
one goes on behind it, and so does whoever comes after the commit. -/
theorem first_note_skipped :
    noteReader.decodable (notes.take 2) = [note 0 "a"] ∧
    (noteReader.reports [⟨0, 5, 2⟩, ⟨0, 5, 2⟩] (notes.take 2)).flatMap PollReport.taken =
      notes.take 2 ∧
    (noteReader.reports [⟨0, 5, 2⟩, ⟨0, 5, 2⟩] (notes.take 2)).flatMap PollReport.returned = [] ∧
    let (first, _, standing) := noteReader.read noteCluster 5 2 .fresh
    first.isOk = false ∧
      (noteReader.commit noteCluster standing).toOption.bind
        (fun committed => committed.1.committed noteReader.group ⟨"notes", 0⟩) = some 2 := by
  refine ⟨rfl, rfl, rfl, ?_⟩
  decide +kernel

end Consumer

end Conduit
