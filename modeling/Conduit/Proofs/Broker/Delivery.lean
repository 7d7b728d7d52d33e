import Conduit.Proofs.Broker.Reading
import Conduit.Proofs.Data.Traversal
import Mathlib.Algebra.BigOperators.Group.List.Basic
import Mathlib.Algebra.GroupWithZero.Nat

/-!
# What partitions bring

A consumer is handed the records of its partitions from some offsets on: of each partition in their
order, while the partitions take turns in any way. Where the time suffices, a poll comes to the
records that it wants, each decoded, or to the first fault among them. A cluster that is read hands
over its partitions in this sense, one after the other.
-/
namespace Conduit

variable {κ α : Type}

/-- The records in messages. -/
def recordsOf (inbox : List Arrival) : List RawRecord :=
  inbox.filterMap fun arrival => arrival.content.toOption

/-- The time until the last message is there. -/
def waited (inbox : List Arrival) : Nat := (inbox.map Arrival.wait).sum

/-- The messages bring what the partitions hold from some offsets on, and nothing else. -/
structure Brings (cluster : Cluster) (parts : List TopicPartition) (start : TopicPartition → Int64)
    (inbox : List Arrival) : Prop where
  placed : ∀ arrival ∈ inbox, ∃ raw, arrival.content = .ok raw ∧ raw.place ∈ parts
  ordered : ∀ part ∈ parts, recordsIn part (recordsOf inbox) =
    Consumer.unreadIn cluster part (start part)

theorem recordsOf_map (wait : RawRecord → Nat) (raws : List RawRecord) :
    recordsOf (raws.map fun raw => ⟨wait raw, .ok raw⟩) = raws := by
  rw [recordsOf, List.filterMap_map]
  exact List.filterMap_some

theorem recordsOf_cons {arrival : Arrival} {raw : RawRecord} (content : arrival.content = .ok raw)
    (rest : List Arrival) : recordsOf (arrival :: rest) = raw :: recordsOf rest := by
  simp [recordsOf, content, Except.toOption]

theorem waited_cons (arrival : Arrival) (rest : List Arrival) :
    waited (arrival :: rest) = arrival.wait + waited rest :=
  rfl

theorem recordsIn_take (part : TopicPartition) (records : List (Record κ α)) (count : Nat) :
    recordsIn part (records.take count) =
      (recordsIn part records).take (recordsIn part (records.take count)).length := by
  have front : recordsIn part (records.take count) <+: recordsIn part records :=
    (List.take_prefix count records).filter _
  exact List.prefix_iff_eq_take.mp front

theorem sum_ite_eq_count (parts : List TopicPartition) (part : TopicPartition) :
    (parts.map fun other => if other = part then 1 else 0).sum = parts.count part := by
  induction parts with
  | nil => rfl
  | cons first rest ih =>
    rw [List.map_cons, List.sum_cons, ih, List.count_cons, Nat.add_comm]
    simp only [beq_iff_eq]

/-- Records of some partitions are as many as there are in each of them together. -/
theorem length_eq_sum_recordsIn {parts : List TopicPartition} (distinct : parts.Nodup)
    {records : List (Record κ α)} (placed : ∀ record ∈ records, record.place ∈ parts) :
    records.length = (parts.map fun part => (recordsIn part records).length).sum := by
  induction records with
  | nil => simp [recordsIn]
  | cons record rest ih =>
    obtain ⟨here, others⟩ := List.forall_mem_cons.mp placed
    -- The first record counts in its own partition, and that is among them once.
    have each (part : TopicPartition) : (recordsIn part (record :: rest)).length =
        (recordsIn part rest).length + if part = record.place then 1 else 0 := by
      rw [recordsIn_cons]
      by_cases same : record.place = part
      · simp [same]
      · simp [same, Ne.symm same]
    have once : parts.count record.place = 1 := List.count_eq_one_of_mem distinct here
    simp only [each, List.sum_map_add, sum_ite_eq_count, once, List.length_cons, ih others]

theorem recordsIn_filterMap {read : RawRecord → Option (Record κ α)}
    (keeps : ∀ {raw record}, read raw = some record → record.place = raw.place)
    (part : TopicPartition) (raws : List RawRecord) :
    recordsIn part (raws.filterMap read) = (recordsIn part raws).filterMap read := by
  induction raws with
  | nil => rfl
  | cons raw rest ih =>
    cases found : read raw with
    | none =>
      rw [List.filterMap_cons_none found, ih, recordsIn_cons]
      split
      · rw [List.filterMap_cons_none found]
      · rfl
    | some record =>
      rw [List.filterMap_cons_some found, recordsIn_cons, recordsIn_cons, keeps found, ih]
      split
      · rw [List.filterMap_cons_some found]
      · rfl

theorem length_eq_of_recordsIn {one other : List (Record κ α)}
    (agree : ∀ part, recordsIn part one = recordsIn part other) : one.length = other.length := by
  have inside :
      ∀ record ∈ one ++ other, record.place ∈ ((one ++ other).map Record.place).eraseDups := by
    intro record member
    exact List.mem_eraseDups.mpr (List.mem_map_of_mem member)
  rw [length_eq_sum_recordsIn (nodup_eraseDups _) fun record member =>
    inside record (List.mem_append_left _ member),
    length_eq_sum_recordsIn (nodup_eraseDups _) fun record member =>
      inside record (List.mem_append_right _ member)]
  simp only [agree]

namespace Brings

variable {cluster : Cluster} {parts : List TopicPartition} {start : TopicPartition → Int64}
  {inbox : List Arrival}

theorem sound (brings : Brings cluster parts start inbox) :
    ∀ arrival ∈ inbox, ∃ raw, arrival.content = .ok raw := by
  intro arrival member
  obtain ⟨raw, content, -⟩ := brings.placed arrival member
  exact ⟨raw, content⟩

theorem place_mem (brings : Brings cluster parts start inbox) {raw : RawRecord}
    (member : raw ∈ recordsOf inbox) :
    raw.place ∈ parts := by
  obtain ⟨arrival, among, found⟩ := List.mem_filterMap.mp member
  obtain ⟨other, content, inside⟩ := brings.placed arrival among
  rw [content] at found
  cases found
  exact inside

theorem length_recordsOf (brings : Brings cluster parts start inbox) (distinct : parts.Nodup) :
    (recordsOf inbox).length =
      (parts.map fun part => (Consumer.unreadIn cluster part (start part)).length).sum := by
  rw [length_eq_sum_recordsIn distinct fun raw member => brings.place_mem member]
  exact congrArg List.sum
    (List.map_congr_left fun part member => by rw [brings.ordered part member])

end Brings

namespace Consumer

variable {consumer : Consumer κ α} {cluster : Cluster}

/-- What waits for a consumer at a cluster brings what its partitions hold from its positions on. -/
theorem brings_inbox (reaches : consumer.Reaches cluster) (fits : cluster.Fits)
    (standing : Standing) :
    Brings cluster (consumer.partitions cluster)
      (fun part => (standing.positions.find? part).getD 0) (consumer.inbox cluster standing) := by
  have distinct := consumer.nodup_partitions cluster fits
  have raws : recordsOf (consumer.inbox cluster standing) =
      (consumer.partitions cluster).flatMap (waitingIn cluster standing) := by
    rw [inbox_of_reaches reaches, recordsOf_map]
  constructor
  · intro arrival member
    rw [inbox_of_reaches reaches] at member
    obtain ⟨raw, among, rfl⟩ := List.mem_map.mp member
    obtain ⟨part, inside, held⟩ := List.mem_flatMap.mp among
    refine ⟨raw, rfl, ?_⟩
    rw [place_of_mem_unreadIn held]
    exact inside
  · intro part member
    rw [raws]
    exact recordsIn_flatMap distinct (fun _ record held => place_of_mem_unreadIn held) member

theorem Due.waited {inbox : List Arrival} (due : Due inbox) : waited inbox = 0 := by
  apply List.sum_eq_zero
  intro wait member
  obtain ⟨arrival, among, rfl⟩ := List.mem_map.mp member
  exact due arrival among

/-! ### Polls in time -/

theorem eq_of_decode {raw : RawRecord} {record : Record κ α}
    (decoded : consumer.decode raw = .ok record) :
    ∃ key value, raw.key.mapM consumer.key.decode = .ok key ∧
      raw.value.mapM consumer.value.decode = .ok value ∧
      record = ⟨raw.topic, raw.partition, raw.offset, raw.timestamp, key, value, raw.headers⟩ := by
  unfold decode at decoded
  cases readKey : raw.key.mapM consumer.key.decode with
  | error cause => simp [readKey, Except.mapError, bind, Except.bind] at decoded
  | ok key =>
    cases readValue : raw.value.mapM consumer.value.decode with
    | error cause => simp [readKey, readValue, Except.mapError, bind, Except.bind] at decoded
    | ok value =>
      simp only [readKey, readValue, Except.mapError, bind, Except.bind, pure, Except.pure,
        Except.ok.injEq] at decoded
      exact ⟨key, value, rfl, rfl, decoded.symm⟩

/-- A poll in time comes to the records that it wants, or to the first fault in decoding them. -/
theorem poll_inTime (consumer : Consumer κ α) {inbox : List Arrival}
    (sound : ∀ arrival ∈ inbox, ∃ raw, arrival.content = .ok raw) {left : Nat}
    (inTime : waited inbox < left) (wanted : Nat) :
    (consumer.poll wanted left inbox).result =
      ((recordsOf inbox).take wanted).mapM consumer.decode := by
  fun_induction consumer.poll wanted left inbox with
  -- Nothing is wanted, or nothing is there; the time is not over, and nothing comes too late.
  | case1 left inbox => rfl
  | case2 wanted inbox => exact absurd inTime (Nat.not_lt_zero _)
  | case3 wanted left => rfl
  | case4 wanted left arrival rest late =>
    rw [waited_cons] at inTime
    omega
  | case5 wanted left arrival rest due remaining cause content =>
    obtain ⟨raw, found⟩ := sound arrival List.mem_cons_self
    rw [content] at found
    cases found
  | case6 wanted left arrival rest due remaining raw content fault refused =>
    rw [recordsOf_cons content, List.take_succ_cons, mapM_cons_error refused]
  | case7 wanted left arrival rest due remaining raw content record decoded polled ih =>
    have later : waited rest < remaining := by
      rw [waited_cons] at inTime
      omega
    have others := ih (List.forall_mem_cons.mp sound).2 later
    rw [recordsOf_cons content, List.take_succ_cons, mapM_cons_ok decoded, ← others]

/-! ### Polls where everything can be decoded -/

variable {inbox : List Arrival}

theorem decodable_eq_filterMap (consumer : Consumer κ α) (inbox : List Arrival) :
    consumer.decodable inbox = (recordsOf inbox).filterMap fun raw =>
      (consumer.decode raw).toOption := by
  rw [recordsOf, List.filterMap_filterMap]
  rfl

theorem recordsIn_decodable (consumer : Consumer κ α) (inbox : List Arrival)
    (part : TopicPartition) :
    recordsIn part (consumer.decodable inbox) =
      (recordsIn part (recordsOf inbox)).filterMap fun raw => (consumer.decode raw).toOption := by
  rw [decodable_eq_filterMap]
  apply recordsIn_filterMap
  intro raw record found
  cases decoded : consumer.decode raw with
  | error fault =>
    rw [decoded] at found
    cases found
  | ok other =>
    rw [decoded] at found
    cases found
    obtain ⟨key, value, -, -, rfl⟩ := eq_of_decode decoded
    rfl

theorem mapM_decode {raws : List RawRecord}
    (readable : ∀ raw ∈ raws, ∃ record, consumer.decode raw = .ok record) :
    raws.mapM consumer.decode = .ok (raws.filterMap fun raw => (consumer.decode raw).toOption) := by
  induction raws with
  | nil => rfl
  | cons raw rest ih =>
    obtain ⟨⟨record, decoded⟩, others⟩ := List.forall_mem_cons.mp readable
    rw [mapM_cons_ok decoded, ih others]
    simp [decoded, Except.toOption, Except.map]

theorem Settles.exists_recordOf_none {taken : List Arrival} {fault : Fault}
    (settles : consumer.Settles taken (.error fault)) :
    ∃ arrival ∈ taken, consumer.recordOf arrival = none := by
  cases settles with
  | undecodable decoded refused =>
    exact ⟨_, List.mem_append_right _ List.mem_cons_self, recordOf_of_refused refused⟩
  | unreceived decoded => exact ⟨_, List.mem_append_right _ List.mem_cons_self, rfl⟩

/-- Where everything can be decoded no call fails, and nothing is lost. -/
theorem reports_of_decodable (every : ∀ arrival ∈ inbox, (consumer.recordOf arrival).isSome)
    (calls : List PollCall) :
    (∀ report ∈ consumer.reports calls inbox, ∃ polled, report.result = .ok polled) ∧
      (consumer.reports calls inbox).flatMap PollReport.returned ++
          consumer.decodable (consumer.inboxAfter calls inbox) =
        consumer.decodable inbox := by
  obtain ⟨-, answered, shared⟩ := consumer.reports_share calls inbox
  -- What a message holds depends on its content only.
  have content (arrivals : List Arrival) :
      consumer.decodable arrivals = (arrivals.map Arrival.content).filterMap
        fun content => content.toOption.bind fun raw => (consumer.decode raw).toOption := by
    rw [List.filterMap_map]
    rfl
  have succeeds : ∀ report ∈ consumer.reports calls inbox,
      ∃ polled, report.result = .ok polled := by
    intro report member
    have settles := (answered report member).settles
    cases settled : report.result with
    | ok polled => exact ⟨polled, rfl⟩
    | error fault =>
      rw [settled] at settles
      obtain ⟨arrival, taken, none⟩ := settles.exists_recordOf_none
      have held : arrival.content ∈ inbox.map Arrival.content := by
        rw [← shared]
        exact List.mem_map_of_mem
          (List.mem_append_left _ (List.mem_flatMap.mpr ⟨report, member, taken⟩))
      obtain ⟨other, inside, same⟩ := List.mem_map.mp held
      have there := every other inside
      rw [recordOf, same, ← recordOf, none] at there
      cases there
  have whole := (returned_reports answered).2.mpr fun report member spoils => by
    obtain ⟨polled, ok⟩ := succeeds report member
    rw [PollReport.Spoils, ok] at spoils
    cases spoils.1
  refine ⟨succeeds, ?_⟩
  rw [whole, content, content, ← List.filterMap_append, ← List.map_append, shared, ← content]

end Consumer

end Conduit
