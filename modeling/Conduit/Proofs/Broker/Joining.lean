import Conduit.Proofs.Broker.Delivery

/-!
# Joining a group from the beginning

A consumer that is drafted with servers, a group and the first record to begin with can be built if
none of that is blank and nothing holds a zero character. Its settings are then what was drafted,
but that blanks in front of the servers and of the group do not count. It reaches a cluster exactly
if the servers that were drafted name it.
-/
namespace Conduit

open Text.Utf8

/-- A text without the blanks in front of it. -/
def stripped (s : String) : String := String.ofList (Number.skipBlanks s.toList)

namespace Text

theorem isBlank_of_isPlainBlank {c : Char} (plain : Number.isPlainBlank c) : isBlank c := by
  simp only [Number.isPlainBlank, Bool.or_eq_true, Bool.and_eq_true, decide_eq_true_eq] at plain
  simp only [isBlank, blankRanges, List.any_cons, Bool.or_eq_true, Bool.and_eq_true,
    decide_eq_true_eq]
  rcases plain with rfl | ⟨low, high⟩
  · exact Or.inr (Or.inl (by decide))
  · exact Or.inl ⟨low, high⟩

theorem listed_blank_cons {c : Char} (blank : isBlank c) (rest : List Char) :
    listed (String.ofList (c :: rest)) = listed (String.ofList rest) := by
  have comma : c ≠ ',' := by
    rintro rfl
    exact absurd blank (by decide)
  have skips (piece : List Char) : trim (c :: piece) = trim piece := by
    simp only [trim, trimStart, List.dropWhile_cons, blank, if_true]
  simp only [listed, String.toList_ofList]
  rw [pieces, if_neg comma]
  cases pieces ',' rest with
  | nil => rw [List.map_cons, skips]; rfl
  | cons piece more => simp only [List.map_cons, skips]

theorem listed_stripped (s : String) : listed (stripped s) = listed s := by
  have skips (s : List Char) :
      listed (String.ofList (Number.skipBlanks s)) = listed (String.ofList s) := by
    induction s with
    | nil => rfl
    | cons c rest ih =>
      rw [Number.skipBlanks, List.dropWhile_cons]
      split
      next plain => exact ih.trans (listed_blank_cons (isBlank_of_isPlainBlank plain) rest).symm
      · rfl
  rw [stripped, skips, String.ofList_toList]

end Text

namespace ClientConfig

theorem add_of_read (property : Property) {config : ClientConfig} {key value : String}
    {read : PropertyValue} (cleanKey : hasZero key = false) (cleanValue : hasZero value = false)
    (found : Property.find? key = some property)
    (reads : property.kind.read value = .ok (some read)) :
    config.add key value = .ok ⟨config.values.insert property.name read⟩ := by
  simp only [add, cleanKey, cleanValue, found, reads, Bool.or_self, Bool.false_eq_true, if_false]
  rfl

/-- Any text that is not empty is taken without the blanks in front of it. -/
theorem read_text {value : String} (present : value ≠ "") :
    (PropertyKind.text .any).read value = .ok (some (.text (some (stripped value)))) := by
  have some : value.toList.isEmpty = false := by simpa using present
  simp only [PropertyKind.read, TextRule.read, some, Bool.false_eq_true, if_false]
  rfl

theorem strategyConflicts_of_unset {config : ClientConfig}
    (unset : config.text? "partition.assignment.strategy" = none) :
    config.strategyConflicts =
      [(false, .strategy "range"), (false, .strategy "roundrobin"),
        (false, .strategies "range,roundrobin")] := by
  have names : splitNames "range,roundrobin".toList = ["range", "roundrobin"] := by decide +kernel
  rw [strategyConflicts, strategies, unset, Option.getD_none, names]
  rfl

/-- The settings of a member of a group that begins with the first record. -/
def ofReader (servers group : String) : ClientConfig := ⟨.ofList
  [("auto.offset.reset", .name "earliest"), ("metadata.broker.list", .text (some servers)),
    ("enable.auto.commit", .truth false), ("enable.partition.eof", .truth false),
    ("group.id", .text (some group))]⟩

section

variable (servers group : String)

theorem find?_ofReader (name : String) :
    (ofReader servers group).values.find? name =
      if name = "group.id" then some (.text (some group))
      else if name = "enable.partition.eof" then some (.truth false)
      else if name = "enable.auto.commit" then some (.truth false)
      else if name = "metadata.broker.list" then some (.text (some servers))
      else if name = "auto.offset.reset" then some (.name "earliest")
      else none := by
  simp only [ofReader, Table.ofList, List.foldl_cons, List.foldl_nil, Table.find?_insert,
    beq_iff_eq]
  rfl

theorem servers?_ofReader : (ofReader servers group).servers? = some servers := by
  simp [servers?, text?, find?, find?_ofReader]

theorem group_ofReader : (ofReader servers group).group = group := by
  simp [ClientConfig.group, text?, find?, find?_ofReader]

theorem fromBegin_ofReader : (ofReader servers group).fromBegin = true := by
  simp [fromBegin, name?, find?, find?_ofReader]

theorem conflicts_ofReader : ((ofReader servers group).conflicts .consumer).find? (·.1) = none := by
  have unset : (ofReader servers group).text? "partition.assignment.strategy" = none := by
    simp [text?, find?, find?_ofReader]
  simp [conflicts, strategyConflicts_of_unset unset, consumerConflicts, reconnectConflict,
    proofConflicts, integer, isSet, name?, text?, find?, find?_ofReader, fetchLimit, messageLimit,
    Table.contains, serverDecisions]

end

/-- What a draft sets by itself. -/
def readerSettings (brokers group : String) : Settings := .ofList
  [(serversKey, brokers), ("group.id", group), ("auto.offset.reset", OffsetReset.earliest.text),
    ("enable.partition.eof", "false"), ("enable.auto.commit", "false")]

theorem entries_readerSettings (brokers group : String) : (readerSettings brokers group).entries =
    [("auto.offset.reset", "earliest"), ("bootstrap.servers", brokers),
      ("enable.auto.commit", "false"), ("enable.partition.eof", "false"), ("group.id", group)] := by
  have c1 : compare "group.id" "bootstrap.servers" = .gt := by decide +kernel
  have c2 : compare "auto.offset.reset" "bootstrap.servers" = .lt := by decide +kernel
  have c3 : compare "enable.partition.eof" "auto.offset.reset" = .gt := by decide +kernel
  have c4 : compare "enable.partition.eof" "bootstrap.servers" = .gt := by decide +kernel
  have c5 : compare "enable.partition.eof" "group.id" = .lt := by decide +kernel
  have c6 : compare "enable.auto.commit" "auto.offset.reset" = .gt := by decide +kernel
  have c7 : compare "enable.auto.commit" "bootstrap.servers" = .gt := by decide +kernel
  have c8 : compare "enable.auto.commit" "enable.partition.eof" = .lt := by decide +kernel
  simp only [readerSettings, Table.ofList, Table.insert, Table.insertEntry, Table.empty, serversKey,
    OffsetReset.text, List.foldl_cons, List.foldl_nil, c1, c2, c3, c4, c5, c6, c7, c8]

theorem ofSettings_readerSettings {brokers group : String} (cleanServers : hasZero brokers = false)
    (cleanGroup : hasZero group = false) (servers : brokers ≠ "") (named : group ≠ "") :
    ofSettings (readerSettings brokers group) =
      .ok (ofReader (stripped brokers) (stripped group)) := by
  have begins (config : ClientConfig) : config.add "auto.offset.reset" "earliest" =
      .ok ⟨config.values.insert "auto.offset.reset" (.name "earliest")⟩ :=
    add_of_read ⟨"auto.offset.reset",
        .name (["smallest", "earliest", "beginning", "largest", "latest", "end",
          "error"].map Property.known)⟩
      (by decide) (by decide) (by decide +kernel) (by decide +kernel)
  have quiet (config : ClientConfig) : config.add "enable.auto.commit" "false" =
      .ok ⟨config.values.insert "enable.auto.commit" (.truth false)⟩ :=
    add_of_read ⟨"enable.auto.commit", .truth⟩ (by decide) (by decide) (by decide +kernel)
      (by decide +kernel)
  have endless (config : ClientConfig) : config.add "enable.partition.eof" "false" =
      .ok ⟨config.values.insert "enable.partition.eof" (.truth false)⟩ :=
    add_of_read ⟨"enable.partition.eof", .truth⟩ (by decide) (by decide) (by decide +kernel)
      (by decide +kernel)
  have connects (config : ClientConfig) : config.add "bootstrap.servers" brokers =
      .ok ⟨config.values.insert "metadata.broker.list" (.text (some (stripped brokers)))⟩ :=
    add_of_read ⟨"metadata.broker.list", .text .any⟩ (by decide) cleanServers (by decide +kernel)
      (read_text servers)
  have joins (config : ClientConfig) : config.add "group.id" group =
      .ok ⟨config.values.insert "group.id" (.text (some (stripped group)))⟩ :=
    add_of_read ⟨"group.id", .text .any⟩ (by decide) cleanGroup (by decide +kernel)
    (read_text named)
  -- The settings are added in the order of their names.
  rw [ofSettings, entries_readerSettings]
  simp only [List.foldlM_cons, List.foldlM_nil, begins, quiet, endless, connects, joins, bind,
    Except.bind]
  rfl

end ClientConfig

/-- Servers and a group that can be set, the group with something other than blanks in it. -/
structure Joinable (brokers group : String) : Prop where
  servers : Text.blank brokers = false
  named : stripped group ≠ ""
  clean : hasZero brokers = false ∧ hasZero group = false

/-- A consumer of one topic in a group, from the first record on. -/
def Consumer.reader {κ α : Type} (brokers group topic : String) (key : Codec κ) (value : Codec α) :
    Consumer κ α :=
  ⟨.ofReader (stripped brokers) (stripped group), [topic], key, value⟩

namespace ConsumerDraft

variable {κ α : Type} (key : Codec κ) (value : Codec α) {brokers group topic : String}

theorem build_reader (joinable : Joinable brokers group) (usable : Subscription.isUsable topic)
    (chance : String) :
    (ConsumerDraft.mk (some brokers) [topic] (some group) .earliest .empty).build chance key value =
      .ok (Consumer.reader brokers group topic key value) := by
  have present : brokers ≠ "" := by
    rintro rfl
    exact absurd joinable.servers (by decide)
  have named : group ≠ "" := by
    rintro rfl
    exact absurd rfl joinable.named
  have valid : Subscription.isValid [topic] = true := by
    simpa [Subscription.isValid] using usable
  have config : ClientConfig.forRole .consumer (ClientConfig.readerSettings brokers group) =
      .ok (.ofReader (stripped brokers) (stripped group)) := by
    simp only [ClientConfig.forRole, ClientConfig.conflicts_ofReader, bind, Except.bind, pure,
      Except.pure,
      ClientConfig.ofSettings_readerSettings joinable.clean.1 joinable.clean.2 present named]
  have own : (ClientConfig.readerSettings brokers group).extend .empty =
      ClientConfig.readerSettings brokers group := rfl
  have queue : (ClientConfig.ofReader (stripped brokers) (stripped group)).group ≠ "" := by
    rw [ClientConfig.group_ofReader]
    exact joinable.named
  rw [ClientConfig.readerSettings] at own config
  unfold build
  simp only [usableServers, joinable.servers, own, config, queue, valid, Option.getD_some,
    Except.mapError, bind, Except.bind, pure, Except.pure, List.cons_ne_nil, Bool.false_eq_true,
    Bool.not_true, if_false]
  rfl

end ConsumerDraft

namespace Cluster

variable (cluster : Cluster) (group : String) (part : TopicPartition)

/-- The partitions of all topics that a subscription is for. -/
def partitionsFor (listed : String) : List TopicPartition :=
  (Subscription.topicsAmong cluster.topics.keys [listed]).flatMap cluster.partitions

theorem partitionsFor_of_plain {topic : String} (plain : Subscription.isPattern topic = false) :
    cluster.partitionsFor topic = cluster.partitions topic := by
  have wanted {other : String} : other ∈ Subscription.topicsAmong cluster.topics.keys [topic] ↔
      other ∈ cluster.topics.keys ∧ topic = other := by
    simp [Subscription.topicsAmong, Subscription.isFor, plain, List.mem_eraseDups]
  -- The only topic that the subscription can be for is the one of that name.
  rw [partitionsFor]
  cases found : cluster.topics.find? topic with
  | none =>
    have absent : Subscription.topicsAmong cluster.topics.keys [topic] = [] := by
      refine List.eq_nil_iff_forall_not_mem.mpr fun other member => ?_
      obtain ⟨there, rfl⟩ := wanted.mp member
      obtain ⟨logs, held⟩ := Table.mem_keys_iff.mp there
      rw [found] at held
      cases held
    rw [absent, partitions, found]
    rfl
  | some logs =>
    have there : topic ∈ cluster.topics.keys := Table.mem_keys_iff.mpr ⟨logs, found⟩
    have only : Subscription.topicsAmong cluster.topics.keys [topic] = [topic] := by
      refine List.perm_singleton.mp
        ((List.perm_ext_iff_of_nodup (nodup_eraseDups _) (by simp)).mpr fun other => ?_)
      rw [← Subscription.topicsAmong, wanted, List.mem_singleton]
      exact ⟨fun both => both.2.symm, fun same => ⟨same ▸ there, same.symm⟩⟩
    rw [only, List.flatMap_singleton]

/-- Where a group goes on in a partition, if it begins with the first record. -/
def resume : Int64 := (cluster.committed group part).getD 0

/-- The records that a group has not read. -/
def unreadBy : List RawRecord := Consumer.unreadIn cluster part (cluster.resume group part)

variable {cluster}

theorem unreadIn_of_topics {other : Cluster} (same : other.topics = cluster.topics)
    (position : Int64) :
    Consumer.unreadIn other part position = Consumer.unreadIn cluster part position := by
  simp only [Consumer.unreadIn, log, same]

theorem partitionsFor_of_topics {other : Cluster} (same : other.topics = cluster.topics)
    (listed : String) :
    other.partitionsFor listed = cluster.partitionsFor listed := by
  have partitions : other.partitions = cluster.partitions := by
    funext topic
    simp only [Cluster.partitions, same]
  rw [partitionsFor, partitionsFor, same, partitions]

theorem Fits.of_topics (fits : cluster.Fits) {other : Cluster}
    (same : other.topics = cluster.topics) :
    other.Fits := by
  rw [Fits, same]
  exact fits

end Cluster

namespace Consumer

variable {κ α : Type}

/-- Every partition that a consumer is given begins where its group goes on. -/
theorem find?_assign_fresh (consumer : Consumer κ α) {cluster : Cluster} {part : TopicPartition}
    (member : part ∈ consumer.partitions cluster) :
    (consumer.assign cluster .fresh).positions.find? part = some (consumer.start cluster part) := by
  have placed (parts : List TopicPartition) (positions : Offsets) :
      (parts.foldl (fun positions part => if positions.contains part then positions
        else positions.insert part (consumer.start cluster part)) positions).find? part =
      (positions.find? part).or
        (if part ∈ parts then some (consumer.start cluster part) else none) := by
    -- A partition that has a position keeps it.
    induction parts generalizing positions with
    | nil => simp
    | cons first rest ih =>
      rw [List.foldl_cons, ih]
      split
      next known =>
        by_cases here : part = first
        · subst here
          rw [Table.contains, Option.isSome_iff_exists] at known
          obtain ⟨offset, found⟩ := known
          simp [found]
        · simp [here]
      next unknown =>
        by_cases here : part = first
        · subst here
          simp only [Table.contains, Bool.not_eq_true, Option.isSome_eq_false_iff,
            Option.isNone_iff_eq_none] at unknown
          simp [Table.find?_insert, unknown]
        · simp [Table.find?_insert, here]
  rw [assign, placed, if_pos member]
  rfl

/-- What waits for a consumer that begins is what its partitions hold from where its group goes
on. -/
theorem brings_fresh {consumer : Consumer κ α} {cluster : Cluster}
    (reaches : consumer.Reaches cluster) (fits : cluster.Fits) :
    Brings cluster (consumer.partitions cluster) (consumer.start cluster)
      (consumer.inbox cluster (consumer.assign cluster .fresh)) := by
  have brings := brings_inbox reaches fits (consumer.assign cluster .fresh)
  refine ⟨brings.placed, fun part member => ?_⟩
  rw [brings.ordered part member, consumer.find?_assign_fresh member, Option.getD_some]

variable (key : Codec κ) (value : Codec α) (brokers group topic : String)

theorem reader_reaches_iff (cluster : Cluster) :
    (reader brokers group topic key value).Reaches cluster ↔ cluster.reachedBy brokers := by
  rw [Reaches, reader, ClientConfig.servers?_ofReader, Option.any_some, Cluster.reachedBy,
    Text.listed_stripped, Cluster.reachedBy]

theorem group_reader : (reader brokers group topic key value).group = stripped group :=
  ClientConfig.group_ofReader _ _

/-- A reader begins where its group is, and a group without an offset at the first record. -/
theorem start_reader (cluster : Cluster) :
    (reader brokers group topic key value).start cluster = cluster.resume (stripped group) := by
  funext part
  rw [start, group_reader, Cluster.resume]
  cases cluster.committed (stripped group) part with
  | none => simp only [reader, ClientConfig.fromBegin_ofReader, if_true, Option.getD_none]
  | some offset => rfl

end Consumer

end Conduit
