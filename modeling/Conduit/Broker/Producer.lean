import Conduit.Broker.Admin

/-!
# Producing records

A producer writes keys and values with its codecs and has each record stored before it goes on. A
record may name its partition and its time; otherwise the key decides the partition and the cluster
stamps the record when it stores it. Time zero counts as none. Without acknowledgements the
producer does not learn the offset. A record has to fit the greatest size of a message, frame
included, and one that is part of a transaction cannot be sent without it.
-/
namespace Conduit

open Text.Utf8

inductive Acks where
  | none
  | one
  | all
deriving DecidableEq, Repr

/-- How an acknowledgement level is written among the settings of a client. -/
def Acks.text : Acks → String
  | none => "0"
  | one => "1"
  | all => "all"

/-- One setting of a producer. -/
inductive ProducerSetting where
  | connection (brokers : String)
  | acks (acks : Acks)
  | option (key value : String)

instance : Json.Readable Acks := ⟨Json.oneOf [("none", .none), ("one", .one), ("all", .all)]⟩

open Json.Arguments (one two) in
instance : Json.Readable ProducerSetting := ⟨Json.call
  [("connection_props", one .connection), ("acks", one .acks), ("option", two .option)]⟩

structure ProducerDraft where
  connection : Option String
  acks : Acks
  options : Settings

structure Producer (κ α : Type) where
  config : ClientConfig
  key : Codec κ
  value : Codec α

/-- A record on its way out. -/
structure Outgoing (κ α : Type) where
  key : Option κ
  value : Option α
  partition : Option Int32
  timestamp : Option Int64
  headers : List (String × Bytes)

/-- Where a record landed. -/
structure Receipt where
  topic : String
  partition : Int32
  offset : Int64
deriving DecidableEq, Repr

def serversKey : String := "bootstrap.servers"

/-- The servers to connect to, if they are given and not blank. -/
def usableServers (connection : Option String) : Except Fault String :=
  match connection with
  | some brokers => if Text.blank brokers then .error (.config .connection) else .ok brokers
  | none => .error (.config .connection)

namespace ProducerDraft

def fresh : ProducerDraft := ⟨none, .all, .empty⟩

def apply (draft : ProducerDraft) : ProducerSetting → ProducerDraft
  | .connection brokers => { draft with connection := some brokers }
  | .acks acks => { draft with acks }
  | .option key value => { draft with options := draft.options.insert key value }

def ofSettings (settings : List ProducerSetting) : ProducerDraft := settings.foldl apply fresh

def build {κ α : Type} (draft : ProducerDraft) (key : Codec κ) (value : Codec α) :
    Except Fault (Producer κ α) := do
  let brokers ← usableServers draft.connection
  let own : Settings := .ofList
    [(serversKey, brokers), ("acks", draft.acks.text), ("message.timeout.ms", "30000")]
  let config ← (ClientConfig.forRole .producer (own.extend draft.options)).mapError .producer
  return ⟨config, key, value⟩

end ProducerDraft

namespace Producer

variable {κ α : Type}

/-- The longest name of a topic in bytes. -/
def topicLimit : Nat := 512

/-- The offset of a record that was not acknowledged. -/
def unknownOffset : Int64 := -1001

/-- What a message takes beside its key, its value and its headers, at most. -/
def frameSize : Nat := 36

/-- The bytes that the length of something takes, seven bits in each and one of them for the
sign. -/
def lengthSize (n : Nat) : Nat := (2 * n).log2 / 7 + 1

/-- The bytes of a message. -/
def messageSize (key value : Option Bytes) (headers : List (String × Bytes)) : Nat :=
  headers.foldl (fun size (name, content) =>
      size + lengthSize name.utf8ByteSize + name.utf8ByteSize + lengthSize content.length +
        content.length)
    (frameSize + (key.getD []).length + (value.getD []).length)

/-- The partition of a record, if there is such a partition; -1 leaves it to the key. -/
def place (partitioner : Partitioner) (asked : Option Int32) (key : Option Bytes) (count : Nat) :
    Option Nat :=
  match asked.filter (· ≠ -1) with
  | none => if count = 0 then none else some (partitioner.partitionFor key count)
  | some index => if 0 ≤ index ∧ index.toInt.toNat < count then some index.toInt.toNat else none

/-- The time of a record: its own, or the time of storing. -/
def stamp (cluster : Cluster) (time : Option Int64) : Int64 :=
  (time.filter (· ≠ 0)).getD cluster.clock

def send (producer : Producer κ α) (topic : String) (outgoing : Outgoing κ α) :
    Dialogue Receipt := do
  let key := outgoing.key.map producer.key.encode
  let value := outgoing.value.map producer.value.encode
  if producer.config.isTransactional then
    throw (.request (.production .outOfTurn))
  if topicLimit < topic.utf8ByteSize then
    throw (.request (.production .invalidArgument))
  if producer.config.messageLimit < messageSize key value outgoing.headers then
    throw (.request (.production .messageTooLarge))
  let found ← get
  if !found.reachedBy (producer.config.servers?.getD "") then
    throw (.request (.production .messageTimedOut))
  let cluster := found.withTopic topic
  let count := (cluster.partitions topic).length
  match place producer.config.partitioner outgoing.partition key count with
  | none => throw (.request (.production .unknownPartition))
  | some index =>
    let part : TopicPartition := ⟨topic, Int32.ofNat index⟩
    let offset := (cluster.log part).length
    set (cluster.append part ⟨stamp cluster outgoing.timestamp, key, value, outgoing.headers⟩)
    return ⟨topic, part.index,
      if producer.config.acknowledges then Int64.ofNat offset else unknownOffset⟩

end Producer

end Conduit
