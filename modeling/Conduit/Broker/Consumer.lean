import Conduit.Broker.Producer
import Conduit.Broker.Subscription
import Conduit.Connect.Record

/-!
# Consuming records

A consumer reads the topics it subscribed to as a member of a group. It goes on where the group
committed last, or else at one end of the log. What the cluster hands it waits in an inbox; a poll
takes from there until it has as many records as it wants or its time is up. A record that cannot
be decoded makes its poll fail, and the records that the poll had taken before are gone with it.
Committing records sets the offset of each of their partitions just past the highest of them.
-/
namespace Conduit

open Text.Utf8

/-- Where to begin without a committed offset. -/
inductive OffsetReset where
  | earliest
  | latest
deriving DecidableEq, Repr

def OffsetReset.text : OffsetReset → String
  | earliest => "earliest"
  | latest => "latest"

/-- One setting of a consumer. -/
inductive ConsumerSetting where
  | connection (brokers : String)
  | topic (topic : String)
  | topics (topics : List String)
  | group (group : String)
  | fromBegin
  | afterLatest
  | option (key value : String)

open Json.Arguments (zero one two) in
instance : Json.Readable ConsumerSetting := ⟨Json.call
  [("connection_props", one .connection), ("topic_name", one .topic), ("topic_names", one .topics),
    ("group_id", one .group), ("offset_from_begin", zero .fromBegin),
    ("offset_after_latest", zero .afterLatest),
    ("option", two .option)]⟩

structure ConsumerDraft where
  connection : Option String
  topics : List String
  group : Option String
  reset : OffsetReset
  options : Settings

structure Consumer (κ α : Type) where
  config : ClientConfig
  topics : List String
  key : Codec κ
  value : Codec α

/-- What the cluster hands over next, and how long after the last time. -/
structure Arrival where
  wait : Nat
  content : Except LocalFault RawRecord

/-- What a poll comes to, what is left in the inbox, and how much of its time is left. -/
structure Polled (κ α : Type) where
  result : Except Fault (List (Record κ α))
  inbox : List Arrival
  left : Nat

/-- How far a consumer is: where it reads on, the offsets behind what it received, and those that it
has committed. -/
structure Standing where
  positions : Offsets
  received : Offsets
  committed : Offsets

namespace ConsumerDraft

def fresh : ConsumerDraft := ⟨none, [], none, .latest, .empty⟩

def apply (draft : ConsumerDraft) : ConsumerSetting → ConsumerDraft
  | .connection brokers => { draft with connection := some brokers }
  | .topic topic => { draft with topics := [topic] }
  | .topics topics => { draft with topics }
  | .group group => { draft with group := some group }
  | .fromBegin => { draft with reset := .earliest }
  | .afterLatest => { draft with reset := .latest }
  | .option key value => { draft with options := draft.options.insert key value }

def ofSettings (settings : List ConsumerSetting) : ConsumerDraft := settings.foldl apply fresh

/-- The consumer; `chance` is the group of a consumer without one. -/
def build {κ α : Type} (draft : ConsumerDraft) (chance : String) (key : Codec κ) (value : Codec α) :
    Except Fault (Consumer κ α) := do
  let brokers ← usableServers draft.connection
  if draft.topics = [] then
    throw (.config .subscription)
  let own : Settings := .ofList
    [(serversKey, brokers), ("group.id", draft.group.getD chance),
      ("auto.offset.reset", draft.reset.text), ("enable.partition.eof", "false"),
      ("enable.auto.commit", "false")]
  let config ← (ClientConfig.forRole .consumer (own.extend draft.options)).mapError fun cause =>
    .consumer (.create cause)
  if config.group = "" then
    throw (.consumer (.create (.conflict .consumerQueue)))
  if !Subscription.isValid draft.topics then
    throw (.consumer (.subscribe .invalidArgument))
  return ⟨config, draft.topics, key, value⟩

end ConsumerDraft

namespace Standing

def fresh : Standing := ⟨.empty, .empty, .empty⟩

end Standing

/-- The highest offset of the records in each partition. -/
def highestOffsets {κ α : Type} (records : List (Record κ α)) : Offsets :=
  records.foldl (fun highest record =>
    let part : TopicPartition := ⟨record.topic, record.partition⟩
    highest.insert part (match highest.find? part with
      | some offset => max offset record.offset
      | none => record.offset)) .empty

/-- The offset to commit for each partition of the records: just past its highest record. -/
def offsetsPast {κ α : Type} (records : List (Record κ α)) : Offsets :=
  (highestOffsets records).map (· + 1)

namespace Consumer

variable {κ α : Type} (consumer : Consumer κ α)

def group : String := consumer.config.group

/-- Decodes a record, key first. -/
def decode (raw : RawRecord) : Except Fault (Record κ α) := do
  let key ← (raw.key.mapM consumer.key.decode).mapError .serialization
  let value ← (raw.value.mapM consumer.value.decode).mapError .serialization
  return ⟨raw.topic, raw.partition, raw.offset, raw.timestamp, key, value, raw.headers⟩

/-- Takes so many records at most from the inbox within the time left. -/
def poll : Nat → Nat → List Arrival → Polled κ α
  | 0, left, inbox => ⟨.ok [], inbox, left⟩
  | _ + 1, 0, inbox => ⟨.ok [], inbox, 0⟩
  | _ + 1, _ + 1, [] => ⟨.ok [], [], 0⟩
  | wanted + 1, left + 1, arrival :: rest =>
    if left + 1 < arrival.wait then
      ⟨.ok [], ⟨arrival.wait - (left + 1), arrival.content⟩ :: rest, 0⟩
    else
      let remaining := left + 1 - arrival.wait
      match arrival.content with
      | .error cause => ⟨.error (.consumer (.receive cause)), rest, remaining⟩
      | .ok raw =>
        match consumer.decode raw with
        | .error fault => ⟨.error fault, rest, remaining⟩
        | .ok record =>
          let polled := poll wanted remaining rest
          { polled with result := polled.result.map (record :: ·) }

/-- Where the group goes on in a partition. -/
def start (cluster : Cluster) (part : TopicPartition) : Int64 :=
  match cluster.committed consumer.group part with
  | some offset => offset
  | none => if consumer.config.fromBegin then 0 else Int64.ofNat (cluster.log part).length

def partitions (cluster : Cluster) : List TopicPartition :=
  (Subscription.topicsAmong cluster.topics.keys consumer.topics).flatMap cluster.partitions

/-- Gives every partition that is new to the consumer its position. -/
def assign (cluster : Cluster) (standing : Standing) : Standing :=
  { standing with
    positions := (consumer.partitions cluster).foldl (fun positions part =>
      if positions.contains part then positions
      else positions.insert part (consumer.start cluster part)) standing.positions }

/-- A time of -1 stands for none. -/
def timeOf (stored : StoredRecord) : Option Int64 :=
  if stored.timestamp = -1 then none else some stored.timestamp

/-- The records of a partition from an offset on. -/
def unreadIn (cluster : Cluster) (part : TopicPartition) (position : Int64) : List RawRecord :=
  ((cluster.log part).zipIdx.drop position.toInt.toNat).map fun (stored, index) =>
    ⟨part.topic, part.index, Int64.ofNat index, timeOf stored, stored.key, stored.value,
      stored.headers⟩

/-- What waits for the consumer. -/
def inbox (cluster : Cluster) (standing : Standing) : List Arrival :=
  match consumer.config.servers? with
  | none => []
  | some servers =>
    if cluster.reachedBy servers then
      (consumer.partitions cluster).flatMap fun part =>
        (unreadIn cluster part ((standing.positions.find? part).getD 0)).map fun raw => ⟨0, .ok raw⟩
    else [⟨0, .error (if (Text.listed servers).isEmpty then .noBrokers else .transport)⟩]

/-- Notes what was taken from the inbox. -/
def advance (standing : Standing) (taken : List Arrival) : Standing :=
  let past := offsetsPast (taken.filterMap fun arrival => arrival.content.toOption)
  { standing with
    positions := standing.positions.extend past
    received := standing.received.extend past }

/-- Polls a cluster; the rest of the time is given along. -/
def read (cluster : Cluster) (time wanted : Nat) (standing : Standing) :
    Except Fault (List (Record κ α)) × Nat × Standing :=
  if time = 0 ∨ wanted = 0 then (.ok [], time, standing)
  else
    let assigned := consumer.assign cluster standing
    let waiting := consumer.inbox cluster assigned
    let polled := consumer.poll wanted time waiting
    (polled.result, polled.left,
      advance assigned (waiting.take (waiting.length - polled.inbox.length)))

/-- Commits records; none need no commit. -/
def commitRecords (records : List (Record κ α)) (cluster : Cluster) (standing : Standing) :
    Cluster × Standing :=
  if records.isEmpty then (cluster, standing)
  else
    let past := offsetsPast records
    (cluster.commit consumer.group past,
      { standing with committed := standing.committed.extend past })

/-- The offsets behind what was received that are ahead of what was committed. -/
def uncommitted (standing : Standing) : Offsets :=
  .ofList (standing.received.entries.filter fun entry =>
    match standing.committed.find? entry.1 with
    | some offset => offset < entry.2
    | none => true)

/-- Commits everything received, if anything of it is not committed. -/
def commit (cluster : Cluster) (standing : Standing) : Except Fault (Cluster × Standing) :=
  let offsets := uncommitted standing
  if offsets.entries.isEmpty then .error (.consumer (.commit .noOffset))
  else .ok (cluster.commit consumer.group offsets,
    { standing with committed := standing.committed.extend offsets })

end Consumer

end Conduit
