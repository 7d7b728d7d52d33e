import Conduit.Broker.Partition
import Conduit.Json.Notation
import Conduit.Text.Blank

/-!
# Clusters

A cluster keeps the logs of its topics and, for every consumer group, the offset of each partition
up to which the group has committed. Records are only ever appended, so the offset of a record is
its place in the log for good. A cluster answers each change it is asked for with a code; zero
means that the change is made, and any other code that nothing changed. Answers for some names may
be fixed beforehand.
-/
namespace Conduit

open Text.Utf8

structure StoredRecord where
  timestamp : Int64
  key : Option Bytes
  value : Option Bytes
  headers : List (String × Bytes)

/-- A change that is asked of a cluster. -/
inductive Change where
  | createTopic (name : String) (partitions replication : Int32)
  | deleteTopic (name : String)
  | deleteGroup (name : String)

def Change.name : Change → String
  | createTopic name _ _ => name
  | deleteTopic name => name
  | deleteGroup name => name

open Json.Writable (write) in
instance : Json.Writable Change := ⟨fun
  | .createTopic name partitions replication =>
    .array [write "create", write name, write partitions, write replication]
  | .deleteTopic name => .array [write "delete", write name]
  | .deleteGroup name => .array [write "delete_group", write name]⟩

/-- The offset up to which each partition is read. -/
abbrev Offsets := Table TopicPartition Int64

structure Cluster where
  /-- The address by which clients find the cluster. -/
  address : String
  /-- The time of storing. -/
  clock : Int64
  topics : Table String (List (List StoredRecord))
  groups : Table String Offsets
  /-- The answers that are fixed, by the name in the change. -/
  answers : Table String Nat
  /-- The changes asked for, last first. -/
  asked : List Change

namespace Cluster

/-- The number of partitions of a topic that comes into being by being written to. -/
def defaultPartitions : Nat := 4

/-- Topics without records, each with so many partitions. -/
def emptyTopics (counts : Table String Nat) : Table String (List (List StoredRecord)) :=
  .ofList (counts.entries.map fun entry => (entry.1, List.replicate entry.2 []))

/-- A cluster without topics and groups, whose answers are not fixed. -/
def bare (address : String) (clock : Int64) : Cluster :=
  ⟨address, clock, .empty, .empty, .empty, []⟩

/-- Whether one of the servers listed is the cluster. -/
def reachedBy (cluster : Cluster) (servers : String) : Bool :=
  (Text.listed servers).contains cluster.address

/-- The records of a partition in order; one that does not exist has none. -/
def log (cluster : Cluster) (part : TopicPartition) : List StoredRecord :=
  if part.index < 0 then []
  else (((cluster.topics.find? part.topic).getD [])[part.index.toInt.toNat]?).getD []

/-- The partitions of a topic. -/
def partitions (cluster : Cluster) (topic : String) : List TopicPartition :=
  (List.range ((cluster.topics.find? topic).getD []).length).map fun index =>
    ⟨topic, Int32.ofNat index⟩

/-- Appends a record to a log. -/
def append (cluster : Cluster) (part : TopicPartition) (record : StoredRecord) : Cluster :=
  match cluster.topics.find? part.topic with
  | none => cluster
  | some logs =>
    { cluster with
      topics := cluster.topics.insert part.topic
        (logs.set part.index.toInt.toNat (cluster.log part ++ [record])) }

/-- The cluster with a topic, which is made if it does not exist. -/
def withTopic (cluster : Cluster) (topic : String) : Cluster :=
  if cluster.topics.contains topic then cluster
  else { cluster with topics := cluster.topics.insert topic (List.replicate defaultPartitions []) }

def committed (cluster : Cluster) (group : String) (part : TopicPartition) : Option Int64 :=
  ((cluster.groups.find? group).getD .empty).find? part

def commit (cluster : Cluster) (group : String) (offsets : Offsets) : Cluster :=
  { cluster with
    groups :=
      cluster.groups.insert group (((cluster.groups.find? group).getD .empty).extend offsets) }

/-- The code of a change whose answer is not fixed. -/
def judge (cluster : Cluster) : Change → Nat
  | .createTopic name partitions replication =>
    if cluster.topics.contains name then 36
    else if partitions < 1 then 37
    else if 1 < replication then 38
    else 0
  | .deleteTopic name => if cluster.topics.contains name then 0 else 3
  | .deleteGroup name => if cluster.groups.contains name then 0 else 69

def make (cluster : Cluster) : Change → Cluster
  | .createTopic name partitions _ =>
    { cluster with topics := cluster.topics.insert name (List.replicate partitions.toInt.toNat []) }
  | .deleteTopic name => { cluster with topics := cluster.topics.erase name }
  | .deleteGroup name => { cluster with groups := cluster.groups.erase name }

/-- Answers a change, and makes it if the answer is zero. -/
def answer (cluster : Cluster) (change : Change) : Nat × Cluster :=
  let code := (cluster.answers.find? change.name).getD (cluster.judge change)
  let noted := { cluster with asked := change :: cluster.asked }
  (code, if code = 0 then noted.make change else noted)

end Cluster

end Conduit
