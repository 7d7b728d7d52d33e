import Conduit.Broker.Cluster
import Conduit.Fault

/-!
# Administration of topics

Creating a topic that is there and deleting a group that is not are no failures; every other
refusal is reported with the cluster's answer. Names that begin with two underscores are the
cluster's own: they are not listed, and a topic counts as there if it is listed.
-/
namespace Conduit

/-- An action on a cluster that may fail. -/
abbrev Dialogue (α : Type) := ExceptT Fault (StateM Cluster) α

structure TopicAdmin where
  brokers : String

namespace TopicAdmin

/-- The answer to a topic that is there already. -/
def topicExists : Nat := 36

/-- The answer to a group that is not there. -/
def groupMissing : Nat := 69

def connect (brokers : String) : Except Fault TopicAdmin :=
  if Text.blank brokers then .error (.config .brokers)
  else if hasZero brokers then .error (.adminClient .zero)
  else .ok ⟨brokers⟩

/-- Asks for a change and takes one refusal for a success. -/
def request (admin : TopicAdmin) (action : AdminAction) (change : Change) (accepted : Option Nat) :
    Dialogue Unit := do
  if hasZero change.name then
    throw (.request .zero)
  let cluster ← get
  if !cluster.reachedBy admin.brokers then
    throw (.request (.administration .timedOut))
  let (code, next) := cluster.answer change
  set next
  if code ≠ 0 ∧ some code ≠ accepted then
    throw (.admin action change.name code)

/-- Why a topic is not asked for at all. -/
def unaskable (partitions replication : Int32) : Option NewTopicFault :=
  if partitions < -1 ∨ partitionLimit < partitions.toInt.toNat then some .partitions
  else if replication < -1 ∨ replicationLimit < replication.toInt.toNat then some .replication
  else none

def create (admin : TopicAdmin) (topic : String) (partitions replication : Int32) : Dialogue Unit :=
  match if hasZero topic then none else unaskable partitions replication with
  | some cause => throw (.request (.newTopic cause))
  | none =>
    admin.request .createTopic (.createTopic topic partitions replication) (some topicExists)

def delete (admin : TopicAdmin) (topic : String) : Dialogue Unit :=
  admin.request .deleteTopic (.deleteTopic topic) none

def deleteGroup (admin : TopicAdmin) (group : String) : Dialogue Unit :=
  admin.request .deleteGroup (.deleteGroup group) (some groupMissing)

/-- The topics that are not the cluster's own, in order. -/
def list (admin : TopicAdmin) : Dialogue (List String) := do
  let cluster ← get
  if !cluster.reachedBy admin.brokers then
    throw (.request (.metadata .transport))
  return cluster.topics.keys.filter fun name => !"__".isPrefixOf name

def exists? (admin : TopicAdmin) (topic : String) : Dialogue Bool := do
  return (← admin.list).contains topic

end TopicAdmin

end Conduit
