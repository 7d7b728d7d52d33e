import Conduit.Broker.Consumer
import Conduit.Stream.Loop

/-!
# Starting a stream

A stream is started on a cluster: its serdes are configured first, then the progress of earlier
runs is forgotten if that is wanted, and then it is connected as the consumer group of its
application. A failure on the way leaves the stream unstarted. A batch is what a poll of half a
second brings, up to a limit; a run that has only so much time breaks off the poll that would take
longer, and what that poll had taken is read again by the next run.
-/
namespace Conduit

open Text.Utf8

/-- What a started stream works on. -/
structure Link where
  cluster : Cluster
  standing : Standing
  /-- The time that has gone by in polls. -/
  elapsed : Nat

/-- What became of a stream: the fault that kept it from starting, or its run. -/
structure Launch (κ α : Type) where
  events : List (StreamEvent κ α)
  cluster : Cluster
  run : Except StreamFault (Run κ α Link Ending)

/-- Whether a stream was stopped before it had consumed so many records. -/
def Launch.wants {κ α : Type} (launch : Launch κ α) (consumed : Nat) : Bool :=
  match launch.run with
  | .ok ⟨_, progress, _, .stopped _⟩ => progress.stats.consumed.toNat < consumed
  | _ => false

namespace RecordStream

/-- How long a batch is waited for. -/
def batchTime : Duration := .ofMillis 500

/-- The most records in a batch. -/
def batchLimit : Nat := 500

variable {κ α : Type} (stream : RecordStream κ α)

def connect : Dialogue (Consumer Bytes Bytes × Producer Bytes Bytes) := do
  let config := stream.plan.config
  if config.cleanStart then
    let admin ← (TopicAdmin.connect config.bootstrapServers : Except Fault TopicAdmin)
    admin.deleteGroup config.appId
  let consumer ← ((ConsumerDraft.ofSettings [.connection config.bootstrapServers,
    .topic config.fromTopic, .group config.appId, .fromBegin]).build config.appId .bytes .bytes :
    Except Fault (Consumer Bytes Bytes))
  let producer ← ((ProducerDraft.ofSettings [.connection config.bootstrapServers,
    .option "client.id" config.appId]).build .bytes .bytes : Except Fault (Producer Bytes Bytes))
  return (consumer, producer)

/-- Reads from a consumer and writes to a producer, for so long at most. -/
def transport (consumer : Consumer Bytes Bytes) (producer : Producer Bytes Bytes)
    (limit : Option Nat) :
    Transport Link where
  next link :=
    let (records, left, standing) :=
      consumer.read link.cluster batchTime.nanos batchLimit link.standing
    let elapsed := link.elapsed + (batchTime.nanos - left)
    if limit.any (· < elapsed) then (.ok [], { link with elapsed })
    else (records.mapError .broker, { link with standing, elapsed })
  send topic output link :=
    let outgoing : Outgoing Bytes Bytes := ⟨output.key, output.value, none, output.timestamp, []⟩
    let (receipt, cluster) := (producer.send topic outgoing).run link.cluster
    ((receipt.map fun _ => ()).mapError .broker, { link with cluster })
  commit batch link :=
    let (cluster, standing) := consumer.commitRecords batch link.cluster link.standing
    (.ok (), { link with cluster, standing })
  flush link := (.ok (), link)

/-- Starts the stream and runs it for so many looks at its source and so long at most. -/
def launch (looks : Nat) (limit : Option Nat) (cluster : Cluster) : Launch κ α :=
  let (connected, reached) := stream.connect.run cluster
  match connected with
  | .error fault => ⟨stream.configure, reached, .error (.broker fault)⟩
  | .ok (consumer, producer) =>
    let run := stream.run (transport consumer producer limit) looks ⟨reached, .fresh, 0⟩
    ⟨run.events, run.state.cluster, .ok run⟩

/-- The looks that suffice to see every record that is there and to let the time go by. -/
def looksFor (limit : Option Nat) (cluster : Cluster) : Nat :=
  let parts := cluster.partitions stream.plan.config.fromTopic
  let records := parts.foldl (fun count part => count + (cluster.log part).length) 0
  match limit with
  | some 0 => 0
  | some limit => records + limit / batchTime.nanos + 1
  | none => records + 1

/-- Starts the stream and runs it until it has consumed so many records, for `looks` looks at least
and `more` looks longer at most. -/
def launchUntil (consumed : Nat) (cluster : Cluster) (looks : Nat) : Nat → Launch κ α
  | 0 => stream.launch looks none cluster
  | more + 1 =>
    let launch := stream.launch looks none cluster
    if launch.wants consumed then launchUntil consumed cluster (looks + 1) more else launch

end RecordStream

end Conduit
