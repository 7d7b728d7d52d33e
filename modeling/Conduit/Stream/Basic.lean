import Conduit.Data.Traced
import Conduit.Stream.Plan
import Conduit.Stream.Serde
import Conduit.Stream.Step

/-!
# Streams

A stream takes each record of its source topic apart, passes it through its steps and puts what is
left together for its destination topic. What becomes of one record depends only on the record and
the time of its partition. The record counts for the time of its partition as soon as it is past
the steps, whether or not its key and value can then be written.
-/
namespace Conduit

open Text.Utf8

/-- The places where a stream has a serde. -/
inductive SerdeRole where
  | consumedKey
  | consumedValue
  | producedKey
  | producedValue
deriving DecidableEq, Repr

namespace SerdeRole

def all : List SerdeRole := [consumedKey, consumedValue, producedKey, producedValue]

def isKey : SerdeRole → Bool
  | consumedKey => true
  | consumedValue => false
  | producedKey => true
  | producedValue => false

end SerdeRole

/-- A record for the destination topic. -/
structure Output where
  key : Option Bytes
  value : Option Bytes
  timestamp : Option Int64
deriving DecidableEq, Repr

inductive StreamEvent (κ α : Type) where
  | serde (role : SerdeRole) (event : SerdeEvent)
  | observed (observation : Observation κ α)
  | sent (output : Output)
  | committed (batch : List RawRecord)
  | flushed

structure RecordStream (κ α : Type) where
  plan : StreamPlan (SerdePair κ α)
  steps : List (Step κ α)

structure StreamStats where
  consumed : UInt64
  produced : UInt64
  filtered : UInt64
deriving DecidableEq, Repr

open Json.Writable (write) in
instance : Json.Writable StreamStats := ⟨fun stats => .ofMembers
  [("consumed", write stats.consumed), ("produced", write stats.produced),
    ("filtered", write stats.filtered)]⟩

/-- How far a stream got: its counters and the highest time extracted in each partition. -/
structure Progress where
  stats : StreamStats
  times : Table Int32 Int64

/-- What becomes of one record: events, its time if it got past the steps, and an output unless it
is filtered out or fails. -/
structure Handling (κ α : Type) where
  events : List (StreamEvent κ α)
  time : Option Int64
  result : Except StreamFault (Option Output)

/-- An action of a stream on one record. -/
abbrev Act (κ α β : Type) := Traced (StreamEvent κ α) StreamFault β

namespace Progress

def fresh : Progress := ⟨⟨0, 0, 0⟩, .empty⟩

/-- The time of a partition, -1 before its first record. -/
def time (progress : Progress) (part : Int32) : Int64 := (progress.times.find? part).getD (-1)

def acknowledged (progress : Progress) : Progress :=
  { progress with stats := { progress.stats with produced := progress.stats.produced + 1 } }

/-- Counts a record in. -/
def after {κ α : Type} (progress : Progress) (part : Int32) (handling : Handling κ α) :
    Progress where
  stats := {
    progress.stats with
    consumed := progress.stats.consumed + 1
    filtered := match handling.result with
      | .ok none => progress.stats.filtered + 1
      | _ => progress.stats.filtered }
  times := match handling.time with
    | some time => progress.times.insert part (max (progress.time part) time)
    | none => progress.times

end Progress

namespace RecordStream

variable {κ α : Type} (stream : RecordStream κ α)

def configure : List (StreamEvent κ α) :=
  SerdeRole.all.flatMap fun role =>
    (Serde.configure stream.plan.config.settings role.isKey).map (.serde role)

def close : List (StreamEvent κ α) :=
  SerdeRole.all.flatMap fun role => Serde.close.map (.serde role)

/-- Reads a field that may be absent. -/
def readField {β : Type} (role : SerdeRole) (serde : Serde β) : Option Bytes → Act κ α (Option β)
  | none => pure none
  | some bytes => .ofExcept [.serde role (.used .deserializer)]
    ((serde.deserialize stream.plan.config.fromTopic bytes).map some)

/-- Writes a field that may be absent. -/
def writeField {β : Type} (role : SerdeRole) (serde : Serde β) : Option β → Act κ α (Option Bytes)
  | none => pure none
  | some value => .ofExcept [.serde role (.used .serializer)]
    ((serde.serialize stream.plan.config.toTopic value).map some)

/-- Reads a record, key first, and passes it through the steps. -/
def receive (record : RawRecord) : Act κ α (Option (Option κ × Option α)) := do
  let key ← stream.readField .consumedKey stream.plan.consumed.key record.key
  let value ← stream.readField .consumedValue stream.plan.consumed.value record.value
  let passage := Step.pass stream.steps key value
  .ofExcept (passage.observations.map .observed) (.ok passage.result)

/-- Writes an output, key first; a negative time is left out. -/
def emit (key : Option κ) (value : Option α) (time : Int64) : Act κ α Output := do
  let keyBytes ← stream.writeField .producedKey stream.plan.produced.key key
  let valueBytes ← stream.writeField .producedValue stream.plan.produced.value value
  return ⟨keyBytes, valueBytes, if 0 ≤ time then some time else none⟩

def handle (partitionTime : Int64) (record : RawRecord) : Handling κ α :=
  let received := stream.receive record
  match received.result with
  | .error fault => ⟨received.events, none, .error fault⟩
  | .ok none => ⟨received.events, none, .ok none⟩
  | .ok (some (key, value)) =>
    let time := stream.plan.extractor record partitionTime
    let emitted := stream.emit key value time
    ⟨received.events ++ emitted.events, some time, emitted.result.map some⟩

/-- Handles a record and counts it in. -/
def process (progress : Progress) (record : RawRecord) : Handling κ α × Progress :=
  let handling := stream.handle (progress.time record.partition) record
  (handling, progress.after record.partition handling)

end RecordStream

end Conduit
