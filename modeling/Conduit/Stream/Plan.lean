import Conduit.Data.Table
import Conduit.Fault
import Conduit.Stream.Extractor

/-!
# Planning a stream

A plan names the brokers, the source and the destination topic with the serdes of each, and how
outputs are stamped. Serdes are taken as they are, so a plan can be made over any kind of them. A
topic set without serdes takes the default ones of that moment; a source with serdes of its own
makes these the default and hands them to a destination that is already set, so the two ends of a
plan never hold serdes of different kinds by accident.
-/
namespace Conduit

/-- One setting of a plan. -/
inductive StreamSetting (ς : Type) where
  | bootstrapServers (servers : String)
  | appId (appId : String)
  | fromTopic (topic : String)
  | fromTopicWith (topic : String) (serdes : ς)
  | toTopic (topic : String)
  | toTopicWith (topic : String) (serdes : ς)
  | cleanStart
  | extractor (extractor : Extractor)

structure StreamConfig where
  bootstrapServers : String
  appId : String
  fromTopic : String
  toTopic : String
  cleanStart : Bool
deriving DecidableEq, Repr

namespace StreamConfig

/-- The settings that every serde is configured with. -/
def settings (config : StreamConfig) : Settings :=
  .ofList [("bootstrap.servers", config.bootstrapServers), ("application.id", config.appId),
    ("from.topic", config.fromTopic), ("to.topic", config.toTopic)]

open Json.Writable (write) in
instance : Json.Writable StreamConfig := ⟨fun config => .ofMembers
  [("bootstrap_servers", write config.bootstrapServers), ("app_id", write config.appId),
    ("from_topic", write config.fromTopic), ("to_topic", write config.toTopic),
    ("clean_start", write config.cleanStart)]⟩

end StreamConfig

structure StreamPlan (ς : Type) where
  config : StreamConfig
  consumed : ς
  produced : ς
  extractor : Extractor

structure StreamDraft (ς : Type) where
  serdes : ς
  bootstrapServers : Option String
  appId : Option String
  fromTopic : Option (String × ς)
  toTopic : Option (String × ς)
  cleanStart : Bool
  extractor : Option Extractor

namespace StreamDraft

variable {ς : Type}

/-- What the id of an application without one ends with. -/
def appIdEnding : String := "-streamApp"

def fresh (serdes : ς) : StreamDraft ς := ⟨serdes, none, none, none, none, false, none⟩

def apply (draft : StreamDraft ς) : StreamSetting ς → StreamDraft ς
  | .bootstrapServers servers => { draft with bootstrapServers := some servers }
  | .appId appId => { draft with appId := some appId }
  | .fromTopic topic => { draft with fromTopic := some (topic, draft.serdes) }
  | .fromTopicWith topic serdes =>
    { draft with
      serdes := serdes
      fromTopic := some (topic, serdes)
      toTopic := draft.toTopic.map fun destination => (destination.1, serdes) }
  | .toTopic topic => { draft with toTopic := some (topic, draft.serdes) }
  | .toTopicWith topic serdes => { draft with toTopic := some (topic, serdes) }
  | .cleanStart => { draft with cleanStart := true }
  | .extractor extractor => { draft with extractor := some extractor }

def ofSettings (serdes : ς) (settings : List (StreamSetting ς)) : StreamDraft ς :=
  settings.foldl apply (fresh serdes)

/-- The plan; `chance` begins the id of an application without one. -/
def build (draft : StreamDraft ς) (chance : String) : Except StreamFault (StreamPlan ς) :=
  match draft.bootstrapServers, draft.fromTopic, draft.toTopic with
  | none, _, _ => .error (.missing .bootstrapServers)
  | some _, none, _ => .error (.missing .fromTopic)
  | some _, some _, none => .error (.missing .toTopic)
  | some servers, some (source, consumed), some (destination, produced) =>
    .ok {
      config :=
        ⟨servers, draft.appId.getD (chance ++ appIdEnding), source, destination, draft.cleanStart⟩
      consumed
      produced
      extractor := draft.extractor.getD .record }

end StreamDraft

def StreamPlan.map {ς τ : Type} (f : ς → τ) (plan : StreamPlan ς) : StreamPlan τ :=
  { plan with consumed := f plan.consumed, produced := f plan.produced }

end Conduit
