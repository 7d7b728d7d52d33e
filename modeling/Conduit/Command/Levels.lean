import Conduit.Command.Basic
import Conduit.Command.Choice

/-!
# The command line

The levels of the command line with their options and defaults. The workers are given before the
command on connectors, the brokers before the command on topics; both may come from the
environment.
-/
namespace Conduit

namespace Command

variable {δ : Type}

def workersOption : Choice String :=
  { Choice.text "workers" "WORKERS" (fun value _ => value) with fallback := some "OHARA_WORKERS" }

def brokersOption (store : String → δ → δ) : Choice δ :=
  { Choice.text "brokers" "BROKERS" store with fallback := some "OHARA_BROKERS" }

def defaultWorkers : String := "localhost:8083"

def defaultBrokers : String := "localhost:9092"

/-! ### Levels -/

def createLevel : Level CreateCommand where
  options := [
    Choice.text "name" "NAME" fun value draft => { draft with name := some value },
    Choice.needed (Choice.text "class" "CLASS" fun value draft =>
      { draft with className := value }),
    { Choice.needed (Choice.text "topics" "TOPICS" fun value draft =>
        { draft with
          topics := draft.topics ++ (Text.pieces ',' value.toList).map String.ofList }) with
      repeats := true },
    Choice.integer "tasks" "TASKS" 0 (Nat.pow 2 32 - 1) fun value draft =>
      { draft with tasks := value.toNat },
    Choice.flag "disable-converter" fun draft => { draft with bytesOnly := true },
    Choice.text "columns" "COLUMNS" fun value draft => { draft with columns := some value },
    { Choice.single "config" "KEY=VALUE" (fun value draft =>
        (parsePair value).map fun pair => { draft with configs := draft.configs ++ [pair] }) with
      repeats := true }]
  operand := none
  commands := []

def createDraft : CreateCommand := ⟨none, "", [], 1, false, none, []⟩

def awaitLevel : Level AwaitCommand where
  options := [
    Choice.single "state" "STATE" fun value draft =>
      ((ConnectorState.parse value).mapError ConnectorState.Unknown.message).map fun state =>
        { draft with state },
    Choice.duration "timeout" "TIMEOUT" fun timeout draft => { draft with timeout },
    Choice.duration "interval" "INTERVAL" fun interval draft => { draft with interval }]
  operand := some fun name draft => { draft with name }
  commands := []

def awaitDraft : AwaitCommand := ⟨"", .running, .ofSeconds 50, .ofSeconds 1⟩

/-- A level with nothing but a name. -/
def nameLevel : Level String := ⟨[], some fun name _ => name, []⟩

/-- A level with nothing at all. -/
def emptyLevel : Level Unit := ⟨[], none, []⟩

def leaf (name : String) : Outline := .node name []

def connectorOutline : List Outline :=
  ["create", "delete", "pause", "resume", "status", "config", "exist", "list", "plugins",
    "await"].map leaf

def connectorLevel : Level String := ⟨[workersOption], none, connectorOutline⟩

def topicOutline : List Outline := ["create", "delete", "list"].map leaf

def topicLevel : Level String := ⟨[brokersOption fun value _ => value], none, topicOutline⟩

/-- A topic to be created: its name, partitions and copies. -/
structure TopicDraft where
  name : String
  partitions : Int
  replication : Int

def topicCreateLevel : Level TopicDraft where
  options := [
    Choice.integer "partitions" "PARTITIONS" (-Nat.pow 2 31) (Nat.pow 2 31 - 1) fun value draft =>
      { draft with partitions := value },
    Choice.integer "replication" "REPLICATION" (-Nat.pow 2 31) (Nat.pow 2 31 - 1) fun value draft =>
      { draft with replication := value }]
  operand := some fun name draft => { draft with name }
  commands := []

def consumeLevel : Level ConsumeCommand where
  options := [
    brokersOption fun value draft => { draft with brokers := value },
    Choice.needed (Choice.text "topic" "TOPIC" fun value draft => { draft with topic := value }),
    Choice.text "group-id" "GROUP_ID" fun value draft => { draft with group := some value },
    Choice.duration "timeout" "TIMEOUT" fun timeout draft => { draft with timeout },
    Choice.single "expected" "EXPECTED" fun value draft =>
      ((Text.readNatural (Nat.pow 2 64 - 1) value.toList).mapError Text.NumeralFault.message).map
        fun expected =>
        { draft with expected },
    Choice.flag "latest" fun draft => { draft with latest := true }]
  operand := none
  commands := []

def consumeDraft : ConsumeCommand := ⟨defaultBrokers, "", none, .ofSeconds 10, 1, false⟩

def streamLevel : Level StreamCommand where
  options := [
    brokersOption fun value draft => { draft with brokers := value },
    Choice.needed (Choice.text "from-topic" "FROM_TOPIC" fun value draft =>
      { draft with fromTopic := value }),
    Choice.needed (Choice.text "to-topic" "TO_TOPIC" fun value draft =>
      { draft with toTopic := value }),
    Choice.text "app-id" "APP_ID" fun value draft => { draft with appId := some value },
    Choice.flag "clean-start" fun draft => { draft with cleanStart := true },
    Choice.flag "wallclock" fun draft => { draft with wallclock := true },
    Choice.duration "duration" "DURATION" fun duration draft =>
      { draft with duration := some duration }]
  operand := none
  commands := []

def streamDraft : StreamCommand := ⟨defaultBrokers, "", "", none, false, false, none⟩

def streamOutline : List Outline := [leaf "run"]

def streamGroup : Level Unit := ⟨[], none, streamOutline⟩

def rootLevel : Level Unit :=
  ⟨[], none, [.node "connector" connectorOutline, .node "topic" topicOutline, leaf "consume",
    .node "stream" streamOutline]⟩

/-! ### Reading -/

section

variable (environment : Settings)

def readName (make : String → ConnectorCommand) (arguments : List String) :
    Except UsageFault ConnectorCommand :=
  (nameLevel.read environment "" arguments).map make

def readNothing {β : Type} (made : β) (arguments : List String) : Except UsageFault β :=
  (emptyLevel.read environment () arguments).map fun _ => made

def readConnector (name : String) (arguments : List String) : Except UsageFault ConnectorCommand :=
  match name with
  | "create" => (createLevel.read environment createDraft arguments).map .create
  | "delete" => readName environment .delete arguments
  | "pause" => readName environment .pause arguments
  | "resume" => readName environment .resume arguments
  | "status" => readName environment .status arguments
  | "config" => readName environment .config arguments
  | "exist" => readName environment .exist arguments
  | "list" => readNothing environment .list arguments
  | "plugins" => readNothing environment .plugins arguments
  | "await" => (awaitLevel.read environment awaitDraft arguments).map .await
  | other => .error (.unknownCommand other)

def readTopic (name : String) (arguments : List String) : Except UsageFault TopicCommand :=
  match name with
  | "create" =>
    (topicCreateLevel.read environment ⟨"", 1, 1⟩ arguments).map fun draft =>
      .create draft.name draft.partitions draft.replication
  | "delete" => (nameLevel.read environment "" arguments).map .delete
  | "list" => readNothing environment .list arguments
  | other => .error (.unknownCommand other)

def readRoot (name : String) (arguments : List String) : Except UsageFault Command :=
  match name with
  | "connector" =>
    (connectorLevel.enter environment defaultWorkers arguments (readConnector environment)).map
      fun (workers, command) =>
      .connector workers command
  | "topic" =>
    (topicLevel.enter environment defaultBrokers arguments (readTopic environment)).map
      fun (brokers, command) =>
      .topic brokers command
  | "consume" => (consumeLevel.read environment consumeDraft arguments).map .consume
  | "stream" =>
    (streamGroup.enter environment () arguments fun _ rest =>
      streamLevel.read environment streamDraft rest).map fun (_, command) => .stream command
  | other => .error (.unknownCommand other)

/-- Reads the arguments that follow the name of the program. -/
def parse (arguments : List String) : Except UsageFault Command :=
  (rootLevel.enter environment () arguments (readRoot environment)).map (·.2)

end

end Command

end Conduit
