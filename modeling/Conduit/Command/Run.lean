import Conduit.Command.Basic
import Conduit.Stream.Launch
import Conduit.Time.Await
import Conduit.Worker.Client

/-!
# Running commands

A command prints lines and may fail. A failure is told from the outside in: what the command was
doing, what went wrong, and what that was caused by. What is printed before a failure stays
printed. Time goes by in waiting only.
-/
namespace Conduit

open Text.Utf8
open Json.Writable (write)

/-- What went wrong in a command. -/
inductive CommandCause where
  | fault (cause : Fault)
  | stream (cause : StreamFault)
  | absent (connector : String)
  | tooFew (timeout : Duration) (received expected : Nat) (topic : String)
deriving DecidableEq, Repr

structure CommandFault where
  /-- What was being done, from the outside in. -/
  doing : List String
  cause : CommandCause
deriving DecidableEq, Repr

/-- The texts of a fault of the broker's own client, from the outside in. -/
def RequestFault.chain (fault : RequestFault) : List String :=
  fault.message :: match fault with
    | production cause => [cause.message]
    | metadata cause => [cause.message]
    | administration _ => []
    | newTopic _ => []
    | zero => []

def Fault.chain (fault : Fault) : List String :=
  fault.message :: match fault with
    | request cause => cause.chain
    | _ => []

def StreamFault.chain (fault : StreamFault) : List String :=
  fault.message :: match fault with
    | broker cause => cause.chain
    | _ => []

def CommandCause.chain : CommandCause → List String
  | fault cause => cause.chain
  | stream cause => cause.chain
  | absent connector => [s!"Connector {connector} does not exist"]
  | tooFew timeout received expected topic =>
    ["Timed out after " ++ timeout.text ++ " with " ++ Number.naturalText received ++ " of " ++
      Number.naturalText expected ++ " records from " ++ topic]

def CommandFault.message (fault : CommandFault) : String :=
  Text.joined ": " (fault.doing ++ fault.cause.chain)

/-- What commands work on. -/
structure Session (σ : Type) where
  workers : ClientState σ
  cluster : Cluster
  /-- The lines printed so far. -/
  printed : List String

/-- A command that runs in a session. -/
abbrev Script (σ α : Type) := ExceptT CommandFault (StateM (Session σ)) α

namespace Script

variable {σ α : Type}

def print (line : String) : Script σ Unit :=
  modify fun session => { session with printed := session.printed ++ [line] }

def printAll (lines : List String) : Script σ Unit :=
  modify fun session => { session with printed := session.printed ++ lines }

def ofExcept (doing : List String) (result : Except Fault α) : Script σ α :=
  ExceptT.mk (pure (result.mapError fun cause => ⟨doing, .fault cause⟩))

/-- Talks to the workers. -/
def talk (doing : List String) (action : Talk σ α) : Script σ α := do
  let session ← get
  let (result, workers) := action.run session.workers
  set { session with workers }
  ofExcept doing result

/-- Asks the cluster. -/
def ask (doing : List String) (action : Dialogue α) : Script σ α := do
  let session ← get
  let (result, cluster) := action.run session.cluster
  set { session with cluster }
  ofExcept doing result

end Script

/-- Whether a connector and all its tasks are in a state. -/
def ConnectorStatus.isIn (status : ConnectorStatus) (state : ConnectorState) : Bool :=
  status.connector.state = state && status.tasks.all fun task => task.state = state

section

variable {σ : Type} (network : Network σ)

namespace CreateCommand

def settings (command : CreateCommand) : List ConnectorSetting :=
  [.className command.className, .topics command.topics, .tasks command.tasks,
      .configs (.ofList command.configs)]
    ++ (command.name.map ConnectorSetting.name).toList
    ++ (if command.bytesOnly then [.bytesOnly] else [])

/-- Creates a connector and prints what the worker made of it. -/
def run (command : CreateCommand) (client : WorkerClient) (chance : String) : Script σ Unit := do
  let columns ← match command.columns with
    | none => pure []
    | some text =>
      let columns ← Script.ofExcept ["Invalid column definitions"]
          ((Column.decode text).mapError .columns)
      pure [ConnectorSetting.columns columns]
  let draft := ConnectorDraft.ofSettings (command.settings ++ columns)
  let info ← Script.talk ["Failed to create connector"] (client.submit network draft chance)
  Script.print (write info).indentedText

end CreateCommand

namespace AwaitCommand

/-- Asks once; a failure to get an answer counts as not yet. -/
def check (command : AwaitCommand) (client : WorkerClient) (workers : ClientState σ) :
    Check Fault × ClientState σ :=
  let (result, next) := (client.status network command.name).run workers
  match result with
  | .ok status => (if status.isIn command.state then .holds else .pending, next)
  | .error fault => (.failed fault, next)

def run (command : AwaitCommand) (client : WorkerClient) : Script σ Unit := do
  let session ← get
  let patience : Patience := ⟨command.timeout, command.interval, true⟩
  let watch := patience.watch (command.check network client) session.workers
  set { session with workers := watch.state }
  let doing := [s!"Connector {command.name} did not reach {command.state.name}"]
  match watch.verdict with
  | .holds => return
  | .failed fault => throw ⟨doing, .fault fault⟩
  | .timeout after => throw ⟨doing, .fault (.timeout after)⟩

end AwaitCommand

namespace ConnectorCommand

def run (command : ConnectorCommand) (workers chance : String) : Script σ Unit := do
  let client ← Script.ofExcept [s!"Invalid worker list: {workers}"] (WorkerClient.ofList workers)
  match command with
  | create command => command.run network client chance
  | delete name => Script.talk [] (client.delete network name)
  | pause name => Script.talk [] (client.pause network name)
  | resume name => Script.talk [] (client.resume network name)
  | status name =>
    let status ← Script.talk [] (client.status network name)
    Script.print (write status).indentedText
  | config name =>
    let config ← Script.talk [] (client.config network name)
    Script.print (write config).indentedText
  | exist name =>
    if ← Script.talk [] (client.exists? network name) then Script.print name
    else throw ⟨[], .absent name⟩
  | list =>
    let names ← Script.talk [] (client.active network)
    Script.printAll names
  | plugins =>
    let plugins ← Script.talk [] (client.plugins network)
    Script.print (write plugins).indentedText
  | await command => command.run network client

end ConnectorCommand

end

section

variable {σ : Type}

def TopicCommand.run (command : TopicCommand) (brokers : String) : Script σ Unit := do
  let admin ← Script.ofExcept [s!"Failed to connect to {brokers}"] (TopicAdmin.connect brokers)
  match command with
  | create name partitions replication =>
    Script.ask [s!"Failed to create topic {name}"]
      (admin.create name (Int32.ofInt partitions) (Int32.ofInt replication))
  | delete name => Script.ask [s!"Failed to delete topic {name}"] (admin.delete name)
  | list =>
    let names ← Script.ask [] admin.list
    Script.printAll names

namespace ConsumeCommand

def settings (command : ConsumeCommand) : List ConsumerSetting :=
  [.connection command.brokers, .topic command.topic]
    ++ (command.group.map ConsumerSetting.group).toList
    ++ [if command.latest then .afterLatest else .fromBegin]

/-- A record as a line: the key, a tab and the value; what is absent is empty. -/
def line (record : Record String String) : String :=
  record.key.getD "" ++ "\t" ++ record.value.getD ""

/-- Prints the records that were read as lines and commits them if a group is named. -/
def conclude (command : ConsumeCommand) (consumer : Consumer String String) (standing : Standing)
    (result : Except Fault (List (Record String String))) : Script σ Unit := do
  let records ← Script.ofExcept [] result
  Script.printAll (records.map line)
  if command.group.isSome then
    modify fun session =>
      { session with cluster := (consumer.commitRecords records session.cluster standing).1 }
  if records.length < command.expected then
    throw ⟨[], .tooFew command.timeout records.length command.expected command.topic⟩

/-- Reads the topic once, as a member of the group. -/
def run (command : ConsumeCommand) (chance : String) : Script σ Unit := do
  let consumer ← Script.ofExcept []
      ((ConsumerDraft.ofSettings command.settings).build chance .string .string)
  let session ← get
  let (result, _, standing) :=
    consumer.read session.cluster command.timeout.nanos command.expected .fresh
  command.conclude consumer standing result

end ConsumeCommand

namespace StreamCommand

def settings (command : StreamCommand) (now : Int64) :
    List (StreamSetting (SerdePair String String)) :=
  [.bootstrapServers command.brokers, .fromTopic command.fromTopic, .toTopic command.toTopic]
    ++ (command.appId.map StreamSetting.appId).toList
    ++ (if command.cleanStart then [.cleanStart] else [])
    ++ (if command.wallclock then [.extractor (.clock now)] else [])

/-- Copies one topic to another for a while, or until it fails. -/
def run (command : StreamCommand) (chance : String) : Script σ Unit := do
  let session ← get
  let draft :=
    StreamDraft.ofSettings ⟨Serde.string, Serde.string⟩ (command.settings session.cluster.clock)
  match draft.build chance with
  | .error cause => throw ⟨[], .stream cause⟩
  | .ok plan =>
    let stream : RecordStream String String := ⟨plan, []⟩
    let limit := command.duration.map Duration.nanos
    let launch := stream.launch (stream.looksFor limit session.cluster) limit session.cluster
    set { session with cluster := launch.cluster }
    match launch.run with
    | .error cause => throw ⟨[s!"Failed to start stream {plan.config.appId}"], .stream cause⟩
    | .ok run =>
      match run.outcome with
      | .error cause => throw ⟨[s!"Stream {plan.config.appId} failed"], .stream cause⟩
      | .ok _ => return

end StreamCommand

/-- Runs a command; `chance` stands in for names that are left to chance. -/
def Command.run (network : Network σ) (chance : String) : Command → Script σ Unit
  | connector workers command => command.run network workers chance
  | topic brokers command => command.run brokers
  | consume command => command.run chance
  | stream command => command.run chance

end

end Conduit
