import Conduit.Schema.DataType
import Conduit.Time.Duration

/-!
# Commands

What can be asked for on the command line: work on connectors through the workers, work on topics,
reading a topic, and running a stream from one topic to another.
-/
namespace Conduit

structure CreateCommand where
  name : Option String
  className : String
  topics : List String
  tasks : Nat
  bytesOnly : Bool
  columns : Option String
  configs : List (String × String)

structure AwaitCommand where
  name : String
  state : ConnectorState
  timeout : Duration
  interval : Duration

inductive ConnectorCommand where
  | create (command : CreateCommand)
  | delete (name : String)
  | pause (name : String)
  | resume (name : String)
  | status (name : String)
  | config (name : String)
  | exist (name : String)
  | list
  | plugins
  | await (command : AwaitCommand)

inductive TopicCommand where
  | create (name : String) (partitions replication : Int)
  | delete (name : String)
  | list

structure ConsumeCommand where
  brokers : String
  topic : String
  group : Option String
  timeout : Duration
  expected : Nat
  latest : Bool

structure StreamCommand where
  brokers : String
  fromTopic : String
  toTopic : String
  appId : Option String
  cleanStart : Bool
  wallclock : Bool
  duration : Option Duration

inductive Command where
  | connector (workers : String) (command : ConnectorCommand)
  | topic (brokers : String) (command : TopicCommand)
  | consume (command : ConsumeCommand)
  | stream (command : StreamCommand)

end Conduit
