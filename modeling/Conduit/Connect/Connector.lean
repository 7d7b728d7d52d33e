import Conduit.Broker.Producer
import Conduit.Connect.Record
import Conduit.Connect.TaskConfig

/-!
# Two connectors

The copying sink takes the rows of its topics to one output topic on one cluster; both are options
that its start requires, the connector asking for the output first and the task for the cluster
first. The task writes with a producer of its own, which its start has to bring about. A start that
fails leaves the last good one in force. The idle source has a fixed schema, is always ready and
never emits a row.
-/
namespace Conduit

open Text.Utf8

/-- What every connector of this library reports as its version. -/
def connectorVersion : String := "0.1.0"

namespace CopySink

/-- The option that names the output topic. -/
def outputKey : String := "output"

/-- The option that names the cluster. -/
def brokerKey : String := "broker"

/-- The connector: the configuration of its last good start. -/
structure Connector where
  config : Option TaskConfig

/-- The task: the producer that it writes with while it runs, and the topic of its last good
start. -/
structure Task where
  producer : Option (Producer Bytes Row)
  output : Option String

namespace Connector

def fresh : Connector := ⟨none⟩

def start (connector : Connector) (config : TaskConfig) : Except Fault Unit × Connector :=
  match config.requireOption outputKey, config.requireOption brokerKey with
  | .error fault, _ => (.error fault, connector)
  | .ok _, .error fault => (.error fault, connector)
  | .ok _, .ok _ => (.ok (), ⟨some config⟩)

def stop (connector : Connector) : Except Fault Unit × Connector := (.ok (), connector)

/-- One copy of the configuration for each task. -/
def taskConfigs (connector : Connector) (count : Nat) : Except Fault (List TaskConfig) :=
  match connector.config with
  | some config => .ok (List.replicate count config)
  | none => .error (.connector .connectorNotStarted)

end Connector

namespace Task

def fresh : Task := ⟨none, none⟩

/-- A producer of rows for the cluster. -/
def producerFor (broker : String) : Except Fault (Producer Bytes Row) :=
  (ProducerDraft.ofSettings [.connection broker]).build .bytes .row

def start (task : Task) (config : TaskConfig) : Except Fault Unit × Task :=
  match config.requireOption brokerKey, config.requireOption outputKey with
  | .error fault, _ => (.error fault, task)
  | .ok _, .error fault => (.error fault, task)
  | .ok broker, .ok output =>
    match producerFor broker with
    | .error fault => (.error fault, task)
    | .ok producer => (.ok (), ⟨some producer, some output⟩)

/-- Writes the rows of the records to the output topic, one after the other. -/
def put (task : Task) (records : List SinkRecord) : Except Fault (Dialogue Unit) :=
  match task.producer, task.output with
  | some producer, some output => .ok do
    for record in records do
      let _ ← producer.send output ⟨none, some record.row, none, none, []⟩
  | _, _ => .error (.connector .taskNotStarted)

/-- Gives the producer up. Nothing is left to be sent, for every row is waited for when it is
put. -/
def stop (task : Task) : Except Fault Unit × Task := (.ok (), { task with producer := none })

end Task

end CopySink

namespace IdleSource

def columns : List Column := [.of "cf0" .boolean 0, .of "cf1" .boolean 1]

def taskConfigs : Except Fault (List TaskConfig) :=
  (TaskConfig.build [.name "test", .topic "topic", .schema columns,
    .option Column.optionKey (Column.encode columns)]).map fun config => [config]

/-- The rows that are ready. -/
def poll : List SourceRecord := []

end IdleSource

end Conduit
