import Conduit.Broker.ClientConfig
import Conduit.Codec.Basic
import Conduit.Schema.Column
import Conduit.Time.Duration
import Conduit.Url.Host

/-!
# Faults

What can go wrong, by cause. A cause keeps what its wording needs, and each type has one function
that words it, so a fault is compared by what happened and shown by what it says.
-/
namespace Conduit

/-- Why a configuration is refused. -/
inductive ConfigFault where
  | taskName
  | taskTopics
  | columnsDiffer
  | recordTopic
  | recordRow
  | connectorClass
  | connectorTopics
  | taskCount
  | noWorkers
  | worker (address : String) (cause : Url.Fault)
  | connection
  | subscription
  | brokers
deriving DecidableEq, Repr

def ConfigFault.message : ConfigFault → String
  | taskName => "task config name is required"
  | taskTopics => "task config requires at least one topic"
  | columnsDiffer => s!"option '{Column.optionKey}' does not match the task schema"
  | recordTopic => "source record requires a topic"
  | recordRow => "source record requires a row"
  | connectorClass => "connector class is required"
  | connectorTopics => "at least one non-empty topic is required"
  | taskCount => "number of tasks must be greater than zero"
  | noWorkers => "worker connection props must not be empty"
  | worker address cause => s!"Invalid worker {address}: " ++ cause.message
  | connection => "connection_props is required"
  | subscription => "at least one topic is required"
  | brokers => "brokers must not be empty"

/-- What a connector or its task cannot do. -/
inductive ConnectorFault where
  | missingOption (key : String)
  | connectorNotStarted
  | taskNotStarted
  | noRow (topic : String) (partition offset : Int)
deriving DecidableEq, Repr

def ConnectorFault.message : ConnectorFault → String
  | missingOption key => s!"missing required option '{key}'"
  | connectorNotStarted => "connector has not been started"
  | taskNotStarted => "task has not been started"
  | noRow topic part offset =>
    s!"record {topic}-" ++ Number.integerText part ++ "@" ++ Number.integerText offset ++
      " has no row"

/-- How an exchange with a server fails once the connection stands. -/
inductive ExchangeFault where
  | timeout
  | decode
  | request
deriving DecidableEq, Repr

def ExchangeFault.name : ExchangeFault → String
  | timeout => "timeout"
  | decode => "decode"
  | request => "request"

/-- What the broker's client refuses or misses on its own side. -/
inductive LocalFault where
  | transport
  | invalidArgument
  | unknownPartition
  | noOffset
  | timedOut
  | messageTimedOut
  | messageTooLarge
  | outOfTurn
  | noBrokers
deriving DecidableEq, Repr

def LocalFault.reason : LocalFault → String
  | transport => "Local: Broker transport failure"
  | invalidArgument => "Local: Invalid argument or configuration"
  | unknownPartition => "Local: Unknown partition"
  | noOffset => "Local: No offset stored"
  | timedOut => "Local: Timed out"
  | messageTimedOut => "Local: Message timed out"
  | messageTooLarge => "Broker: Message size too large"
  | outOfTurn => "Local: Erroneous state"
  | noBrokers => "Local: All broker connections are down"

def LocalFault.message : LocalFault → String
  | transport => s!"BrokerTransportFailure ({LocalFault.transport.reason})"
  | invalidArgument => s!"InvalidArgument ({LocalFault.invalidArgument.reason})"
  | unknownPartition => s!"UnknownPartition ({LocalFault.unknownPartition.reason})"
  | noOffset => s!"NoOffset ({LocalFault.noOffset.reason})"
  | timedOut => s!"OperationTimedOut ({LocalFault.timedOut.reason})"
  | messageTimedOut => s!"MessageTimedOut ({LocalFault.messageTimedOut.reason})"
  | messageTooLarge => s!"MessageSizeTooLarge ({LocalFault.messageTooLarge.reason})"
  | outOfTurn => s!"State ({LocalFault.outOfTurn.reason})"
  | noBrokers => s!"AllBrokersDown ({LocalFault.noBrokers.reason})"

inductive ConsumerFault where
  | create (cause : ClientFault)
  | receive (cause : LocalFault)
  | subscribe (cause : LocalFault)
  | commit (cause : LocalFault)
deriving DecidableEq, Repr

def ConsumerFault.message : ConsumerFault → String
  | create cause => "Failed to create consumer: " ++ cause.message
  | receive cause => "Error receiving message: Message consumption error: " ++ cause.message
  | subscribe cause => "Failed to subscribe to topics: Subscription error: " ++ cause.reason
  | commit cause => "Failed to commit offsets: Consumer commit error: " ++ cause.message

/-- Why a topic cannot even be asked for. -/
inductive NewTopicFault where
  | partitions
  | replication
deriving DecidableEq, Repr

/-- The most partitions that a topic may be asked for. -/
def partitionLimit : Nat := 100000

/-- The most copies of a partition that may be asked for. -/
def replicationLimit : Nat := 10000

def NewTopicFault.message : NewTopicFault → String
  | partitions =>
    "num_partitions out of expected range 1.." ++ Number.naturalText partitionLimit ++
      " or -1 for broker default"
  | replication =>
    "replication_factor out of expected range -1.." ++ Number.naturalText replicationLimit

/-- How a request to the brokers fails. -/
inductive RequestFault where
  | production (cause : LocalFault)
  | metadata (cause : LocalFault)
  | administration (cause : LocalFault)
  | newTopic (cause : NewTopicFault)
  /-- A name holds a zero character. -/
  | zero
deriving DecidableEq, Repr

def RequestFault.message : RequestFault → String
  | production cause => "Message production error: " ++ cause.message
  | metadata cause => "Meta data fetch error: " ++ cause.message
  | administration cause => "Admin operation error: " ++ cause.message
  | newTopic cause => "Admin operation creation error: " ++ cause.message
  | zero => ClientFault.zero.message

/-- A change that the administration of topics asks for. -/
inductive AdminAction where
  | createTopic
  | deleteTopic
  | deleteGroup
deriving DecidableEq, Repr

def AdminAction.phrase : AdminAction → String
  | createTopic => "create topic"
  | deleteTopic => "delete topic"
  | deleteGroup => "delete consumer group"

/-- The broker's answers to a change by number, with their names and descriptions. -/
def responseNames : List (Nat × String × String) :=
  [(3, "UnknownTopicOrPartition", "Unknown topic or partition"),
   (7, "RequestTimedOut", "Request timed out"),
   (14, "CoordinatorLoadInProgress", "Coordinator load in progress"),
   (15, "CoordinatorNotAvailable", "Coordinator not available"),
   (16, "NotCoordinator", "Not coordinator"),
   (17, "InvalidTopic", "Invalid topic"),
   (24, "InvalidGroupId", "Invalid group.id"),
   (29, "TopicAuthorizationFailed", "Topic authorization failed"),
   (30, "GroupAuthorizationFailed", "Group authorization failed"),
   (36, "TopicAlreadyExists", "Topic already exists"),
   (37, "InvalidPartitions", "Invalid number of partitions"),
   (38, "InvalidReplicationFactor", "Invalid replication factor"),
   (41, "NotController", "Not controller for cluster"),
   (42, "InvalidRequest", "Invalid request"),
   (44, "PolicyViolation", "Policy violation"),
   (68, "NonEmptyGroup", "The group is not empty"),
   (69, "GroupIdNotFound", "The group id does not exist"),
   (73, "TopicDeletionDisabled", "Topic deletion is disabled"),
   (89, "ThrottlingQuotaExceeded", "Throttling quota has been exceeded")]

def responseText (code : Nat) : String :=
  match responseNames.lookup code with
  | some (name, description) => s!"{name} (Broker: {description})"
  | none => "Unknown (Broker: Unknown error)"

inductive Fault where
  | config (cause : ConfigFault)
  | columns (cause : Column.Fault)
  | connector (cause : ConnectorFault)
  | serialization (cause : CodecFault)
  | timeout (after : Duration)
  /-- A worker's own refusal. -/
  | worker (status : Nat) (message : String)
  /-- Every worker refused the connection. -/
  | unreachable (workers : List String)
  | exchange (cause : ExchangeFault)
  | consumer (cause : ConsumerFault)
  | producer (cause : ClientFault)
  | adminClient (cause : ClientFault)
  | request (cause : RequestFault)
  | admin (action : AdminAction) (name : String) (code : Nat)
deriving DecidableEq, Repr

def Fault.message : Fault → String
  | config cause => "Invalid configuration: " ++ cause.message
  | columns cause => cause.message
  | connector cause => "Connector error: " ++ cause.message
  | serialization cause => "Serialization error: " ++ cause.message
  | timeout after => "Condition not met within " ++ after.text
  | worker status message => "Worker returned " ++ Number.naturalText status ++ ": " ++ message
  | unreachable workers => "No worker available among [" ++ ",".intercalate workers ++ "]"
  | exchange _ => "HTTP error"
  | consumer cause => "Consumer error: " ++ cause.message
  | producer cause => "Producer error: Failed to create producer: " ++ cause.message
  | adminClient cause => "Admin error: Failed to create admin client: " ++ cause.message
  | request cause => "Kafka error: " ++ cause.message
  | admin action name code =>
    s!"Admin error: Failed to {action.phrase} '{name}': " ++ responseText code

/-- The kind of a fault, by which programs tell faults apart. -/
def Fault.kind : Fault → String
  | config _ => "InvalidConfig"
  | columns .json => "Json"
  | columns .nameless => "InvalidColumns"
  | connector _ => "Connector"
  | serialization _ => "Serialization"
  | timeout _ => "Timeout"
  | worker _ _ => "Worker"
  | unreachable _ => "NoWorkerAvailable"
  | exchange _ => "Http"
  | consumer _ => "Consumer"
  | producer _ => "Producer"
  | adminClient _ => "Admin"
  | request _ => "Kafka"
  | admin _ _ _ => "Admin"

/-- What a stream cannot do without, in the order in which it is asked for. -/
inductive StreamField where
  | bootstrapServers
  | fromTopic
  | toTopic
deriving DecidableEq, Repr

def StreamField.name : StreamField → String
  | bootstrapServers => "bootstrap_servers"
  | fromTopic => "from_topic"
  | toTopic => "to_topic"

inductive StreamFault where
  | missing (field : StreamField)
  | serialize (topic : String) (cause : CodecFault)
  | deserialize (topic : String) (cause : CodecFault)
  | broker (cause : Fault)
  /-- A reason given by the source or the sink of a stream. -/
  | stream (reason : String)
deriving DecidableEq, Repr

def StreamFault.message : StreamFault → String
  | missing field => s!"{field.name} is required"
  | serialize topic cause =>
    s!"Serialization error: Failed to serialize for {topic}: " ++
      (Fault.serialization cause).message
  | deserialize topic cause =>
    s!"Serialization error: Failed to deserialize from {topic}: " ++
      (Fault.serialization cause).message
  | broker cause => "Kafka error: " ++ cause.message
  | stream reason => "Stream error: " ++ reason

def StreamFault.kind : StreamFault → String
  | missing _ => "MissingField"
  | serialize _ _ => "Serialization"
  | deserialize _ _ => "Serialization"
  | broker _ => "Kafka"
  | stream _ => "Stream"

end Conduit
