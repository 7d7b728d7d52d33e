import Conduit.Broker.PropertyTable
import Conduit.Data.Table
import Conduit.Text.Utf8

/-!
# Configurations of broker clients

The settings of a client are read one by one, each by the property that it names. What was read is
then judged as a whole for the role that the client is to play: some values exclude each other, and
some ask for more than this client can do. Complaints have a fixed order, and the first is made.
What a property is when it is not set depends on the rule that asks, so every rule brings its own
default.
-/
namespace Conduit

open Text.Utf8

/-- Why a setting is refused. -/
inductive SettingFault where
  | unknown
  | value (property : String) (cause : ValueFault)
deriving DecidableEq, Repr

def SettingFault.message (key : String) : SettingFault → String
  | unknown => s!"No such configuration property: \"{key}\""
  | value property cause => cause.message property

/-- Why settings that are well by themselves do not make a client. -/
inductive ClientConflict where
  | fetchBelowMessage
  | receiveBelowFetch
  | pollBelowSession
  /-- The server decides what the property says. -/
  | decidedByServer (property advice : String)
  | transactionMode
  | socketBeyondTransaction
  | messageBeyondTransaction
  | requestsAtOnce
  | retries
  | backpressure
  | acknowledgement
  | queueOrder
  | gapless
  | reconnect
  | linger
  | strategy (name : String)
  | strategies (names : String)
  | mechanism (name : String)
  | provider (mechanism : String)
  | credentials
  | consumerQueue
deriving DecidableEq, Repr

def ClientConflict.message : ClientConflict → String
  | fetchBelowMessage => "`fetch.max.bytes` must be >= `message.max.bytes`"
  | receiveBelowFetch => "`receive.message.max.bytes` must be >= `fetch.max.bytes` + 512"
  | pollBelowSession => "`max.poll.interval.ms`must be >= `session.timeout.ms`"
  | decidedByServer property advice =>
    s!"`{property}` is not supported for `group.protocol=consumer`. {advice}"
  | transactionMode => "`transactional.id` requires `enable.idempotence=true`"
  | socketBeyondTransaction => "`socket.timeout.ms` must be set <= `transaction.timeout.ms` + 100"
  | messageBeyondTransaction => "`message.timeout.ms` must be set <= `transaction.timeout.ms`"
  | requestsAtOnce => "`max.in.flight` must be set <= 5 when `enable.idempotence` is true"
  | retries => "`retries` must be set >= 1 when `enable.idempotence` is true"
  | backpressure =>
    "`queue.buffering.backpressure.threshold` must be set to 1 when `enable.idempotence` is true"
  | acknowledgement => "`acks` must be set to `all` when `enable.idempotence` is true"
  | queueOrder => "`queuing.strategy` must be set to `fifo` when `enable.idempotence` is true"
  | gapless => "`enable.gapless.guarantee` requires `enable.idempotence` to be enabled"
  | reconnect => "`reconnect.backoff.max.ms` must be >= `reconnect.max.ms`"
  | linger => "`message.timeout.ms` must be greater than `linger.ms`"
  | strategy name => s!"Unsupported partition.assignment.strategy: {name}"
  | strategies names =>
    s!"All partition.assignment.strategy ({names}) assignors must have the same protocol type, "
      ++ "online migration between assignors with different protocol types is not supported"
  | mechanism name => s!"Unsupported SASL mechanism: {name}"
  | provider name =>
    s!"No provider for SASL mechanism {name}: recompile librdkafka with libsasl2 or openssl "
      ++ "support. Current build options: PLAIN"
  | credentials => "sasl.username and sasl.password must be set"
  | consumerQueue => "rdkafka consumer queue not available"

/-- Why there is no client for some settings. -/
inductive ClientFault where
  /-- A setting holds a zero character. -/
  | zero
  | setting (key value : String) (cause : SettingFault)
  | conflict (cause : ClientConflict)
deriving DecidableEq, Repr

/-- The most bytes of a complaint that are passed on. -/
def complaintLimit : Nat := 511

def clipped (s : String) : String := mend ((encode s).take complaintLimit)

def ClientFault.message : ClientFault → String
  | zero => "FFI nul error"
  | setting key value cause =>
    "Client config error: " ++ clipped (cause.message key) ++ s!" {key} {value}"
  | conflict cause => "Client creation error: " ++ clipped cause.message

/-- What a client is for. -/
inductive ClientRole where
  | consumer
  | producer
deriving DecidableEq, Repr

/-- The values of the properties that are set, by their first names. -/
structure ClientConfig where
  values : Table String PropertyValue
deriving DecidableEq

/-- Whether a text holds the zero character, which ends texts elsewhere. -/
def hasZero (s : String) : Bool := s.toList.contains (Char.ofNat 0)

/-- The first name of a list, and what follows its comma. Blanks and commas before it do not
count. -/
def splitName (s : List Char) : List Char × List Char :=
  let start := s.dropWhile fun c => c = ' ' || c = ','
  (start.takeWhile (· ≠ ','), (start.dropWhile (· ≠ ',')).drop 1)

theorem length_splitName_lt (c : Char) (rest : List Char) :
    (splitName (c :: rest)).2.length < (c :: rest).length := by
  have first := (List.dropWhile_suffix (l := c :: rest) fun c => c = ' ' || c = ',').length_le
  have second :=
    (List.dropWhile_suffix (l := (c :: rest).dropWhile fun c => c = ' ' || c = ',')
      (· ≠ ',')).length_le
  have positive : 0 < (c :: rest).length := by simp
  simp only [splitName, List.length_drop]
  omega

/-- The names of a list with commas. -/
def splitNames : List Char → List String
  | [] => []
  | c :: rest =>
    let name := String.ofList (splitName (c :: rest)).1
    name :: splitNames (splitName (c :: rest)).2
termination_by s => s.length
decreasing_by exact length_splitName_lt c rest

namespace ClientConfig

/-- The strategies, and whether partitions move one after the other. -/
def strategiesByMove : List (String × Bool) :=
  [("range", false), ("roundrobin", false), ("cooperative-sticky", true)]

variable (config : ClientConfig)

def find? (name : String) : Option PropertyValue := config.values.find? name

def isSet (name : String) : Bool := config.values.contains name

def integer (name : String) (default : Int) : Int :=
  match config.find? name with
  | some (.integer value) => value
  | _ => default

def truth (name : String) : Bool := config.find? name = some (.truth true)

/-- The name that is set. -/
def name? (property : String) : Option String :=
  match config.find? property with
  | some (.name value) => some value
  | _ => none

/-- The text that is set. -/
def text? (name : String) : Option String :=
  match config.find? name with
  | some (.text value) => value
  | _ => none

/-- Adds a setting; one that sets nothing changes nothing. -/
def add (config : ClientConfig) (key value : String) : Except ClientFault ClientConfig := do
  if hasZero key || hasZero value then
    throw .zero
  match Property.find? key with
  | none => throw (.setting key value .unknown)
  | some property =>
    match property.kind.read value with
    | .error cause => throw (.setting key value (.value property.name cause))
    | .ok none => return config
    | .ok (some read) => return ⟨config.values.insert property.name read⟩

def ofSettings (settings : Settings) : Except ClientFault ClientConfig :=
  settings.entries.foldlM (fun config entry => config.add entry.1 entry.2) ⟨.empty⟩

def messageLimit : Int := config.integer "message.max.bytes" 1000000

def fetchLimit : Int :=
  config.integer "fetch.max.bytes"
    (max (min 52428800 (config.integer "queued.max.messages.kbytes" 65536 * 1024))
      config.messageLimit)

/-- What the server decides in the newer way of forming groups. -/
def serverDecisions : List (String × String) :=
  [("session.timeout.ms", "It is defined broker side"),
   ("partition.assignment.strategy", "Use `group.remote.assignor` instead"),
   ("group.protocol.type", "Use `group.remote.assignor` instead"),
   ("heartbeat.interval.ms", "It is defined broker side")]

/-- The complaints about a consumer, each with whether it applies. -/
def consumerConflicts : List (Bool × ClientConflict) :=
  let byServer := config.name? "group.protocol" = some "consumer"
  [(config.isSet "fetch.max.bytes" && config.fetchLimit < config.messageLimit, .fetchBelowMessage),
   (config.isSet "receive.message.max.bytes"
      && config.integer "receive.message.max.bytes" 0 < config.fetchLimit + 512,
        .receiveBelowFetch),
   (!byServer && config.integer "max.poll.interval.ms" 300000 <
     config.integer "session.timeout.ms" 45000,
      .pollBelowSession)]
    ++ serverDecisions.map fun (property, advice) =>
      (byServer && config.isSet property, .decidedByServer property advice)

def isTransactional : Bool := (config.text? "transactional.id").isSome

def isIdempotent : Bool :=
  config.truth "enable.idempotence" ||
    (config.isTransactional && !config.isSet "enable.idempotence")

def transactionTimeout : Int := config.integer "transaction.timeout.ms" 60000

/-- Whether a message may wait as long as it may take at all. -/
def lingersTooLong : Bool :=
  let timeout := config.integer "message.timeout.ms" 300000
  match config.find? "queue.buffering.max.ms" with
  | some (.fraction wait) => timeout ≠ 0 && wait.isAtLeast timeout.toNat
  | _ => false

/-- The complaints about a producer. -/
def producerConflicts : List (Bool × ClientConflict) :=
  let idempotent := config.isIdempotent
  [(config.isTransactional && !idempotent, .transactionMode),
   (config.isTransactional && config.transactionTimeout + 100 <
     config.integer "socket.timeout.ms" 0,
      .socketBeyondTransaction),
   (idempotent && 5 < config.integer "max.in.flight.requests.per.connection" 5, .requestsAtOnce),
   (idempotent && config.integer "message.send.max.retries" 1 < 1, .retries),
   (idempotent && 1 < config.integer "queue.buffering.backpressure.threshold" 1, .backpressure),
   (!idempotent && config.truth "enable.gapless.guarantee", .gapless)]

/-- The complaints about what a producer does with each topic. -/
def topicConflicts : List (Bool × ClientConflict) :=
  let idempotent := config.isIdempotent
  [(idempotent && config.integer "request.required.acks" (-1) ≠ -1, .acknowledgement),
   (idempotent && config.name? "queuing.strategy" = some "lifo", .queueOrder),
   (config.isTransactional && config.transactionTimeout < config.integer "message.timeout.ms" 0,
      .messageBeyondTransaction),
   (config.lingersTooLong, .linger)]

def reconnectConflict : Bool × ClientConflict :=
  (config.integer "reconnect.backoff.max.ms" 10000 < config.integer "reconnect.backoff.ms" 100,
    .reconnect)

def strategies : String := (config.text? "partition.assignment.strategy").getD "range,roundrobin"

def strategyConflicts : List (Bool × ClientConflict) :=
  let names := splitNames config.strategies.toList
  let moves := names.filterMap fun name => strategiesByMove.lookup name
  names.map (fun name => (!(strategiesByMove.lookup name).isSome, .strategy name))
    ++ [(moves.contains true && moves.contains false, .strategies config.strategies)]

/-- The ways to prove who one is that would need more than this client has. -/
def needsProvider (mechanism : String) : Bool :=
  mechanism = "GSSAPI" || mechanism = "OAUTHBEARER" || "SCRAM-SHA-".isPrefixOf mechanism

def proofConflicts : List (Bool × ClientConflict) :=
  let mechanism := (config.text? "sasl.mechanisms").getD "GSSAPI"
  let asked := config.name? "security.protocol" = some "sasl_plaintext"
  [(asked && needsProvider mechanism, .provider mechanism),
   (asked && mechanism ≠ "PLAIN", .mechanism mechanism),
   (asked && !((config.text? "sasl.username").isSome && (config.text? "sasl.password").isSome),
     .credentials)]

/-- All complaints in order. -/
def conflicts (role : ClientRole) : List (Bool × ClientConflict) :=
  (match role with
    | .consumer => config.consumerConflicts ++ [config.reconnectConflict]
    | .producer => config.producerConflicts ++ [config.reconnectConflict] ++ config.topicConflicts)
    ++ config.strategyConflicts ++ config.proofConflicts

/-- The servers to begin with, if any are set. -/
def servers? : Option String := config.text? "metadata.broker.list"

/-- The group of a consumer. -/
def group : String := (config.text? "group.id").getD ""

/-- Whether a consumer without a committed offset begins with the first record. -/
def fromBegin : Bool :=
  (config.name? "auto.offset.reset").any fun name =>
    ["smallest", "earliest", "beginning"].contains name

/-- Whether a producer waits for acknowledgements. -/
def acknowledges : Bool := config.integer "request.required.acks" (-1) ≠ 0

/-- How a producer places records that name no partition. -/
def partitioner : Partitioner :=
  ((config.text? "partitioner").bind fun name => Partitioner.names.lookup name).getD .checkKey

/-- The configuration of a client in a role. -/
def forRole (role : ClientRole) (settings : Settings) : Except ClientFault ClientConfig := do
  let config ← ofSettings settings
  match (config.conflicts role).find? (·.1) with
  | some (_, cause) => throw (.conflict cause)
  | none => return config

end ClientConfig

end Conduit
