import Conduit.Connect.Definition
import Conduit.Json.Reader
import Conduit.Worker.Address
import Conduit.Worker.Payload
import Conduit.Worker.Status

/-!
# Talking to workers

An operation is one request, offered to the workers in turn. The first operation starts with the
first worker, the next one with the second, and so on around; a worker that refuses the connection
is passed over, and the first one that does not decides the operation, whatever it answers. So at
most one worker ever gets the request. The network is a machine that answers one exchange after the
other; what it remembers is its own affair.
-/
namespace Conduit

open Text.Utf8
open Json.Writable (write)

inductive Method where
  | get
  | post
  | put
  | delete
deriving DecidableEq, Repr

def Method.name : Method → String
  | get => "GET"
  | post => "POST"
  | put => "PUT"
  | delete => "DELETE"

/-- A request to one server. -/
structure Request where
  url : Url
  method : Method
  body : Option Json

/-- What became of a request. A body that broke off is no body. -/
inductive Reply where
  | refused
  | silent
  | closed
  | answered (status : Nat) (body : Option Bytes)

structure Network (σ : Type) where
  exchange : Request → σ → Reply × σ

/-- An operation, before it is addressed to a worker. -/
structure Operation where
  method : Method
  names : List String
  body : Option Json

structure WorkerClient where
  workers : List Worker

/-- How many operations were begun, and the state of the network. -/
structure ClientState (σ : Type) where
  begun : UInt64
  network : σ

/-- An action that exchanges messages and may fail. -/
abbrev Talk (σ α : Type) := ExceptT Fault (StateM (ClientState σ)) α

/-- The workers in cyclic order from a starting point. -/
def rotation {α : Type} (start : Nat) (all : List α) : List α :=
  all.drop (start % all.length) ++ all.take (start % all.length)

/-- Offers an operation to workers until one does not refuse. -/
def offer {σ : Type} (network : Network σ) (operation : Operation) : List Worker → σ → Reply × σ
  | [], state => (.refused, state)
  | worker :: rest, state =>
    match network.exchange ⟨worker.locate operation.names, operation.method,
      operation.body⟩ state with
    | (.refused, next) => offer network operation rest next
    | (reply, next) => (reply, next)

/-- The message of a refusal: the worker's own if the body is an error payload, else the body
itself unless it is blank, else the phrase of the status. -/
def refusalMessage (status : Nat) (body : Option Bytes) : String :=
  let text := mend (body.getD [])
  match (Json.readText text).bind (Payload.errorMessage Json.allowance) with
  | some message => message
  | none =>
    if Text.blank text then (Status.phrase? status).getD "unknown error" else text

/-- What an operation comes to: the body of a success, if it could be read. An answer that is no
answer, or only the announcement of one, breaks the exchange. -/
def settle (workers : List Worker) : Reply → Except Fault (Option Bytes)
  | .refused => .error (.unreachable (workers.map Worker.base))
  | .silent => .error (.exchange .timeout)
  | .closed => .error (.exchange .request)
  | .answered status sent =>
    if !Status.isCode status || Status.isInterim status then .error (.exchange .request)
    else
      let body := if Status.isBodiless status then some [] else sent
      if Status.isSuccess status then .ok body
      else .error (.worker status (refusalMessage status body))

namespace WorkerClient

def ofList (s : String) : Except Fault WorkerClient :=
  (Worker.parseList s).map fun workers => ⟨workers⟩

def bases (client : WorkerClient) : List String := client.workers.map Worker.base

section

variable {σ : Type} (client : WorkerClient) (network : Network σ)

/-- Runs one operation. -/
def run (operation : Operation) : Talk σ (Option Bytes) := do
  let state ← get
  let order := rotation state.begun.toNat client.workers
  let (reply, next) := offer network operation order state.network
  set (⟨state.begun + 1, next⟩ : ClientState σ)
  settle client.workers reply

/-- Reads the body of a success. -/
def decoded {α : Type} (decode : Json.Decoder α) (body : Option Bytes) : Except Fault α :=
  match body.bind fun bytes => (Json.read bytes).bind (decode Json.allowance) with
  | some value => .ok value
  | none => .error (.exchange .decode)

def fetch {α : Type} (decode : Json.Decoder α) (names : List String) : Talk σ α := do
  let body ← client.run network ⟨.get, names, none⟩
  decoded decode body

def tell (method : Method) (names : List String) : Talk σ Unit := do
  let _ ← client.run network ⟨method, names, none⟩

def create (name : String) (config : Settings) : Talk σ ConnectorInfo := do
  let body := Json.object [Json.member "name" (write name), Json.member "config" (write config)]
  decoded Payload.info (← client.run network ⟨.post, ["connectors"], some body⟩)

/-- Submits a definition; one that cannot be built is not sent. -/
def submit (draft : ConnectorDraft) (chance : String) : Talk σ ConnectorInfo := do
  let (name, config) ← (draft.build chance : Except Fault (String × Settings))
  client.create network name config

def delete (name : String) : Talk σ Unit := client.tell network .delete ["connectors", name]

def pause (name : String) : Talk σ Unit := client.tell network .put ["connectors", name, "pause"]

def resume (name : String) : Talk σ Unit := client.tell network .put ["connectors", name, "resume"]

def active : Talk σ (List String) := client.fetch network Payload.names ["connectors"]

def exists? (name : String) : Talk σ Bool := do
  return (← client.active network).contains name

def status (name : String) : Talk σ ConnectorStatus :=
  client.fetch network Payload.status ["connectors", name, "status"]

def config (name : String) : Talk σ Settings :=
  client.fetch network Payload.settings ["connectors", name, "config"]

def plugins : Talk σ (List Plugin) := client.fetch network Payload.plugins ["connector-plugins"]

end

end WorkerClient

end Conduit
