import Conduit.Data.Table
import Conduit.Json.Notation
import Conduit.Json.Record
import Conduit.Schema.DataType

/-!
# What workers say

The payloads that a worker answers with, and the error payload, of which only the message is used.
Fields that a worker may leave out have a default; an absent text is written as `null`.
-/
namespace Conduit

open Json (Decoder)

structure TaskId where
  connector : String
  task : Nat
deriving DecidableEq

/-- A connector as a worker describes it once it is created. -/
structure ConnectorInfo where
  name : String
  config : Settings
  tasks : List TaskId
  kind : Option String

structure ConnectorHealth where
  state : ConnectorState
  workerId : String
  trace : Option String
deriving DecidableEq

structure TaskHealth where
  id : Nat
  state : ConnectorState
  workerId : String
  trace : Option String
deriving DecidableEq

structure ConnectorStatus where
  name : String
  connector : ConnectorHealth
  tasks : List TaskHealth
deriving DecidableEq

/-- A connector class that is installed on the workers. -/
structure Plugin where
  className : String
  kind : Option String
  version : Option String
deriving DecidableEq

namespace Payload

def names : Decoder (List String) := Json.Decode.list Json.Decode.text

/-- A map of texts; of a repeated key the last value counts. -/
def settings : Decoder Settings
  | _ + 1, .object members => do
    let entries ← members.mapM fun
      | (some key, .text (some value)) => some (key, value)
      | _ => none
    return Table.ofList entries
  | _, _ => none

def optionalText : Decoder (Option String) := Json.Decode.nullable Json.Decode.text

def word32 : Decoder Nat := Json.Decode.natural (Nat.pow 2 32 - 1)

def taskId : Decoder TaskId
  | depth + 1, json => do
    match ← Json.record [⟨"connector", .required⟩, ⟨"task", .required⟩] json with
    | [some connector, some task] =>
      return ⟨← Json.Decode.text depth connector, ← word32 depth task⟩
    | _ => none
  | 0, _ => none

def info : Decoder ConnectorInfo
  | depth + 1, json => do
    match ← Json.record
      [⟨"name", .required⟩, ⟨"config", .defaulted⟩, ⟨"tasks", .defaulted⟩,
        ⟨"type", .defaulted⟩] json with
    | [some name, config, tasks, kind] =>
      return ⟨← Json.Decode.text depth name, ← Json.Decode.absentOr .empty settings depth config,
        ← Json.Decode.absentOr [] (Json.Decode.list taskId) depth tasks,
        ← Json.Decode.absentOr none optionalText depth kind⟩
    | _ => none
  | 0, _ => none

def connectorHealth : Decoder ConnectorHealth
  | depth + 1, json => do
    match ← Json.record [⟨"state", .required⟩, ⟨"worker_id", .required⟩,
      ⟨"trace", .defaulted⟩] json with
    | [some state, some workerId, trace] =>
      return ⟨← ConnectorState.decode depth state, ← Json.Decode.text depth workerId,
        ← Json.Decode.absentOr none optionalText depth trace⟩
    | _ => none
  | 0, _ => none

def taskHealth : Decoder TaskHealth
  | depth + 1, json => do
    match ← Json.record
      [⟨"id", .required⟩, ⟨"state", .required⟩, ⟨"worker_id", .required⟩,
        ⟨"trace", .defaulted⟩] json with
    | [some id, some state, some workerId, trace] =>
      return ⟨← word32 depth id, ← ConnectorState.decode depth state,
        ← Json.Decode.text depth workerId,
        ← Json.Decode.absentOr none optionalText depth trace⟩
    | _ => none
  | 0, _ => none

def status : Decoder ConnectorStatus
  | depth + 1, json => do
    match ← Json.record [⟨"name", .required⟩, ⟨"connector", .required⟩,
      ⟨"tasks", .defaulted⟩] json with
    | [some name, some connector, tasks] =>
      return ⟨← Json.Decode.text depth name, ← connectorHealth depth connector,
        ← Json.Decode.absentOr [] (Json.Decode.list taskHealth) depth tasks⟩
    | _ => none
  | 0, _ => none

def plugin : Decoder Plugin
  | depth + 1, json => do
    match ← Json.record [⟨"class", .required⟩, ⟨"type", .defaulted⟩,
      ⟨"version", .defaulted⟩] json with
    | [some className, kind, version] =>
      return ⟨← Json.Decode.text depth className,
        ← Json.Decode.absentOr none optionalText depth kind,
        ← Json.Decode.absentOr none optionalText depth version⟩
    | _ => none
  | 0, _ => none

def plugins : Decoder (List Plugin) := Json.Decode.list plugin

/-- The message of an error payload, whose code has to fit 16 bits if it is there. -/
def errorMessage : Decoder String
  | depth + 1, json => do
    match ← Json.record [⟨"error_code", .optional⟩, ⟨"message", .required⟩] json with
    | [code, some message] =>
      let _ ← Json.Decode.absentOr none
          (Json.Decode.nullable (Json.Decode.natural 65535)) depth code
      Json.Decode.text depth message
    | _ => none
  | 0, _ => none

end Payload

open Json (member)
open Json.Writable (write)

instance : Json.Writable TaskId := ⟨fun id =>
  .object [member "connector" (write id.connector), member "task" (write id.task)]⟩

instance : Json.Writable ConnectorInfo := ⟨fun info =>
  .object [member "name" (write info.name), member "config" (write info.config),
    member "tasks" (write info.tasks), member "type" (write info.kind)]⟩

instance : Json.Writable ConnectorHealth := ⟨fun health =>
  .object [member "state" health.state.toJson, member "worker_id" (write health.workerId),
    member "trace" (write health.trace)]⟩

instance : Json.Writable TaskHealth := ⟨fun health =>
  .object [member "id" (write health.id), member "state" health.state.toJson,
    member "worker_id" (write health.workerId), member "trace" (write health.trace)]⟩

instance : Json.Writable ConnectorStatus := ⟨fun status =>
  .object [member "name" (write status.name), member "connector" (write status.connector),
    member "tasks" (write status.tasks)]⟩

instance : Json.Writable Plugin := ⟨fun plugin =>
  .object [member "class" (write plugin.className), member "type" (write plugin.kind),
    member "version" (write plugin.version)]⟩

end Conduit
