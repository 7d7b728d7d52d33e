import Conduit.Data.Table
import Conduit.Fault

/-!
# Task configurations

The settings that a connector hands to its tasks: a name, topics, a schema and options. They travel
as a flat map of texts in which the name and the topics have keys of their own, and the schema is
always present among the options in its written form. Building checks the name, then the topics,
then that a schema given both ways is the same. Settings given later replace earlier ones.
-/
namespace Conduit

structure TaskConfig where
  name : String
  topics : List String
  schema : List Column
  options : Settings
deriving DecidableEq

/-- A task configuration that is being put together. -/
structure TaskDraft where
  name : Option String
  topics : List String
  schema : List Column
  options : Settings

/-- One setting of a task configuration. -/
inductive TaskSetting where
  | name (name : String)
  | topic (topic : String)
  | topics (topics : List String)
  | schema (columns : List Column)
  | option (key value : String)
  | options (options : Settings)

open Json.Arguments (one two) in
instance : Json.Readable TaskSetting := ⟨Json.call
  [("name", one .name), ("topic", one .topic), ("topics", one .topics), ("schema", one .schema),
    ("option", two .option), ("options", one .options),
    ("columns_option", one fun columns => .option Column.optionKey (Column.encode columns))]⟩

namespace TaskConfig

def nameKey : String := "name"

def topicsKey : String := "topics"

def option? (config : TaskConfig) (key : String) : Option String := config.options.find? key

def requireOption (config : TaskConfig) (key : String) : Except Fault String :=
  match config.option? key with
  | some value => .ok value
  | none => .error (.connector (.missingOption key))

/-- The flat map. The name and the topics take the place of options under their keys. -/
def toProps (config : TaskConfig) : Settings :=
  (config.options.insert nameKey config.name).insert topicsKey (Text.joined "," config.topics)

end TaskConfig

namespace TaskDraft

def empty : TaskDraft := ⟨none, [], [], .empty⟩

def apply (draft : TaskDraft) : TaskSetting → TaskDraft
  | .name name => { draft with name := some name }
  | .topic topic => { draft with topics := [topic] }
  | .topics topics => { draft with topics := topics }
  | .schema columns => { draft with schema := columns }
  | .option key value => { draft with options := draft.options.insert key value }
  | .options options => { draft with options := draft.options.extend options }

def ofSettings (settings : List TaskSetting) : TaskDraft := settings.foldl apply empty

/-- The schema: the one among the options if there is one, which may not contradict the other. -/
def agreedSchema (draft : TaskDraft) : Except Fault (List Column) :=
  match draft.options.find? Column.optionKey with
  | none => .ok draft.schema
  | some written =>
    match Column.decode written with
    | .error cause => .error (.columns cause)
    | .ok declared =>
      if draft.schema ≠ [] ∧ declared ≠ draft.schema then .error (.config .columnsDiffer)
      else .ok declared

def build (draft : TaskDraft) : Except Fault TaskConfig :=
  match draft.name with
  | none => .error (.config .taskName)
  | some name =>
    if Text.blank name then .error (.config .taskName)
    else if draft.topics = [] then .error (.config .taskTopics)
    else
      match draft.agreedSchema with
      | .error fault => .error fault
      | .ok schema =>
        .ok ⟨name, draft.topics, schema,
          draft.options.insert Column.optionKey (Column.encode schema)⟩

end TaskDraft

namespace TaskConfig

def build (settings : List TaskSetting) : Except Fault TaskConfig :=
  (TaskDraft.ofSettings settings).build

/-- Reads the flat map back. -/
def ofProps (props : Settings) : Except Fault TaskConfig :=
  TaskDraft.build
    { name := some ((props.find? nameKey).getD "")
      topics := ((props.find? topicsKey).map Text.listed).getD []
      schema := []
      options := (props.erase nameKey).erase topicsKey }

end TaskConfig

end Conduit
