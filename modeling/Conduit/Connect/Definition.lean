import Conduit.Connect.TaskConfig

/-!
# Connector definitions

What is submitted to the workers to create a connector: a name and a map of settings. Free settings
are put in first and dedicated ones over them, so a dedicated setting always wins, in whatever
order they are given. A definition needs a class, topics none of which is blank, and at least one
task, checked in this order; the name may be left to chance.
-/
namespace Conduit

/-- One setting of a connector definition. -/
inductive ConnectorSetting where
  | name (name : String)
  | className (className : String)
  | topic (topic : String)
  | topics (topics : List String)
  | tasks (count : Nat)
  | bytesOnly
  | columns (columns : List Column)
  | config (key value : String)
  | configs (configs : Settings)

open Json.Arguments (zero one two) in
instance : Json.Readable ConnectorSetting := ⟨Json.call
  [("name", one .name), ("class", one .className), ("topic", one .topic), ("topics", one .topics),
    ("tasks", one .tasks), ("disable_converter", zero .bytesOnly), ("columns", one .columns),
    ("config", two .config), ("configs", one .configs)]⟩

structure ConnectorDraft where
  name : Option String
  className : Option String
  topics : List String
  tasks : Nat
  bytesOnly : Bool
  columns : Option (List Column)
  configs : Settings

namespace ConnectorDraft

/-- The converter that passes bytes through untouched. -/
def bytesConverter : String := "org.apache.kafka.connect.converters.ByteArrayConverter"

def classKey : String := "connector.class"

def tasksKey : String := "tasks.max"

def keyConverterKey : String := "key.converter"

def valueConverterKey : String := "value.converter"

def empty : ConnectorDraft := ⟨none, none, [], 1, false, none, .empty⟩

def apply (draft : ConnectorDraft) : ConnectorSetting → ConnectorDraft
  | .name name => { draft with name := some name }
  | .className className => { draft with className := some className }
  | .topic topic => { draft with topics := [topic] }
  | .topics topics => { draft with topics := topics }
  | .tasks count => { draft with tasks := count }
  | .bytesOnly => { draft with bytesOnly := true }
  | .columns columns => { draft with columns := some columns }
  | .config key value => { draft with configs := draft.configs.insert key value }
  | .configs configs => { draft with configs := draft.configs.extend configs }

def ofSettings (settings : List ConnectorSetting) : ConnectorDraft := settings.foldl apply empty

/-- The class, if it is given and not blank. -/
def usableClass (draft : ConnectorDraft) : Option String :=
  draft.className.filter fun className => !Text.blank className

/-- The free settings with the dedicated ones over them. -/
def settings (draft : ConnectorDraft) (name className : String) : Settings :=
  let named :=
    (((draft.configs.insert TaskConfig.nameKey name).insert classKey className).insert tasksKey
      (Number.naturalText draft.tasks)).insert TaskConfig.topicsKey (Text.joined "," draft.topics)
  let typed := match draft.columns with
    | some columns => named.insert Column.optionKey (Column.encode columns)
    | none => named
  if draft.bytesOnly then
    (typed.insert keyConverterKey bytesConverter).insert valueConverterKey bytesConverter
  else typed

/-- The name and the settings; `chance` is the name of a connector without one. -/
def build (draft : ConnectorDraft) (chance : String) : Except Fault (String × Settings) :=
  match draft.usableClass with
  | none => .error (.config .connectorClass)
  | some className =>
    if draft.topics = [] ∨ draft.topics.any Text.blank then .error (.config .connectorTopics)
    else if draft.tasks = 0 then .error (.config .taskCount)
    else
      let name := draft.name.getD chance
      .ok (name, draft.settings name className)

end ConnectorDraft

end Conduit
