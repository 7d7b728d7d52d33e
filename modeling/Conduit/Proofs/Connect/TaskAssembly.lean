import Conduit.Proofs.Connect.TaskConfig
import Conduit.Proofs.Data.Latest

/-!
# Putting a task configuration together

Each part of a task configuration is what the latest call gave for it. The schema alone has two
sources, the call for it and the option under the key of the columns, and is built from both: the
option decides, but may not contradict the other one. Whichever source it came from, and however the
option was spelled, the configuration holds the schema and its written form.
-/
namespace Conduit

/-- A part of a task configuration that calls give the value of. -/
inductive TaskPart where
  | name
  | topics
  | schema
  | option (key : String)

namespace TaskSetting

def name? : TaskSetting → Option String
  | .name given => some given
  | _ => none

def topics? : TaskSetting → Option (List String)
  | .topic given => some [given]
  | .topics given => some given
  | _ => none

def schema? : TaskSetting → Option (List Column)
  | .schema given => some given
  | _ => none

def option? (key : String) : TaskSetting → Option String
  | .option written value => if key == written then some value else none
  | .options given => given.find? key
  | _ => none

/-- The call gives the value of the part. -/
def writes (setting : TaskSetting) : TaskPart → Bool
  | .name => setting.name?.isSome
  | .topics => setting.topics?.isSome
  | .schema => setting.schema?.isSome
  | .option key => (setting.option? key).isSome

end TaskSetting

namespace TaskDraft

/-! ### What a draft holds -/

theorem name_ofSettings (settings : List TaskSetting) :
    (ofSettings settings).name = latest TaskSetting.name? settings := by
  refine @foldl_latest_of_none _ _ _ apply name _ (fun draft setting => ?_) empty rfl settings
  cases setting <;> rfl

theorem topics_ofSettings (settings : List TaskSetting) :
    (ofSettings settings).topics = (latest TaskSetting.topics? settings).getD [] := by
  apply @foldl_latest_getD _ _ _ apply topics
  intro draft setting
  cases setting <;> rfl

theorem schema_ofSettings (settings : List TaskSetting) :
    (ofSettings settings).schema = (latest TaskSetting.schema? settings).getD [] := by
  apply @foldl_latest_getD _ _ _ apply schema
  intro draft setting
  cases setting <;> rfl

theorem find?_options_apply (draft : TaskDraft) (setting : TaskSetting) (key : String) :
    (draft.apply setting).options.find? key =
      (setting.option? key).or (draft.options.find? key) := by
  cases setting with
  | name | topic | topics | schema => rfl
  | option written value =>
    rw [apply, Table.find?_insert, TaskSetting.option?]
    split <;> rfl
  | options options => exact Table.find?_extend _ _ _

theorem find?_options_ofSettings (settings : List TaskSetting) (key : String) :
    (ofSettings settings).options.find? key = latest (TaskSetting.option? key) settings := by
  refine @foldl_latest_of_none _ _ _ apply (fun draft => draft.options.find? key) _
    (fun draft setting => ?_) empty rfl
    settings
  exact find?_options_apply draft setting key

/-- Calls that come in the same order for each part leave the same draft. -/
theorem ofSettings_eq {settings others : List TaskSetting}
    (same : SameOrder TaskSetting.writes settings others) :
    ofSettings others = ofSettings settings := by
  have name : (ofSettings others).name = (ofSettings settings).name := by
    rw [name_ofSettings, name_ofSettings, same.latest_eq .name fun _ => id]
  have topics : (ofSettings others).topics = (ofSettings settings).topics := by
    rw [topics_ofSettings, topics_ofSettings, same.latest_eq .topics fun _ => id]
  have schema : (ofSettings others).schema = (ofSettings settings).schema := by
    rw [schema_ofSettings, schema_ofSettings, same.latest_eq .schema fun _ => id]
  have options : (ofSettings others).options = (ofSettings settings).options := by
    apply Table.eq_of_find?
    intro key
    rw [find?_options_ofSettings, find?_options_ofSettings,
      same.latest_eq (.option key) fun _ => id]
  change TaskDraft.mk (ofSettings others).name (ofSettings others).topics (ofSettings others).schema
    (ofSettings others).options = ofSettings settings
  rw [name, topics, schema, options]

/-! ### What is built from a draft -/

variable {draft : TaskDraft} {config : TaskConfig}

theorem agreedSchema_eq_ok_iff {schema : List Column} :
    draft.agreedSchema = .ok schema ↔ match draft.options.find? Column.optionKey with
      | some text => Column.decode text = .ok schema ∧ (draft.schema ≠ [] → schema = draft.schema)
      | none => schema = draft.schema := by
  rw [agreedSchema]
  cases draft.options.find? Column.optionKey with
  | none => exact ⟨fun same => (Except.ok.inj same).symm, fun same => congrArg Except.ok same.symm⟩
  | some text =>
    dsimp only
    cases Column.decode text with
    | error cause =>
      constructor
      · intro same
        cases same
      · rintro ⟨decoded, -⟩
        cases decoded
    | ok declared =>
      dsimp only
      -- The option decides, unless a schema was given that is another one.
      split
      next contradiction =>
        constructor
        · intro same
          cases same
        · rintro ⟨decoded, agrees⟩
          obtain rfl := Except.ok.inj decoded
          exact absurd (agrees contradiction.1) contradiction.2
      next agrees =>
        rw [not_and, not_not] at agrees
        constructor
        · intro same
          obtain rfl := Except.ok.inj same
          exact ⟨rfl, agrees⟩
        · rintro ⟨decoded, -⟩
          exact congrArg Except.ok (Except.ok.inj decoded)

theorem agreedSchema_of_schema (absent : draft.options.find? Column.optionKey = none) :
    draft.agreedSchema = .ok draft.schema := by
  rw [agreedSchema_eq_ok_iff, absent]

theorem agreedSchema_of_option {columns : List Column} {text : String}
    (written : draft.options.find? Column.optionKey = some text)
    (decoded : Column.decode text = .ok columns)
    (agrees : draft.schema = [] ∨ draft.schema = columns) : draft.agreedSchema = .ok columns := by
  rw [agreedSchema_eq_ok_iff, written]
  exact ⟨decoded, fun nonempty => (agrees.resolve_left nonempty).symm⟩

theorem build_eq_ok_iff : draft.build = .ok config ↔
    draft.name = some config.name ∧ Text.blank config.name = false ∧ draft.topics = config.topics ∧
      config.topics ≠ [] ∧ draft.agreedSchema = .ok config.schema ∧
      config.options = draft.options.insert Column.optionKey (Column.encode config.schema) := by
  constructor
  · -- What is built has passed the checks of the name, of the topics and of the schema.
    intro built
    unfold build at built
    split at built
    · cases built
    next name given =>
      split at built
      · cases built
      next blank =>
        split at built
        · cases built
        next topics =>
          split at built
          · cases built
          next schema agreed =>
            obtain rfl := Except.ok.inj built
            exact ⟨given, by simpa using blank, rfl, topics, agreed, rfl⟩
  · rintro ⟨name, blank, topics, nonempty, schema, options⟩
    have unblank : ¬Text.blank config.name = true := by simp [blank]
    have listed : ¬draft.topics = [] := topics ▸ nonempty
    rw [build, name]
    dsimp only
    rw [if_neg unblank, if_neg listed, schema]
    dsimp only
    rw [topics, ← options]

theorem exists_build_iff : (∃ config, draft.build = .ok config) ↔
    (∃ name ∈ draft.name, Text.blank name = false) ∧ draft.topics ≠ [] ∧
      ∃ schema, draft.agreedSchema = .ok schema := by
  constructor
  · rintro ⟨config, built⟩
    obtain ⟨name, blank, topics, nonempty, schema, -⟩ := build_eq_ok_iff.mp built
    exact ⟨⟨config.name, name, blank⟩, topics ▸ nonempty, config.schema, schema⟩
  · rintro ⟨⟨name, given, blank⟩, topics, schema, agreed⟩
    refine ⟨⟨name, draft.topics, schema,
      draft.options.insert Column.optionKey (Column.encode schema)⟩, ?_⟩
    exact build_eq_ok_iff.mpr ⟨given, blank, rfl, topics, agreed, rfl⟩

/-- What is built depends on the two sources of the schema only through that on which they agree. -/
theorem build_congr {one other : TaskDraft} (name : one.name = other.name)
    (topics : one.topics = other.topics) (schema : one.agreedSchema = other.agreedSchema)
    (options : ∀ key, key ≠ Column.optionKey → one.options.find? key = other.options.find? key) :
    one.build = other.build := by
  have written (columns : List Column) :
      one.options.insert Column.optionKey (Column.encode columns) =
        other.options.insert Column.optionKey (Column.encode columns) := by
    apply Table.eq_of_find?
    intro key
    rw [Table.find?_insert, Table.find?_insert]
    split
    · rfl
    next apart => exact options key (by simpa using apart)
  simp only [build, name, topics, schema, written]

end TaskDraft

namespace TaskConfig

open TaskDraft

/-- Building succeeds if and only if the latest name is not blank, the latest topics are some, and
the latest option for the columns, if there is one, can be read and is the latest schema unless this
is empty. Every part of what is built is what was given for it last; only the schema is the one of
the option, and the option is the written schema.

So calls that give the value of different parts may change places, and columns may be given by
either source: as a schema, or by any text that is read as these columns. -/
theorem build_latest (settings : List TaskSetting) :
    let name := latest TaskSetting.name? settings
    let topics := (latest TaskSetting.topics? settings).getD []
    let schema := (latest TaskSetting.schema? settings).getD []
    let option (key : String) := latest (TaskSetting.option? key) settings
    ((∃ config, build settings = .ok config) ↔
      (∃ given ∈ name, Text.blank given = false) ∧ topics ≠ [] ∧
        ∀ text ∈ option Column.optionKey, ∃ declared,
          Column.decode text = .ok declared ∧ (schema ≠ [] → declared = schema)) ∧
    (∀ config, build settings = .ok config →
      name = some config.name ∧ config.topics = topics ∧
      (match option Column.optionKey with
        | some text => Column.decode text = .ok config.schema
        | none => config.schema = schema) ∧
      ∀ key, config.option? key =
        if key = Column.optionKey then some (Column.encode config.schema) else option key) ∧
    (∀ others, SameOrder TaskSetting.writes settings others → build others = build settings) ∧
    (∀ others columns text, latest TaskSetting.schema? settings = some columns →
      option Column.optionKey = none →
      latest (TaskSetting.option? Column.optionKey) others = some text →
      Column.decode text = .ok columns →
      ((latest TaskSetting.schema? others).getD [] = [] ∨
        (latest TaskSetting.schema? others).getD [] = columns) →
      latest TaskSetting.name? others = name →
      latest TaskSetting.topics? others = latest TaskSetting.topics? settings →
      (∀ key, key ≠ Column.optionKey → latest (TaskSetting.option? key) others = option key) →
      build others = build settings) := by
  intro name topics schema option
  have agreed := @agreedSchema_eq_ok_iff (ofSettings settings)
  rw [find?_options_ofSettings, schema_ofSettings] at agreed
  refine ⟨?_, fun config built => ?_, fun others same => ?_, ?_⟩
  · rw [build, exists_build_iff, name_ofSettings, topics_ofSettings]
    refine and_congr Iff.rfl (and_congr Iff.rfl ?_)
    simp only [agreed, option, schema]
    cases latest (TaskSetting.option? Column.optionKey) settings with
    | none => exact ⟨fun _ => nofun, fun _ => ⟨_, rfl⟩⟩
    | some text => simp
  · obtain ⟨given, -, listed, -, found, options⟩ := build_eq_ok_iff.mp built
    rw [name_ofSettings] at given
    rw [topics_ofSettings] at listed
    refine ⟨given, listed.symm, ?_, fun key => ?_⟩
    · have source := agreed.mp found
      simp only [option]
      generalize latest (TaskSetting.option? Column.optionKey) settings = written at source
      cases written with
      | none => exact source
      | some text => exact source.1
    · rw [option?, options, Table.find?_insert, find?_options_ofSettings]
      simp only [beq_iff_eq, option]
  · rw [build, build, ofSettings_eq same]
  · -- Both sources come to the same columns, and nothing else in the drafts differs but the option
    -- for them.
    intro others columns text given absent written decoded agrees sameName sameTopics sameOptions
    rw [← schema_ofSettings] at agrees
    rw [← find?_options_ofSettings] at written
    have byOption := agreedSchema_of_option written decoded agrees
    have bySchema := @agreedSchema_of_schema (ofSettings settings)
      (by rw [find?_options_ofSettings]; exact absent)
    rw [schema_ofSettings, given, Option.getD_some] at bySchema
    apply build_congr
    · rw [name_ofSettings, name_ofSettings, sameName]
    · rw [topics_ofSettings, topics_ofSettings, sameTopics]
    · rw [byOption, bySchema]
    · intro key apart
      rw [find?_options_ofSettings, find?_options_ofSettings]
      exact sameOptions key apart

/-- The calls for the task with a column and an option. The name is given twice. -/
def copyCalls : List TaskSetting :=
  [.name "draft", .topics ["orders", "refunds 2"], .schema [.of "price" .double 0],
    .option "output" "out", .name "copy"]

/-- The same task, but the column is given by an option with blanks around it. -/
def spacedCalls : List TaskSetting :=
  [.option Column.optionKey ("\n" ++ Column.encode [.of "price" .double 0] ++ " "),
    .option "output" "out", .name "copy", .topics ["orders", "refunds 2"]]

theorem copyTask_either_way :
    let swapped := [.name "draft", .schema [.of "price" .double 0], .topics ["orders", "refunds 2"],
      .option "output" "out", .name "copy"]
    SameOrder TaskSetting.writes copyCalls swapped ∧ build copyCalls = .ok copyTask ∧
      build swapped = .ok copyTask ∧
      build spacedCalls = .ok copyTask ∧ copyTask.option? "output" = some "out" ∧
      copyTask.option? Column.optionKey = some (Column.encode copyTask.schema) := by
  intro swapped
  have built : build copyCalls = .ok copyTask := by rfl
  have same : SameOrder TaskSetting.writes copyCalls swapped := by
    refine SameOrder.swap (fun part => ?_) [TaskSetting.name "draft"] _
    cases part with
    | topics => exact Or.inr rfl
    | name | schema | option => exact Or.inl rfl
  obtain ⟨-, parts, permuted, either⟩ := build_latest copyCalls
  obtain ⟨-, -, -, options⟩ := parts copyTask built
  refine ⟨same, built, (permuted swapped same).trans built, ?_, options "output",
    options Column.optionKey⟩
  rw [← built]
  refine either spacedCalls [.of "price" .double 0] _ rfl rfl rfl (by rfl)
    (Or.inl rfl) rfl rfl fun key apart => ?_
  have absent : (key == Column.optionKey) = false := by simpa using apart
  simp only [latest, spacedCalls, copyCalls, List.filterMap_cons, TaskSetting.option?, absent]
  rfl

end TaskConfig

end Conduit
