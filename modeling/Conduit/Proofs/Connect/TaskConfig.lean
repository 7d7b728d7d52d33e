import Conduit.Connect.TaskConfig
import Conduit.Proofs.Data.Table
import Conduit.Proofs.Schema.Column

/-!
# Task configurations through the flat map

What is built has a name, topics and the written schema among its options. The flat map takes the
name and the topics into keys of their own, in place of options that have them, and joins the topics
with commas. Reading it back builds a configuration with the topics that are listed there and
without options under those two keys, unless nothing is listed or a column has no name. So a
configuration comes back as it was exactly if its topics can be told apart, no option stands in the
way of the name or the topics, and all columns are named.
-/
namespace Conduit

/-- Nothing of the configuration is lost in the flat map. -/
structure TaskConfig.Clean (config : TaskConfig) : Prop where
  topics : ∀ topic ∈ config.topics, Text.Listable topic
  options : ∀ key ∈ config.options.keys, key ≠ TaskConfig.nameKey ∧ key ≠ TaskConfig.topicsKey
  columns : ∀ column ∈ config.schema, column.name ≠ ""

instance (config : TaskConfig) : Decidable config.Clean :=
  decidable_of_iff ((∀ topic ∈ config.topics, Text.Listable topic) ∧
    (∀ key ∈ config.options.keys, key ≠ TaskConfig.nameKey ∧ key ≠ TaskConfig.topicsKey) ∧
      ∀ column ∈ config.schema, column.name ≠ "")
    ⟨fun ⟨topics, options, columns⟩ => ⟨topics, options, columns⟩,
      fun ⟨topics, options, columns⟩ => ⟨topics, options, columns⟩⟩

/-- What building sees to. -/
structure TaskConfig.Built (config : TaskConfig) : Prop where
  name : Text.blank config.name = false
  topics : config.topics ≠ []
  schema : config.options.find? Column.optionKey = some (Column.encode config.schema)

namespace TaskDraft

theorem built_of_build {draft : TaskDraft} {config : TaskConfig}
    (built : draft.build = .ok config) :
    config.Built := by
  unfold build at built
  split at built
  · cases built
  · split at built
    · cases built
    next name _ blank =>
      split at built
      · cases built
      next topics =>
        split at built
        · cases built
        next schema _ =>
          obtain rfl := Except.ok.inj built
          exact ⟨by simpa using blank, topics, by simp [Table.find?_insert]⟩

/-- A draft without a schema of its own takes the one among the options. -/
theorem agreedSchema_eq {draft : TaskDraft} (undeclared : draft.schema = []) :
    draft.agreedSchema =
      (Column.decode ((draft.options.find? Column.optionKey).getD "")).mapError .columns := by
  rw [agreedSchema]
  cases draft.options.find? Column.optionKey with
  | none => exact congrArg Except.ok undeclared
  | some written =>
    dsimp only [Option.getD_some]
    cases Column.decode written with
    | error cause => rfl
    | ok declared => simp [undeclared, Except.mapError]

end TaskDraft

namespace TaskConfig

variable {config : TaskConfig}

/-- What comes back from the flat map, if there is no fault. -/
def returned (config : TaskConfig) : TaskConfig :=
  ⟨config.name, Text.listed (Text.joined "," config.topics), config.schema,
    (config.options.erase nameKey).erase topicsKey⟩

theorem find?_toProps (config : TaskConfig) (key : String) : config.toProps.find? key =
    if key == topicsKey then some (Text.joined "," config.topics)
    else if key == nameKey then some config.name else config.options.find? key := by
  rw [toProps, Table.find?_insert, Table.find?_insert]

/-- The options that come back. -/
theorem erase_toProps (config : TaskConfig) :
    (config.toProps.erase nameKey).erase topicsKey = config.returned.options := by
  refine Table.eq_of_find? fun key => ?_
  rw [returned, Table.find?_erase, Table.find?_erase, Table.find?_erase, Table.find?_erase,
    find?_toProps]
  -- The two keys are erased on both sides, and no other one is touched.
  by_cases topics : key = topicsKey
  · simp [topics]
  · by_cases name : key = nameKey <;> simp [topics, name]

/-- What is read from a flat map: the name and the listed topics, and with the columns all else that
is there. -/
theorem ofProps_eq (props : Settings) : ofProps props =
    let name := (props.find? nameKey).getD ""
    let topics := Text.listed ((props.find? topicsKey).getD "")
    if Text.blank name then .error (.config .taskName)
    else if topics = [] then .error (.config .taskTopics)
    else match Column.decode ((props.find? Column.optionKey).getD "") with
      | .error cause => .error (.columns cause)
      | .ok columns => .ok ⟨name, topics, columns,
          ((props.erase nameKey).erase topicsKey).insert Column.optionKey
            (Column.encode columns)⟩ := by
  have topics : ((props.find? topicsKey).map Text.listed).getD [] =
      Text.listed ((props.find? topicsKey).getD "") := by
    cases props.find? topicsKey <;> rfl
  have schema : ((props.erase nameKey).erase topicsKey).find? Column.optionKey =
      props.find? Column.optionKey := by
    rw [Table.find?_erase, Table.find?_erase]
    rfl
  rw [ofProps, topics, TaskDraft.build]
  dsimp only
  rw [TaskDraft.agreedSchema_eq rfl]
  dsimp only
  rw [schema]
  cases Column.decode ((props.find? Column.optionKey).getD "") <;> rfl

/-- Where a configuration that is read comes from. -/
theorem of_ofProps {props : Settings} (read : ofProps props = .ok config) :
    ∃ name topics columns, props.find? nameKey = some name ∧ props.find? topicsKey = some topics ∧
      Column.decode ((props.find? Column.optionKey).getD "") = .ok columns ∧
      config = ⟨name, Text.listed topics, columns,
        ((props.erase nameKey).erase topicsKey).insert Column.optionKey
          (Column.encode columns)⟩ := by
  -- Every refusal comes before what is read is put together.
  rw [ofProps_eq] at read
  dsimp only at read
  split at read
  · cases read
  next blank =>
    split at read
    · cases read
    next unlisted =>
      split at read
      · cases read
      next columns decoded =>
        cases named : props.find? nameKey with
        | none =>
          rw [named] at blank
          exact absurd rfl blank
        | some name =>
          cases listed : props.find? topicsKey with
          | none =>
            rw [listed] at unlisted
            exact absurd rfl unlisted
          | some topics =>
            rw [named, listed] at read
            exact ⟨name, topics, columns, rfl, rfl, decoded, (Except.ok.inj read).symm⟩

theorem ofProps_toProps (built : config.Built) : ofProps config.toProps =
    if config.returned.topics = [] then .error (.config .taskTopics)
    else if config.schema.all fun column => column.name ≠ "" then .ok config.returned
    else .error (.columns .nameless) := by
  have schema : config.returned.options.find? Column.optionKey =
      some (Column.encode config.schema) := by
    rw [returned, Table.find?_erase, Table.find?_erase, built.schema]
    rfl
  have name : config.toProps.find? nameKey = some config.name := find?_toProps config nameKey
  have topics : config.toProps.find? topicsKey = some (Text.joined "," config.topics) :=
    find?_toProps config topicsKey
  have written : config.toProps.find? Column.optionKey = some (Column.encode config.schema) :=
    (find?_toProps config Column.optionKey).trans built.schema
  -- The schema is among the options already, so that it need not be put there.
  have kept := Table.insert_eq_self schema
  rw [ofProps_eq, name, topics, written, erase_toProps]
  dsimp only [Option.getD_some]
  rw [built.name, if_neg Bool.false_ne_true, Column.decode_encode]
  by_cases named : config.schema.all fun column => column.name ≠ ""
  · rw [if_pos named, if_pos named]
    dsimp only
    rw [kept]
    rfl
  · rw [if_neg named, if_neg named]
    rfl

theorem erase_erase_eq_self_iff {options : Settings} :
    (options.erase nameKey).erase topicsKey = options ↔
      ∀ key ∈ options.keys, key ≠ nameKey ∧ key ≠ topicsKey := by
  constructor
  · intro same key member
    rw [← same, Table.mem_keys_erase, Table.mem_keys_erase] at member
    exact ⟨member.1.2, member.2⟩
  · intro apart
    have name : options.erase nameKey = options :=
      Table.erase_eq_self_iff.mpr fun member => (apart _ member).1 rfl
    rw [name]
    exact Table.erase_eq_self_iff.mpr fun member => (apart _ member).2 rfl

theorem returned_eq_self_iff : config.returned = config ↔
    (∀ topic ∈ config.topics, Text.Listable topic) ∧
      ∀ key ∈ config.options.keys, key ≠ nameKey ∧ key ≠ topicsKey := by
  rw [← Text.listed_joined_iff, ← erase_erase_eq_self_iff]
  exact ⟨fun same => ⟨congrArg TaskConfig.topics same, congrArg TaskConfig.options same⟩,
    fun ⟨topics, options⟩ => by rw [returned, topics, options]⟩

theorem clean_iff : config.Clean ↔
    config.returned = config ∧ (config.schema.all fun column => column.name ≠ "") = true := by
  rw [returned_eq_self_iff]
  constructor
  · rintro ⟨topics, options, columns⟩
    exact ⟨⟨topics, options⟩, by simpa using columns⟩
  · rintro ⟨⟨topics, options⟩, columns⟩
    exact ⟨topics, options, by simpa using columns⟩

theorem survives_iff (built : config.Built) :
    ofProps config.toProps = .ok config ↔ config.Clean := by
  rw [ofProps_toProps built, clean_iff]
  split
  next none =>
    -- Nothing is listed, but something was built.
    refine iff_of_false nofun fun clean => built.topics ?_
    rw [← clean.1, none]
  · split
    next named => rw [Except.ok.injEq, and_iff_left named]
    next nameless => exact iff_of_false nofun fun clean => nameless clean.2

/-- A configuration that was built comes back from the flat map if and only if it is clean; else
there is a fault, or another one comes back. -/
theorem ofProps_toProps_iff {settings : List TaskSetting} (built : build settings = .ok config) :
    (ofProps config.toProps = .ok config ↔ config.Clean) ∧
      (¬config.Clean → (∃ fault, ofProps config.toProps = .error fault) ∨
        ∃ other, other ≠ config ∧ ofProps config.toProps = .ok other) := by
  have survives := survives_iff (TaskDraft.built_of_build built)
  refine ⟨survives, fun unclean => ?_⟩
  cases back : ofProps config.toProps with
  | error fault => exact Or.inl ⟨fault, rfl⟩
  | ok other =>
    refine Or.inr ⟨other, ?_, rfl⟩
    rintro rfl
    exact unclean (survives.mp back)

/-- A task with a column and an option, as it is built. -/
def copyTask : TaskConfig :=
  ⟨"copy", ["orders", "refunds 2"], [.of "price" .double 0],
    .ofList [("output", "out"), (Column.optionKey, Column.encode [.of "price" .double 0])]⟩

/-- The same task, but an option takes the key of the topics. -/
def shadowedTask : TaskConfig :=
  { copyTask with options := copyTask.options.insert topicsKey "all" }

theorem copyTask_survives :
    build [.name "copy", .topics ["orders", "refunds 2"], .schema [.of "price" .double 0],
      .option "output" "out"] = .ok copyTask ∧
    ofProps copyTask.toProps = .ok copyTask ∧
    build [.name "copy", .topics ["orders", "refunds 2"], .option Column.optionKey
      (Column.encode [.of "price" .double 0]), .option "output" "out", .option topicsKey "all"] =
        .ok shadowedTask ∧
    ofProps shadowedTask.toProps ≠ .ok shadowedTask := by
  have built : build [.name "copy", .topics ["orders", "refunds 2"],
      .schema [.of "price" .double 0], .option "output" "out"] = .ok copyTask := by rfl
  have shadowed : build [.name "copy", .topics ["orders", "refunds 2"], .option Column.optionKey
      (Column.encode [.of "price" .double 0]), .option "output" "out", .option topicsKey "all"] =
        .ok shadowedTask := by rfl
  have clean : copyTask.Clean := by decide
  have unclean : ¬shadowedTask.Clean := by decide
  exact ⟨built, (ofProps_toProps_iff built).1.mpr clean, shadowed, fun back =>
    unclean ((ofProps_toProps_iff shadowed).1.mp back)⟩

end TaskConfig

end Conduit
