import Conduit.Connect.Definition
import Conduit.Proofs.Connect.TaskConfig

/-!
# Definitions as task configurations

The settings of a connector definition are what its tasks read their configuration from. Putting the
definition together looks at less than reading it does: topics are joined with commas as they are,
columns are spelled whether or not they have names, and the free settings are not looked at. So a
definition is read back as it was given exactly if its topics can be told apart and its columns can
be read.
-/
namespace Conduit.ConnectorDraft

/-- The configuration that tasks read is what the definition says. -/
structure ReadAs (draft : ConnectorDraft) (name : String) (config : Settings) (task : TaskConfig) :
    Prop where
  name : task.name = name
  topics : task.topics = draft.topics
  schema : ∀ columns ∈ draft.columns, task.schema = columns
  options : ∀ key, key ≠ TaskConfig.nameKey → key ≠ TaskConfig.topicsKey → key ≠ Column.optionKey →
    task.option? key = config.find? key

/-- Topics and columns are such that reading gives them back. -/
structure Legible (draft : ConnectorDraft) : Prop where
  topics : ∀ topic ∈ draft.topics, Text.Listable topic
  columns : match draft.columns with
    | some columns => ∀ column ∈ columns, column.name ≠ ""
    | none =>
      ∃ columns, Column.decode ((draft.configs.find? Column.optionKey).getD "") = .ok columns

variable {chance name : String} {config : Settings}

/-- The dedicated settings, in the order in which they are put over the free ones. -/
def dedicated (draft : ConnectorDraft) (name className : String) : List (String × String) :=
  [(TaskConfig.nameKey, name), (classKey, className), (tasksKey, Number.naturalText draft.tasks),
    (TaskConfig.topicsKey, Text.joined "," draft.topics)] ++
  (draft.columns.map fun columns => (Column.optionKey, Column.encode columns)).toList ++
  if draft.bytesOnly then
    [(keyConverterKey, bytesConverter), (valueConverterKey, bytesConverter)] else []

theorem find?_settings (draft : ConnectorDraft) (name className key : String) :
    (draft.settings name className).find? key =
      ((draft.dedicated name className).reverse.lookup key).or (draft.configs.find? key) := by
  rw [← Table.find?_foldl_insert_eq, ConnectorDraft.settings, dedicated]
  cases draft.columns <;> cases draft.bytesOnly <;> rfl

theorem lookup_dedicated (draft : ConnectorDraft) (name className : String) :
    let written := (draft.dedicated name className).reverse
    written.lookup TaskConfig.nameKey = some name ∧
      written.lookup TaskConfig.topicsKey = some (Text.joined "," draft.topics) ∧
      written.lookup Column.optionKey = draft.columns.map Column.encode := by
  rw [dedicated]
  cases draft.columns <;> cases draft.bytesOnly <;> exact ⟨rfl, rfl, rfl⟩

theorem of_build {draft : ConnectorDraft} (built : draft.build chance = .ok (name, config)) :
    draft.topics ≠ [] ∧ ∃ className, config = draft.settings name className := by
  unfold build at built
  split at built
  · cases built
  next className _ =>
    split at built
    · cases built
    next topics =>
      split at built
      · cases built
      · obtain ⟨rfl, rfl⟩ := Prod.mk.inj (Except.ok.inj built)
        exact ⟨fun none => topics (Or.inl none), className, rfl⟩

/-- Reading the settings of a definition that has a name finds the columns that were given, or else
those among the free settings. -/
theorem ofProps_settings {draft : ConnectorDraft} (named : Text.blank name = false)
    (className : String) :
    TaskConfig.ofProps (draft.settings name className) =
      let topics := Text.listed (Text.joined "," draft.topics)
      let columns := (draft.columns.map Column.encode).or (draft.configs.find? Column.optionKey)
      if topics = [] then .error (.config .taskTopics)
      else match Column.decode (columns.getD "") with
        | .error cause => .error (.columns cause)
        | .ok columns => .ok ⟨name, topics, columns,
            (((draft.settings name className).erase TaskConfig.nameKey).erase
              TaskConfig.topicsKey).insert
              Column.optionKey (Column.encode columns)⟩ := by
  obtain ⟨nameFound, topicsFound, columnsFound⟩ := lookup_dedicated draft name className
  rw [TaskConfig.ofProps_eq, find?_settings, find?_settings, find?_settings, nameFound, topicsFound,
    columnsFound]
  have unblank : ¬Text.blank name = true := by simp [named]
  exact if_neg unblank

/-- The columns of a legible definition are those that are read, and what is read makes it
legible. -/
theorem readable_iff (draft : ConnectorDraft) :
    (∃ columns, Column.decode (((draft.columns.map Column.encode).or
        (draft.configs.find? Column.optionKey)).getD "") = .ok columns ∧
      ∀ given ∈ draft.columns, columns = given) ↔
    match draft.columns with
    | some columns => ∀ column ∈ columns, column.name ≠ ""
    | none =>
      ∃ columns, Column.decode ((draft.configs.find? Column.optionKey).getD "") = .ok columns := by
  cases draft.columns with
  | none => simp
  | some given =>
    simp only [Option.map_some, Option.some_or, Option.getD_some, Column.decode_encode]
    constructor
    · rintro ⟨columns, read, -⟩
      split at read
      next named => simpa using named
      · cases read
    · intro named
      have all : (given.all fun column => column.name ≠ "") = true := by simpa using named
      rw [if_pos all]
      exact ⟨given, rfl, fun other same => Option.some.inj same⟩

/-- A definition with a name is read back as it was given if and only if it is legible: its topics
can be told apart in the joined text, and its columns have names or, if none were given, a free
setting in their place can be read. -/
theorem read_back_iff {settings : List ConnectorSetting}
    (built : (ofSettings settings).build chance = .ok (name, config))
    (named : Text.blank name = false) :
    (∃ task, TaskConfig.ofProps config = .ok task ∧ ReadAs (ofSettings settings) name config task) ↔
      (ofSettings settings).Legible := by
  obtain ⟨nonempty, className, rfl⟩ := of_build built
  generalize ofSettings settings = draft at nonempty
  rw [ofProps_settings named className]
  dsimp only
  constructor
  · rintro ⟨task, read, same⟩
    split at read
    · cases read
    · split at read
      · cases read
      next columns decoded =>
        cases read
        refine ⟨(Text.listed_joined_iff draft.topics).mp same.topics, ?_⟩
        exact (readable_iff draft).mp ⟨columns, decoded, same.schema⟩
  · intro legible
    obtain ⟨columns, decoded, given⟩ := (readable_iff draft).mpr legible.columns
    have topics := Text.listed_joined legible.topics
    rw [topics, if_neg nonempty, decoded]
    refine ⟨_, rfl, rfl, rfl, given, fun key apartName apartTopics apartColumns => ?_⟩
    rw [TaskConfig.option?, Table.find?_insert, Table.find?_erase, Table.find?_erase]
    simp [apartName, apartTopics, apartColumns]

/-- A copier with a column and two topics; a free setting stands in the place of a dedicated one. -/
def copier : List ConnectorSetting :=
  [.name "copy", .className "Copier", .topics ["orders", "refunds 2"],
    .columns [.of "price" .double 0], .config "tasks.max" "9", .config "output" "out"]

theorem copier_reads_back :
    ∃ config task, (ofSettings copier).build "" = .ok ("copy", config) ∧ Text.blank "copy" = false ∧
      TaskConfig.ofProps config = .ok task ∧ ReadAs (ofSettings copier) "copy" config task ∧
      task.option? "tasks.max" = some "1" ∧ task.option? "output" = some "out" := by
  have named : Text.blank "copy" = false := by decide
  have built : (ofSettings copier).build "" =
      .ok ("copy", (ofSettings copier).settings "copy" "Copier") := rfl
  have columns : ∀ column ∈ [Column.of "price" .double 0], column.name ≠ "" := by decide
  have legible : (ofSettings copier).Legible := ⟨by decide, columns⟩
  obtain ⟨task, read, same⟩ := (read_back_iff built named).mpr legible
  refine ⟨_, task, built, named, read, same, ?_, ?_⟩
  · exact same.options "tasks.max" (by decide) (by decide) (by decide)
  · exact same.options "output" (by decide) (by decide) (by decide)

/-- A topic with a comma is accepted and read back as two. -/
theorem comma_splits_topic :
    let hasty := ofSettings [.name "copy", .className "Copier", .topic "orders,refunds"]
    ∃ config, hasty.build "" = .ok ("copy", config) ∧
      ¬∃ task, TaskConfig.ofProps config = .ok task ∧ ReadAs hasty "copy" config task := by
  intro hasty
  refine ⟨hasty.settings "copy" "Copier", rfl, ?_⟩
  rintro ⟨task, read, same⟩
  obtain ⟨_, topics, _, _, written, _, rfl⟩ := TaskConfig.of_ofProps read
  rw [find?_settings, (lookup_dedicated hasty "copy" "Copier").2.1] at written
  obtain rfl : Text.joined "," hasty.topics = topics := Option.some.inj written
  have split : Text.listed (Text.joined "," hasty.topics) ≠ hasty.topics := by decide
  exact split same.topics

end Conduit.ConnectorDraft
