import Conduit.Proofs.Connect.Definition
import Conduit.Proofs.Data.Latest
import Conduit.Proofs.Number.Numeral

/-!
# Dedicated settings come before free ones

A definition is put together from calls of which each gives the value of a part: one of the
dedicated parts or a free setting. Under the key of a dedicated part stands what was given for it
last, whatever free setting has the same key and whichever came first; a free setting stands where
no dedicated one does. So only the order of the calls for one part matters.
-/
namespace Conduit

/-- A part of a connector definition that calls give the value of. -/
inductive ConnectorPart where
  | name
  | className
  | topics
  | tasks
  | converters
  | columns
  | config (key : String)

namespace ConnectorSetting

def name? : ConnectorSetting → Option String
  | .name given => some given
  | _ => none

def className? : ConnectorSetting → Option String
  | .className given => some given
  | _ => none

def topics? : ConnectorSetting → Option (List String)
  | .topic given => some [given]
  | .topics given => some given
  | _ => none

def tasks? : ConnectorSetting → Option Nat
  | .tasks given => some given
  | _ => none

def isBytesOnly : ConnectorSetting → Bool
  | .bytesOnly => true
  | _ => false

def columns? : ConnectorSetting → Option (List Column)
  | .columns given => some given
  | _ => none

def config? (key : String) : ConnectorSetting → Option String
  | .config written value => if key == written then some value else none
  | .configs given => given.find? key
  | _ => none

/-- The call gives the value of the part. -/
def writes (setting : ConnectorSetting) : ConnectorPart → Bool
  | .name => setting.name?.isSome
  | .className => setting.className?.isSome
  | .topics => setting.topics?.isSome
  | .tasks => setting.tasks?.isSome
  | .converters => setting.isBytesOnly
  | .columns => setting.columns?.isSome
  | .config key => (setting.config? key).isSome

end ConnectorSetting

namespace ConnectorDraft

/-! ### What a draft holds -/

theorem name_ofSettings (settings : List ConnectorSetting) :
    (ofSettings settings).name = latest ConnectorSetting.name? settings := by
  refine @foldl_latest_of_none _ _ _ apply name _ (fun draft setting => ?_) empty rfl settings
  cases setting <;> rfl

theorem className_ofSettings (settings : List ConnectorSetting) :
    (ofSettings settings).className = latest ConnectorSetting.className? settings := by
  refine @foldl_latest_of_none _ _ _ apply className _ (fun draft setting => ?_) empty rfl settings
  cases setting <;> rfl

theorem topics_ofSettings (settings : List ConnectorSetting) :
    (ofSettings settings).topics = (latest ConnectorSetting.topics? settings).getD [] := by
  apply @foldl_latest_getD _ _ _ apply topics
  intro draft setting
  cases setting <;> rfl

theorem tasks_ofSettings (settings : List ConnectorSetting) :
    (ofSettings settings).tasks = (latest ConnectorSetting.tasks? settings).getD 1 := by
  apply @foldl_latest_getD _ _ _ apply tasks
  intro draft setting
  cases setting <;> rfl

theorem columns_ofSettings (settings : List ConnectorSetting) :
    (ofSettings settings).columns = latest ConnectorSetting.columns? settings := by
  refine @foldl_latest_of_none _ _ _ apply columns _ (fun draft setting => ?_) empty rfl settings
  cases setting <;> rfl

theorem bytesOnly_ofSettings (settings : List ConnectorSetting) :
    (ofSettings settings).bytesOnly = settings.any ConnectorSetting.isBytesOnly := by
  induction settings using List.reverseRecOn with
  | nil => rfl
  | append_singleton settings setting ih =>
    rw [ofSettings] at ih ⊢
    rw [List.foldl_append, List.foldl_cons, List.foldl_nil, List.any_append, List.any_cons,
      List.any_nil, ← ih, Bool.or_false]
    cases setting with
    | bytesOnly => exact (Bool.or_true _).symm
    | _ => exact (Bool.or_false _).symm

theorem bytesOnly_ofSettings_iff (settings : List ConnectorSetting) :
    (ofSettings settings).bytesOnly = true ↔ .bytesOnly ∈ settings := by
  rw [bytesOnly_ofSettings, List.any_eq_true]
  constructor
  · rintro ⟨setting, member, is⟩
    cases setting with
    | bytesOnly => exact member
    | _ => cases is
  · intro member
    exact ⟨_, member, rfl⟩

theorem find?_configs_apply (draft : ConnectorDraft) (setting : ConnectorSetting) (key : String) :
    (draft.apply setting).configs.find? key =
      (setting.config? key).or (draft.configs.find? key) := by
  cases setting with
  | name | className | topic | topics | tasks | bytesOnly | columns => rfl
  | config written value =>
    rw [apply, Table.find?_insert, ConnectorSetting.config?]
    split <;> rfl
  | configs configs => exact Table.find?_extend _ _ _

theorem find?_configs_ofSettings (settings : List ConnectorSetting) (key : String) :
    (ofSettings settings).configs.find? key = latest (ConnectorSetting.config? key) settings := by
  refine @foldl_latest_of_none _ _ _ apply (fun draft => draft.configs.find? key) _
    (fun draft setting => ?_) empty rfl
    settings
  exact find?_configs_apply draft setting key

/-- Calls that come in the same order for each part leave the same draft. -/
theorem ofSettings_eq {settings others : List ConnectorSetting}
    (same : SameOrder ConnectorSetting.writes settings others) :
    ofSettings others = ofSettings settings := by
  have name : (ofSettings others).name = (ofSettings settings).name := by
    rw [name_ofSettings, name_ofSettings, same.latest_eq .name fun _ => id]
  have className : (ofSettings others).className = (ofSettings settings).className := by
    rw [className_ofSettings, className_ofSettings, same.latest_eq .className fun _ => id]
  have topics : (ofSettings others).topics = (ofSettings settings).topics := by
    rw [topics_ofSettings, topics_ofSettings, same.latest_eq .topics fun _ => id]
  have tasks : (ofSettings others).tasks = (ofSettings settings).tasks := by
    rw [tasks_ofSettings, tasks_ofSettings, same.latest_eq .tasks fun _ => id]
  have bytesOnly : (ofSettings others).bytesOnly = (ofSettings settings).bytesOnly := by
    -- The flag is set by any of the calls for the converters, not by the latest alone.
    have kept (calls : List ConnectorSetting) : calls.any ConnectorSetting.isBytesOnly =
        (calls.filter (ConnectorSetting.writes · .converters)).any fun _ => true := by
      rw [List.any_filter]
      simp [ConnectorSetting.writes]
    rw [bytesOnly_ofSettings, bytesOnly_ofSettings, kept, kept, same .converters]
  have columns : (ofSettings others).columns = (ofSettings settings).columns := by
    rw [columns_ofSettings, columns_ofSettings, same.latest_eq .columns fun _ => id]
  have configs : (ofSettings others).configs = (ofSettings settings).configs := by
    apply Table.eq_of_find?
    intro key
    rw [find?_configs_ofSettings, find?_configs_ofSettings,
      same.latest_eq (.config key) fun _ => id]
  change ConnectorDraft.mk (ofSettings others).name (ofSettings others).className
      (ofSettings others).topics (ofSettings others).tasks (ofSettings others).bytesOnly
      (ofSettings others).columns (ofSettings others).configs = ofSettings settings
  rw [name, className, topics, tasks, bytesOnly, columns, configs]

/-! ### What is built from a draft -/

theorem usableClass_eq_some_iff {draft : ConnectorDraft} {className : String} :
    draft.usableClass = some className ↔
      draft.className = some className ∧ Text.blank className = false := by
  rw [usableClass, Option.filter_eq_some_iff]
  simp

/-- The keys of dedicated settings. -/
def dedicatedKeys : List String :=
  [TaskConfig.nameKey, classKey, tasksKey, TaskConfig.topicsKey, Column.optionKey, keyConverterKey,
    valueConverterKey]

theorem keys_dedicated (draft : ConnectorDraft) (name className : String) :
    (draft.dedicated name className).map Prod.fst ⊆ dedicatedKeys := by
  rw [dedicated]
  cases draft.columns <;> cases draft.bytesOnly <;> simp [dedicatedKeys]

/-- Beside those that tasks read. -/
theorem lookup_dedicated_rest (draft : ConnectorDraft) (name className : String) :
    let written := (draft.dedicated name className).reverse
    written.lookup classKey = some className ∧
      written.lookup tasksKey = some (Number.naturalText draft.tasks) ∧
      (∀ key, key = keyConverterKey ∨ key = valueConverterKey →
        written.lookup key = if draft.bytesOnly then some bytesConverter else none) ∧
      ∀ key, key ∉ dedicatedKeys → written.lookup key = none := by
  refine ⟨?_, ?_, ?_, ?_⟩
  · rw [dedicated]
    cases draft.columns <;> cases draft.bytesOnly <;> rfl
  · rw [dedicated]
    cases draft.columns <;> cases draft.bytesOnly <;> rfl
  · intro key converter
    rw [dedicated]
    rcases converter with rfl | rfl
    · cases draft.columns <;> cases draft.bytesOnly <;> rfl
    · cases draft.columns <;> cases draft.bytesOnly <;> rfl
  · intro key free
    rw [List.lookup_eq_none_iff]
    intro entry member
    rw [bne_iff_ne]
    rintro rfl
    refine free (keys_dedicated draft name className ?_)
    exact List.mem_map_of_mem (List.mem_reverse.mp member)

/-- What is found in the settings of a definition. -/
theorem find?_settings_cases (draft : ConnectorDraft) (name className : String) :
    let config := draft.settings name className
    config.find? TaskConfig.nameKey = some name ∧
      config.find? classKey = some className ∧
      config.find? tasksKey = some draft.tasks.repr ∧
      config.find? TaskConfig.topicsKey = some (Text.joined "," draft.topics) ∧
      config.find? Column.optionKey =
        (draft.columns.map Column.encode).or (draft.configs.find? Column.optionKey) ∧
      (∀ key, key = keyConverterKey ∨ key = valueConverterKey →
        config.find? key =
          if draft.bytesOnly then some bytesConverter else draft.configs.find? key) ∧
      ∀ key, key ∉ dedicatedKeys → config.find? key = draft.configs.find? key := by
  obtain ⟨nameFound, topicsFound, columnsFound⟩ := lookup_dedicated draft name className
  obtain ⟨classFound, tasksFound, convertersFound, free⟩ :=
    lookup_dedicated_rest draft name className
  refine ⟨?_, ?_, ?_, ?_, ?_, fun key converter => ?_, fun key other => ?_⟩
  · rw [find?_settings, nameFound, Option.some_or]
  · rw [find?_settings, classFound, Option.some_or]
  · rw [find?_settings, tasksFound, Option.some_or, Number.naturalText_eq_repr]
  · rw [find?_settings, topicsFound, Option.some_or]
  · rw [find?_settings, columnsFound]
  · rw [find?_settings, convertersFound key converter]
    cases draft.bytesOnly <;> rfl
  · rw [find?_settings, free key other, Option.none_or]

/-- The checks in their order, and what passes them. -/
theorem build_cases (draft : ConnectorDraft) (chance : String) :
    let classed := ∃ given ∈ draft.className, Text.blank given = false
    let topical := draft.topics ≠ [] ∧ ∀ topic ∈ draft.topics, Text.blank topic = false
    (¬classed → draft.build chance = .error (.config .connectorClass)) ∧
    (classed → ¬topical → draft.build chance = .error (.config .connectorTopics)) ∧
    (classed → topical → draft.tasks = 0 → draft.build chance = .error (.config .taskCount)) ∧
    (classed → topical → draft.tasks ≠ 0 → ∃ className, draft.className = some className ∧
      draft.build chance =
        .ok (draft.name.getD chance, draft.settings (draft.name.getD chance) className)) := by
  intro classed topical
  have topicsChecked : ¬(draft.topics = [] ∨ draft.topics.any Text.blank) ↔ topical := by
    simp [topical]
  rw [build]
  -- The class is looked at first, and without one at nothing else.
  cases usable : draft.usableClass with
  | none =>
    have unclassed : ¬classed := by
      rintro ⟨className, given, unblank⟩
      rw [usableClass_eq_some_iff.mpr ⟨given, unblank⟩] at usable
      cases usable
    refine ⟨fun _ => rfl, ?_, ?_, ?_⟩ <;> exact fun is => absurd is unclassed
  | some className =>
    obtain ⟨given, unblank⟩ := usableClass_eq_some_iff.mp usable
    dsimp only
    refine ⟨absurd ⟨className, given, unblank⟩, fun _ untopical => ?_, fun _ listed zero => ?_,
      fun _ listed positive => ⟨className, given, ?_⟩⟩
    · rw [if_pos (not_not.mp (mt topicsChecked.mp untopical))]
    · rw [if_neg (topicsChecked.mpr listed), if_pos zero]
    · rw [if_neg (topicsChecked.mpr listed), if_neg positive]

/-- A definition is refused for its class, its topics or its number of tasks, in this order.
Otherwise it has the given name or that of chance, and each dedicated setting under its key, as it
was given last; under every other key, and under those of columns and converters for which nothing
was said, it has the free setting that was given last, and none else. Of the calls only the order of
those for one part matters. -/
theorem dedicated_settings_win (settings : List ConnectorSetting) (chance : String) :
    let className := latest ConnectorSetting.className? settings
    let topics := (latest ConnectorSetting.topics? settings).getD []
    let tasks := (latest ConnectorSetting.tasks? settings).getD 1
    let columns := latest ConnectorSetting.columns? settings
    let free (key : String) := latest (ConnectorSetting.config? key) settings
    let classed := ∃ given ∈ className, Text.blank given = false
    let topical := topics ≠ [] ∧ ∀ topic ∈ topics, Text.blank topic = false
    let result := (ofSettings settings).build chance
    ((∃ built, result = .ok built) ↔ classed ∧ topical ∧ tasks ≠ 0) ∧
    (¬classed → result = .error (.config .connectorClass)) ∧
    (classed → ¬topical → result = .error (.config .connectorTopics)) ∧
    (classed → topical → tasks = 0 → result = .error (.config .taskCount)) ∧
    (∀ name config, result = .ok (name, config) →
      name = (latest ConnectorSetting.name? settings).getD chance ∧
      config.find? TaskConfig.nameKey = some name ∧
      config.find? classKey = className ∧
      config.find? tasksKey = some tasks.repr ∧
      config.find? TaskConfig.topicsKey = some (Text.joined "," topics) ∧
      config.find? Column.optionKey = (columns.map Column.encode).or (free Column.optionKey) ∧
      (∀ key, key = keyConverterKey ∨ key = valueConverterKey →
        (.bytesOnly ∈ settings → config.find? key = some bytesConverter) ∧
        (.bytesOnly ∉ settings → config.find? key = free key)) ∧
      ∀ key, key ∉ dedicatedKeys → config.find? key = free key) ∧
    ∀ others, SameOrder ConnectorSetting.writes settings others →
      (ofSettings others).build chance = result := by
  intro className topics tasks columns free classed topical result
  obtain ⟨classless, topicless, taskless, passes⟩ := build_cases (ofSettings settings) chance
  rw [className_ofSettings] at classless topicless taskless passes
  rw [topics_ofSettings] at topicless taskless passes
  rw [tasks_ofSettings] at taskless passes
  -- What is built has passed the checks one after the other.
  have needs (built : String × Settings) (success : result = .ok built) :
      classed ∧ topical ∧ tasks ≠ 0 := by
    have given : classed := by
      by_contra unclassed
      cases (classless unclassed).symm.trans success
    have listed : topical := by
      by_contra untopical
      cases (topicless given untopical).symm.trans success
    refine ⟨given, listed, fun zero => ?_⟩
    cases (taskless given listed zero).symm.trans success
  refine ⟨⟨fun ⟨built, success⟩ => needs built success, ?_⟩, classless, topicless, taskless, ?_,
    fun others same => ?_⟩
  · rintro ⟨given, listed, positive⟩
    obtain ⟨className, -, built⟩ := passes given listed positive
    exact ⟨_, built⟩
  · intro name config success
    obtain ⟨given, listed, positive⟩ := needs (name, config) success
    obtain ⟨given, same, built⟩ := passes given listed positive
    obtain ⟨rfl, rfl⟩ := Prod.mk.inj (Except.ok.inj (success.symm.trans built))
    obtain ⟨named, typed, counted, told, columned, converters, others⟩ :=
      find?_settings_cases (ofSettings settings) ((ofSettings settings).name.getD chance) given
    rw [tasks_ofSettings] at counted
    rw [topics_ofSettings] at told
    rw [columns_ofSettings, find?_configs_ofSettings] at columned
    refine ⟨?_, named, typed.trans same.symm, counted, told, columned, fun key converter =>
      ⟨?_, ?_⟩, ?_⟩
    · rw [name_ofSettings]
    · intro called
      rw [converters key converter, (bytesOnly_ofSettings_iff settings).mpr called]
      rfl
    · intro uncalled
      rw [converters key converter, if_neg (mt (bytesOnly_ofSettings_iff settings).mp uncalled),
        find?_configs_ofSettings]
    · intro key other
      rw [others key other, find?_configs_ofSettings]
  · rw [ofSettings_eq same]

/-- The copier, whatever it is told about its tasks by a free setting, and the same with two calls
swapped. -/
theorem copier_keeps_dedicated :
    let swapped :=
      [.name "copy", .className "Copier", .topics ["orders", "refunds 2"], .config "tasks.max" "9",
        .columns [.of "price" .double 0], .config "output" "out"]
    SameOrder ConnectorSetting.writes copier swapped ∧
    ∃ config, (ofSettings copier).build "" = .ok ("copy", config) ∧
      (ofSettings swapped).build "" = .ok ("copy", config) ∧
      config.find? tasksKey = some "1" ∧
      config.find? Column.optionKey = some (Column.encode [.of "price" .double 0]) ∧
      config.find? valueConverterKey = none ∧ config.find? "output" = some "out" := by
  intro swapped
  have same : SameOrder ConnectorSetting.writes copier swapped := by
    refine SameOrder.swap (fun part => ?_)
      [ConnectorSetting.name "copy", .className "Copier", .topics ["orders", "refunds 2"]] _
    cases part with
    | columns => exact Or.inr rfl
    | name | className | topics | tasks | converters | config => exact Or.inl rfl
  obtain ⟨succeeds, -, -, -, holds, permuted⟩ := dedicated_settings_win copier ""
  obtain ⟨⟨name, config⟩, built⟩ :=
    succeeds.mpr ⟨⟨_, rfl, by decide⟩, ⟨by decide, by decide⟩, by decide⟩
  obtain ⟨rfl, -, -, tasks, -, columns, converters, free⟩ := holds name config built
  have uncalled : .bytesOnly ∉ copier := by simp [copier]
  refine ⟨same, config, built, (permuted swapped same).trans built, tasks, columns, ?_,
    free "output" (by decide)⟩
  exact (converters valueConverterKey (Or.inr rfl)).2 uncalled

end ConnectorDraft

end Conduit
