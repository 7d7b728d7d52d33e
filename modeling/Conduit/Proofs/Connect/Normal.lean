import Conduit.Proofs.Connect.TaskConfig
import Mathlib.Logic.Function.Iterate

/-!
# Normal flat maps

A flat map may list its topics with blanks and empty pieces in between, spell its columns in any
way, or leave them out. Reading it settles all of this: the configuration that is read is clean, so
it comes back from its own flat map as it is. That map differs from the one that was read only in
how it lists the topics and spells the columns.
-/
namespace Conduit.TaskConfig

variable {props : Settings} {config : TaskConfig}

theorem clean_of_ofProps (read : ofProps props = .ok config) : config.Clean := by
  obtain ⟨name, topics, columns, -, -, decoded, rfl⟩ := of_ofProps read
  refine ⟨fun topic member => Text.listable_of_mem_listed member, fun key member => ?_, ?_⟩
  · obtain ⟨value, found⟩ := Table.mem_keys_iff.mp member
    rw [Table.find?_insert, Table.find?_erase, Table.find?_erase] at found
    refine ⟨?_, ?_⟩
    · rintro rfl
      cases found
    · rintro rfl
      cases found
  · simpa using Column.named_of_decode decoded

/-- The flat map of what was read lists the topics and spells the columns anew, and keeps all
else. -/
theorem find?_toProps_of_ofProps (read : ofProps props = .ok config) :
    ∃ topics columns, props.find? topicsKey = some topics ∧
      Column.decode ((props.find? Column.optionKey).getD "") = .ok columns ∧
      ∀ key, config.toProps.find? key =
        if key = topicsKey then some (Text.joined "," (Text.listed topics))
        else if key = Column.optionKey then some (Column.encode columns)
        else props.find? key := by
  obtain ⟨name, topics, columns, named, listed, decoded, rfl⟩ := of_ofProps read
  refine ⟨topics, columns, listed, decoded, fun key => ?_⟩
  rw [find?_toProps]
  dsimp only
  rw [Table.find?_insert, Table.find?_erase, Table.find?_erase]
  by_cases onTopics : key = topicsKey
  · simp [onTopics]
  · by_cases onName : key = nameKey
    · subst onName
      exact named.symm
    · simp [onTopics, onName]

theorem mem_keys_toProps_of_ofProps (read : ofProps props = .ok config) (key : String) :
    key ∈ config.toProps.keys ↔ key ∈ props.keys ∨ key = Column.optionKey := by
  obtain ⟨topics, columns, listed, -, lookup⟩ := find?_toProps_of_ofProps read
  rw [Table.mem_keys_iff, Table.mem_keys_iff, lookup]
  by_cases onTopics : key = topicsKey
  · rw [if_pos onTopics, onTopics]
    exact iff_of_true ⟨_, rfl⟩ (Or.inl ⟨topics, listed⟩)
  · rw [if_neg onTopics]
    by_cases onColumns : key = Column.optionKey
    · rw [if_pos onColumns]
      exact iff_of_true ⟨_, rfl⟩ (Or.inr onColumns)
    · rw [if_neg onColumns, or_iff_left onColumns]

/-- A configuration that was read, carried through flat maps so many times. -/
def carried (config : TaskConfig) : Nat → Except Fault TaskConfig
  | 0 => .ok config
  | times + 1 => (carried config times).bind fun back => ofProps back.toProps

theorem carried_eq_ok (fixed : ofProps config.toProps = .ok config) (times : Nat) :
    config.carried times = .ok config := by
  induction times with
  | zero => rfl
  | succ times ih =>
    rw [carried, ih]
    exact fixed

/-- Reading a flat map settles it. The flat map of what is read has the same keys and the one of the
columns; it lists the pieces of the topics that are not blank, trimmed and joined, spells the
columns in the one way, and agrees with the map that was read on all other keys. It is read as the
same configuration, however many times it is carried on. -/
theorem reading_settles (read : ofProps props = .ok config) :
    (∀ key, key ∈ config.toProps.keys ↔ key ∈ props.keys ∨ key = Column.optionKey) ∧
    (∀ key, key ≠ topicsKey → key ≠ Column.optionKey → config.toProps.find? key = props.find? key) ∧
    (∃ topics, props.find? topicsKey = some topics ∧ config.toProps.find? topicsKey =
      some (Text.joined "," (((topics.toList.splitOn ',').map fun piece =>
        String.ofList (Text.trim piece)).filter fun piece => piece ≠ ""))) ∧
    (∃ columns, config.toProps.find? Column.optionKey = some (Column.encode columns) ∧
      match props.find? Column.optionKey with
      | some written => Column.decode written = .ok columns
      | none => columns = []) ∧
    ofProps config.toProps = .ok config ∧ ∀ times, config.carried times = .ok config := by
  obtain ⟨topics, columns, listed, decoded, lookup⟩ := find?_toProps_of_ofProps read
  have fixed : ofProps config.toProps = .ok config :=
    (survives_iff (TaskDraft.built_of_build read)).mpr (clean_of_ofProps read)
  refine ⟨mem_keys_toProps_of_ofProps read, ?_, ⟨topics, listed, ?_⟩, ⟨columns, ?_, ?_⟩, fixed,
    carried_eq_ok fixed⟩
  · intro key onTopics onColumns
    rw [lookup, if_neg onTopics, if_neg onColumns]
  · rw [lookup, if_pos rfl, ← Text.pieces_eq_splitOn]
    rfl
  · rw [lookup]
    rfl
  · cases written : props.find? Column.optionKey with
    | some text =>
      rw [written] at decoded
      exact decoded
    | none =>
      rw [written] at decoded
      exact (Except.ok.inj decoded).symm

/-- A flat map as a worker may hand it out: topics with blanks and a piece without a name, columns
as an empty text. -/
def looseProps : Settings :=
  .ofList [(nameKey, "copy"), (topicsKey, " orders,, refunds 2 "), (Column.optionKey, " "),
    ("output", "out")]

theorem looseProps_settle :
    ∃ config, ofProps looseProps = .ok config ∧ config.carried 3 = .ok config ∧
      config.toProps.find? topicsKey = some "orders,refunds 2" ∧
      config.toProps.find? Column.optionKey = some "[]" ∧
      config.toProps.find? "output" = some "out" := by
  have read : ofProps looseProps = .ok ⟨"copy", ["orders", "refunds 2"], [],
    .ofList [("output", "out"), (Column.optionKey, "[]")]⟩ := by rfl
  obtain ⟨-, others, -, -, -, carried⟩ := reading_settles read
  exact ⟨_, read, carried 3, by rfl, by rfl, others "output" (by decide) (by decide)⟩

end Conduit.TaskConfig
