import Conduit.Proofs.Data.Latest
import Conduit.Stream.Plan

/-!
# What a plan is made of

Each part of a plan is what the latest call gave for it, and the serdes follow from two facts. The
source always has the serdes that are the default: a call for the source without serdes takes the
default ones, and a call with serdes makes these the default. The destination has serdes of its own
only as long as no later call sets the source with serdes or the destination without. So where calls
bring serdes of the kind that a draft has at that moment, both ends of a plan have serdes of the
last kind.
-/
namespace Conduit

variable {ς : Type}

namespace StreamSetting

def servers? : StreamSetting ς → Option String
  | .bootstrapServers servers => some servers
  | _ => none

def appId? : StreamSetting ς → Option String
  | .appId given => some given
  | _ => none

def source? : StreamSetting ς → Option String
  | .fromTopic topic | .fromTopicWith topic _ => some topic
  | _ => none

def destination? : StreamSetting ς → Option String
  | .toTopic topic | .toTopicWith topic _ => some topic
  | _ => none

def extractor? : StreamSetting ς → Option Extractor
  | .extractor given => some given
  | _ => none

/-- The serdes that the call makes the default. -/
def default? : StreamSetting ς → Option ς
  | .fromTopicWith _ serdes => some serdes
  | _ => none

/-- What the call says of the produced serdes: these, or (`some none`) the default ones. -/
def produced? : StreamSetting ς → Option (Option ς)
  | .toTopicWith _ serdes => some (some serdes)
  | .toTopic _ | .fromTopicWith _ _ => some none
  | _ => none

end StreamSetting

namespace StreamDraft

open StreamSetting

/-- The default serdes after the calls, of a draft that was begun with some. -/
def defaults (serdes : ς) (settings : List (StreamSetting ς)) : ς :=
  (latest default? settings).getD serdes

theorem defaults_append (serdes : ς) (settings more : List (StreamSetting ς))
    (kept : ∀ call ∈ more, call.default? = none) :
    defaults serdes (settings ++ more) = defaults serdes settings := by
  rw [defaults, latest, List.filterMap_append, List.filterMap_eq_nil_iff.mpr kept, List.append_nil,
    defaults, latest]

/-- What the calls leave out, in the order in which it is asked for. -/
def missing (settings : List (StreamSetting ς)) : Option StreamField :=
  if latest servers? settings = none then some .bootstrapServers
  else if latest source? settings = none then some .fromTopic
  else if latest destination? settings = none then some .toTopic
  else none

/-- A destination gets serdes of the kind that the default ones have at that moment. Only a call for
the source may change the kind. -/
def KeepsKind {τ : Type} (kind : ς → τ) : ς → List (StreamSetting ς) → Prop
  | _, [] => True
  | serdes, .toTopicWith _ own :: rest => kind own = kind serdes ∧ KeepsKind kind serdes rest
  | _, .fromTopicWith _ own :: rest => KeepsKind kind own rest
  | serdes, _ :: rest => KeepsKind kind serdes rest

/-! ### What a draft holds -/

variable (serdes : ς) (settings : List (StreamSetting ς))

theorem bootstrapServers_ofSettings :
    (ofSettings serdes settings).bootstrapServers = latest servers? settings := by
  refine @foldl_latest_of_none _ _ _ apply bootstrapServers _ (fun draft setting => ?_)
    (fresh serdes) rfl settings
  cases setting <;> rfl

theorem appId_ofSettings : (ofSettings serdes settings).appId = latest appId? settings := by
  refine @foldl_latest_of_none _ _ _ apply appId _ (fun draft setting => ?_)
    (fresh serdes) rfl settings
  cases setting <;> rfl

theorem extractor_ofSettings :
    (ofSettings serdes settings).extractor = latest extractor? settings := by
  refine @foldl_latest_of_none _ _ _ apply extractor _ (fun draft setting => ?_)
    (fresh serdes) rfl settings
  cases setting <;> rfl

theorem source_ofSettings : (ofSettings serdes settings).fromTopic.map Prod.fst =
    latest source? settings := by
  refine @foldl_latest_of_none _ _ _ apply (fun draft => draft.fromTopic.map Prod.fst) _
    (fun draft setting => ?_)
    (fresh serdes) rfl settings
  cases setting <;> rfl

theorem destination_ofSettings :
    (ofSettings serdes settings).toTopic.map Prod.fst = latest destination? settings := by
  refine @foldl_latest_of_none _ _ _ apply (fun draft => draft.toTopic.map Prod.fst) _
    (fun draft setting => ?_)
    (fresh serdes) rfl settings
  cases setting with
  | fromTopicWith topic own => simp [apply, destination?, Function.comp_def]
  | bootstrapServers | appId | fromTopic | toTopic | toTopicWith | cleanStart | extractor => rfl

theorem serdes_ofSettings : (ofSettings serdes settings).serdes = defaults serdes settings := by
  refine @foldl_latest_getD _ _ _ apply StreamDraft.serdes _ (fun draft setting => ?_)
    (fresh serdes) settings
  cases setting <;> rfl

theorem ofSettings_concat (setting : StreamSetting ς) :
    ofSettings serdes (settings ++ [setting]) = (ofSettings serdes settings).apply setting := by
  rw [ofSettings, List.foldl_append, ← ofSettings]
  rfl

theorem cleanStart_ofSettings :
    (ofSettings serdes settings).cleanStart = true ↔ .cleanStart ∈ settings := by
  induction settings using List.reverseRecOn with
  | nil => simp [ofSettings, fresh]
  | append_singleton settings setting ih =>
    rw [ofSettings_concat, List.mem_append, List.mem_singleton, ← ih]
    cases setting <;> simp [apply]

/-- The source has the default serdes. -/
theorem consumed_ofSettings : ∀ source ∈ (ofSettings serdes settings).fromTopic,
    source.2 = (ofSettings serdes settings).serdes := by
  -- The only call that changes the default serdes sets the source with them.
  induction settings using List.reverseRecOn with
  | nil => exact nofun
  | append_singleton settings setting ih =>
    rw [ofSettings_concat]
    cases setting with
    | fromTopic | fromTopicWith =>
      rintro source ⟨⟩
      rfl
    | bootstrapServers | appId | toTopic | toTopicWith | cleanStart | extractor => exact ih

/-- The destination has serdes of its own, or the default ones. -/
theorem produced_ofSettings : ∀ destination ∈ (ofSettings serdes settings).toTopic,
    destination.2 = (latest produced? settings).join.getD (ofSettings serdes settings).serdes := by
  induction settings using List.reverseRecOn with
  | nil => exact nofun
  | append_singleton settings setting ih =>
    rw [ofSettings_concat, latest_concat]
    cases setting with
    | toTopic | toTopicWith =>
      rintro destination ⟨⟩
      rfl
    | fromTopicWith topic own =>
      -- A destination that is there keeps its name and gets the new serdes.
      intro destination present
      obtain ⟨earlier, -, rfl⟩ := Option.map_eq_some_iff.mp (Option.mem_def.mp present)
      rfl
    | bootstrapServers | appId | fromTopic | cleanStart | extractor => exact ih

/-! ### Kinds of serdes -/

variable {τ : Type} {kind : ς → τ}

/-- The destination has serdes of the kind of the default ones. -/
def OneKind (kind : ς → τ) (draft : StreamDraft ς) : Prop :=
  ∀ destination ∈ draft.toTopic, kind destination.2 = kind draft.serdes

variable {serdes settings}

theorem OneKind.foldl {draft : StreamDraft ς} (one : draft.OneKind kind)
    (keeps : KeepsKind kind draft.serdes settings) : (settings.foldl apply draft).OneKind kind := by
  induction settings generalizing draft with
  | nil => exact one
  | cons setting settings ih =>
    rw [List.foldl_cons]
    cases setting with
    | toTopic topic =>
      refine ih (fun destination present => ?_) keeps
      cases present
      rfl
    | toTopicWith topic own =>
      refine ih (fun destination present => ?_) keeps.2
      cases present
      exact keeps.1
    | fromTopicWith topic own =>
      refine ih (fun destination present => ?_) keeps
      obtain ⟨earlier, -, rfl⟩ := Option.map_eq_some_iff.mp (Option.mem_def.mp present)
      rfl
    | bootstrapServers | appId | fromTopic | cleanStart | extractor => exact ih one keeps

theorem oneKind_ofSettings (keeps : KeepsKind kind serdes settings) :
    (ofSettings serdes settings).OneKind kind := by
  have fresh : (fresh serdes).OneKind kind := nofun
  exact fresh.foldl keeps

/-! ### What is built from a draft -/

theorem build_eq_ok_iff {draft : StreamDraft ς} {chance : String} {plan : StreamPlan ς} :
    draft.build chance = .ok plan ↔ draft.bootstrapServers = some plan.config.bootstrapServers ∧
      draft.fromTopic = some (plan.config.fromTopic, plan.consumed) ∧
      draft.toTopic = some (plan.config.toTopic, plan.produced) ∧
      draft.appId.getD (chance ++ appIdEnding) = plan.config.appId ∧
      draft.cleanStart = plan.config.cleanStart ∧
      draft.extractor.getD .record = plan.extractor := by
  obtain ⟨_, servers, appId, source, destination, cleanStart, extractor⟩ := draft
  obtain ⟨⟨_, _, _, _, _⟩, _, _, _⟩ := plan
  cases servers <;> cases source <;> cases destination <;>
    simp [build, Prod.ext_iff, and_assoc, and_comm, and_left_comm]

theorem build_eq_error_iff {chance : String} {fault : StreamFault} :
    (ofSettings serdes settings).build chance = .error fault ↔
      ∃ field, missing settings = some field ∧ fault = .missing field := by
  rw [missing, ← bootstrapServers_ofSettings serdes, ← source_ofSettings serdes,
    ← destination_ofSettings serdes]
  obtain ⟨_, servers, _, source, destination, _, _⟩ := ofSettings serdes settings
  cases servers <;> cases source <;> cases destination <;> simp [build, eq_comm]

/-- A draft lacks a plan exactly if the servers, the source or the destination was never set, and
the first of these is named. Otherwise every part of the plan is what the latest call gave for it:
the consumed serdes are those of the latest call for the source, or the default ones of that moment,
and the produced ones are those of a call for the destination unless a later one sets the
destination without serdes or the source with some.

If no destination is given serdes of another kind than the draft has, both ends of the plan have the
kind of serdes that were made the default last. -/
theorem planned_by_latest (serdes : ς) (settings : List (StreamSetting ς)) (chance : String) :
    let draft := ofSettings serdes settings
    (∀ fault, draft.build chance = .error fault ↔
      ∃ field, missing settings = some field ∧ fault = .missing field) ∧
    ∀ plan, draft.build chance = .ok plan →
      latest servers? settings = some plan.config.bootstrapServers ∧
      plan.config.appId = (latest appId? settings).getD (chance ++ appIdEnding) ∧
      (∃ before call after, settings = before ++ call :: after ∧
        (∀ later ∈ after, later.source? = none) ∧
        call.source? = some plan.config.fromTopic ∧
        plan.consumed = call.default?.getD (defaults serdes before)) ∧
      latest destination? settings = some plan.config.toTopic ∧
      plan.produced = (latest produced? settings).join.getD (defaults serdes settings) ∧
      (plan.config.cleanStart = true ↔ .cleanStart ∈ settings) ∧
      plan.extractor = (latest extractor? settings).getD .record ∧
      ∀ {τ : Type} (kind : ς → τ), KeepsKind kind serdes settings →
        kind plan.consumed = kind (defaults serdes settings) ∧
          kind plan.produced = kind (defaults serdes settings) := by
  intro draft
  refine ⟨fun fault => build_eq_error_iff, fun plan built => ?_⟩
  obtain ⟨servers, source, destination, appId, cleanStart, extractor⟩ := build_eq_ok_iff.mp built
  have consumed : plan.consumed = defaults serdes settings := by
    rw [← serdes_ofSettings]
    exact consumed_ofSettings serdes settings _ source
  have produced := produced_ofSettings serdes settings _ destination
  rw [serdes_ofSettings] at produced
  have named : latest source? settings = some plan.config.fromTopic := by
    rw [← source_ofSettings serdes, source, Option.map_some]
  have settled : latest destination? settings = some plan.config.toTopic := by
    rw [← destination_ofSettings serdes, destination, Option.map_some]
  rw [bootstrapServers_ofSettings] at servers
  rw [appId_ofSettings] at appId
  rw [extractor_ofSettings] at extractor
  have clean : plan.config.cleanStart = true ↔ .cleanStart ∈ settings := by
    rw [← cleanStart, cleanStart_ofSettings]
  refine ⟨servers, appId.symm, ?_, settled, produced, clean, extractor.symm, fun kind keeps => ?_⟩
  · obtain ⟨before, call, after, rfl, gave, silent⟩ := exists_of_latest named
    refine ⟨before, call, after, rfl, silent, gave, consumed.trans ?_⟩
    -- No later call changes the default serdes, for it would set the source.
    have kept : ∀ later ∈ after, later.default? = none := by
      intro later member
      have unset := silent later member
      cases later with
      | fromTopic | fromTopicWith => cases unset
      | bootstrapServers | appId | toTopic | toTopicWith | cleanStart | extractor => rfl
    rw [List.append_cons, defaults_append serdes _ after kept, defaults, latest_concat, defaults]
    cases call.default? <;> rfl
  · have one := oneKind_ofSettings keeps _ destination
    rw [serdes_ofSettings] at one
    exact ⟨congrArg kind consumed, one⟩

/-- A copy of orders as rows, which were to be texts at first. The destination is set before the
kind changes. -/
def recastCalls : List (StreamSetting (CodecKind × CodecKind)) :=
  [.bootstrapServers "b1:9092", .toTopicWith "copies" (.bytes, .string), .fromTopic "drafts",
    .fromTopicWith "orders" (.bytes, .row), .cleanStart]

theorem recast_copies_rows :
    ∃ plan, (ofSettings (.bytes, .string) recastCalls).build "id" = .ok plan ∧
      KeepsKind Prod.snd (.bytes, .string) recastCalls ∧ plan.produced.2 = .row ∧
      plan.config = ⟨"b1:9092", "id" ++ appIdEnding, "orders", "copies", true⟩ := by
  have keeps : KeepsKind Prod.snd (.bytes, .string) recastCalls := ⟨rfl, trivial⟩
  obtain ⟨plan, built⟩ : ∃ plan, (ofSettings (.bytes, .string) recastCalls).build "id" = .ok plan :=
    ⟨_, rfl⟩
  obtain ⟨-, parts⟩ := planned_by_latest (.bytes, .string) recastCalls "id"
  obtain ⟨-, -, -, -, -, -, -, kinds⟩ := parts plan built
  refine ⟨plan, built, keeps, (kinds Prod.snd keeps).2, ?_⟩
  cases built
  rfl

end StreamDraft

end Conduit
