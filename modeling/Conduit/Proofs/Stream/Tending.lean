import Conduit.Proofs.Stream.Deeds
import Conduit.Stream.Launch
import Conduit.Stream.Scripted

/-!
# Opening and closing serdes

A run configures both halves of every serde before it handles a record and closes them after the
last one, however it ends. A start configures them before it tries to connect. If that fails, it
returns without closing them, so the serdes of a stream are closed exactly if the stream was
started.
-/
namespace Conduit

def SerdeEvent.half : SerdeEvent → Half
  | .configured half _ _ => half
  | .used half => half
  | .closed half => half

namespace StreamEvent

variable {κ α : Type}

def Opens : StreamEvent κ α → Prop
  | .serde _ (.configured _ _ _) => True
  | _ => False

def Closes : StreamEvent κ α → Prop
  | .serde _ (.closed _) => True
  | _ => False

end StreamEvent

section

variable {κ α : Type}

/-- The calls that one half of a serde gets. -/
def callsTo (role : SerdeRole) (half : Half) (events : List (StreamEvent κ α)) : List SerdeEvent :=
  events.filterMap fun
    | .serde place event => if place = role ∧ event.half = half then some event else none
    | _ => none

/-- Each half of each serde is configured once with the settings, used and closed once, and none is
used before all are configured or after one is closed. -/
structure Tended (settings : Settings) (events : List (StreamEvent κ α)) : Prop where
  calls : ∀ role half, ∃ uses, callsTo role half events =
    .configured half settings role.isKey :: List.replicate uses (.used half) ++ [.closed half]
  order : ∃ opening working closing, events = opening ++ working ++ closing ∧
    (∀ event ∈ opening, event.Opens) ∧ (∀ event ∈ working, ¬event.Opens ∧ ¬event.Closes) ∧
      ∀ event ∈ closing, event.Closes

/-- Nothing is configured and nothing closed. -/
def Working (events : List (StreamEvent κ α)) : Prop :=
  ∀ event ∈ events, ¬event.Opens ∧ ¬event.Closes

theorem callsTo_append (role : SerdeRole) (half : Half) (earlier later : List (StreamEvent κ α)) :
    callsTo role half (earlier ++ later) = callsTo role half earlier ++ callsTo role half later :=
  List.filterMap_append

theorem Working.append {earlier later : List (StreamEvent κ α)} (first : Working earlier)
    (second : Working later) :
    Working (earlier ++ later) := by
  intro event member
  rcases List.mem_append.mp member with before | after
  · exact first event before
  · exact second event after

theorem Working.callsTo {events : List (StreamEvent κ α)} (working : Working events)
    (role : SerdeRole) (half : Half) :
    ∃ uses, callsTo role half events = List.replicate uses (.used half) := by
  refine ⟨_, List.eq_replicate_of_mem fun call member => ?_⟩
  obtain ⟨event, among, selected⟩ := List.mem_filterMap.mp member
  obtain ⟨neither, nor⟩ := working event among
  cases event with
  | serde place event =>
    cases event with
    | configured => exact absurd trivial neither
    | closed => exact absurd trivial nor
    | used part =>
      rw [Option.ite_none_right_eq_some] at selected
      obtain ⟨⟨-, rfl⟩, same⟩ := selected
      exact (Option.some.inj same).symm
  | observed | sent | committed | flushed => cases selected

end

namespace RecordStream

variable {κ α σ : Type} (stream : RecordStream κ α) (transport : Transport σ)

/-! ### A stream that works neither opens nor closes -/

theorem working_handle (partitionTime : Int64) (record : RawRecord) :
    Working (stream.handle partitionTime record).events := by
  intro event member
  have within := stream.inward_handle partitionTime record event member
  cases event with
  | serde role call =>
    cases call with
    | used => exact ⟨id, id⟩
    | configured | closed => cases within
  | observed => exact ⟨id, id⟩
  | sent | committed | flushed => cases within

private theorem working_single {event : StreamEvent κ α} (neither : ¬event.Opens)
    (nor : ¬event.Closes) :
    Working [event] := by
  intro other member
  rw [List.mem_singleton.mp member]
  exact ⟨neither, nor⟩

theorem working_runBatch (records : List RawRecord) (progress : Progress) (state : σ) :
    Working (stream.runBatch transport records progress state).events := by
  induction records generalizing progress state with
  | nil => exact List.forall_mem_nil _
  | cons record rest ih =>
    have handled : Working (stream.process progress record).1.events :=
      stream.working_handle _ record
    rw [runBatch]
    dsimp only
    split
    · exact handled
    · exact handled.append (ih _ _)
    · split
      · exact handled
      · exact (handled.append (working_single id id)).append (ih _ _)

theorem working_loop (looks : Nat) (progress : Progress) (state : σ) :
    Working (stream.loop transport looks progress state).events := by
  induction looks generalizing progress state with
  | zero => exact working_single id id
  | succ looks ih =>
    rw [loop]
    split
    · exact List.forall_mem_nil _
    · exact ih _ _
    next first rest next _ =>
      have handled := stream.working_runBatch transport (first :: rest) progress next
      dsimp only
      -- The batch fails, or its commit does, or the loop goes on behind it.
      split
      · exact handled
      · split
        · exact handled
        · exact (handled.append (working_single id id)).append (ih _ _)

/-! ### Whole runs and starts -/

theorem callsTo_configure (role : SerdeRole) (half : Half) :
    callsTo role half stream.configure =
      [.configured half stream.plan.config.settings role.isKey] := by
  cases role <;> cases half <;> rfl

theorem callsTo_close (role : SerdeRole) (half : Half) :
    callsTo role half (close : List (StreamEvent κ α)) = [.closed half] := by
  cases role <;> cases half <;> rfl

/-- However a run ends, it has tended to the serdes. -/
theorem tended_run (looks : Nat) (state : σ) :
    Tended stream.plan.config.settings (stream.run transport looks state).events where
  calls role half := by
    have working := stream.working_loop transport looks .fresh state
    obtain ⟨uses, used⟩ := working.callsTo role half
    refine ⟨uses, ?_⟩
    rw [run]
    dsimp only
    rw [callsTo_append, callsTo_append, callsTo_configure, callsTo_close, used]
    rfl
  order := by
    refine ⟨_, _, _, rfl, ?_, stream.working_loop transport looks .fresh state, ?_⟩
    · simp [configure, SerdeRole.all, Serde.configure, StreamEvent.Opens]
    · simp [close, SerdeRole.all, Serde.close, StreamEvent.Closes]

theorem not_tended_configure : ¬Tended stream.plan.config.settings stream.configure := by
  intro tended
  obtain ⟨uses, calls⟩ := tended.calls .consumedKey .serializer
  rw [callsTo_configure] at calls
  simp at calls

/-- A start that comes to a fault has only configured; any other one has run. -/
theorem launch_cases (looks : Nat) (limit : Option Nat) (cluster : Cluster) :
    (∃ fault, (stream.launch looks limit cluster).run = .error fault ∧
      (stream.launch looks limit cluster).events = stream.configure) ∨
    ∃ run, (stream.launch looks limit cluster).run = .ok run ∧
      Tended stream.plan.config.settings (stream.launch looks limit cluster).events := by
  unfold launch
  rcases stream.connect.run cluster with ⟨connected, reached⟩
  cases connected with
  | error fault => exact Or.inl ⟨_, rfl, rfl⟩
  | ok ends =>
    obtain ⟨consumer, producer⟩ := ends
    exact Or.inr ⟨_, rfl,
      stream.tended_run (transport consumer producer limit) looks ⟨reached, .fresh, 0⟩⟩

/-- Every run tends to its serdes, over whatever transport and however it ends. A start does exactly
if it comes to a run; if it comes to a fault, each half of each serde was configured and is never
closed. -/
theorem tended_iff_started :
    (∀ looks state, Tended stream.plan.config.settings (stream.run transport looks state).events) ∧
    ∀ looks limit cluster,
      let launch := stream.launch looks limit cluster
      (Tended stream.plan.config.settings launch.events ↔ ∃ run, launch.run = .ok run) ∧
      ∀ fault, launch.run = .error fault → ∀ role half,
        callsTo role half launch.events =
          [.configured half stream.plan.config.settings role.isKey] := by
  refine ⟨stream.tended_run transport, fun looks limit cluster => ?_⟩
  dsimp only
  rcases stream.launch_cases looks limit cluster with
    ⟨fault, failed, events⟩ | ⟨run, started, tended⟩
  · rw [failed, events]
    refine ⟨iff_of_false stream.not_tended_configure nofun, fun _ _ role half => ?_⟩
    exact stream.callsTo_configure role half
  · rw [started]
    exact ⟨iff_of_true tended ⟨run, rfl⟩, nofun⟩

/-- A stream that copies orders and knows no brokers. -/
def adrift : RecordStream Text.Utf8.Bytes Text.Utf8.Bytes :=
  ⟨⟨⟨"", "copier", "orders", "copies", false⟩, ⟨.bytes, .bytes⟩, ⟨.bytes, .bytes⟩, .record⟩, []⟩

theorem adrift_fails (cluster : Cluster) :
    (adrift.launch 1 none cluster).run = .error (.broker (.config .connection)) :=
  rfl

/-- It can be run over a transport that is there, but it cannot be started. -/
theorem adrift_configures_only :
    Tended adrift.plan.config.settings (adrift.run Mishaps.none.transport 1 ⟨[], 0⟩).events ∧
      (adrift.launch 1 none (.bare "harbour" 0)).run = .error (.broker (.config .connection)) ∧
      callsTo .producedValue .serializer (adrift.launch 1 none (.bare "harbour" 0)).events =
        [.configured .serializer adrift.plan.config.settings false] := by
  obtain ⟨runs, starts⟩ := adrift.tended_iff_started Mishaps.none.transport
  have failed := adrift_fails (.bare "harbour" 0)
  exact ⟨runs 1 ⟨[], 0⟩, failed,
    (starts 1 none (.bare "harbour" 0)).2 _ failed .producedValue .serializer⟩

/-- Its serdes are configured and never closed. -/
theorem adrift_leaves_serdes_open :
    ¬Tended adrift.plan.config.settings (adrift.launch 1 none (.bare "harbour" 0)).events :=
  adrift.not_tended_configure

end RecordStream

end Conduit
