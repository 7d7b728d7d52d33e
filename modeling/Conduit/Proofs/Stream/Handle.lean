import Conduit.Proofs.Stream.Counters
import Mathlib.Logic.Relation

/-!
# A running stream and its handle

A stream that was started runs as a task of its own, and whoever started it holds its handle.
Through one channel the handle asks the task to stop, through another the task says that it is over.
Between two batches the task waits for its source and for the handle at the same time, and goes on
with either one that is there. The answers of the source and the sink, the moments at which they
come, and the order in which the task and the handle take their steps are all left open.
-/
namespace Conduit

/-- A channel that keeps the last word that was sent through it. -/
structure Channel where
  word : Bool
  /-- Something was sent since the receiver last looked. -/
  unseen : Bool
  /-- The sender is gone. -/
  closed : Bool

namespace Channel

/-- The receiver knows the first word. -/
def fresh : Channel := ⟨false, false, false⟩

def send (channel : Channel) (word : Bool) : Channel := { channel with word, unseen := true }

def see (channel : Channel) : Channel := { channel with unseen := false }

def close (channel : Channel) : Channel := { channel with closed := true }

/-- Whether a receiver that waits for a change goes on. -/
def changed (channel : Channel) : Bool := channel.unseen || channel.closed

/-- Whether a receiver that waits for the word goes on. -/
def heard (channel : Channel) : Bool := channel.word || channel.closed

theorem changed_close (channel : Channel) : channel.close.changed = true := Bool.or_true _

end Channel

/-- Where the task of a stream stands. -/
inductive Stage where
  /-- It waits for its source, which may have answered, and for its handle. -/
  | waiting (arrived : Option (Except StreamFault (List RawRecord)))
  /-- It has a batch, the rest of which is to be begun. -/
  | busy (batch rest : List RawRecord)
  /-- It waits for the acknowledgement of an output. -/
  | sending (batch : List RawRecord) (record : RawRecord) (output : Output) (rest : List RawRecord)
  /-- It was asked to stop, and flushes. -/
  | leaving
  /-- The loop is over, and the serdes are being closed. -/
  | ended (ending : Ending)
  /-- It has said that it is over. -/
  | announced (ending : Ending)
  /-- The task is gone and has left its result. -/
  | joined (ending : Ending)

namespace Stage

/-- The loop has not been left. -/
def inLoop : Stage → Bool
  | waiting _ | busy _ _ | sending _ _ _ _ => true
  | leaving | ended _ | announced _ | joined _ => false

/-- How the loop ended, if it is over. -/
def over? : Stage → Option Ending
  | ended ending | announced ending | joined ending => some ending
  | waiting _ | busy _ _ | sending _ _ _ _ | leaving => none

def isJoined : Stage → Bool
  | joined _ => true
  | _ => false

theorem isSome_of_isJoined {stage : Stage} (gone : stage.isJoined = true) :
    stage.over?.isSome = true := by
  cases stage with
  | joined => rfl
  | waiting | busy | sending | leaving | ended | announced => cases gone

end Stage

/-- The task of a stream: where it stands, how far it got, and all that it did. -/
structure StreamTask where
  stage : Stage
  progress : Progress
  deeds : List Deed

/-- What became of the handle. -/
inductive Handle where
  | held
  /-- It was given to a call that stops the stream and waits for its result. -/
  | stopping
  | answered (outcome : Except StreamFault StreamStats)
  | dropped

structure RunningStream where
  task : StreamTask
  stop : Channel
  done : Channel
  handle : Handle

/-- What happens to a running stream. -/
inductive Happening where
  /-- The source has an answer for the task that waits. -/
  | arrives (answer : Except StreamFault (List RawRecord))
  /-- The task goes on in its loop, or flushes behind it. -/
  | works
  /-- The task leaves its loop because it is asked to. -/
  | leaves
  | announces
  | joins
  /-- The handle is asked for the counters. -/
  | stats (seen : StreamStats)
  | isFinished (answer : Bool)
  /-- A call that waits for the end returns. -/
  | finished
  | stop
  /-- The call that stops the stream returns. -/
  | answers (outcome : Except StreamFault StreamStats)
  | drop

def Happening.byTask : Happening → Bool
  | works | leaves | announces | joins => true
  | arrives _ | stats _ | isFinished _ | finished | stop | answers _ | drop => false

/-- A stream as it is spawned. -/
def RunningStream.spawned : RunningStream := ⟨⟨.waiting none, .fresh, []⟩, .fresh, .fresh, .held⟩

namespace RecordStream

variable {κ α : Type} (stream : RecordStream κ α)

/-- A step of the task that does not depend on the handle. A record is counted in before its output
is acknowledged, and the acknowledgement is counted when it comes. -/
inductive Works : StreamTask → StreamTask → Prop
  | unread {progress deeds fault} :
      Works ⟨.waiting (some (.error fault)), progress, deeds⟩
        ⟨.ended (.failed fault), progress, deeds ++ [.read (.error fault)]⟩
  | nothing {progress deeds} :
      Works ⟨.waiting (some (.ok [])), progress, deeds⟩
        ⟨.waiting none, progress, deeds ++ [.read (.ok [])]⟩
  | received {progress deeds first rest} :
      Works ⟨.waiting (some (.ok (first :: rest))), progress, deeds⟩
        ⟨.busy (first :: rest) (first :: rest), progress, deeds ++ [.read (.ok (first :: rest))]⟩
  | spoiled {batch record rest progress deeds fault}
      (outcome : (stream.process progress record).1.result = .error fault) :
      Works ⟨.busy batch (record :: rest), progress, deeds⟩
        ⟨.ended (.failed fault), (stream.process progress record).2,
          deeds ++ [.spoiled record fault]⟩
  | filtered {batch record rest progress deeds}
      (outcome : (stream.process progress record).1.result = .ok none) :
      Works ⟨.busy batch (record :: rest), progress, deeds⟩
        ⟨.busy batch rest, (stream.process progress record).2, deeds ++ [.filtered record]⟩
  | made {batch record rest progress deeds output}
      (outcome : (stream.process progress record).1.result = .ok (some output)) :
      Works ⟨.busy batch (record :: rest), progress, deeds⟩
        ⟨.sending batch record output rest, (stream.process progress record).2, deeds⟩
  | undelivered {batch record output rest progress deeds fault} :
      Works ⟨.sending batch record output rest, progress, deeds⟩
        ⟨.ended (.failed fault), progress, deeds ++ [.sent record output (.error fault)]⟩
  | delivered {batch record output rest progress deeds} :
      Works ⟨.sending batch record output rest, progress, deeds⟩
        ⟨.busy batch rest, progress.acknowledged, deeds ++ [.sent record output (.ok ())]⟩
  | uncommitted {batch progress deeds fault} :
      Works ⟨.busy batch [], progress, deeds⟩
        ⟨.ended (.failed fault), progress, deeds ++ [.commit batch (.error fault)]⟩
  | committed {batch progress deeds} :
      Works ⟨.busy batch [], progress, deeds⟩
        ⟨.waiting none, progress, deeds ++ [.commit batch (.ok ())]⟩
  | flushed {progress deeds answer} :
      Works ⟨.leaving, progress, deeds⟩
        ⟨.ended (.stopped answer), progress, deeds ++ [.flush answer]⟩

/-- One step of the source, the task or the handle. -/
inductive Happens : RunningStream → Happening → RunningStream → Prop
  | arrives {progress deeds stop done handle} (answer : Except StreamFault (List RawRecord)) :
      Happens ⟨⟨.waiting none, progress, deeds⟩, stop, done, handle⟩ (.arrives answer)
        ⟨⟨.waiting (some answer), progress, deeds⟩, stop, done, handle⟩
  | works {task later stop done handle} (works : stream.Works task later) :
      Happens ⟨task, stop, done, handle⟩ .works ⟨later, stop, done, handle⟩
  /-- A batch that has arrived may be left behind. -/
  | leaves {arrived progress deeds stop done handle} (changed : stop.changed = true) :
      Happens ⟨⟨.waiting arrived, progress, deeds⟩, stop, done, handle⟩ .leaves
        ⟨⟨.leaving, progress, deeds⟩, stop.see, done, handle⟩
  | announces {ending progress deeds stop done handle} :
      Happens ⟨⟨.ended ending, progress, deeds⟩, stop, done, handle⟩ .announces
        ⟨⟨.announced ending, progress, deeds⟩, stop, done.send true, handle⟩
  | joins {ending progress deeds stop done handle} :
      Happens ⟨⟨.announced ending, progress, deeds⟩, stop, done, handle⟩ .joins
        ⟨⟨.joined ending, progress, deeds⟩, stop, done.close, handle⟩
  /-- The counters are read one by one while the task goes on, so some of them may be behind. -/
  | stats {task stop done} (seen : StreamStats) (behind : seen.AtMost task.progress.stats) :
      Happens ⟨task, stop, done, .held⟩ (.stats seen) ⟨task, stop, done, .held⟩
  | isFinished {task stop done} :
      Happens ⟨task, stop, done, .held⟩ (.isFinished task.stage.isJoined) ⟨task, stop, done, .held⟩
  | finished {task stop done} (heard : done.heard = true) :
      Happens ⟨task, stop, done, .held⟩ .finished ⟨task, stop, done, .held⟩
  /-- Nobody receives what is sent to a loop that is over. -/
  | stop {task stop done} :
      Happens ⟨task, stop, done, .held⟩ .stop
        ⟨task, if task.stage.over?.isSome then stop else stop.send true, done, .stopping⟩
  | answers {ending progress deeds stop done} :
      Happens ⟨⟨.joined ending, progress, deeds⟩, stop, done, .stopping⟩
        (.answers (ending.result.map fun _ => progress.stats))
        ⟨⟨.joined ending, progress, deeds⟩, stop.close, done,
          .answered (ending.result.map fun _ => progress.stats)⟩
  | drop {task stop done} :
      Happens ⟨task, stop, done, .held⟩ .drop ⟨task, stop.close, done, .dropped⟩
  /-- The call that stops the stream is given up. -/
  | abandon {task stop done} :
      Happens ⟨task, stop, done, .stopping⟩ .drop ⟨task, stop.close, done, .dropped⟩

/-- What may become of a running stream. -/
def Later : RunningStream → RunningStream → Prop :=
  Relation.ReflTransGen fun running later => ∃ happening, stream.Happens running happening later

/-- The running streams that may be, from the moment when the stream is spawned. -/
def Reached (running : RunningStream) : Prop := stream.Later .spawned running

variable {stream}

/-! ### A loop that is over -/

theorem Works.over? {task later : StreamTask} (works : stream.Works task later) :
    task.stage.over? = none := by
  cases works <;> rfl

/-- Behind its end the loop does nothing, and how it ended stays. -/
theorem Happens.kept {running later : RunningStream} {happening : Happening}
    (happens : stream.Happens running happening later) {ending : Ending}
    (ended : running.task.stage.over? = some ending) :
    later.task.stage.over? = some ending ∧ later.task.deeds = running.task.deeds ∧
      later.task.progress = running.task.progress := by
  cases happens with
  | arrives _ | leaves _ => cases ended
  | works works => rw [works.over?] at ended; cases ended
  | announces | joins | stats _ _ | isFinished | finished _ | stop | answers | drop | abandon =>
    exact ⟨ended, rfl, rfl⟩

theorem Later.kept {running later : RunningStream} (way : stream.Later running later)
    {ending : Ending} (ended : running.task.stage.over? = some ending) :
    later.task.stage.over? = some ending ∧ later.task.deeds = running.task.deeds ∧
      later.task.progress = running.task.progress := by
  induction way with
  | refl => exact ⟨ended, rfl, rfl⟩
  | tail _ step ih =>
    obtain ⟨happening, happens⟩ := step
    obtain ⟨still, deeds, progress⟩ := ih
    obtain ⟨stays, same, alike⟩ := happens.kept still
    exact ⟨stays, same.trans deeds, alike.trans progress⟩

theorem Works.unasked {task later : StreamTask} (works : stream.Works task later)
    (inLoop : task.stage.inLoop = true) :
    later.stage.inLoop = true ∨ ∃ fault, later.stage.over? = some (.failed fault) := by
  cases works with
  | nothing | received | filtered _ | made _ | delivered | committed => exact Or.inl rfl
  | unread | spoiled _ | undelivered | uncommitted => exact Or.inr ⟨_, rfl⟩
  | flushed => cases inLoop

theorem Works.inLoop {task later : StreamTask} (works : stream.Works task later)
    (inLoop : later.stage.inLoop = true) :
    task.stage.inLoop = true := by
  cases works with
  | flushed => cases inLoop
  | _ => rfl

end RecordStream

/-! ### What the two parties know of each other -/

namespace RunningStream

variable {κ α : Type} {stream : RecordStream κ α}

/-- What holds of the channels, the task and the handle at every moment. -/
structure Coherent (running : RunningStream) : Prop where
  /-- A task in its loop has been told of a handle that is no longer held. -/
  asked : running.handle ≠ .held → running.task.stage.inLoop = true → running.stop.changed = true
  /-- While the handle is held nothing was said, and only a failure may have ended the loop. -/
  unasked : running.handle = .held → running.stop.changed = false ∧
    (running.task.stage.inLoop = true ∨ ∃ fault, running.task.stage.over? = some (.failed fault))
  announced : running.done.heard = true → ∃ ending, running.task.stage.over? = some ending
  answered : ∀ outcome, running.handle = .answered outcome →
    ∃ ending, running.task.stage = .joined ending ∧
      outcome = ending.result.map fun _ => running.task.progress.stats

theorem coherent_spawned : Coherent spawned where
  asked := absurd rfl
  unasked _ := ⟨rfl, Or.inl rfl⟩
  announced := nofun
  answered := nofun

/-- Every step keeps them coherent. -/
theorem Coherent.next {running later : RunningStream} {happening : Happening}
    (coherent : Coherent running) (happens : stream.Happens running happening later) :
    Coherent later := by
  obtain ⟨asked, unasked, announced, answered⟩ := coherent
  cases happens with
  | arrives answer =>
    exact ⟨asked, unasked, announced, fun outcome given => by simpa using answered outcome given⟩
  | @works task next _ _ _ works =>
    -- A task that works is not over, and it does not touch the channels.
    have active : ∀ ending, task.stage.over? ≠ some ending := by
      rw [works.over?]
      exact nofun
    refine ⟨fun released inLoop => asked released (works.inLoop inLoop), fun held => ?_,
      fun heard => ?_, fun outcome given => ?_⟩
    · obtain ⟨silent, inLoop | ⟨fault, ended⟩⟩ := unasked held
      · exact ⟨silent, works.unasked inLoop⟩
      · exact absurd ended (active _)
    · obtain ⟨ending, ended⟩ := announced heard
      exact absurd ended (active ending)
    · obtain ⟨ending, joined, -⟩ := answered outcome given
      exact absurd (congrArg Stage.over? joined) (active ending)
  | leaves changed =>
    refine ⟨fun _ => nofun, fun held => ?_, fun heard => ?_, fun outcome given => ?_⟩
    · rw [(unasked held).1] at changed
      cases changed
    · obtain ⟨ending, ended⟩ := announced heard
      cases ended
    · obtain ⟨ending, joined, -⟩ := answered outcome given
      cases joined
  | announces =>
    refine ⟨fun _ => nofun, unasked, fun _ => ⟨_, rfl⟩, fun outcome given => ?_⟩
    obtain ⟨ending, joined, -⟩ := answered outcome given
    cases joined
  | joins =>
    refine ⟨fun _ => nofun, unasked, fun _ => ⟨_, rfl⟩, fun outcome given => ?_⟩
    obtain ⟨ending, joined, -⟩ := answered outcome given
    cases joined
  | stats _ _ | isFinished | finished _ => exact ⟨asked, unasked, announced, answered⟩
  | @stop task stop done =>
    refine ⟨fun _ inLoop => ?_, nofun, announced, nofun⟩
    have received : task.stage.over? = none := by
      cases stage : task.stage <;> simp [stage, Stage.inLoop] at inLoop <;> rfl
    rw [received]
    rfl
  | answers =>
    refine ⟨fun _ => nofun, nofun, announced, fun outcome given => ?_⟩
    obtain rfl := Handle.answered.inj given
    exact ⟨_, rfl, rfl⟩
  | drop | abandon => exact ⟨fun _ _ => Channel.changed_close _, nofun, announced, nofun⟩

theorem coherent_of_reached {running : RunningStream} (reached : stream.Reached running) :
    Coherent running := by
  induction reached with
  | refl => exact coherent_spawned
  | tail _ step ih =>
    obtain ⟨happening, happens⟩ := step
    exact ih.next happens

end RunningStream

end Conduit
