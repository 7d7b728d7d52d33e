import Conduit.Proofs.Stream.Handle

/-!
# Stopping a stream

Whatever its handle does and whenever, the task of a stream goes through the deeds of a run of the
loop: every transport that gives the answers which the task got leads the loop through the same
deeds to the same end, and every run of the loop is gone through by a task. What a run of the loop
has done by some moment therefore holds of the task. A task that leaves its loop has nothing left to
commit, and what the handle learns at the end is how this run ended and what it counted.
-/
namespace Conduit

open Deeds

/-- The transport is asked for it. -/
def Deed.asks : Deed → Bool
  | filtered _ => false
  | spoiled _ _ => false
  | _ => true

/-- Where a task stands at a moment of a run. -/
def Phase.stage : Phase → Stage
  | .idle _ => .waiting none
  | .busy _ batch rest => .busy batch rest
  | .over ending => .ended ending

namespace Deeds

/-- How often the source was looked at. -/
def looks (deeds : List Deed) : Nat := deeds.countP Deed.reads

/-- A transport that gives the answers that the deeds carry. -/
def replay : Transport (List Deed) where
  next
    | .read answer :: rest => (answer, rest)
    | rest => (.ok [], rest)
  send _ _
    | .sent _ _ answer :: rest => (answer, rest)
    | rest => (.ok (), rest)
  commit _
    | .commit _ answer :: rest => (answer, rest)
    | rest => (.ok (), rest)
  flush
    | .flush answer :: rest => (answer, rest)
    | rest => (.ok (), rest)

theorem answers_replay (topic : String) (deeds : List Deed) :
    replay.Answers topic deeds (deeds.filter Deed.asks) [] := by
  induction deeds with
  | nil => rfl
  | cons deed rest ih =>
    cases deed with
    | filtered | spoiled => exact ih
    | read | sent | commit | flush => exact ⟨rfl, ih⟩

end Deeds

namespace RecordStream

variable {κ α : Type} (stream : RecordStream κ α)

/-- Every transport that gives the answers which the deeds carry leads a run that is to take so many
more looks through these deeds. -/
def Accords (more : Nat) (deeds : List Deed) (phase : Phase) (progress : Progress) : Prop :=
  ∀ (σ : Type) (transport : Transport σ) (start last : σ),
    transport.Answers stream.plan.config.toTopic deeds start last →
      stream.Leads transport ⟨.idle (looks deeds + more), .fresh, start⟩ deeds
        ⟨phase, progress, last⟩

/-- The task is where a run of the loop is. One that waits for an acknowledgement is at the record
that it counted in before. -/
def TaskAccords (task : StreamTask) : Prop :=
  match task.stage with
  | .waiting _ | .leaving => ∀ more, stream.Accords more task.deeds (.idle more) task.progress
  | .busy batch rest => ∀ more, stream.Accords more task.deeds (.busy more batch rest) task.progress
  | .sending batch record output rest => ∃ before,
      (stream.process before record).1.result = .ok (some output) ∧
      (stream.process before record).2 = task.progress ∧
      ∀ more, stream.Accords more task.deeds (.busy more batch (record :: rest)) before
  | .ended ending | .announced ending | .joined ending =>
    stream.Accords 0 task.deeds (.over ending) task.progress

variable {stream}

theorem Accords.next {more before : Nat} {deeds : List Deed} {deed : Deed} {phase later : Phase}
    {progress now : Progress} (accords : stream.Accords before deeds phase progress)
    (count : looks [deed] + more = before)
    (follows : ∀ (σ : Type) (transport : Transport σ) (state next : σ),
      transport.Answers stream.plan.config.toTopic [deed] state next →
        stream.Follows transport ⟨phase, progress, state⟩ deed ⟨later, now, next⟩) :
    stream.Accords more (deeds ++ [deed]) later now := by
  intro σ transport start last answers
  obtain ⟨between, earlier, answer⟩ := (transport.answers_append _ _ _ _ _).mp answers
  have leads := accords σ transport start between earlier
  rw [← count, ← Nat.add_assoc, looks, looks, ← List.countP_append] at leads
  exact leads.next (follows σ transport between last answer)

theorem Works.accords {task later : StreamTask} (works : stream.Works task later)
    (accords : stream.TaskAccords task) : stream.TaskAccords later := by
  -- A deed that is a look takes one off those that are left, and no other deed does.
  cases works with
  | unread => exact (accords 1).next rfl fun _ _ _ _ answer => .unread (Prod.ext answer.1 answer.2)
  | nothing =>
    exact fun more => (accords (more + 1)).next (Nat.add_comm _ _) fun _ _ _ _ answer =>
      .nothing (Prod.ext answer.1 answer.2)
  | received =>
    exact fun more => (accords (more + 1)).next (Nat.add_comm _ _) fun _ _ _ _ answer =>
      .received (Prod.ext answer.1 answer.2)
  | spoiled outcome =>
    refine (accords 0).next rfl fun _ _ _ _ answer => ?_
    obtain rfl := answer
    exact .spoiled outcome
  | filtered outcome =>
    refine fun more => (accords more).next (Nat.zero_add _) fun _ _ _ _ answer => ?_
    obtain rfl := answer
    exact .filtered outcome
  | made outcome => exact ⟨_, outcome, rfl, accords⟩
  | undelivered =>
    obtain ⟨before, outcome, rfl, accords⟩ := accords
    exact (accords 0).next rfl fun _ _ _ _ answer =>
      .undelivered outcome (Prod.ext answer.1 answer.2)
  | delivered =>
    obtain ⟨before, outcome, rfl, accords⟩ := accords
    exact fun more => (accords more).next (Nat.zero_add _) fun _ _ _ _ answer =>
      .delivered outcome (Prod.ext answer.1 answer.2)
  | uncommitted =>
    exact (accords 0).next rfl fun _ _ _ _ answer => .uncommitted (Prod.ext answer.1 answer.2)
  | committed =>
    exact fun more => (accords more).next (Nat.zero_add _) fun _ _ _ _ answer =>
      .committed (Prod.ext answer.1 answer.2)
  | flushed =>
    exact (accords 0).next rfl fun _ _ _ _ answer => .flushed (Prod.ext answer.1 answer.2)

theorem accords_of_reached {running : RunningStream} (reached : stream.Reached running) :
    stream.TaskAccords running.task := by
  induction reached with
  | refl =>
    intro more σ transport start last answers
    obtain rfl := answers
    change stream.Leads transport ⟨.idle (0 + more), .fresh, start⟩ [] ⟨.idle more, .fresh, start⟩
    rw [Nat.zero_add]
    exact .done
  | tail _ step ih =>
    obtain ⟨happening, happens⟩ := step
    cases happens with
    | works works => exact works.accords ih
    | arrives _ | leaves _ | announces | joins => exact ih
    | stats _ _ | isFinished | finished _ | stop | answers | drop | abandon => exact ih

/-! ### What was done by a moment -/

/-- A way of the deeds from the first look, for a transport that knows them beforehand. -/
theorem Accords.way {more : Nat} {deeds : List Deed} {phase : Phase} {progress : Progress}
    (accords : stream.Accords more deeds phase progress) :
    stream.Leads replay ⟨.idle (looks deeds + more), .fresh, deeds.filter Deed.asks⟩ deeds
      ⟨phase, progress, []⟩ :=
  accords _ replay _ _ (answers_replay _ deeds)

/-- A run that is to take no further look has committed all that it was brought. -/
theorem Accords.settles {more : Nat} {deeds : List Deed} {progress : Progress}
    (accords : stream.Accords more deeds (.idle more) progress) :
    brought deeds = settled deeds ∧ ∀ record ∈ brought deeds, Completed deeds record := by
  have ledger := (Ledger.fresh _).along accords.way
  rw [List.nil_append] at ledger
  have same := ledger.split
  rw [ledger.idle _ rfl, List.append_nil] at same
  exact ⟨same, same ▸ ledger.complete⟩

theorem Accords.over {deeds : List Deed} {ending : Ending} {progress : Progress}
    (accords : stream.Accords 0 deeds (.over ending) progress) :
    deeds.getLast?.bind Deed.ending? = some ending ∧
    progress.stats = (stream.counts deeds).addTo ⟨0, 0, 0⟩ ∧
      ∀ (σ : Type) (transport : Transport σ) (start last : σ),
        transport.Answers stream.plan.config.toTopic deeds start last →
        let run := stream.loop transport (looks deeds) .fresh start
        run.ending = ending ∧ run.progress = progress ∧ run.state = last ∧
          run.effects = deeds.filterMap Deed.effect? := by
  refine ⟨?_, accords.way.counted.1, fun σ transport start last answers => ?_⟩
  · obtain ⟨earlier, final, rfl, ends, -⟩ := accords.way.ends nofun rfl
    rw [List.getLast?_concat]
    exact ends
  · obtain ⟨other, same, leads⟩ := stream.loop_leads transport (looks deeds) .fresh start
    obtain ⟨rfl, alike⟩ := leads.unique rfl (accords σ transport start last answers) rfl
    obtain ⟨ended, progress, state⟩ := Moment.mk.inj alike
    exact ⟨Phase.over.inj ended, progress, state, same.symm⟩

theorem over_accords {task : StreamTask} (accords : stream.TaskAccords task) {ending : Ending}
    (ended : task.stage.over? = some ending) :
    stream.Accords 0 task.deeds (.over ending) task.progress := by
  unfold TaskAccords at accords
  cases stage : task.stage with
  | waiting | busy | sending | leaving => rw [stage] at ended; cases ended
  | ended | announced | joined =>
    rw [stage] at accords ended
    obtain rfl := Option.some.inj ended
    exact accords

/-! ### Every run of the loop -/

section

variable {σ : Type} {transport : Transport σ}

/-- The source answers as it does in the run, and the handle asks the task to stop when no look is
left. -/
theorem Leads.taken {first last : Moment σ} {further : List Deed}
    (leads : stream.Leads transport first further last) {ending : Ending}
    (ended : last.phase = .over ending) (deeds : List Deed) :
    ∃ stop handle, (handle = .held ∨ handle = .stopping) ∧
      stream.Later ⟨⟨first.phase.stage, first.progress, deeds⟩, .fresh, .fresh, .held⟩
        ⟨⟨.ended ending, last.progress, deeds ++ further⟩, stop, .fresh, handle⟩ := by
  -- From the first deed on: each is one or two steps of the task, and those for the rest follow.
  induction leads generalizing deeds with
  | done =>
    rw [ended, List.append_nil]
    exact ⟨_, _, Or.inl rfl, .refl⟩
  | @cons _ deed _ _ _ follows rest ih =>
    obtain ⟨stop, handle, waits, way⟩ := ih ended (deeds ++ [deed])
    rw [List.append_assoc] at way
    cases follows with
    -- The loop flushes when no look is left: here the handle asks for the stop.
    | flushed answer =>
      cases rest with
      | done =>
        obtain rfl := Phase.over.inj ended
        exact ⟨_, _, Or.inr rfl,
          .head ⟨_, .stop⟩ (.head ⟨_, .leaves rfl⟩ (.head ⟨_, .works .flushed⟩ .refl))⟩
      | cons beyond _ => cases beyond
    | unread _ => exact ⟨stop, handle, waits, .head ⟨_, .arrives _⟩ (.head ⟨_, .works .unread⟩ way)⟩
    | nothing _ =>
      exact ⟨stop, handle, waits, .head ⟨_, .arrives _⟩ (.head ⟨_, .works .nothing⟩ way)⟩
    | received _ =>
      exact ⟨stop, handle, waits, .head ⟨_, .arrives _⟩ (.head ⟨_, .works .received⟩ way)⟩
    | spoiled outcome => exact ⟨stop, handle, waits, .head ⟨_, .works (.spoiled outcome)⟩ way⟩
    | filtered outcome => exact ⟨stop, handle, waits, .head ⟨_, .works (.filtered outcome)⟩ way⟩
    | undelivered outcome _ =>
      exact ⟨stop, handle, waits,
        .head ⟨_, .works (.made outcome)⟩ (.head ⟨_, .works .undelivered⟩ way)⟩
    | delivered outcome _ =>
      exact ⟨stop, handle, waits,
        .head ⟨_, .works (.made outcome)⟩ (.head ⟨_, .works .delivered⟩ way)⟩
    | uncommitted _ => exact ⟨stop, handle, waits, .head ⟨_, .works .uncommitted⟩ way⟩
    | committed _ => exact ⟨stop, handle, waits, .head ⟨_, .works .committed⟩ way⟩

/-- Every run of the loop is one of a running stream, and its outcome is what the handle is told. -/
theorem loop_reached (stream : RecordStream κ α) (transport : Transport σ) (looks : Nat)
    (start : σ) :
    let run := stream.loop transport looks .fresh start
    ∃ running, stream.Reached running ∧ running.task.stage = .joined run.ending ∧
      running.task.progress = run.progress ∧
      running.task.deeds.filterMap Deed.effect? = run.effects ∧
      running.handle = .answered run.outcome := by
  intro run
  obtain ⟨deeds, same, leads⟩ := stream.loop_leads transport looks .fresh start
  obtain ⟨stop, handle, waits, way⟩ := leads.taken rfl []
  -- If the run failed, the handle is still held and asks a task that is over.
  have asked : stream.Later .spawned ⟨⟨.ended run.ending, run.progress, deeds⟩, stop, .fresh,
      .stopping⟩ := by
    rcases waits with rfl | rfl
    · exact way.trans (.head ⟨_, .stop⟩ .refl)
    · exact way
  have told : stream.Later ⟨⟨.ended run.ending, run.progress, deeds⟩, stop, .fresh, .stopping⟩
      ⟨⟨.joined run.ending, run.progress, deeds⟩, stop.close, (Channel.fresh.send true).close,
        .answered run.outcome⟩ :=
    .head ⟨_, .announces⟩ (.head ⟨_, .joins⟩ (.head ⟨_, .answers⟩ .refl))
  exact ⟨_, asked.trans told, rfl, rfl, same, rfl⟩

end

/-! ### The call that stops the stream returns -/

variable (stream)

/-- The call that waits for the end of the stream may get its answer. -/
def MayAnswer (running : RunningStream) : Prop :=
  ∃ outcome later, stream.Later running later ∧ later.handle = .answered outcome

variable {stream}

theorem MayAnswer.before {running later : RunningStream} {happening : Happening}
    (answered : stream.MayAnswer later) (happens : stream.Happens running happening later) :
    stream.MayAnswer running := by
  obtain ⟨outcome, last, way, same⟩ := answered
  exact ⟨outcome, last, .head ⟨happening, happens⟩ way, same⟩

variable {progress : Progress} {deeds : List Deed} {stop done : Channel}

theorem mayAnswer_joined (ending : Ending) :
    stream.MayAnswer ⟨⟨.joined ending, progress, deeds⟩, stop, done, .stopping⟩ := by
  apply MayAnswer.before _ .answers
  exact ⟨_, _, .refl, rfl⟩

theorem mayAnswer_announced (ending : Ending) :
    stream.MayAnswer ⟨⟨.announced ending, progress, deeds⟩, stop, done, .stopping⟩ :=
  (mayAnswer_joined ending).before .joins

theorem mayAnswer_ended (ending : Ending) :
    stream.MayAnswer ⟨⟨.ended ending, progress, deeds⟩, stop, done, .stopping⟩ :=
  (mayAnswer_announced ending).before .announces

theorem mayAnswer_leaving :
    stream.MayAnswer ⟨⟨.leaving, progress, deeds⟩, stop, done, .stopping⟩ := by
  apply MayAnswer.before _ (.works (@Works.flushed _ _ _ _ _ (.ok ())))
  exact mayAnswer_ended _

theorem mayAnswer_waiting {arrived : Option (Except StreamFault (List RawRecord))}
    (changed : stop.changed = true) :
    stream.MayAnswer ⟨⟨.waiting arrived, progress, deeds⟩, stop, done, .stopping⟩ :=
  mayAnswer_leaving.before (.leaves changed)

/-- The rest of a batch is handled to its end, unless a record spoils it. -/
theorem mayAnswer_busy (changed : stop.changed = true) (batch rest : List RawRecord) :
    stream.MayAnswer ⟨⟨.busy batch rest, progress, deeds⟩, stop, done, .stopping⟩ := by
  induction rest generalizing progress deeds with
  | nil =>
    apply MayAnswer.before _ (.works .committed)
    exact mayAnswer_waiting changed
  | cons record rest ih =>
    cases outcome : (stream.process progress record).1.result with
    | error fault =>
      apply MayAnswer.before _ (.works (.spoiled outcome))
      exact mayAnswer_ended _
    | ok survivor =>
      cases survivor with
      | none =>
        apply MayAnswer.before _ (.works (.filtered outcome))
        exact ih
      | some output =>
        apply MayAnswer.before _ (.works (.made outcome))
        apply MayAnswer.before _ (.works .delivered)
        exact ih

theorem mayAnswer_of_reached {running : RunningStream} (reached : stream.Reached running)
    (stopping : running.handle = .stopping) : stream.MayAnswer running := by
  -- A task in its loop has been told to stop.
  have told := (RunningStream.coherent_of_reached reached).asked
  obtain ⟨⟨stage, progress, deeds⟩, stop, done, handle⟩ := running
  subst stopping
  cases stage with
  | waiting arrived => exact mayAnswer_waiting (told nofun rfl)
  | busy batch rest => exact mayAnswer_busy (told nofun rfl) batch rest
  | sending batch record output rest =>
    apply MayAnswer.before _ (.works .delivered)
    exact mayAnswer_busy (told nofun rfl) batch rest
  | leaving => exact mayAnswer_leaving
  | ended ending => exact mayAnswer_ended ending
  | announced ending => exact mayAnswer_announced ending
  | joined ending => exact mayAnswer_joined ending

/-! ### The handle and the loop -/

/-- At every moment of a running stream:

A task that waits for its source after the handle was used to stop the stream, or was dropped, can
leave its loop, and without an answer of the source it can do nothing else. When it leaves, all that
it was brought is handled and committed. While the handle is held, only a failure ends the loop.

Where a call that waits for the end returns, the loop is over: it handles, sends, commits and
flushes nothing after it. A loop that is over has done what every run of the loop does that gets the
same answers, such as one that replays them, and ended as that run does, by its last deed. This
stays, and the call that stops the stream, however late, gives the counts of all deeds, or the
failure that ended the loop. That call can always return, but only behind the end.

And there is no run of the loop that is not one of a running stream: a task can do what the run
does, and the handle is told what the run comes to. -/
theorem stop_agrees_with_loop {running : RunningStream} (reached : stream.Reached running) :
    let task := running.task
    (running.handle ≠ .held → ∀ arrived, task.stage = .waiting arrived →
      (∃ later, stream.Happens running .leaves later) ∧
      (arrived = none → ∀ happening later, happening.byTask = true →
        stream.Happens running happening later → happening = .leaves)) ∧
    (∀ later, stream.Happens running .leaves later →
      brought task.deeds = settled task.deeds ∧
      ∀ record ∈ brought task.deeds, Completed task.deeds record) ∧
    (running.handle = .held →
      task.stage.inLoop = true ∨ ∃ fault, task.stage.over? = some (.failed fault)) ∧
    (∀ later, stream.Happens running .finished later ∨
      stream.Happens running (.isFinished true) later →
      task.stage.over?.isSome = true) ∧
    (∀ ending, task.stage.over? = some ending →
      task.deeds.getLast?.bind Deed.ending? = some ending ∧
      replay.Answers stream.plan.config.toTopic task.deeds (task.deeds.filter Deed.asks) [] ∧
      (∀ (σ : Type) (transport : Transport σ) (start last : σ),
        transport.Answers stream.plan.config.toTopic task.deeds start last →
        let run := stream.loop transport (looks task.deeds) .fresh start
        run.ending = ending ∧ run.progress = task.progress ∧ run.state = last ∧
          run.effects = task.deeds.filterMap Deed.effect?) ∧
      ∀ later, stream.Later running later →
        later.task.stage.over? = some ending ∧ later.task.deeds = task.deeds ∧
        ∀ outcome, later.handle = .answered outcome →
          outcome = ending.result.map fun _ => (stream.counts task.deeds).addTo ⟨0, 0, 0⟩) ∧
    (running.handle = .stopping → stream.MayAnswer running) ∧
    (∀ outcome, running.handle = .answered outcome → ∃ ending, task.stage = .joined ending) ∧
    ∀ (σ : Type) (transport : Transport σ) (count : Nat) (start : σ),
      let run := stream.loop transport count .fresh start
      ∃ other, stream.Reached other ∧ other.task.stage = .joined run.ending ∧
        other.task.progress = run.progress ∧ other.task.deeds.filterMap Deed.effect? = run.effects ∧
        other.handle = .answered run.outcome := by
  intro task
  have coherent := RunningStream.coherent_of_reached reached
  have accords := accords_of_reached reached
  refine ⟨fun released arrived waits => ⟨?_, ?_⟩, fun later leaves => ?_,
    fun held => (coherent.unasked held).2, fun later returns => ?_, fun ending ended => ?_,
    mayAnswer_of_reached reached, fun outcome given => ?_,
    fun σ transport count start => loop_reached stream transport count start⟩
  · -- Stopping and dropping leave a word on the channel, or close it, so the task may leave.
    obtain ⟨⟨stage, progress, deeds⟩, stop, done, handle⟩ := running
    obtain rfl : stage = .waiting arrived := waits
    exact ⟨_, .leaves (coherent.asked released rfl)⟩
  · -- Nothing has arrived that a step of the task could take up.
    rintro rfl happening later moves happens
    cases happens with
    | leaves _ => rfl
    | works works => cases works <;> cases waits
    | announces | joins => cases waits
    | arrives _ | stats _ _ | isFinished | finished _ | stop | answers | drop | abandon =>
      cases moves
  · cases leaves with
    | leaves _ => exact (accords 0).settles
  · -- The handle hears of an end from the channel, or sees that the task is joined.
    rcases returns with finished | isFinished
    · cases finished with
      | finished heard =>
        obtain ⟨ending, ended⟩ := coherent.announced heard
        exact Option.isSome_of_eq_some ended
    · generalize answer : Happening.isFinished true = happening at isFinished
      cases isFinished with
      | @isFinished now _ _ =>
        have joined : true = now.stage.isJoined := Happening.isFinished.inj answer
        exact Stage.isSome_of_isJoined joined.symm
      | _ => cases answer
  · -- What is over stays as it is, and an answer is given for what is joined.
    obtain ⟨last, stats, runs⟩ := (over_accords accords ended).over
    refine ⟨last, answers_replay _ _, runs, fun later way => ?_⟩
    obtain ⟨still, same, alike⟩ := way.kept ended
    refine ⟨still, same, fun outcome given => ?_⟩
    obtain ⟨other, joined, rfl⟩ :=
      (RunningStream.coherent_of_reached (reached.trans way)).answered outcome given
    rw [joined] at still
    obtain rfl := Option.some.inj still
    rw [alike, stats]
  · obtain ⟨ending, joined, -⟩ := coherent.answered outcome given
    exact ⟨ending, joined⟩

/-- What is done with a single letter. -/
def postDeeds : List Deed :=
  [.read (.ok [letter 0 none (some [1])]),
    .sent (letter 0 none (some [1])) ⟨none, some [1], none⟩ (.ok ()),
    .commit [letter 0 none (some [1])] (.ok ())]

/-- The stream was asked to stop while it was sending the letter. -/
def stoppedAtPost : RunningStream :=
  ⟨⟨.waiting none, (lively.process .fresh (letter 0 none (some [1]))).2.acknowledged, postDeeds⟩,
    Channel.fresh.send true, .fresh, .stopping⟩

/-- The call has returned with the counters. -/
def returnedToPost : RunningStream :=
  ⟨⟨.joined (.stopped (.ok ())), stoppedAtPost.task.progress, postDeeds ++ [.flush (.ok ())]⟩,
    (Channel.fresh.send true).see.close, (Channel.fresh.send true).close, .answered (.ok ⟨1, 1, 0⟩)⟩

theorem stopped_at_post :
    lively.Reached stoppedAtPost ∧ stoppedAtPost.handle ≠ .held ∧
    stoppedAtPost.task.stage = .waiting none ∧
      (∃ later, lively.Happens stoppedAtPost .leaves later) ∧
      brought postDeeds = settled postDeeds ∧
      lively.Later stoppedAtPost returnedToPost ∧
      (∃ ending, returnedToPost.task.stage = .joined ending) ∧
      .ok ⟨1, 1, 0⟩ = (Ending.stopped (.ok ())).result.map fun _ =>
        (lively.counts (postDeeds ++ [.flush (.ok ())])).addTo ⟨0, 0, 0⟩ := by
  have reached : lively.Reached stoppedAtPost :=
    .head ⟨_, .arrives (.ok [letter 0 none (some [1])])⟩ <| .head ⟨_, .works .received⟩ <|
    .head ⟨_, .works (.made rfl)⟩ <| .head ⟨_, .stop⟩ <| .head ⟨_, .works .delivered⟩ <|
    .head ⟨_, .works .committed⟩ .refl
  have way : lively.Later stoppedAtPost returnedToPost :=
    .head ⟨_, .leaves rfl⟩ <| .head ⟨_, .works .flushed⟩ <| .head ⟨_, .announces⟩ <|
    .head ⟨_, .joins⟩ <| .head ⟨_, .answers⟩ .refl
  obtain ⟨leaves, settles, -⟩ := stop_agrees_with_loop reached
  obtain ⟨-, -, -, -, ended, -, joined, -⟩ := stop_agrees_with_loop (reached.trans way)
  obtain ⟨⟨later, enabled⟩, -⟩ := leaves nofun none rfl
  obtain ⟨-, -, -, still⟩ := ended _ rfl
  exact ⟨reached, nofun, rfl, ⟨later, enabled⟩, (settles later enabled).1, way, joined _ rfl,
    (still _ .refl).2.2 _ rfl⟩

end RecordStream

end Conduit
