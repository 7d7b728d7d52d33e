import Conduit.Proofs.Stream.Deeds

/-!
# Commits follow acknowledgements

The trace of a run is a row of complete blocks, one for each batch: the outputs of its surviving
records in order, then the commit of the whole batch. Behind the blocks stands either a single flush
or the acknowledged outputs of a batch that was never committed. What a run did up to any moment
has an account of this form, and every deed carries the account on.
-/
namespace Conduit

namespace RecordStream

variable {κ α σ : Type} (stream : RecordStream κ α)

/-- What becomes of records that are handled one after the other. -/
def outcomes : Progress → List RawRecord → List (Except StreamFault (Option Output))
  | _, [] => []
  | progress, record :: rest =>
    (stream.process progress record).1.result :: outcomes (stream.process progress record).2 rest

/-- How far a stream is when it has handled records. -/
def progressPast (progress : Progress) (records : List RawRecord) : Progress :=
  records.foldl (fun progress record => (stream.process progress record).2) progress

/-- Each of the records can be handled: it is filtered out, or it survives. -/
def Sound (progress : Progress) (records : List RawRecord) : Prop :=
  ∀ outcome ∈ stream.outcomes progress records, ∃ survivor, outcome = .ok survivor

/-- The outputs of the surviving records. -/
def outputs (progress : Progress) (records : List RawRecord) : List Output :=
  (stream.outcomes progress records).filterMap fun
    | .ok survivor => survivor
    | .error _ => none

/-- The effects of batches that are handled to the end: outputs, then the commit. -/
def blocks : Progress → List (List RawRecord) → List Effect
  | _, [] => []
  | progress, batch :: later =>
    (stream.outputs progress batch).map .sent ++ .committed batch ::
      blocks (stream.progressPast progress batch) later

/-- What comes behind the complete blocks: from the last deed, the batches that were read and not
committed, the effects of what was done for them, and the ending. -/
inductive Closes (progress : Progress) :
    Option Deed → List (List RawRecord) → List Effect → Ending → Prop
  | stopped {flushed} :
      Closes progress (some (.flush flushed)) [] [.flushed] (.stopped flushed)
  | unread {fault} :
      Closes progress (some (.read (.error fault))) [] [] (.failed fault)
  | spoiled {before record after fault} (sound : stream.Sound progress before)
      (outcome : (stream.process (stream.progressPast progress before) record).1.result =
      .error fault) :
      Closes progress (some (.spoiled record fault)) [before ++ record :: after]
        ((stream.outputs progress before).map .sent) (.failed fault)
  | undelivered {before record after output fault} (sound : stream.Sound progress before)
      (outcome : (stream.process (stream.progressPast progress before) record).1.result =
      .ok (some output)) :
      Closes progress (some (.sent record output (.error fault))) [before ++ record :: after]
        ((stream.outputs progress before).map .sent) (.failed fault)
  | uncommitted {batch fault} (sound : stream.Sound progress batch) :
      Closes progress (some (.commit batch (.error fault))) [batch]
        ((stream.outputs progress batch).map .sent) (.failed fault)

/-! ### Records one after the other -/

/-- What becomes of a record depends on the times of the partitions, not on the counters. -/
theorem process_congr {left right : Progress} (same : left.times = right.times)
    (record : RawRecord) : (stream.process left record).1 = (stream.process right record).1 ∧
      (stream.process left record).2.times = (stream.process right record).2.times := by
  have time : left.time record.partition = right.time record.partition := by
    simp only [Progress.time, same]
  simp [process, Progress.after, time, same]

theorem progressPast_append (progress : Progress) (earlier later : List RawRecord) :
    stream.progressPast progress (earlier ++ later) =
      stream.progressPast (stream.progressPast progress earlier) later :=
  List.foldl_append

theorem outcomes_append (progress : Progress) (earlier later : List RawRecord) :
    stream.outcomes progress (earlier ++ later) =
      stream.outcomes progress earlier ++
        stream.outcomes (stream.progressPast progress earlier) later := by
  induction earlier generalizing progress with
  | nil => rfl
  | cons record rest ih => simp only [List.cons_append, outcomes, progressPast, List.foldl_cons, ih]

theorem sound_append (progress : Progress) (earlier later : List RawRecord) :
    stream.Sound progress (earlier ++ later) ↔
      stream.Sound progress earlier ∧
      stream.Sound (stream.progressPast progress earlier) later := by
  simp only [Sound, outcomes_append, List.mem_append, or_imp, forall_and]

theorem outputs_append (progress : Progress) (earlier later : List RawRecord) :
    stream.outputs progress (earlier ++ later) =
      stream.outputs progress earlier ++
        stream.outputs (stream.progressPast progress earlier) later := by
  simp only [outputs, outcomes_append, List.filterMap_append]

theorem outputs_singleton {progress : Progress} {record : RawRecord} {survivor : Option Output}
    (outcome : (stream.process progress record).1.result = .ok survivor) :
    stream.outputs progress [record] = survivor.toList := by
  cases survivor <;> simp [outputs, outcomes, outcome]

theorem blocks_append (progress : Progress) (earlier later : List (List RawRecord)) :
    stream.blocks progress (earlier ++ later) =
      stream.blocks progress earlier ++
        stream.blocks (stream.progressPast progress earlier.flatten) later := by
  induction earlier generalizing progress with
  | nil => rfl
  | cons batch rest ih =>
    simp only [List.cons_append, blocks, ih, List.flatten_cons, progressPast_append,
      List.append_assoc]

/-! ### The account of a run -/

/-- What a run has done by some moment. At a batch, its records before the rest are done. -/
def Account (progress : Progress) (deeds : List Deed) : Phase → Progress → Prop
  | .idle _, now => ∃ batches,
      deeds.filterMap Deed.batch? = batches ∧
      deeds.filterMap Deed.effect? = stream.blocks progress batches ∧
      stream.Sound progress batches.flatten ∧
      now.times = (stream.progressPast progress batches.flatten).times
  | .busy _ batch rest, now => ∃ batches done,
      batch = done ++ rest ∧
      deeds.filterMap Deed.batch? = batches ++ [batch] ∧
      deeds.filterMap Deed.effect? = stream.blocks progress batches ++
        (stream.outputs (stream.progressPast progress batches.flatten) done).map .sent ∧
      stream.Sound progress (batches.flatten ++ done) ∧
      now.times = (stream.progressPast progress (batches.flatten ++ done)).times
  | .over ending, _ => ∃ batches unfinished tail,
      deeds.filterMap Deed.batch? = batches ++ unfinished ∧
      deeds.filterMap Deed.effect? = stream.blocks progress batches ++ tail ∧
      stream.Sound progress batches.flatten ∧
      stream.Closes (stream.progressPast progress batches.flatten) deeds.getLast? unfinished tail
        ending

variable {stream} {transport : Transport σ} {progress now later : Progress} {deeds : List Deed}
  {deed : Deed} {looks : Nat} {batch rest : List RawRecord} {record : RawRecord}

/-- A record that is filtered out or delivered joins those of its batch that are done. -/
private theorem account_handled {survivor : Option Output}
    (account : stream.Account progress deeds (.busy looks batch (record :: rest)) now)
    (outcome : (stream.process now record).1.result = .ok survivor)
    (effect : deed.effect? = survivor.map .sent) (silent : deed.batch? = none)
    (counted : later.times = (stream.process now record).2.times) :
    stream.Account progress (deeds ++ [deed]) (.busy looks batch rest) later := by
  obtain ⟨batches, done, split, read, effects, sound, times⟩ := account
  -- The account does not know the counters; they do not matter for what becomes of a record.
  have same := stream.process_congr times record
  rw [same.1] at outcome
  refine ⟨batches, done ++ [record], by simpa using split, ?_, ?_, ?_, ?_⟩
  · simp [read, silent]
  · rw [progressPast_append] at outcome
    rw [List.filterMap_append, effects, outputs_append, stream.outputs_singleton outcome]
    cases survivor <;> simp [effect]
  · rw [← List.append_assoc, sound_append]
    exact ⟨sound, by simp [Sound, outcomes, outcome]⟩
  · rw [← List.append_assoc, progressPast_append, counted]
    exact same.2

/-- A failure at a batch leaves it unfinished behind the complete blocks. -/
private theorem account_fails {fault : StreamFault}
    (account : stream.Account progress deeds (.busy looks batch rest) now)
    (noEffect : deed.effect? = none) (silent : deed.batch? = none)
    (closes : ∀ start done, batch = done ++ rest → stream.Sound start done →
      now.times = (stream.progressPast start done).times →
      stream.Closes start (some deed) [batch] ((stream.outputs start done).map .sent)
        (.failed fault)) :
    stream.Account progress (deeds ++ [deed]) (.over (.failed fault)) later := by
  obtain ⟨batches, done, split, read, effects, sound, times⟩ := account
  have parts := (stream.sound_append _ _ _).mp sound
  rw [progressPast_append] at times
  -- What was done of the batch stands behind the blocks; how it closes depends on the failure.
  have closed := closes _ done split parts.2 times
  refine ⟨batches, [batch],
    (stream.outputs (stream.progressPast progress batches.flatten) done).map .sent,
    ?_, ?_, parts.1, ?_⟩
  · simp [read, silent]
  · simpa [noEffect] using effects
  · simpa using closed

/-- Every deed carries the account on. -/
theorem Account.next {moment following : Moment σ}
    (account : stream.Account progress deeds moment.phase moment.progress)
    (follows : stream.Follows transport moment deed following) :
    stream.Account progress (deeds ++ [deed]) following.phase following.progress := by
  -- A batch joins the blocks when its commit is taken. Every other deed keeps the blocks as they
  -- are.
  cases follows with
  | flushed _ =>
    obtain ⟨batches, read, effects, sound, -⟩ := account
    refine ⟨batches, [], [.flushed], ?_, ?_, sound, ?_⟩
    · simp [read, Deed.batch?]
    · simp [effects, Deed.effect?]
    · simpa using Closes.stopped
  | unread _ =>
    obtain ⟨batches, read, effects, sound, -⟩ := account
    refine ⟨batches, [], [], ?_, ?_, sound, ?_⟩
    · simp [read, Deed.batch?]
    · simp [effects, Deed.effect?]
    · simpa using Closes.unread
  | nothing _ =>
    obtain ⟨batches, read, effects, sound, times⟩ := account
    refine ⟨batches, ?_, ?_, sound, times⟩
    · simp [read, Deed.batch?]
    · simp [effects, Deed.effect?]
  | received _ =>
    obtain ⟨batches, read, effects, sound, times⟩ := account
    -- Nothing of the new batch is done yet.
    refine ⟨batches, [], rfl, ?_, ?_, ?_, ?_⟩
    · simp [read, Deed.batch?]
    · simp [effects, Deed.effect?, outputs, outcomes]
    · simpa using sound
    · simpa using times
  | filtered outcome => exact account_handled account outcome rfl rfl rfl
  | delivered outcome _ => exact account_handled account outcome rfl rfl rfl
  | @spoiled _ _ record _ _ _ _ outcome =>
    refine account_fails account rfl rfl fun start done split sound times => ?_
    rw [split]
    exact .spoiled sound ((stream.process_congr times record).1 ▸ outcome)
  | @undelivered _ _ record _ _ _ _ _ _ outcome _ =>
    refine account_fails account rfl rfl fun start done split sound times => ?_
    rw [split]
    exact .undelivered sound ((stream.process_congr times record).1 ▸ outcome)
  | uncommitted _ =>
    refine account_fails account rfl rfl fun start done split sound _ => ?_
    -- No record is left, so the whole batch is done.
    rw [List.append_nil] at split
    subst split
    exact .uncommitted sound
  | @committed _ batch _ _ _ _ =>
    obtain ⟨batches, done, split, read, effects, sound, times⟩ := account
    rw [List.append_nil] at split
    subst split
    refine ⟨batches ++ [batch], ?_, ?_, ?_, ?_⟩
    · simp [read, Deed.batch?]
    · simp [effects, Deed.effect?, blocks_append, blocks]
    · simpa using sound
    · simpa using times

theorem Leads.account {first last : Moment σ} {further : List Deed}
    (leads : stream.Leads transport first further last)
    (account : stream.Account progress deeds first.phase first.progress) :
    stream.Account progress (deeds ++ further) last.phase last.progress := by
  -- The deeds so far are general: the account of the first further deed is the start for the
  -- others.
  induction leads generalizing deeds with
  | done => simpa using account
  | cons follows _ ih => simpa using ih (account.next follows)

variable (stream) (transport)

/-- Commit safety. Whatever the source, the sink and the shutdown do, the deeds of a run lead from
its first look to its end: there are as many looks as there are before the stream is asked to stop,
unless a failure ends the run earlier. The trace consists of the complete blocks of the batches that
were read, in the order in which they were read, and of what `Closes` allows behind them; the
effects are what the transport acknowledged, took and flushed. -/
theorem loop_effects_in_blocks (looks : Nat) (progress : Progress) (state : σ) :
    let run := stream.loop transport looks progress state
    ∃ deeds batches unfinished tail,
      stream.Leads transport ⟨.idle looks, progress, state⟩ deeds
        ⟨.over run.ending, run.progress, run.state⟩ ∧
      transport.Answers stream.plan.config.toTopic deeds state run.state ∧
      deeds.countP Deed.reads ≤ looks ∧
      (∀ flushed, run.ending = .stopped flushed → deeds.countP Deed.reads = looks) ∧
      run.effects = deeds.filterMap Deed.effect? ∧
      deeds.filterMap Deed.batch? = batches ++ unfinished ∧
      run.effects = stream.blocks progress batches ++ tail ∧
      stream.Sound progress batches.flatten ∧
      stream.Closes (stream.progressPast progress batches.flatten) deeds.getLast? unfinished tail
        run.ending := by
  intro run
  obtain ⟨deeds, same, leads⟩ := stream.loop_leads transport looks progress state
  -- Before the first look there is nothing to account for.
  have start : stream.Account progress [] (.idle looks) progress :=
    ⟨[], rfl, rfl, by simp [Sound, outcomes], rfl⟩
  obtain ⟨batches, unfinished, tail, read, effects, sound, closes⟩ := leads.account start
  obtain ⟨most, all⟩ := leads.looks
  refine ⟨deeds, batches, unfinished, tail, leads, leads.answers, most, fun flushed stopped => ?_,
    same.symm, read, same ▸ effects, sound, closes⟩
  refine all fun fault failed => ?_
  have ended : run.ending = .failed fault := Phase.over.inj failed
  rw [stopped] at ended
  cases ended

end RecordStream

end Conduit
