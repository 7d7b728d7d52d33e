import Conduit.Proofs.Data.Table
import Conduit.Proofs.Stream.Passage
import Conduit.Stream.Loop

/-!
# Record by record

A stream reads its source in batches, but what it does to a record depends only on the record and on
the records before it. The course of a stream is told here for a list of records without batches: a
record is decoded, passes the steps and is encoded, its output is sent, and the first failure ends
the course. The loop takes the course of all records in the batches that it looks at, wherever they
are cut, and flushes its sink where the course ends well.
-/
namespace Conduit

/-- Where a stream writes: a machine of its own, which does not know the source. -/
structure Sink (τ : Type) where
  send : String → Output → τ → Except StreamFault Unit × τ
  flush : τ → Except StreamFault Unit × τ

/-- A transport that serves batches in turn, then empty ones, and takes every commit. -/
def Sink.fed {τ : Type} (sink : Sink τ) : Transport (List (List RawRecord) × τ) where
  next state := (.ok (state.1.headD []), (state.1.tail, state.2))
  send topic output state :=
    let (answer, next) := sink.send topic output state.2
    (answer, (state.1, next))
  commit _ state := (.ok (), state)
  flush state :=
    let (answer, next) := sink.flush state.2
    (answer, (state.1, next))

/-- How many records were begun, sent on and filtered out. -/
structure Tally where
  consumed : Nat
  produced : Nat
  filtered : Nat

def Tally.plus (one other : Tally) : Tally :=
  ⟨one.consumed + other.consumed, one.produced + other.produced, one.filtered + other.filtered⟩

def Tally.addTo (tally : Tally) (stats : StreamStats) : StreamStats :=
  ⟨stats.consumed + .ofNat tally.consumed, stats.produced + .ofNat tally.produced,
    stats.filtered + .ofNat tally.filtered⟩

/-- What is seen and sent, the counts, the time of each partition and the sink at the end, and the
failure that was the end, if there was one. -/
structure Course (κ α τ : Type) where
  events : List (StreamEvent κ α)
  tally : Tally
  times : Int32 → Int64
  sink : τ
  ending : Except StreamFault Unit

/-- The course with something before it. -/
def Course.after {κ α τ : Type} (events : List (StreamEvent κ α)) (tally : Tally)
    (course : Course κ α τ) :
    Course κ α τ :=
  { course with events := events ++ course.events, tally := tally.plus course.tally }

/-- Goes on after a course, unless it ended in a failure. -/
def Course.andThen {κ α τ : Type} (course : Course κ α τ)
    (rest : (Int32 → Int64) → τ → Course κ α τ) :
    Course κ α τ :=
  match course.ending with
  | .error _ => course
  | .ok () => (rest course.times course.sink).after course.events course.tally

/-- How a run ends that took this course, and its sink then. -/
def Course.close {κ α τ : Type} (course : Course κ α τ) (sink : Sink τ) : Ending × τ :=
  match course.ending with
  | .error fault => (.failed fault, course.sink)
  | .ok () => (.stopped (sink.flush course.sink).1, (sink.flush course.sink).2)

/-- The events that tell of a record: what is seen and what is sent. -/
def StreamEvent.tells {κ α : Type} : StreamEvent κ α → Bool
  | .observed _ => true
  | .sent _ => true
  | .serde _ _ | .committed _ | .flushed => false

namespace RecordStream

variable {κ α τ : Type} (stream : RecordStream κ α)

/-- A record is decoded, key first; what is absent stays absent. -/
def decoded (record : RawRecord) : Except StreamFault (Option κ × Option α) := do
  let key ← record.key.mapM (stream.plan.consumed.key.deserialize stream.plan.config.fromTopic)
  let value ← record.value.mapM
      (stream.plan.consumed.value.deserialize stream.plan.config.fromTopic)
  return (key, value)

/-- An output is encoded, key first. -/
def encoded (pair : Option κ × Option α) (time : Int64) : Except StreamFault Output := do
  let key ← pair.1.mapM (stream.plan.produced.key.serialize stream.plan.config.toTopic)
  let value ← pair.2.mapM (stream.plan.produced.value.serialize stream.plan.config.toTopic)
  return ⟨key, value, if 0 ≤ time then some time else none⟩

/-- What becomes of a record: nothing if the steps drop it, else the encoding of what they make. -/
def fate (time : Int64) (record : RawRecord) : Except StreamFault (Option Output) :=
  (stream.decoded record).bind fun pair =>
    match Step.apply stream.steps pair with
    | none => .ok none
    | some made => (stream.encoded made (stream.plan.extractor record time)).map some

/-- What is seen of a record on its way. -/
def seen (record : RawRecord) : List (Observation κ α) :=
  match stream.decoded record with
  | .ok pair => (List.range stream.steps.length).filterMap (Step.seenAt stream.steps pair)
  | .error _ => []

/-- A record that gets past the steps counts for the time of its partition. -/
def timesPast (times : Int32 → Int64) (record : RawRecord) : Int32 → Int64 :=
  match (stream.decoded record).toOption.bind (Step.apply stream.steps) with
  | some _ => Function.update times record.partition
      (max (times record.partition) (stream.plan.extractor record (times record.partition)))
  | none => times

/-- Records one after the other, up to the first failure. -/
def course (sink : Sink τ) : List RawRecord → (Int32 → Int64) → τ → Course κ α τ
  | [], times, state => ⟨[], ⟨0, 0, 0⟩, times, state, .ok ()⟩
  | record :: rest, times, state =>
    let seen := (stream.seen record).map .observed
    let past := stream.timesPast times record
    match stream.fate (times record.partition) record with
    | .error fault => ⟨seen, ⟨1, 0, 0⟩, past, state, .error fault⟩
    | .ok none => (course sink rest past state).after seen ⟨1, 0, 1⟩
    | .ok (some output) =>
      match sink.send stream.plan.config.toTopic output state with
      | (.error fault, next) => ⟨seen, ⟨1, 0, 0⟩, past, next, .error fault⟩
      | (.ok (), next) => (course sink rest past next).after (seen ++ [.sent output]) ⟨1, 1, 0⟩

/-! ### One record -/

section

variable {β γ : Type}

theorem result_bind (action : Act κ α β) (next : β → Act κ α γ) :
    (action >>= next).result = action.result >>= fun value => (next value).result := by
  change (action.bind next).result = _
  unfold Traced.bind
  split
  next value same => rw [same]; rfl
  next fault same => rw [same]; rfl

def told (events : List (StreamEvent κ α)) : List (StreamEvent κ α) :=
  events.filter StreamEvent.tells

theorem told_bind (action : Act κ α β) (next : β → Act κ α γ) :
    told (action >>= next).events = told action.events ++
      match action.result with
      | .ok value => told (next value).events
      | .error _ => [] := by
  change told (action.bind next).events = _
  unfold Traced.bind
  split
  next value same => simp [same, told, Traced.after]
  next fault same => simp [same]

theorem result_readField (role : SerdeRole) (serde : Serde β) (field : Option Text.Utf8.Bytes) :
    (stream.readField role serde field).result =
      field.mapM (serde.deserialize stream.plan.config.fromTopic) := by
  cases field <;> rfl

theorem result_writeField (role : SerdeRole) (serde : Serde β) (field : Option β) :
    (stream.writeField role serde field).result =
      field.mapM (serde.serialize stream.plan.config.toTopic) := by
  cases field <;> rfl

theorem told_readField (role : SerdeRole) (serde : Serde β) (field : Option Text.Utf8.Bytes) :
    told (stream.readField role serde field).events = [] := by
  cases field <;> rfl

theorem told_writeField (role : SerdeRole) (serde : Serde β) (field : Option β) :
    told (stream.writeField role serde field).events = [] := by
  cases field <;> rfl

end

theorem told_observed (observations : List (Observation κ α)) :
    told (observations.map StreamEvent.observed) = observations.map .observed :=
  List.filter_eq_self.mpr (by simp [StreamEvent.tells])

theorem told_append (earlier later : List (StreamEvent κ α)) :
    told (earlier ++ later) = told earlier ++ told later :=
  List.filter_append _ _

theorem receive_eq (record : RawRecord) :
    (stream.receive record).result = (stream.decoded record).map (Step.apply stream.steps) ∧
      told (stream.receive record).events = (stream.seen record).map .observed := by
  unfold receive
  simp only [result_bind, told_bind, result_readField, told_readField, List.nil_append]
  rw [seen, decoded]
  -- The key is decoded before the value, and the steps are for a record of which both were.
  cases record.key.mapM (stream.plan.consumed.key.deserialize stream.plan.config.fromTopic) with
  | error fault => exact ⟨rfl, rfl⟩
  | ok key =>
    cases record.value.mapM
      (stream.plan.consumed.value.deserialize stream.plan.config.fromTopic) with
    | error fault => exact ⟨rfl, rfl⟩
    | ok value =>
      refine ⟨congrArg Except.ok (Step.result_pass stream.steps key value), ?_⟩
      change told ((Step.pass stream.steps key value).observations.map .observed) = _
      rw [told_observed, Step.observations_pass]
      rfl

theorem emit_eq (key : Option κ) (value : Option α) (time : Int64) :
    (stream.emit key value time).result = stream.encoded (key, value) time ∧
      told (stream.emit key value time).events = [] := by
  unfold emit
  simp only [result_bind, told_bind, result_writeField, told_writeField, List.nil_append]
  rw [encoded]
  cases key.mapM (stream.plan.produced.key.serialize stream.plan.config.toTopic) with
  | error fault => exact ⟨rfl, rfl⟩
  | ok key =>
    cases value.mapM (stream.plan.produced.value.serialize stream.plan.config.toTopic) with
    | error fault => exact ⟨rfl, rfl⟩
    | ok value => exact ⟨rfl, rfl⟩

/-- What becomes of a record in the stream is its fate, and its peeks see what they should. -/
theorem handle_eq (time : Int64) (record : RawRecord) :
    (stream.handle time record).result = stream.fate time record ∧
      told (stream.handle time record).events = (stream.seen record).map .observed ∧
      (stream.handle time record).time =
        ((stream.decoded record).toOption.bind (Step.apply stream.steps)).map
        fun _ => stream.plan.extractor record time := by
  obtain ⟨received, seen⟩ := stream.receive_eq record
  rw [handle, fate]
  -- Only what gets past the steps is encoded, and only that has a time.
  cases decoded : stream.decoded record with
  | error fault =>
    replace received : (stream.receive record).result = .error fault := by
      rw [received, decoded]; rfl
    simp only [received]
    exact ⟨rfl, seen, rfl⟩
  | ok pair =>
    replace received : (stream.receive record).result = .ok (Step.apply stream.steps pair) := by
      rw [received, decoded]; rfl
    simp only [received, Except.toOption, Option.bind_some, Except.bind]
    cases Step.apply stream.steps pair with
    | none => exact ⟨rfl, seen, rfl⟩
    | some made =>
      obtain ⟨emitted, silent⟩ := stream.emit_eq made.1 made.2 (stream.plan.extractor record time)
      refine ⟨congrArg (Except.map some) emitted, ?_, rfl⟩
      dsimp only
      rw [told_append, silent, List.append_nil, seen]

theorem time_after (progress : Progress) (part other : Int32) (handling : Handling κ α) :
    (progress.after part handling).time other = match handling.time with
      | some time => if other = part then max (progress.time part) time else progress.time other
      | none => progress.time other := by
  unfold Progress.after Progress.time
  cases handling.time with
  | none => rfl
  | some time =>
    dsimp only
    rw [Table.find?_insert]
    by_cases here : other = part <;> simp [here]

theorem stats_after (progress : Progress) (part : Int32) (handling : Handling κ α) :
    (progress.after part handling).stats = match handling.result with
      | .ok none => Tally.addTo ⟨1, 0, 1⟩ progress.stats
      | _ => Tally.addTo ⟨1, 0, 0⟩ progress.stats := by
  unfold Progress.after
  cases handling.result with
  | error fault => simp [Tally.addTo]
  | ok fate => cases fate <;> simp [Tally.addTo]

/-- A record is counted in as it fares, and moves the time of its partition. -/
theorem process_eq {progress : Progress} {times : Int32 → Int64}
    (known : ∀ part, progress.time part = times part) (record : RawRecord) :
    (stream.process progress record).1.result = stream.fate (times record.partition) record ∧
      told (stream.process progress record).1.events = (stream.seen record).map .observed ∧
      ((stream.process progress record).2.stats =
        match stream.fate (times record.partition) record with
        | .ok none => Tally.addTo ⟨1, 0, 1⟩ progress.stats
        | _ => Tally.addTo ⟨1, 0, 0⟩ progress.stats) ∧
      ∀ part, (stream.process progress record).2.time part =
        stream.timesPast times record part := by
  obtain ⟨result, seen, time⟩ := stream.handle_eq (times record.partition) record
  rw [process, known]
  refine ⟨result, seen, result ▸ stats_after progress record.partition _, fun part => ?_⟩
  dsimp only
  rw [time_after, time, timesPast]
  cases (stream.decoded record).toOption.bind (Step.apply stream.steps) with
  | none => exact known part
  | some made => simp only [Option.map_some, Function.update_apply, known]

/-! ### Batches -/

theorem Course.andThen_after (course : Course κ α τ) (rest : (Int32 → Int64) → τ → Course κ α τ)
    (events : List (StreamEvent κ α)) (tally : Tally) :
    (course.after events tally).andThen rest = (course.andThen rest).after events tally := by
  unfold Course.andThen Course.after
  dsimp only
  split <;> simp [Tally.plus, Nat.add_assoc]

theorem Tally.addTo_plus (one other : Tally) (stats : StreamStats) :
    (one.plus other).addTo stats = other.addTo (one.addTo stats) := by
  simp only [Tally.addTo, Tally.plus, UInt64.ofNat_add, UInt64.add_assoc]

/-- A part of a run tells what a course does. -/
structure Tells {σ ρ : Type} (run : Run κ α σ ρ) (stats : StreamStats) (course : Course κ α τ) :
    Prop where
  events : told run.events = course.events
  stats : run.progress.stats = course.tally.addTo stats

theorem Tells.after {σ ρ : Type} {run : Run κ α σ ρ} {stats between : StreamStats}
    {course : Course κ α τ} (tells : Tells run between course) {events : List (StreamEvent κ α)}
    {tally : Tally} (counted : between = tally.addTo stats) :
    Tells (run.after events) stats (course.after (told events) tally) where
  events := by
    rw [Run.after, Course.after, told_append, tells.events]
  stats := by
    rw [Run.after, Course.after, Tally.addTo_plus, ← counted]
    exact tells.stats

/-- The records of a batch take their course, whatever batches follow. -/
theorem runBatch_tells (sink : Sink τ) (records : List RawRecord) (batches : List (List RawRecord))
    {progress : Progress} {times : Int32 → Int64} (known : ∀ part, progress.time part = times part)
    (state : τ) :
    let run := stream.runBatch sink.fed records progress (batches, state)
    let course := stream.course sink records times state
    Tells run progress.stats course ∧ run.ending = course.ending ∧
      run.state = (batches, course.sink) ∧
      ∀ part, run.progress.time part = course.times part := by
  -- Record by record, from the times and the state that the record before left on both sides.
  induction records generalizing progress times state with
  | nil => exact ⟨⟨rfl, by simp [runBatch, course, Tally.addTo]⟩, rfl, rfl, known⟩
  | cons record rest ih =>
    obtain ⟨result, seen, counted, moved⟩ := stream.process_eq known record
    rw [runBatch, course]
    dsimp only
    rw [result]
    cases fated : stream.fate (times record.partition) record with
    | error fault =>
      rw [fated] at counted
      exact ⟨⟨seen, counted⟩, rfl, rfl, moved⟩
    | ok fate =>
      rw [fated] at counted
      cases fate with
      | none =>
        obtain ⟨tells, others⟩ := ih moved state
        exact ⟨seen ▸ tells.after counted, others⟩
      | some output =>
        rcases answer : sink.send stream.plan.config.toTopic output state with ⟨taken, next⟩
        have asked : sink.fed.send stream.plan.config.toTopic output (batches, state) =
            (taken, (batches, next)) := by
          simp only [Sink.fed, answer]
        dsimp only
        rw [asked, answer]
        cases taken with
        | error fault => exact ⟨⟨seen, counted⟩, rfl, rfl, moved⟩
        | ok _ =>
          -- The acknowledgement counts, but keeps the times.
          have kept : ∀ part, (stream.process progress record).2.acknowledged.time part =
              stream.timesPast times record part := moved
          obtain ⟨tells, others⟩ := ih kept next
          have told : told ((stream.process progress record).1.events ++ [.sent output]) =
              (stream.seen record).map .observed ++ [.sent output] := by
            rw [told_append, seen]
            rfl
          refine ⟨told ▸ tells.after ?_, others⟩
          rw [Progress.acknowledged, counted]
          simp [Tally.addTo]

theorem course_append (sink : Sink τ) (earlier later : List RawRecord) (times : Int32 → Int64)
    (state : τ) :
    stream.course sink (earlier ++ later) times state =
      (stream.course sink earlier times state).andThen (stream.course sink later) := by
  induction earlier generalizing times state with
  | nil => simp [course, Course.andThen, Course.after, Tally.plus]
  | cons record rest ih =>
    rw [List.cons_append, course, course]
    -- A failure ends both; otherwise both go on with the same record put before.
    split
    · rfl
    · rw [ih, Course.andThen_after]
    · split
      · rfl
      · rw [ih, Course.andThen_after]

/-! ### Runs -/

/-- The loop takes the course of all records that it is served, and closes it. -/
theorem loop_tells (sink : Sink τ) (looks : Nat) (batches : List (List RawRecord))
    {progress : Progress} {times : Int32 → Int64} (known : ∀ part, progress.time part = times part)
    (state : τ) :
    let run := stream.loop sink.fed looks progress (batches, state)
    let course := stream.course sink (batches.take looks).flatten times state
    Tells run progress.stats course ∧ (run.ending, run.state.2) = course.close sink := by
  induction looks generalizing batches progress times state with
  | zero => exact ⟨⟨rfl, by simp [loop, course, Tally.addTo]⟩, rfl⟩
  | succ looks ih =>
    match batches with
    -- Nothing is served, so the loop looks again.
    | [] =>
      have idle := ih [] known state
      rw [List.take_nil] at idle ⊢
      exact idle
    | [] :: later => exact ih later known state
    | (first :: rest) :: later =>
      obtain ⟨tells, ended, left, moved⟩ :=
        stream.runBatch_tells sink (first :: rest) later known state
      have served : sink.fed.next ((first :: rest) :: later, state) =
          (.ok (first :: rest), (later, state)) := rfl
      rw [List.take_succ_cons, List.flatten_cons, course_append, loop, served]
      dsimp only
      generalize stream.runBatch sink.fed (first :: rest) progress (later, state) = batch
        at tells ended left moved
      generalize stream.course sink (first :: rest) times state = course at tells ended left moved
      rw [Course.andThen, ended, left]
      cases last : course.ending with
      | error fault => exact ⟨⟨tells.events, tells.stats⟩, by simp [Course.close, last]⟩
      | ok _ =>
        -- The commit is taken and tells nothing, so the loop goes on where the course does.
        obtain ⟨further, closed⟩ := ih later moved course.sink
        have committed : told (batch.events ++ [.committed (first :: rest)]) = course.events := by
          rw [told_append, tells.events]
          exact List.append_nil _
        exact ⟨committed ▸ further.after tells.stats, closed⟩

theorem told_run (transport : Transport (List (List RawRecord) × τ)) (looks : Nat)
    (state : List (List RawRecord) × τ) :
    told (stream.run transport looks state).events =
      told (stream.loop transport looks .fresh state).events := by
  have configured : told (configure stream) = [] := rfl
  have closed : told (close : List (StreamEvent κ α)) = [] := rfl
  rw [run]
  dsimp only
  rw [told_append, told_append, configured, closed, List.nil_append, List.append_nil]

/-- A run takes the course of all records in the batches that it looks at: it tells and counts what
the course does, and ends and leaves its sink as the course closes. So none of this depends on where
the records are cut into batches. -/
theorem run_takes_course (sink : Sink τ) (looks : Nat) (batches : List (List RawRecord))
    (state : τ) :
    let run := stream.run sink.fed looks (batches, state)
    let course := stream.course sink (batches.take looks).flatten (fun _ => -1) state
    (told run.events = course.events ∧ run.progress.stats = course.tally.addTo ⟨0, 0, 0⟩ ∧
      (run.ending, run.state.2) = course.close sink) ∧
    ∀ (others : Nat) (cut : List (List RawRecord)), (cut.take others).flatten =
      (batches.take looks).flatten →
      let other := stream.run sink.fed others (cut, state)
      told other.events = told run.events ∧ other.progress.stats = run.progress.stats ∧
        other.ending = run.ending ∧ other.state.2 = run.state.2 := by
  have takes (looks : Nat) (batches : List (List RawRecord)) :
      let run := stream.run sink.fed looks (batches, state)
      let course := stream.course sink (batches.take looks).flatten (fun _ => -1) state
      told run.events = course.events ∧ run.progress.stats = course.tally.addTo ⟨0, 0, 0⟩ ∧
        (run.ending, run.state.2) = course.close sink := by
    obtain ⟨tells, closed⟩ := stream.loop_tells sink looks batches (fun _ => rfl) state
    exact ⟨(stream.told_run sink.fed looks _).trans tells.events, tells.stats, closed⟩
  refine ⟨takes looks batches, fun others cut same => ?_⟩
  obtain ⟨events, stats, closed⟩ := takes looks batches
  obtain ⟨events', stats', closed'⟩ := takes others cut
  rw [same] at events' stats' closed'
  obtain ⟨ending, left⟩ := Prod.mk.inj (closed'.trans closed.symm)
  exact ⟨events'.trans events.symm, stats'.trans stats.symm, ending, left⟩

open Text.Utf8

/-- A stream that drops tombstones and shows what is left. -/
def lively : RecordStream Bytes Bytes :=
  ⟨⟨⟨"", "", "orders", "copies", false⟩, ⟨.bytes, .bytes⟩, ⟨.bytes, .bytes⟩, .record⟩,
    [.filter fun _ value => value.isSome, .peek "left"]⟩

/-- A sink that keeps what it is sent. -/
def shelf : Sink (List Output) :=
  ⟨fun _ output sent => (.ok (), sent ++ [output]), fun sent => (.ok (), sent)⟩

def letter (offset : Int64) (time : Option Int64) (value : Option Bytes) : RawRecord :=
  ⟨"orders", 0, offset, time, none, value, []⟩

/-- Three letters in two batches and in one, between empty ones. A letter without a time of its own
takes that of the partition. -/
theorem cut_differently :
    let letters := [letter 0 (some 5) (some [1]), letter 1 (some 9) none, letter 2 none (some [2])]
    let one := lively.run shelf.fed 2 ([letters.take 2, letters.drop 2], [])
    let other := lively.run shelf.fed 3 ([[], letters, []], [])
    one.state.2 = [⟨none, some [1], some 5⟩, ⟨none, some [2], some 5⟩] ∧
      other.state.2 = one.state.2 ∧ other.progress.stats = one.progress.stats ∧
      one.progress.stats = ⟨3, 2, 1⟩ ∧ other.ending = one.ending := by
  intro letters one other
  obtain ⟨⟨-, stats, closed⟩, cut⟩ :=
    lively.run_takes_course shelf 2 [letters.take 2, letters.drop 2] []
  obtain ⟨-, same, ending, left⟩ := cut 3 [[], letters, []] rfl
  exact ⟨congrArg Prod.snd closed, left, same, stats, ending⟩

end RecordStream

end Conduit
