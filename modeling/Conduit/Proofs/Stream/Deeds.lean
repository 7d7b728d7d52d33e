import Conduit.Stream.Loop

/-!
# Deeds of a stream

A run is told apart here into single deeds: a look at the source, the handling of one record up to
the acknowledgement of its output, a commit, a flush. Every deed carries the answer it got, so a
list of deeds says what was asked of the transport and what came back. Between two deeds a stream is
at a moment, from which the next deed follows; from the first moment the deeds of a run lead to its
end.
-/
namespace Conduit

/-- What a run leaves behind at its source and its sink. -/
inductive Effect where
  | sent (output : Output)
  | committed (batch : List RawRecord)
  | flushed

def StreamEvent.effect? {κ α : Type} : StreamEvent κ α → Option Effect
  | .sent output => some (.sent output)
  | .committed batch => some (.committed batch)
  | .flushed => some .flushed
  | .serde _ _ => none
  | .observed _ => none

/-- The trace of a run, without what happens inside the stream. -/
def Run.effects {κ α σ ρ : Type} (run : Run κ α σ ρ) : List Effect :=
  run.events.filterMap StreamEvent.effect?

/-- One thing that a stream does. -/
inductive Deed where
  | read (answer : Except StreamFault (List RawRecord))
  /-- A step dropped the record. -/
  | filtered (record : RawRecord)
  /-- The record could not be decoded, or what became of it could not be encoded. -/
  | spoiled (record : RawRecord) (fault : StreamFault)
  | sent (record : RawRecord) (output : Output) (answer : Except StreamFault Unit)
  | commit (batch : List RawRecord) (answer : Except StreamFault Unit)
  | flush (answer : Except StreamFault Unit)

namespace Deed

/-- What a deed leaves behind: outputs count when they are acknowledged, commits when they are
taken, and a flush in any case. -/
def effect? : Deed → Option Effect
  | sent _ output (.ok ()) => some (.sent output)
  | commit batch (.ok ()) => some (.committed batch)
  | flush _ => some .flushed
  | _ => none

/-- The batch that a deed brings in. Looks that find nothing bring none. -/
def batch? : Deed → Option (List RawRecord)
  | read (.ok (first :: rest)) => some (first :: rest)
  | _ => none

/-- A look at the source. -/
def reads : Deed → Bool
  | read _ => true
  | _ => false

end Deed

/-- The transport, asked for the deeds one after the other, gives the answers that they carry. -/
def Transport.Answers {σ : Type} (transport : Transport σ) (topic : String) :
    List Deed → σ → σ → Prop
  | [], state, last => state = last
  | .read answer :: rest, state, last =>
    (transport.next state).1 = answer ∧ transport.Answers topic rest (transport.next state).2 last
  | .filtered _ :: rest, state, last => transport.Answers topic rest state last
  | .spoiled _ _ :: rest, state, last => transport.Answers topic rest state last
  | .sent _ output answer :: rest, state, last =>
    (transport.send topic output state).1 = answer ∧
      transport.Answers topic rest (transport.send topic output state).2 last
  | .commit batch answer :: rest, state, last =>
    (transport.commit batch state).1 = answer ∧
      transport.Answers topic rest (transport.commit batch state).2 last
  | .flush answer :: rest, state, last =>
    (transport.flush state).1 = answer ∧ transport.Answers topic rest (transport.flush state).2 last

theorem Transport.answers_append {σ : Type} (transport : Transport σ) (topic : String)
    (earlier later : List Deed) (state last : σ) :
    transport.Answers topic (earlier ++ later) state last ↔
      ∃ between, transport.Answers topic earlier state between ∧
        transport.Answers topic later between last := by
  induction earlier generalizing state with
  | nil => simp [Answers]
  | cons deed rest ih => cases deed <;> simp [Answers, ih, and_assoc]

/-! ### Handling a record stays within the stream -/

/-- A call to a serde for a record, or a word to a peek. -/
def StreamEvent.Inward {κ α : Type} : StreamEvent κ α → Prop
  | .serde _ (.used _) => True
  | .observed _ => True
  | _ => False

section

variable {κ α β γ : Type}

/-- Nothing of an action is seen outside the stream. -/
def Quiet (events : List (StreamEvent κ α)) : Prop := events.filterMap StreamEvent.effect? = []

private theorem inward_bind {action : Act κ α β} {next : β → Act κ α γ}
    (first : ∀ event ∈ action.events, event.Inward)
    (later : ∀ value, ∀ event ∈ (next value).events, event.Inward) :
    ∀ event ∈ (action >>= next).events, event.Inward := by
  intro event member
  change event ∈ (action.bind next).events at member
  unfold Traced.bind at member
  -- After a failure of the first part there is no second one.
  split at member
  next value _ =>
    rcases List.mem_append.mp member with before | after
    · exact first event before
    · exact later value event after
  · exact first event member

namespace RecordStream

variable (stream : RecordStream κ α)

private theorem inward_readField (role : SerdeRole) (serde : Serde β)
    (field : Option Text.Utf8.Bytes) :
    ∀ event ∈ (stream.readField role serde field).events, event.Inward := by
  cases field <;> simp [readField, Traced.ofExcept, pure, StreamEvent.Inward]

private theorem inward_writeField (role : SerdeRole) (serde : Serde β) (field : Option β) :
    ∀ event ∈ (stream.writeField role serde field).events, event.Inward := by
  cases field <;> simp [writeField, Traced.ofExcept, pure, StreamEvent.Inward]

private theorem inward_receive (record : RawRecord) :
    ∀ event ∈ (stream.receive record).events, event.Inward := by
  refine inward_bind (inward_readField stream _ _ _) fun key => ?_
  refine inward_bind (inward_readField stream _ _ _) fun value => ?_
  intro event member
  obtain ⟨observation, -, rfl⟩ := List.mem_map.mp member
  exact trivial

private theorem inward_emit (key : Option κ) (value : Option α) (time : Int64) :
    ∀ event ∈ (stream.emit key value time).events, event.Inward := by
  refine inward_bind (inward_writeField stream _ _ _) fun keyBytes => ?_
  exact inward_bind (inward_writeField stream _ _ _) fun valueBytes => List.forall_mem_nil _

theorem inward_handle (partitionTime : Int64) (record : RawRecord) :
    ∀ event ∈ (stream.handle partitionTime record).events, event.Inward := by
  have received := stream.inward_receive record
  unfold handle
  dsimp only
  -- Only a record that the steps let through is encoded.
  split
  · exact received
  · exact received
  next key value _ =>
    intro event member
    rcases List.mem_append.mp member with before | after
    · exact received event before
    · exact stream.inward_emit key value _ event after

theorem quiet_handle (partitionTime : Int64) (record : RawRecord) :
    Quiet (stream.handle partitionTime record).events := by
  refine List.filterMap_eq_nil_iff.mpr fun event member => ?_
  have within := stream.inward_handle partitionTime record event member
  cases event with
  | serde | observed => rfl
  | sent | committed | flushed => cases within

theorem quiet_process (progress : Progress) (record : RawRecord) :
    (stream.process progress record).1.events.filterMap StreamEvent.effect? = [] :=
  stream.quiet_handle _ record

end RecordStream

end

/-! ### From deed to deed -/

/-- Where a stream stands between two deeds: before a look at its source, so many of which are
left; at a batch, with what is left of it; or at its end. -/
inductive Phase where
  | idle (looks : Nat)
  | busy (looks : Nat) (batch rest : List RawRecord)
  | over (ending : Ending)

/-- How many looks are left before the stream is asked to stop. -/
def Phase.looks : Phase → Nat
  | .idle looks => looks
  | .busy looks _ _ => looks
  | .over _ => 0

structure Moment (σ : Type) where
  phase : Phase
  progress : Progress
  state : σ

namespace RecordStream

variable {κ α σ : Type} (stream : RecordStream κ α) (transport : Transport σ)

/-- The deed that follows from a moment, and the moment after it. -/
inductive Follows : Moment σ → Deed → Moment σ → Prop
  | flushed {progress state next result} (answer : transport.flush state = (result, next)) :
      Follows ⟨.idle 0, progress, state⟩ (.flush result) ⟨.over (.stopped result), progress, next⟩
  | unread {looks progress state next fault}
      (answer : transport.next state = (.error fault, next)) :
      Follows ⟨.idle (looks + 1), progress, state⟩ (.read (.error fault))
        ⟨.over (.failed fault), progress, next⟩
  | nothing {looks progress state next} (answer : transport.next state = (.ok [], next)) :
      Follows ⟨.idle (looks + 1), progress, state⟩ (.read (.ok [])) ⟨.idle looks, progress, next⟩
  | received {looks progress state next first rest}
      (answer : transport.next state = (.ok (first :: rest), next)) :
      Follows ⟨.idle (looks + 1), progress, state⟩ (.read (.ok (first :: rest)))
        ⟨.busy looks (first :: rest) (first :: rest), progress, next⟩
  | spoiled {looks batch record rest progress state fault}
      (outcome : (stream.process progress record).1.result = .error fault) :
      Follows ⟨.busy looks batch (record :: rest), progress, state⟩ (.spoiled record fault)
        ⟨.over (.failed fault), (stream.process progress record).2, state⟩
  | filtered {looks batch record rest progress state}
      (outcome : (stream.process progress record).1.result = .ok none) :
      Follows ⟨.busy looks batch (record :: rest), progress, state⟩ (.filtered record)
        ⟨.busy looks batch rest, (stream.process progress record).2, state⟩
  | undelivered {looks batch record rest progress state next output fault}
      (outcome : (stream.process progress record).1.result = .ok (some output))
      (answer : transport.send stream.plan.config.toTopic output state = (.error fault, next)) :
      Follows ⟨.busy looks batch (record :: rest), progress, state⟩
        (.sent record output (.error fault))
        ⟨.over (.failed fault), (stream.process progress record).2, next⟩
  | delivered {looks batch record rest progress state next output}
      (outcome : (stream.process progress record).1.result = .ok (some output))
      (answer : transport.send stream.plan.config.toTopic output state = (.ok (), next)) :
      Follows ⟨.busy looks batch (record :: rest), progress, state⟩ (.sent record output (.ok ()))
        ⟨.busy looks batch rest, (stream.process progress record).2.acknowledged, next⟩
  | uncommitted {looks batch progress state next fault}
      (answer : transport.commit batch state = (.error fault, next)) :
      Follows ⟨.busy looks batch [], progress, state⟩ (.commit batch (.error fault))
        ⟨.over (.failed fault), progress, next⟩
  | committed {looks batch progress state next}
      (answer : transport.commit batch state = (.ok (), next)) :
      Follows ⟨.busy looks batch [], progress, state⟩ (.commit batch (.ok ()))
        ⟨.idle looks, progress, next⟩

/-- The deeds lead from one moment to another. -/
inductive Leads : Moment σ → List Deed → Moment σ → Prop
  | done {moment} : Leads moment [] moment
  | cons {first deed next deeds last} (follows : stream.Follows transport first deed next)
      (rest : Leads next deeds last) : Leads first (deed :: deeds) last

variable {stream transport}

theorem Leads.trans {first middle last : Moment σ} {earlier later : List Deed}
    (one : stream.Leads transport first earlier middle)
    (two : stream.Leads transport middle later last) :
    stream.Leads transport first (earlier ++ later) last := by
  induction one with
  | done => exact two
  | cons follows _ ih => exact .cons follows (ih two)

theorem Leads.split {first last : Moment σ} {earlier later : List Deed}
    (leads : stream.Leads transport first (earlier ++ later) last) :
    ∃ between, stream.Leads transport first earlier between ∧
      stream.Leads transport between later last := by
  induction earlier generalizing first with
  | nil => exact ⟨first, .done, leads⟩
  | cons deed rest ih =>
    cases leads with
    | cons follows leads =>
      obtain ⟨between, before, after⟩ := ih leads
      exact ⟨between, .cons follows before, after⟩

theorem Leads.next {first moment last : Moment σ} {deeds : List Deed} {deed : Deed}
    (prior : stream.Leads transport first deeds moment)
    (follows : stream.Follows transport moment deed last) :
    stream.Leads transport first (deeds ++ [deed]) last :=
  prior.trans (.cons follows .done)

/-- The transport's answers decide what comes next. -/
theorem Follows.unique {first left right : Moment σ} {one two : Deed}
    (toLeft : stream.Follows transport first one left)
    (toRight : stream.Follows transport first two right) : one = two ∧ left = right := by
  -- Deeds that could both follow in a phase differ in an answer that one transport gives.
  cases toLeft <;> cases toRight <;> simp_all

/-- All ways to an end are the same. -/
theorem Leads.unique {first left right : Moment σ} {one two : List Deed} {ending other : Ending}
    (toLeft : stream.Leads transport first one left) (leftOver : left.phase = .over ending)
    (toRight : stream.Leads transport first two right) (rightOver : right.phase = .over other) :
    one = two ∧ left = right := by
  -- Nothing follows an end, so neither way stops before the other.
  induction toLeft generalizing two with
  | done =>
    cases toRight with
    | done => exact ⟨rfl, rfl⟩
    | cons follows _ => cases follows <;> simp at leftOver
  | cons follows _ ih =>
    cases toRight with
    | done => cases follows <;> simp at rightOver
    | cons instead rest =>
      obtain ⟨rfl, rfl⟩ := follows.unique instead
      obtain ⟨rfl, same⟩ := ih leftOver rest
      exact ⟨rfl, same⟩

/-- A deed is what the transport was asked for, and carries its answer. -/
theorem Follows.answers {moment later : Moment σ} {deed : Deed}
    (follows : stream.Follows transport moment deed later) :
    transport.Answers stream.plan.config.toTopic [deed] moment.state later.state := by
  cases follows with
  | spoiled _ => rfl
  | filtered _ => rfl
  | undelivered _ answer | delivered _ answer => simp [Transport.Answers, answer]
  | flushed answer | unread answer | nothing answer | received answer | uncommitted answer
  | committed answer => simp [Transport.Answers, answer]

theorem Leads.answers {first last : Moment σ} {deeds : List Deed}
    (leads : stream.Leads transport first deeds last) :
    transport.Answers stream.plan.config.toTopic deeds first.state last.state := by
  induction leads with
  | done => rfl
  | cons follows _ ih => exact (transport.answers_append _ [_] _ _ _).mpr ⟨_, follows.answers, ih⟩

/-- A look takes one off those that are left, and only a failure leaves looks untaken. -/
theorem Follows.looks {moment later : Moment σ} {deed : Deed}
    (follows : stream.Follows transport moment deed later) :
    [deed].countP Deed.reads + later.phase.looks ≤ moment.phase.looks ∧
      ((∀ fault, later.phase ≠ .over (.failed fault)) →
        [deed].countP Deed.reads + later.phase.looks = moment.phase.looks) := by
  cases follows with
  | unread _ | spoiled _ | undelivered _ _ | uncommitted _ =>
    refine ⟨?_, fun unfailed => absurd rfl (unfailed _)⟩
    simp [Deed.reads, Phase.looks]
  | flushed _ | nothing _ | received _ | filtered _ | delivered _ _ | committed _ =>
    simp [Deed.reads, Phase.looks, Nat.add_comm]

theorem Leads.looks {first last : Moment σ} {deeds : List Deed}
    (leads : stream.Leads transport first deeds last) :
    deeds.countP Deed.reads + last.phase.looks ≤ first.phase.looks ∧
      ((∀ fault, last.phase ≠ .over (.failed fault)) →
        deeds.countP Deed.reads + last.phase.looks = first.phase.looks) := by
  induction leads with
  | done => simp
  | @cons _ deed between rest last follows leads ih =>
    obtain ⟨least, exact⟩ := follows.looks
    -- Nothing follows a failure, so a run that does not end with one meets none.
    have unfailed (fine : ∀ fault, last.phase ≠ .over (.failed fault)) (fault : StreamFault) :
        between.phase ≠ .over (.failed fault) := by
      intro failed
      cases leads with
      | done => exact fine fault failed
      | cons beyond _ => cases beyond <;> cases failed
    rw [List.countP_cons, List.countP_nil, Nat.zero_add] at least exact
    rw [List.countP_cons]
    refine ⟨by omega, fun fine => ?_⟩
    have first := exact (unfailed fine)
    have others := ih.2 fine
    omega

variable (stream transport)

/-- The deeds of a batch: they end it at its last record, or at the first one that fails. -/
theorem runBatch_leads (looks : Nat) (batch rest : List RawRecord) (progress : Progress)
    (state : σ) :
    ∃ deeds, deeds.filterMap Deed.effect? =
      (stream.runBatch transport rest progress state).effects ∧
      stream.Leads transport ⟨.busy looks batch rest, progress, state⟩ deeds
        ⟨match (stream.runBatch transport rest progress state).ending with
          | .ok () => .busy looks batch []
          | .error fault => .over (.failed fault),
          (stream.runBatch transport rest progress state).progress,
          (stream.runBatch transport rest progress state).state⟩ := by
  -- Record by record, from the progress and the state that the record before it left.
  induction rest generalizing progress state with
  | nil => exact ⟨[], rfl, .done⟩
  | cons record rest ih =>
    have quiet := stream.quiet_process progress record
    cases outcome : (stream.process progress record).1.result with
    | error fault =>
      refine ⟨[.spoiled record fault], ?_, ?_⟩
      · simp [runBatch, outcome, Run.effects, quiet, Deed.effect?]
      · simpa [runBatch, outcome] using Leads.cons (.spoiled outcome) .done
    | ok fate =>
      cases fate with
      | none =>
        obtain ⟨deeds, same, leads⟩ := ih (stream.process progress record).2 state
        refine ⟨.filtered record :: deeds, ?_, ?_⟩
        · simp [runBatch, outcome, Run.effects, Run.after, quiet, List.filterMap_cons,
            Deed.effect?, same]
        · simpa [runBatch, outcome, Run.after] using Leads.cons (.filtered outcome) leads
      | some output =>
        rcases answer : transport.send stream.plan.config.toTopic output state with ⟨result, next⟩
        cases result with
        | error fault =>
          refine ⟨[.sent record output (.error fault)], ?_, ?_⟩
          · simp [runBatch, outcome, answer, Run.effects, quiet, Deed.effect?]
          · simpa [runBatch, outcome, answer] using Leads.cons (.undelivered outcome answer) .done
        | ok _ =>
          obtain ⟨deeds, same, leads⟩ := ih (stream.process progress record).2.acknowledged next
          refine ⟨.sent record output (.ok ()) :: deeds, ?_, ?_⟩
          · simp [runBatch, outcome, answer, Run.effects, Run.after, quiet, Deed.effect?,
              StreamEvent.effect?, same]
          · simpa [runBatch, outcome, answer, Run.after] using
              Leads.cons (.delivered outcome answer) leads

/-- A run of the loop is its deeds from the first look to the end. -/
theorem loop_leads (looks : Nat) (progress : Progress) (state : σ) :
    ∃ deeds, deeds.filterMap Deed.effect? = (stream.loop transport looks progress state).effects ∧
      stream.Leads transport ⟨.idle looks, progress, state⟩ deeds
        ⟨.over (stream.loop transport looks progress state).ending,
          (stream.loop transport looks progress state).progress,
          (stream.loop transport looks progress state).state⟩ := by
  -- Look by look; when none is left only the flush remains.
  induction looks generalizing progress state with
  | zero =>
    rcases answer : transport.flush state with ⟨result, next⟩
    refine ⟨[.flush result], ?_, ?_⟩
    · simp [loop, answer, Run.effects, Deed.effect?, StreamEvent.effect?]
    · simpa [loop, answer] using Leads.cons (.flushed answer) .done
  | succ looks ih =>
    rcases answer : transport.next state with ⟨result, next⟩
    match result with
    | .error fault =>
      refine ⟨[.read (.error fault)], ?_, ?_⟩
      · simp [loop, answer, Run.effects, Deed.effect?]
      · simpa [loop, answer] using Leads.cons (.unread answer) .done
    | .ok [] =>
      obtain ⟨deeds, same, leads⟩ := ih progress next
      refine ⟨.read (.ok []) :: deeds, ?_, ?_⟩
      · simp [loop, answer, List.filterMap_cons, Deed.effect?, same]
      · simpa [loop, answer] using Leads.cons (.nothing answer) leads
    | .ok (first :: rest) =>
      -- The batch is handled to its end or to a failure, and committed only in the first case.
      obtain ⟨handled, same, leads⟩ :=
        stream.runBatch_leads transport looks (first :: rest) (first :: rest) progress next
      have reached := Leads.cons (.received answer) leads
      generalize ran : stream.runBatch transport (first :: rest) progress next = batch
        at same reached
      cases ending : batch.ending with
      | error fault =>
        refine ⟨.read (.ok (first :: rest)) :: handled, ?_, ?_⟩
        · simp [loop, answer, ran, ending, Run.effects, List.filterMap_cons, Deed.effect?, same]
        · simpa [loop, answer, ran, ending] using reached
      | ok _ =>
        rcases taken : transport.commit (first :: rest) batch.state with ⟨result, last⟩
        cases result with
        | error fault =>
          refine ⟨.read (.ok (first :: rest)) :: handled ++
            [.commit (first :: rest) (.error fault)], ?_, ?_⟩
          · simp [loop, answer, ran, ending, taken, Run.effects, List.filterMap_cons,
              Deed.effect?, same]
          · rw [ending] at reached
            simpa [loop, answer, ran, ending, taken] using Leads.next reached (.uncommitted taken)
        | ok _ =>
          obtain ⟨deeds, later, further⟩ := ih batch.progress last
          refine ⟨.read (.ok (first :: rest)) :: handled ++
            .commit (first :: rest) (.ok ()) :: deeds, ?_, ?_⟩
          · simp [loop, answer, ran, ending, taken, Run.effects, Run.after, List.filterMap_cons,
              Deed.effect?, StreamEvent.effect?, same, later]
          · rw [ending] at reached
            simpa [loop, answer, ran, ending, taken, Run.after] using
              reached.trans (Leads.cons (.committed taken) further)

end RecordStream

end Conduit
