import Conduit.Proofs.Broker.Position
import Conduit.Proofs.Stream.Ledger
import Conduit.Stream.Scripted
import Mathlib.Logic.Relation

/-!
# Restarts lose nothing

The life of a stream is a row of attempts under one group. Each attempt starts from what the group
has committed by then, is served each partition in offset order from there, and ends where the loop
ends. Its commits are queued and reach the cluster one after the other, at any time before the next
attempt. At every moment whatever lies below a committed offset was handled completely, and what is
handled twice was in the batch that an attempt had read and not committed when it ended.
-/
namespace Conduit

open Deeds Relation Text.Utf8

/-- One run of a stream: how it began, what was committed then, what it did so far, and where it
stands. -/
structure Attempt (σ : Type) where
  transport : Transport σ
  looks : Nat
  start : σ
  base : Commitment
  deeds : List Deed
  moment : Moment σ

/-- A stream under one group: the cluster, the commits on their way, the attempts that ended, and
the one that is under way. -/
structure History (σ : Type) where
  cluster : Cluster
  queued : List (List RawRecord)
  ended : List (Attempt σ)
  current : Option (Attempt σ)

/-- The commits that a deed puts on their way. -/
def Deed.queues : Deed → List (List RawRecord)
  | commit batch (.ok ()) => [batch]
  | _ => []

namespace Attempt

variable {κ α σ : Type}

def begin (transport : Transport σ) (looks : Nat) (start : σ) (base : Commitment) : Attempt σ :=
  ⟨transport, looks, start, base, [], ⟨.idle looks, .fresh, start⟩⟩

def further (attempt : Attempt σ) (deed : Deed) (later : Moment σ) : Attempt σ :=
  { attempt with deeds := attempt.deeds ++ [deed], moment := later }

/-- The attempt went the way of a run of the loop, from its beginning to its end. -/
def IsRunOf (attempt : Attempt σ) (stream : RecordStream κ α) : Prop :=
  let run := stream.loop attempt.transport attempt.looks .fresh attempt.start
  attempt.deeds.filterMap Deed.effect? = run.effects ∧
    attempt.moment = ⟨.over run.ending, run.progress, run.state⟩

end Attempt

namespace History

variable {κ α σ : Type} (stream : RecordStream κ α) (consumer : Consumer Bytes Bytes)
  (log : SourceLog)

/-- What the group has committed. -/
def committed (history : History σ) : Commitment := history.cluster.committed consumer.group

def attempts (history : History σ) : List (Attempt σ) := history.ended ++ history.current.toList

/-- One step in the life of a stream. -/
inductive Next : History σ → History σ → Prop
  /-- An attempt begins, with whatever it reads from and writes to. -/
  | start {cluster ended} (transport : Transport σ) (looks : Nat) (state : σ) :
      Next ⟨cluster, [], ended, none⟩
        ⟨cluster, [], ended, some (.begin transport looks state (cluster.committed consumer.group))⟩
  /-- The attempt does its next deed. What it reads is served in order. -/
  | act {cluster queued ended attempt deed later}
      (follows : stream.Follows attempt.transport attempt.moment deed later)
      (serves : log.Serves attempt.base (brought (attempt.deeds ++ [deed]))) :
      Next ⟨cluster, queued, ended, some attempt⟩
        ⟨cluster, queued ++ deed.queues, ended, some (attempt.further deed later)⟩
  /-- The first of the queued commits reaches the cluster. -/
  | apply {cluster batch queued ended current} (standing : Standing) :
      Next ⟨cluster, batch :: queued, ended, current⟩
        ⟨(consumer.commitRecords batch cluster standing).1, queued, ended, current⟩
  /-- The cluster changes in what does not concern the group. -/
  | elsewhere {cluster changed queued ended current}
      (kept : changed.committed consumer.group = cluster.committed consumer.group) :
      Next ⟨cluster, queued, ended, current⟩ ⟨changed, queued, ended, current⟩
  /-- The attempt is over, and its last commit has come through. -/
  | stop {cluster ended attempt ending} (finished : attempt.moment.phase = .over ending) :
      Next ⟨cluster, [], ended, some attempt⟩ ⟨cluster, [], ended ++ [attempt], none⟩

/-- The histories of a group that had committed nothing. -/
inductive Reached : History σ → Prop
  | new {cluster} (nothing : ∀ part, cluster.committed consumer.group part = none) :
      Reached ⟨cluster, [], [], none⟩
  | next {history later} (reached : Reached history)
      (step : Next stream consumer log history later) :
      Reached later

/-! ### What holds at every moment -/

/-- What is committed when all commits on their way have come through. -/
def promised (history : History σ) : Commitment :=
  history.queued.foldl Commitment.advance (history.committed consumer)

/-- Where the attempt under way began, or the next one would. -/
def base (history : History σ) : Commitment :=
  match history.current with
  | some attempt => attempt.base
  | none => history.committed consumer

/-- Commits on their way never move back. -/
def Forward : Commitment → List (List RawRecord) → Prop
  | _, [] => True
  | base, batch :: rest => NoFurther base (base.advance batch) ∧ Forward (base.advance batch) rest

theorem forward_append (base : Commitment) (earlier later : List (List RawRecord)) :
    Forward base (earlier ++ later) ↔
      Forward base earlier ∧ Forward (earlier.foldl Commitment.advance base) later := by
  induction earlier generalizing base with
  | nil => simp [Forward]
  | cons first rest ih => simp [Forward, ih, and_assoc]

theorem Forward.noFurther {base : Commitment} {queued : List (List RawRecord)}
    (forward : Forward base queued) : NoFurther base (queued.foldl Commitment.advance base) := by
  induction queued generalizing base with
  | nil => exact .refl base
  | cons first rest ih => exact forward.1.trans (ih forward.2)

/-- The attempt is served in order, keeps its books, and has moved the commits to the position
behind what it settled. -/
structure Underway (attempt : Attempt σ) (promised : Commitment) : Prop where
  leads : stream.Leads attempt.transport ⟨.idle attempt.looks, .fresh, attempt.start⟩ attempt.deeds
    attempt.moment
  ledger : Ledger attempt.deeds attempt.moment.phase
  serves : log.Serves attempt.base (brought attempt.deeds)
  position : promised = positionAfter attempt.base (settled attempt.deeds)

/-- What holds of a history at every moment. -/
structure Sound (history : History σ) : Prop where
  forward : Forward (history.committed consumer) history.queued
  drained : history.current = none → history.queued = []
  underway : ∀ attempt, history.current = some attempt →
    Underway stream log attempt (history.promised consumer)
  /-- What lies below the start of the attempt was done before it. -/
  handled : ∀ part, ∀ record ∈ log.records part, Below (history.base consumer) record →
    ∃ attempt ∈ history.ended, Completed attempt.deeds record
  settled : ∀ attempt ∈ history.ended, ∀ record ∈ settled attempt.deeds,
    Below (history.base consumer) record
  /-- What one attempt settled no later one reads. -/
  apart : history.ended.Pairwise fun earlier later =>
    ∀ record ∈ Deeds.settled earlier.deeds, record ∉ brought later.deeds
  ledgers : ∀ attempt ∈ history.ended, Ledger attempt.deeds attempt.moment.phase
  runs : ∀ attempt ∈ history.ended, attempt.IsRunOf stream

variable {stream log}

namespace Underway

variable {attempt : Attempt σ} {promised : Commitment} {record : RawRecord} {part : TopicPartition}

theorem settled_served (underway : Underway stream log attempt promised) :
    log.Serves attempt.base (Deeds.settled attempt.deeds) := by
  have serves := underway.serves
  rw [underway.ledger.split] at serves
  exact serves.earlier

/-- What lies below the promised commits was done before the attempt or in it. -/
theorem handled (underway : Underway stream log attempt promised)
    (member : record ∈ log.records part) (below : Below promised record) :
    Below attempt.base record ∨ Completed attempt.deeds record := by
  rw [underway.position] at below
  rcases underway.settled_served.read_of_below member below with before | read
  · exact Or.inl before
  · exact Or.inr (underway.ledger.complete record read)

theorem base_noFurther (underway : Underway stream log attempt promised) :
    NoFurther attempt.base promised := by
  rw [underway.position]
  exact underway.settled_served.start_noFurther

theorem settled_below (underway : Underway stream log attempt promised)
    (member : record ∈ Deeds.settled attempt.deeds) : Below promised record := by
  rw [underway.position]
  exact underway.settled_served.below_position member

/-- An attempt that is over went the way of the loop. -/
theorem isRunOf (underway : Underway stream log attempt promised) {ending : Ending}
    (finished : attempt.moment.phase = .over ending) : attempt.IsRunOf stream := by
  obtain ⟨deeds, same, leads⟩ :=
    stream.loop_leads attempt.transport attempt.looks .fresh attempt.start
  obtain ⟨deedsSame, momentSame⟩ := underway.leads.unique finished leads rfl
  exact ⟨deedsSame ▸ same, momentSame⟩

/-- A deed leads on; a commit moves the promised commits forward. -/
theorem act (underway : Underway stream log attempt promised) {deed : Deed} {later : Moment σ}
    (follows : stream.Follows attempt.transport attempt.moment deed later)
    (serves : log.Serves attempt.base (brought (attempt.deeds ++ [deed]))) :
    Underway stream log (attempt.further deed later)
      (deed.queues.foldl Commitment.advance promised) ∧
      Forward promised deed.queues := by
  have ledger := underway.ledger.next follows
  -- What is settled comes first in what was read, so it is served in order as well.
  have whole : log.Serves attempt.base (Deeds.settled (attempt.deeds ++ [deed])) := by
    have both := serves
    rw [ledger.split] at both
    exact both.earlier
  rw [settled_concat] at whole
  have leads := underway.leads.next follows
  -- Only a commit that is taken settles records, and moves the promised commits to behind them.
  match deed with
  | .commit batch (.ok ()) =>
    have moved : (positionAfter attempt.base (Deeds.settled attempt.deeds)).advance batch =
        positionAfter attempt.base (Deeds.settled attempt.deeds ++ batch) := whole.advance_position
    rw [underway.position]
    refine ⟨⟨leads, ledger, serves, ?_⟩, ?_, trivial⟩
    · exact moved.trans (congrArg _ (settled_concat attempt.deeds (.commit batch (.ok ()))).symm)
    · rw [moved]
      exact whole.position_noFurther
  | .commit batch (.error fault) | .read answer | .filtered record | .spoiled record fault
  | .sent record output answer | .flush answer =>
    refine ⟨⟨leads, ledger, serves, ?_⟩, trivial⟩
    simp [Deed.queues, Attempt.further, settled_concat, Deed.settled, underway.position]

end Underway

variable {consumer}

theorem promised_noFurther {history : History σ} (sound : Sound stream consumer log history) :
    NoFurther (history.committed consumer) (history.promised consumer) :=
  sound.forward.noFurther

/-- What a commit that comes through makes of what is committed. -/
theorem committed_apply (cluster : Cluster) (batch : List RawRecord) (standing : Standing) :
    (consumer.commitRecords batch cluster standing).1.committed consumer.group =
      Commitment.advance (cluster.committed consumer.group) batch :=
  funext fun part => consumer.committed_commitRecords batch cluster standing part

/-- Every step keeps a history sound. -/
theorem Sound.next {history later : History σ} (sound : Sound stream consumer log history)
    (step : Next stream consumer log history later) : Sound stream consumer log later := by
  obtain ⟨forward, drained, underway, handled, settled, apart, ledgers, runs⟩ := sound
  cases step with
  | @start cluster ended transport looks state =>
    -- A new attempt has read nothing, and what is promised is what it starts from.
    refine ⟨forward, by simp, ?_, handled, settled, apart, ledgers, runs⟩
    rintro _ ⟨⟩
    exact ⟨.done, Ledger.fresh looks, fun part => List.nil_prefix, rfl⟩
  | @act cluster queued ended attempt deed moment follows serves =>
    obtain ⟨further, moved⟩ := (underway attempt rfl).act follows serves
    refine ⟨?_, by simp, ?_, handled, settled, apart, ledgers, runs⟩
    · exact (forward_append _ _ _).mpr ⟨forward, moved⟩
    · rintro _ ⟨⟩
      rw [promised, List.foldl_append]
      exact further
  | @apply cluster batch queued ended current standing =>
    -- Commits are on their way only while there is an attempt.
    have busy : ∃ attempt, current = some attempt := by
      cases current with
      | none => simpa using drained rfl
      | some attempt => exact ⟨attempt, rfl⟩
    obtain ⟨attempt, rfl⟩ := busy
    -- The commit goes over from the queue to the cluster, so what is promised stays the same.
    refine ⟨?_, by simp, ?_, handled, settled, apart, ledgers, runs⟩
    · simpa only [committed, committed_apply] using forward.2
    · simpa only [promised, committed, committed_apply, List.foldl_cons] using underway
  | @elsewhere cluster changed queued ended current kept =>
    refine ⟨?_, drained, ?_, ?_, ?_, apart, ledgers, runs⟩
    · simpa only [committed, kept] using forward
    · simpa only [promised, committed, kept] using underway
    · simpa only [base, committed, kept] using handled
    · simpa only [base, committed, kept] using settled
  | @stop cluster ended attempt ending finished =>
    -- With no commit on its way, what the attempt was promised is committed.
    have now := underway attempt rfl
    refine ⟨forward, fun _ => rfl, by simp, ?_, ?_, ?_, ?_, ?_⟩
    · intro part record member below
      rcases now.handled member below with before | completed
      · obtain ⟨earlier, present, completed⟩ := handled part record member before
        exact ⟨earlier, List.mem_append_left _ present, completed⟩
      · exact ⟨attempt, by simp, completed⟩
    · refine List.forall_mem_append.mpr ⟨?_, List.forall_mem_singleton.mpr ?_⟩
      · intro earlier present record member
        exact now.base_noFurther.below (settled earlier present record member)
      · intro record member
        exact now.settled_below member
    · refine List.pairwise_append.mpr ⟨apart, List.pairwise_singleton _ _, ?_⟩
      -- What was settled earlier lies below the start of the attempt, and nothing below it is
      -- served.
      intro earlier present other same record member read
      rw [List.mem_singleton.mp same] at read
      exact now.serves.not_below read (settled earlier present record member)
    · exact List.forall_mem_append.mpr ⟨ledgers, List.forall_mem_singleton.mpr now.ledger⟩
    · exact List.forall_mem_append.mpr ⟨runs, List.forall_mem_singleton.mpr (now.isRunOf finished)⟩

theorem Reached.sound {history : History σ} (reached : Reached stream consumer log history) :
    Sound stream consumer log history := by
  induction reached with
  | new nothing =>
    refine ⟨trivial, fun _ => rfl, by simp, ?_, by simp, .nil, by simp, by simp⟩
    rintro part record _ ⟨offset, start, -⟩
    simp [base, committed, nothing] at start
  | next _ step ih => exact ih.next step

/-- What the group has committed never moves back. -/
theorem Sound.committed_noFurther {history later : History σ}
    (sound : Sound stream consumer log history) (step : Next stream consumer log history later) :
    NoFurther (history.committed consumer) (later.committed consumer) := by
  cases step with
  | start _ _ _ | act _ _ | stop _ => exact .refl _
  | apply standing =>
    have forward := sound.forward.1
    simpa only [committed, committed_apply] using forward
  | elsewhere kept =>
    simpa only [committed, kept] using NoFurther.refl _

/-- Nor does it in any number of steps. -/
theorem Reached.committed_noFurther {history later : History σ}
    (reached : Reached stream consumer log history)
    (steps : ReflTransGen (Next stream consumer log) history later) :
    NoFurther (history.committed consumer) (later.committed consumer) := by
  -- Each step starts from a history that was reached, so this is carried along.
  suffices both : Reached stream consumer log later ∧
      NoFurther (history.committed consumer) (later.committed consumer) from both.2
  induction steps with
  | refl => exact ⟨reached, .refl _⟩
  | tail _ step ih =>
    obtain ⟨here, sofar⟩ := ih
    exact ⟨here.next step, sofar.trans (here.sound.committed_noFurther step)⟩

/-- At-least-once. At every moment of a history each record of the log below the offset that is
committed for its partition was handled completely in some attempt; committed offsets never move
back; and a record whose output was acknowledged is handled again by a later attempt only if it is
of the batch that was unfinished when the earlier attempt ended. The attempts that ended are runs of
the loop. -/
theorem restarts_lose_nothing {history : History σ}
    (reached : Reached stream consumer log history) :
    (∀ part, ∀ record ∈ log.records part, Below (history.committed consumer) record →
      ∃ attempt ∈ history.attempts, Completed attempt.deeds record) ∧
    (∀ later, ReflTransGen (Next stream consumer log) history later →
      ∀ part, history.cluster.committed consumer.group part ≤
        later.cluster.committed consumer.group part) ∧
    (history.attempts.Pairwise fun earlier later => ∀ record, Delivered earlier.deeds record →
      Touched later.deeds record → record ∈ unfinished earlier.deeds) ∧
    ∀ attempt ∈ history.ended, attempt.IsRunOf stream := by
  have sound := reached.sound
  -- A record handled in an attempt is settled by it or in its unfinished batch.
  have leftover : ∀ attempt ∈ history.ended, ∀ record, Delivered attempt.deeds record →
      record ∉ settled attempt.deeds → record ∈ unfinished attempt.deeds := by
    intro attempt present record delivered unsettled
    have ledger := sound.ledgers attempt present
    have read := ledger.touched record delivered.touched
    rw [ledger.split] at read
    exact (List.mem_append.mp read).resolve_left unsettled
  refine ⟨?_, fun later steps => reached.committed_noFurther steps, ?_, sound.runs⟩
  · intro part record member below
    -- Below what is committed is below what is promised: done before the attempt under way, or in
    -- it.
    have promised := (promised_noFurther sound).below below
    cases current : history.current with
    | none =>
      have base : Below (history.base consumer) record := by simpa [base, current] using below
      obtain ⟨attempt, present, completed⟩ := sound.handled part record member base
      exact ⟨attempt, List.mem_append_left _ present, completed⟩
    | some attempt =>
      rcases (sound.underway attempt current).handled member promised with before | completed
      · have base : Below (history.base consumer) record := by simpa [base, current] using before
        obtain ⟨earlier, present, completed⟩ := sound.handled part record member base
        exact ⟨earlier, List.mem_append_left _ present, completed⟩
      · exact ⟨attempt, by simp [attempts, current], completed⟩
  -- Either both attempts ended, or the later one is under way.
  · rw [attempts, List.pairwise_append]
    refine ⟨?_, by cases history.current <;> simp, ?_⟩
    · refine (List.Pairwise.and_mem.mp sound.apart).imp fun both record delivered touched => ?_
      obtain ⟨first, second, apart⟩ := both
      have read := (sound.ledgers _ second).touched record touched
      exact leftover _ first record delivered fun settled => apart record settled read
    · intro earlier present later under record delivered touched
      have current : history.current = some later := by simpa using under
      have now := sound.underway later current
      refine leftover earlier present record delivered fun settled => ?_
      have below := sound.settled earlier present record settled
      rw [base, current] at below
      exact now.serves.not_below (now.ledger.touched record touched) below

/-- An order as it is read. -/
def order (offset : Int64) : RawRecord := ⟨"orders", 0, offset, none, none, some [1], []⟩

/-- A stream that copies orders. -/
def copying : RecordStream Bytes Bytes :=
  ⟨⟨⟨"", "", "orders", "copies", false⟩, ⟨.bytes, .bytes⟩, ⟨.bytes, .bytes⟩, .record⟩, []⟩

def reader : Consumer Bytes Bytes := ⟨⟨.empty⟩, ["orders"], .bytes, .bytes⟩

/-- Two orders with a gap between them. -/
def twoOrders : SourceLog where
  records part := if part = ⟨"orders", 0⟩ then [order 0, order 2] else []
  placed part record member := by
    split at member
    next here =>
      subst here
      simp only [List.mem_cons, List.not_mem_nil, or_false] at member
      rcases member with rfl | rfl <;> rfl
    · simp at member
  ascending part := by
    split
    · simp [order]
    · exact .nil
  bounded part record member := by
    split at member
    · simp only [List.mem_cons, List.not_mem_nil, or_false] at member
      rcases member with rfl | rfl <;> decide
    · simp at member

/-- What the cluster knows after the first order is committed. -/
def oneCommitted : Cluster := (Cluster.bare "" 0).commit reader.group (offsetsPast [order 0])

/-- The commit of the second order fails after the order was copied, and a second attempt copies it
again. -/
theorem copied_again_after_failed_commit :
    ∃ (history : History StreamScript) (earlier later : Attempt StreamScript),
      Reached copying reader twoOrders history ∧ history.attempts = [earlier, later] ∧
        Below (history.committed reader) (order 0) ∧
        (∃ attempt ∈ history.attempts, Completed attempt.deeds (order 0)) ∧
        Delivered earlier.deeds (order 2) ∧ Touched later.deeds (order 2) ∧
        order 2 ∈ unfinished earlier.deeds := by
  have placed (offset : Int64) : (order offset).place = ⟨"orders", 0⟩ := rfl
  have first : twoOrders.Serves (fun _ => none) [order 0] :=
    SourceLog.serves_of_one ⟨"orders", 0⟩ (by simp [placed]) ⟨[order 2], rfl⟩
  have both : twoOrders.Serves (fun _ => none) [order 0, order 2] :=
    SourceLog.serves_of_one ⟨"orders", 0⟩ (by simp [placed]) ⟨[], rfl⟩
  have second : twoOrders.Serves (oneCommitted.committed reader.group) [order 2] :=
    SourceLog.serves_of_one ⟨"orders", 0⟩ (by simp [placed]) ⟨[], rfl⟩
  have new : Reached copying reader twoOrders (⟨.bare "" 0, [], [], none⟩ : History StreamScript) :=
    .new fun _ => rfl
  -- The first attempt: one batch is committed, the next one is not.
  have begun := new.next (.start (Mishaps.transport ⟨none, some 2, false⟩) 2
    ⟨[.ok [order 0], .ok [order 2]], 0⟩)
  have read := begun.next (.act (.received rfl) first)
  have copied := read.next (.act (.delivered rfl rfl) first)
  have committed := copied.next (.act (.committed rfl) first)
  have applied := committed.next (.apply ⟨.empty, .empty, .empty⟩)
  have readOn := applied.next (.act (.received rfl) both)
  have copiedOn := readOn.next (.act (.delivered rfl rfl) both)
  have failed := copiedOn.next (.act (.uncommitted rfl) both)
  have stopped := failed.next (.stop rfl)
  -- The second attempt begins behind the first batch.
  have restarted := stopped.next (.start Mishaps.none.transport 1 ⟨[.ok [order 2]], 0⟩)
  have readAgain := restarted.next (.act (.received rfl) second)
  have copiedAgain := readAgain.next (.act (.delivered rfl rfl) second)
  obtain ⟨handled, -, again, -⟩ := restarts_lose_nothing copiedAgain
  have below : Below (oneCommitted.committed reader.group) (order 0) := ⟨1, rfl, by decide⟩
  have done := handled ⟨"orders", 0⟩ (order 0) (by simp [twoOrders]) below
  refine ⟨_, _, _, copiedAgain, rfl, below, done, ?delivered, ?touched,
    (List.pairwise_pair.mp again) (order 2) ?delivered ?touched⟩
  case delivered => exact ⟨_, List.mem_append_left _ List.mem_concat_self⟩
  case touched => exact ⟨_, List.mem_concat_self, rfl⟩

end History

end Conduit
