import Conduit.Proofs.Stream.Ledger
import Conduit.Proofs.Stream.Reference
import Conduit.Stream.Scripted

/-!
# Counters of a stream

A record is counted as consumed when it is begun, as filtered when the steps drop it, and as
produced when its output is acknowledged. Every deed raises the counters by what it has to do with a
record, so the counters of a run are the counts of its deeds, and each record that was begun is in
one of the two other counts unless the run broke off at it. That happens at most once, at the last
deed.
-/
namespace Conduit

/-- An output is acknowledged. -/
def Deed.delivers : Deed → Bool
  | sent _ _ (.ok ()) => true
  | _ => false

/-- The stream fails at a record and leaves the rest of its batch. -/
def Deed.breaksOff : Deed → Bool
  | spoiled _ _ => true
  | sent _ _ (.error _) => true
  | _ => false

/-- How a run ends that ends with a deed. -/
def Deed.ending? : Deed → Option Ending
  | flush answer => some (.stopped answer)
  | read (.error fault) => some (.failed fault)
  | spoiled _ fault => some (.failed fault)
  | sent _ _ (.error fault) => some (.failed fault)
  | commit _ (.error fault) => some (.failed fault)
  | _ => none

theorem Deed.ending_of_breaksOff {deed : Deed} (breaks : deed.breaksOff = true) :
    deed.ending?.isSome = true := by
  cases deed with
  | spoiled => rfl
  | sent record output answer => cases answer with
    | error fault => rfl
    | ok _ => cases breaks
  | read | filtered | commit | flush => cases breaks

/-- The records of a batch that are still to be begun. -/
def Phase.left : Phase → List RawRecord
  | busy _ _ rest => rest
  | _ => []

/-- The records that were begun, in order. -/
def Deeds.begun (deeds : List Deed) : List RawRecord := deeds.filterMap Deed.subject?

/-- No counter is greater than in the other. -/
structure StreamStats.AtMost (one other : StreamStats) : Prop where
  consumed : one.consumed ≤ other.consumed
  produced : one.produced ≤ other.produced
  filtered : one.filtered ≤ other.filtered

namespace RecordStream

open Deeds

variable {κ α σ : Type} (stream : RecordStream κ α) {transport : Transport σ}

/-- The record can be decoded, and the steps return nothing for it. -/
def drops (record : RawRecord) : Bool :=
  match stream.decoded record with
  | .ok pair => (Step.apply stream.steps pair).isNone
  | .error _ => false

/-- The counts of deeds. -/
def counts (deeds : List Deed) : Tally :=
  ⟨(begun deeds).length, deeds.countP Deed.delivers, (begun deeds).countP stream.drops⟩

/-! ### One deed -/

theorem fate_eq_none_iff (time : Int64) (record : RawRecord) :
    stream.fate time record = .ok none ↔ stream.drops record = true := by
  rw [fate, drops]
  cases stream.decoded record with
  | error fault => simp [Except.bind]
  | ok pair =>
    rw [Except.bind]
    dsimp only
    cases Step.apply stream.steps pair with
    | none => exact iff_of_true rfl rfl
    | some made =>
      -- Whether what was made can be encoded or not, it is not nothing.
      dsimp only
      cases stream.encoded made (stream.plan.extractor record time) <;> simp [Except.map]

theorem counts_append (earlier later : List Deed) :
    stream.counts (earlier ++ later) = (stream.counts earlier).plus (stream.counts later) := by
  simp [counts, begun, Tally.plus]

theorem stats_process (progress : Progress) (record : RawRecord) :
    (stream.process progress record).2.stats =
      Tally.addTo ⟨1, 0, if stream.drops record then 1 else 0⟩ progress.stats := by
  obtain ⟨-, -, counted, -⟩ := @process_eq _ _ stream progress _ (fun _ => rfl) record
  rw [counted]
  by_cases dropped : stream.drops record
  · rw [(stream.fate_eq_none_iff _ record).mpr dropped, if_pos dropped]
  · rw [if_neg dropped]
    split
    next none => exact absurd ((stream.fate_eq_none_iff _ record).mp none) dropped
    · rfl

variable {stream}

theorem drops_iff_of_process {progress : Progress} {record : RawRecord} :
    stream.drops record = true ↔ (stream.process progress record).1.result = .ok none := by
  obtain ⟨result, -⟩ := @process_eq _ _ stream progress _ (fun _ => rfl) record
  rw [result, fate_eq_none_iff]

theorem drops_eq_false {progress : Progress} {record : RawRecord}
    {result : Except StreamFault (Option Output)}
    (outcome : (stream.process progress record).1.result = result) (other : result ≠ .ok none) :
    stream.drops record = false := by
  rw [Bool.eq_false_iff, ne_eq, drops_iff_of_process, outcome]
  exact other

theorem counts_at {deed : Deed} {record : RawRecord} (about : deed.subject? = some record) :
    stream.counts [deed] =
      ⟨1, if deed.delivers then 1 else 0, if stream.drops record then 1 else 0⟩ := by
  simp [counts, begun, about, List.countP_cons]

/-- A deed raises the counters by its counts, which balance unless it breaks off. -/
theorem Follows.counted {moment later : Moment σ} {deed : Deed}
    (follows : stream.Follows transport moment deed later) :
    later.progress.stats = (stream.counts [deed]).addTo moment.progress.stats ∧
      (stream.counts [deed]).consumed =
        (stream.counts [deed]).produced + (stream.counts [deed]).filtered +
        [deed].countP Deed.breaksOff := by
  cases follows with
  | flushed _ | unread _ | nothing _ | received _ | uncommitted _ | committed _ =>
    simp [counts, begun, List.filterMap_cons, Deed.subject?, Deed.delivers, Deed.breaksOff,
      Tally.addTo]
  | filtered outcome =>
    have dropped := drops_iff_of_process.mpr outcome
    rw [counts_at rfl, stats_process, dropped]
    exact ⟨rfl, rfl⟩
  | spoiled outcome =>
    have kept := drops_eq_false outcome (by simp)
    rw [counts_at rfl, stats_process, kept]
    exact ⟨rfl, rfl⟩
  | undelivered outcome _ =>
    have kept := drops_eq_false outcome (by simp)
    rw [counts_at rfl, stats_process, kept]
    exact ⟨rfl, rfl⟩
  | delivered outcome _ =>
    have kept := drops_eq_false outcome (by simp)
    rw [counts_at rfl, Progress.acknowledged, stats_process, kept]
    -- The acknowledgement is counted on top of the record.
    exact ⟨by simp [Tally.addTo, Deed.delivers], rfl⟩

/-! ### Deeds in turn -/

variable {first last : Moment σ} {deeds : List Deed}

theorem Leads.counted (leads : stream.Leads transport first deeds last) :
    last.progress.stats = (stream.counts deeds).addTo first.progress.stats ∧
      (stream.counts deeds).consumed =
        (stream.counts deeds).produced + (stream.counts deeds).filtered +
        deeds.countP Deed.breaksOff := by
  induction leads with
  | done => simp [counts, begun, Tally.addTo]
  | @cons _ deed _ rest _ follows _ ih =>
    obtain ⟨stats, balance⟩ := follows.counted
    obtain ⟨later, settled⟩ := ih
    rw [← List.singleton_append, counts_append, Tally.addTo_plus, ← stats, List.countP_append]
    refine ⟨later, ?_⟩
    simp only [Tally.plus]
    omega

theorem Follows.ending_iff {moment later : Moment σ} {deed : Deed}
    (follows : stream.Follows transport moment deed later) (ending : Ending) :
    later.phase = .over ending ↔ deed.ending? = some ending := by
  cases follows <;> simp [Deed.ending?]

/-- A run ends with its last deed, and no deed before it could have ended a run. -/
theorem Leads.ends (leads : stream.Leads transport first deeds last) {ending : Ending}
    (begins : ∀ other, first.phase ≠ .over other) (closed : last.phase = .over ending) :
    ∃ earlier deed, deeds = earlier ++ [deed] ∧ deed.ending? = some ending ∧
      ∀ other ∈ earlier, other.ending? = none := by
  induction leads with
  | done => exact absurd closed (begins ending)
  | @cons _ deed next rest _ follows leads ih =>
    cases ends : deed.ending? with
    | some other =>
      -- Nothing follows an end.
      have ended := (follows.ending_iff other).mpr ends
      cases leads with
      | done =>
        rw [closed] at ended
        obtain rfl := Phase.over.inj ended
        exact ⟨[], deed, rfl, ends, List.forall_mem_nil _⟩
      | cons further _ => cases further <;> cases ended
    | none =>
      have goesOn : ∀ other, next.phase ≠ .over other := by
        intro other ended
        rw [follows.ending_iff, ends] at ended
        cases ended
      obtain ⟨earlier, final, rfl, closes, before⟩ := ih goesOn closed
      exact ⟨deed :: earlier, final, rfl, closes, List.forall_mem_cons.mpr ⟨ends, before⟩⟩

theorem Follows.left {moment later : Moment σ} {deed : Deed}
    (follows : stream.Follows transport moment deed later) :
    if deed.breaksOff then
      ∃ record rest, deed.subject? = some record ∧ deed.brought = [] ∧
        moment.phase.left = record :: rest
    else moment.phase.left ++ deed.brought = deed.subject?.toList ++ later.phase.left := by
  cases follows with
  | spoiled _ | undelivered _ _ => exact ⟨_, _, rfl, rfl, rfl⟩
  | flushed _ | unread _ | nothing _ | received _ | uncommitted _ | committed _ => rfl
  | filtered _ | delivered _ _ => exact List.append_nil _

/-- Without a break every record that was brought is begun or still left. -/
theorem Leads.left (leads : stream.Leads transport first deeds last)
    (whole : ∀ deed ∈ deeds, deed.breaksOff = false) :
    first.phase.left ++ brought deeds = begun deeds ++ last.phase.left := by
  induction leads with
  | done => simp [brought, begun]
  | @cons moment deed next rest final follows _ ih =>
    obtain ⟨here, later⟩ := List.forall_mem_cons.mp whole
    have moved := follows.left
    rw [here, if_neg Bool.false_ne_true] at moved
    have subject : begun (deed :: rest) = deed.subject?.toList ++ begun rest := by
      simp only [begun, List.filterMap_cons]
      cases deed.subject? <;> rfl
    calc moment.phase.left ++ brought (deed :: rest)
        = (moment.phase.left ++ deed.brought) ++ brought rest := (List.append_assoc _ _ _).symm
      _ = deed.subject?.toList ++ (next.phase.left ++ brought rest) := by
        rw [moved, List.append_assoc]
      _ = begun (deed :: rest) ++ final.phase.left := by rw [ih later, subject, List.append_assoc]

/-! ### Counters below their limit -/

theorem toNat_addTo_zero {tally : Tally} (few : tally.consumed < UInt64.size)
    (less : tally.produced ≤ tally.consumed) (part : tally.filtered ≤ tally.consumed) :
    (tally.addTo ⟨0, 0, 0⟩).consumed.toNat = tally.consumed ∧
      (tally.addTo ⟨0, 0, 0⟩).produced.toNat = tally.produced ∧
      (tally.addTo ⟨0, 0, 0⟩).filtered.toNat = tally.filtered := by
  simp only [Tally.addTo, UInt64.zero_add]
  exact ⟨UInt64.toNat_ofNat_of_lt few, UInt64.toNat_ofNat_of_lt (less.trans_lt few),
    UInt64.toNat_ofNat_of_lt (part.trans_lt few)⟩

/-- The counters of a stream that began with none are the counts of its deeds, if they do not pass
their limit. -/
theorem Leads.stats_eq (leads : stream.Leads transport first deeds last)
    (fresh : first.progress.stats = ⟨0, 0, 0⟩) (few : (begun deeds).length < UInt64.size) :
    last.progress.stats.consumed.toNat = (begun deeds).length ∧
      last.progress.stats.produced.toNat = deeds.countP Deed.delivers ∧
      last.progress.stats.filtered.toNat = (begun deeds).countP stream.drops := by
  obtain ⟨stats, balance⟩ := leads.counted
  rw [stats, fresh]
  exact toNat_addTo_zero few (by omega) (by omega)

theorem Leads.atMost {between : Moment σ} {earlier later : List Deed}
    (before : stream.Leads transport first earlier between)
    (after : stream.Leads transport between later last) (fresh : first.progress.stats = ⟨0, 0, 0⟩)
    (few : (begun (earlier ++ later)).length < UInt64.size) :
    between.progress.stats.AtMost last.progress.stats := by
  have whole := (before.trans after).stats_eq fresh few
  simp only [begun, List.filterMap_append, List.countP_append, List.length_append] at whole few
  obtain ⟨consumed, produced, filtered⟩ := before.stats_eq fresh (by rw [begun]; omega)
  obtain ⟨consumed', produced', filtered'⟩ := whole
  constructor
  · rw [UInt64.le_iff_toNat_le, consumed, consumed', begun]
    omega
  · rw [UInt64.le_iff_toNat_le, produced, produced']
    omega
  · rw [UInt64.le_iff_toNat_le, filtered, filtered', begun]
    omega

/-- At the end each record that was begun is counted a second time, unless the run broke off at
it. -/
theorem Leads.balance {earlier : List Deed} {final : Deed}
    (leads : stream.Leads transport first (earlier ++ [final]) last)
    (whole : ∀ deed ∈ earlier, deed.breaksOff = false) (idle : first.phase.left = [])
    (spent : last.phase.left = []) :
    let counts := stream.counts (earlier ++ [final])
    if final.breaksOff then
      counts.consumed = counts.produced + counts.filtered + 1 ∧
        begun (earlier ++ [final]) <+: brought (earlier ++ [final]) ∧
        (begun (earlier ++ [final])).getLast? = final.subject?
    else
      counts.consumed = counts.produced + counts.filtered ∧
        begun (earlier ++ [final]) = brought (earlier ++ [final]) := by
  have balance := leads.counted.2
  have unbroken : earlier.countP Deed.breaksOff = 0 :=
    List.countP_eq_zero.mpr fun deed member => by simp [whole deed member]
  rw [List.countP_append, unbroken, List.countP_singleton, Nat.zero_add] at balance
  -- What was brought before the last deed was begun, but for what was left of the batch.
  obtain ⟨between, before, after⟩ := leads.split
  have prior := before.left whole
  rw [idle, List.nil_append] at prior
  cases after with
  | cons follows rest =>
    cases rest
    have moved := follows.left
    cases breaks : final.breaksOff with
    | true =>
      rw [breaks] at balance moved
      obtain ⟨record, rest, subject, nothing, here⟩ := moved
      rw [here] at prior
      have begins : begun (earlier ++ [final]) = begun earlier ++ [record] := by
        simp [begun, subject]
      refine ⟨balance, ⟨rest, ?_⟩, ?_⟩
      · rw [begins, brought_concat, nothing, prior]
        simp
      · rw [begins, List.getLast?_concat, subject]
    | false =>
      -- No deed breaks off, and nothing is left at the end.
      rw [breaks] at balance
      refine ⟨balance, ?_⟩
      have all :=
        leads.left (List.forall_mem_append.mpr ⟨whole, List.forall_mem_singleton.mpr breaks⟩)
      rw [idle, spent, List.nil_append, List.append_nil] at all
      exact all.symm

variable (stream) (transport)

/-- At every moment of a run the counters are the counts of what was done: records begun, outputs
that were acknowledged, and records that the steps drop; so none of them ever falls. A run that
breaks off at a record was about to count that one a second time, and it is the last that was begun.
Any other run has begun all records that it was brought, and counted each of them twice. -/
theorem loop_conserves_counts (looks : Nat) (state : σ) :
    let start : Moment σ := ⟨.idle looks, .fresh, state⟩
    let run := stream.loop transport looks .fresh state
    let stats := run.progress.stats
    ∃ earlier final, let deeds := earlier ++ [final]
      stream.Leads transport start deeds ⟨.over run.ending, run.progress, run.state⟩ ∧
      deeds.filterMap Deed.effect? = run.effects ∧ final.ending? = some run.ending ∧
      ((begun deeds).length < UInt64.size →
        (∀ sofar moment, sofar <+: deeds → stream.Leads transport start sofar moment →
          moment.progress.stats.consumed.toNat = (begun sofar).length ∧
          moment.progress.stats.produced.toNat = sofar.countP Deed.delivers ∧
          moment.progress.stats.filtered.toNat = (begun sofar).countP stream.drops) ∧
        (∀ sofar more one other, sofar ++ more <+: deeds → stream.Leads transport start sofar one →
          stream.Leads transport one more other → one.progress.stats.AtMost other.progress.stats) ∧
        if final.breaksOff then
          stats.consumed.toNat = stats.produced.toNat + stats.filtered.toNat + 1 ∧
            begun deeds <+: brought deeds ∧ (begun deeds).getLast? = final.subject?
        else
          stats.consumed.toNat = stats.produced.toNat + stats.filtered.toNat ∧
            begun deeds = brought deeds) := by
  intro start run stats
  obtain ⟨deeds, same, leads⟩ := stream.loop_leads transport looks .fresh state
  obtain ⟨earlier, final, rfl, ends, before⟩ := leads.ends nofun rfl
  refine ⟨earlier, final, leads, same, ends, fun few => ?_⟩
  have fewer : ∀ sofar, sofar <+: earlier ++ [final] →
      (begun sofar).length < UInt64.size := fun sofar front =>
    (front.filterMap Deed.subject?).length_le.trans_lt few
  refine ⟨fun sofar moment front way => way.stats_eq rfl (fewer sofar front),
    fun sofar more one other front way further => way.atMost further rfl (fewer _ front), ?_⟩
  -- A deed that breaks off ends the run, so only the last one can.
  have whole : ∀ deed ∈ earlier, deed.breaksOff = false := by
    intro deed member
    by_contra breaks
    have ends := Deed.ending_of_breaksOff (Bool.eq_true_of_not_eq_false breaks)
    rw [before deed member] at ends
    cases ends
  obtain ⟨consumed, produced, filtered⟩ := leads.stats_eq rfl few
  have balance := leads.balance whole rfl rfl
  dsimp only at consumed produced filtered
  rw [consumed, produced, filtered]
  exact balance

/-- Four letters: the second has no value and is dropped, and the third one's output is not
delivered. -/
def badPost : List RawRecord :=
  [letter 0 none (some [1]), letter 1 none none, letter 2 none (some [9]), letter 3 none (some [3])]

/-- What is done with them before the run breaks off. -/
def badPostDeeds : List Deed :=
  [.read (.ok badPost), .sent (letter 0 none (some [1])) ⟨none, some [1], none⟩ (.ok ()),
    .filtered (letter 1 none none)]

theorem badPost_breaks_off :
    let transport := Mishaps.transport ⟨some [9], none, false⟩
    let run := lively.loop transport 2 .fresh ⟨[.ok badPost], 0⟩
    let deeds := badPostDeeds ++
      [.sent (letter 2 none (some [9])) ⟨none, some [9], none⟩ (.error (.stream "delivery failed"))]
    lively.Leads transport ⟨.idle 2, .fresh, ⟨[.ok badPost], 0⟩⟩ deeds ⟨.over run.ending,
      run.progress, run.state⟩ ∧
      (begun deeds).length < UInt64.size ∧ begun deeds = badPost.take 3 ∧
      run.progress.stats.consumed.toNat = 3 ∧ run.progress.stats.produced.toNat = 1 ∧
      run.progress.stats.filtered.toNat = 1 ∧
      (begun deeds).getLast? = some (letter 2 none (some [9])) := by
  intro transport run deeds
  have way : lively.Leads transport ⟨.idle 2, .fresh, ⟨[.ok badPost], 0⟩⟩ deeds
      ⟨.over run.ending, run.progress, run.state⟩ :=
    .cons (.received rfl)
    (.cons (.delivered rfl rfl) (.cons (.filtered rfl) (.cons (.undelivered rfl rfl) .done)))
  have few : (begun deeds).length < UInt64.size := by decide
  obtain ⟨earlier, final, leads, -, -, counted⟩ :=
    lively.loop_conserves_counts transport 2 ⟨[.ok badPost], 0⟩
  -- There is only one way to the end.
  obtain ⟨same, -⟩ := leads.unique rfl way rfl
  obtain ⟨rfl, only⟩ := List.append_inj' same rfl
  obtain rfl := List.singleton_inj.mp only
  obtain ⟨each, -, -, -, last⟩ := counted few
  obtain ⟨consumed, produced, filtered⟩ := each _ _ List.prefix_rfl leads
  exact ⟨way, few, rfl, consumed, produced, filtered, last⟩

end RecordStream

end Conduit
