import Conduit.Time.Await
import Mathlib.Algebra.Order.Floor.Div

/-!
# The schedule of waiting

A condition is asked at every multiple of the interval that is before the deadline, and then at the
deadline itself, until an answer decides. After each answer that does not, the wait goes on at the
next time of this schedule, whose last pause is the one that is cut short; so waiting ends at the
latest with the question at the deadline.
-/
namespace Conduit.Patience

variable {σ ε : Type}

/-! ### Answers -/

/-- The answers that end the wait: that the condition holds, and a failure if failures count. -/
inductive Decides (patience : Patience) : Check ε → Verdict ε → Prop
  | holds : Decides patience .holds .holds
  | failed {cause : ε} (strict : patience.ignoreErrors = false) :
      Decides patience (.failed cause) (.failed cause)

theorem settled_eq_some_iff {patience : Patience} {check : Check ε} {verdict : Verdict ε} :
    patience.settled check = some verdict ↔ patience.Decides check verdict := by
  constructor
  · intro settles
    cases check with
    | holds =>
      obtain rfl := Option.some.inj settles
      exact .holds
    | pending => cases settles
    | failed cause =>
      cases strict : patience.ignoreErrors with
      | true => simp [settled, strict] at settles
      | false =>
        obtain rfl : .failed cause = verdict := by simpa [settled, strict] using settles
        exact .failed strict
  · intro decides
    cases decides with
    | holds => rfl
    | failed strict => simp [settled, strict]

theorem settled_eq_none_iff {patience : Patience} {check : Check ε} :
    patience.settled check = none ↔ ∀ verdict, ¬patience.Decides check verdict := by
  simp only [Option.eq_none_iff_forall_ne_some, ne_eq, settled_eq_some_iff]

theorem Decides.ne_timeout {patience : Patience} {check : Check ε} {verdict : Verdict ε}
    (decides : patience.Decides check verdict) (after : Duration) : verdict ≠ .timeout after := by
  cases decides <;> exact nofun

section

variable (condition : σ → Check ε × σ) (state : σ)

/-- The state that the condition is in when it has been asked so many times. -/
def stateAfter : Nat → σ
  | 0 => state
  | asked + 1 => (condition (stateAfter asked)).2

/-- The answer of the condition to the question after so many. -/
def reply (asked : Nat) : Check ε := (condition (stateAfter condition state asked)).1

/-- The answer to the question after so many does not end the wait. -/
def Undecided (patience : Patience) (asked : Nat) : Prop :=
  ∀ verdict, ¬patience.Decides (reply condition state asked) verdict

end

/-! ### Times of questions -/

variable (patience : Patience)

/-- How many pauses there are at most: the time in intervals, rounded up. -/
def pauses : Nat := patience.timeout.nanos ⌈/⌉ patience.interval.nanos

/-- The multiples of the interval before the deadline, and the deadline. -/
def schedule : List Nat :=
  (List.range patience.pauses).map (· * patience.interval.nanos) ++ [patience.timeout.nanos]

/-- The time of the question after so many. -/
def timeOf (asked : Nat) : Nat := min (asked * patience.interval.nanos) patience.timeout.nanos

variable {patience} (interval : 0 < patience.interval.nanos)

include interval

theorem lt_pauses_iff {asked : Nat} : asked < patience.pauses ↔
    asked * patience.interval.nanos < patience.timeout.nanos := by
  rw [pauses, ← not_le, ceilDiv_le_iff_le_mul interval, not_le, Nat.mul_comm]

theorem timeOf_pauses : patience.timeOf patience.pauses = patience.timeout.nanos := by
  have late := mt (lt_pauses_iff interval).mpr (lt_irrefl _)
  exact Nat.min_eq_right (not_lt.mp late)

theorem schedule_eq : patience.schedule =
    (List.range (patience.pauses + 1)).map patience.timeOf := by
  have before : ∀ asked ∈ List.range patience.pauses, asked * patience.interval.nanos =
      patience.timeOf asked := by
    intro asked member
    have early := (lt_pauses_iff interval).mp (List.mem_range.mp member)
    exact (Nat.min_eq_left early.le).symm
  rw [schedule, List.range_succ, List.map_append, List.map_congr_left before, List.map_singleton,
    timeOf_pauses interval]

theorem take_schedule {asked : Nat} (within : asked ≤ patience.pauses) :
    patience.schedule.take (asked + 1) = (List.range (asked + 1)).map patience.timeOf := by
  rw [schedule_eq interval, ← List.map_take, List.take_range,
    Nat.min_eq_left (Nat.succ_le_succ within)]

theorem mem_schedule {time : Nat} : time ∈ patience.schedule ↔
    time = patience.timeout.nanos ∨ time < patience.timeout.nanos ∧
    patience.interval.nanos ∣ time := by
  rw [schedule, List.mem_append, List.mem_singleton, or_comm, List.mem_map]
  refine or_congr_right ⟨?_, ?_⟩
  · rintro ⟨asked, member, rfl⟩
    exact ⟨(lt_pauses_iff interval).mp (List.mem_range.mp member), Nat.dvd_mul_left _ _⟩
  · rintro ⟨early, asked, rfl⟩
    rw [Nat.mul_comm] at early ⊢
    exact ⟨asked, List.mem_range.mpr ((lt_pauses_iff interval).mpr early), rfl⟩

/-- From one time of the schedule a pause leads to the next. -/
theorem timeOf_add_pause {asked : Nat}
    (early : asked * patience.interval.nanos < patience.timeout.nanos) :
    patience.timeOf asked + patience.pause (patience.timeOf asked) =
      patience.timeOf (asked + 1) := by
  have now : patience.timeOf asked = asked * patience.interval.nanos := Nat.min_eq_left early.le
  have next : (asked + 1) * patience.interval.nanos =
      asked * patience.interval.nanos + patience.interval.nanos :=
    Nat.succ_mul asked patience.interval.nanos
  rw [now, pause, timeOf, next]
  omega

omit interval

/-! ### Waiting along the schedule -/

variable (patience) (condition : σ → Check ε × σ) (state : σ)

theorem watchFrom_eq (now : Nat) (asked : List Nat) : patience.watchFrom condition now asked state =
    match patience.settled (condition state).1 with
    | some verdict => ⟨(now :: asked).reverse, verdict, now, (condition state).2⟩
    | none =>
      if patience.timeout.nanos ≤ now then
        ⟨(now :: asked).reverse, .timeout patience.timeout, now, (condition state).2⟩
      else patience.watchFrom condition (now + patience.pause now) (now :: asked)
        (condition state).2 :=
  watchFrom.eq_def patience condition now asked state

/-- The wait from the question after so many on. -/
def waitFrom (asked : Nat) : Watch σ ε :=
  patience.watchFrom condition (patience.timeOf asked)
    ((List.range asked).map patience.timeOf).reverse (stateAfter condition state asked)

/-- The times of the first questions. -/
theorem reverse_cons_timeOf (asked : Nat) :
    (patience.timeOf asked :: ((List.range asked).map patience.timeOf).reverse) =
      ((List.range (asked + 1)).map patience.timeOf).reverse := by
  rw [List.range_succ, List.map_append, List.reverse_append]
  rfl

theorem watch_eq_waitFrom_zero :
    patience.watch condition state = patience.waitFrom condition state 0 := by
  rw [waitFrom, timeOf, Nat.zero_mul, Nat.zero_min]
  rfl

variable {patience condition state}

theorem waitFrom_decided {asked : Nat} {verdict : Verdict ε}
    (decides : patience.Decides (reply condition state asked) verdict) :
    patience.waitFrom condition state asked =
      ⟨(List.range (asked + 1)).map patience.timeOf, verdict, patience.timeOf asked,
        stateAfter condition state (asked + 1)⟩ := by
  rw [waitFrom, watchFrom_eq, ← reply, settled_eq_some_iff.mpr decides, reverse_cons_timeOf]
  simp only [List.reverse_reverse, stateAfter]

theorem waitFrom_late {asked : Nat} (pending : Undecided condition state patience asked)
    (late : patience.timeOf asked = patience.timeout.nanos) :
    patience.waitFrom condition state asked =
      ⟨(List.range (asked + 1)).map patience.timeOf, .timeout patience.timeout,
        patience.timeout.nanos, stateAfter condition state (asked + 1)⟩ := by
  rw [waitFrom, watchFrom_eq, ← reply, settled_eq_none_iff.mpr pending, reverse_cons_timeOf]
  simp only [late, le_refl, if_true, List.reverse_reverse, stateAfter]

/-- An answer before the deadline that does not decide leads to the next question. -/
theorem waitFrom_succ (interval : 0 < patience.interval.nanos) {asked : Nat}
    (pending : Undecided condition state patience asked)
    (early : asked * patience.interval.nanos < patience.timeout.nanos) :
    patience.waitFrom condition state asked = patience.waitFrom condition state (asked + 1) := by
  have before : ¬patience.timeout.nanos ≤ patience.timeOf asked := by
    rw [timeOf]
    omega
  rw [waitFrom, watchFrom_eq, ← reply, settled_eq_none_iff.mpr pending, reverse_cons_timeOf]
  simp only [if_neg before, timeOf_add_pause interval early]
  rfl

/-- As long as no answer decides, the wait is at the next question of the schedule. -/
theorem watch_eq_waitFrom (interval : 0 < patience.interval.nanos) {asked : Nat}
    (within : asked ≤ patience.pauses)
    (pending : ∀ earlier < asked, Undecided condition state patience earlier) :
    patience.watch condition state = patience.waitFrom condition state asked := by
  induction asked with
  | zero => exact watch_eq_waitFrom_zero patience condition state
  | succ asked ih =>
    have early := (lt_pauses_iff interval).mp (Nat.lt_of_succ_le within)
    rw [ih (Nat.le_of_succ_le within) fun earlier before =>
      pending earlier (Nat.lt_succ_of_lt before),
      waitFrom_succ interval (pending asked (Nat.lt_succ_self asked)) early]

open Classical in
/-- If some answer on the schedule decides, there is a first one that does. -/
theorem exists_first {last : Nat}
    (decided : ¬∀ asked ≤ last, Undecided condition state patience asked) :
    ∃ asked ≤ last, (∀ earlier < asked, Undecided condition state patience earlier) ∧
      ∃ verdict, patience.Decides (reply condition state asked) verdict := by
  simp only [Undecided, not_forall, not_not] at decided
  obtain ⟨some, within, verdict, decides⟩ := decided
  have exists_decided : ∃ asked verdict, patience.Decides (reply condition state asked) verdict :=
    ⟨some, verdict, decides⟩
  refine ⟨Nat.find exists_decided,
    (Nat.find_min' exists_decided ⟨verdict, decides⟩).trans within, ?_,
    Nat.find_spec exists_decided⟩
  intro earlier before verdict decides
  exact Nat.find_min exists_decided before ⟨verdict, decides⟩

theorem watch_decided (interval : 0 < patience.interval.nanos) {asked : Nat} {verdict : Verdict ε}
    (within : asked ≤ patience.pauses)
    (pending : ∀ earlier < asked, Undecided condition state patience earlier)
    (decides : patience.Decides (reply condition state asked) verdict) :
    patience.watch condition state =
      ⟨patience.schedule.take (asked + 1), verdict, patience.timeOf asked,
        stateAfter condition state (asked + 1)⟩ := by
  rw [watch_eq_waitFrom interval within pending, waitFrom_decided decides,
    take_schedule interval within]

theorem watch_late (interval : 0 < patience.interval.nanos)
    (pending : ∀ asked ≤ patience.pauses, Undecided condition state patience asked) :
    patience.watch condition state =
      ⟨patience.schedule, .timeout patience.timeout, patience.timeout.nanos,
      stateAfter condition state (patience.pauses + 1)⟩ := by
  rw [watch_eq_waitFrom interval le_rfl fun earlier before => pending earlier before.le,
    waitFrom_late (pending _ le_rfl) (timeOf_pauses interval), schedule_eq interval]

/-- Waiting asks the condition at the times of its schedule, the multiples of the interval before
the deadline and the deadline, up to the first answer that decides, which is the verdict at the time
of its question. If no answer decides, waiting ends at the deadline, and only then with the verdict
that the time is up. So the condition is asked no later than at the deadline and no more often than
the schedule has times, and a condition that holds from some time up to the deadline on is seen to
hold. -/
theorem watch_keeps_schedule (patience : Patience) (interval : 0 < patience.interval.nanos)
    (condition : σ → Check ε × σ) (state : σ) :
    (∀ asked ≤ patience.pauses, ∀ verdict,
      (∀ earlier < asked, Undecided condition state patience earlier) →
      patience.Decides (reply condition state asked) verdict → patience.watch condition state =
        ⟨patience.schedule.take (asked + 1), verdict, patience.timeOf asked,
          stateAfter condition state (asked + 1)⟩) ∧
    ((∀ asked ≤ patience.pauses, Undecided condition state patience asked) →
      patience.watch condition state =
        ⟨patience.schedule, .timeout patience.timeout, patience.timeout.nanos,
        stateAfter condition state (patience.pauses + 1)⟩) ∧
    ((∃ after, (patience.watch condition state).verdict = .timeout after) ↔
      ∀ asked ≤ patience.pauses, Undecided condition state patience asked) ∧
    (patience.watch condition state).askedAt.length ≤ patience.pauses + 1 ∧
    (∀ time ∈ (patience.watch condition state).askedAt, time ≤ patience.timeout.nanos) ∧
    ∀ since ≤ patience.timeout.nanos,
      (∀ asked, since ≤ patience.timeOf asked → reply condition state asked = .holds) →
      ∀ after, (patience.watch condition state).verdict ≠ .timeout after := by
  have timesUp : (∃ after, (patience.watch condition state).verdict = .timeout after) ↔
      ∀ asked ≤ patience.pauses, Undecided condition state patience asked := by
    refine ⟨fun ⟨after, ends⟩ => ?_, fun pending =>
      ⟨patience.timeout, by rw [watch_late interval pending]⟩⟩
    -- Otherwise the first answer that decides is the verdict, and that is not that the time is up.
    by_contra decided
    obtain ⟨asked, within, pending, verdict, decides⟩ := exists_first decided
    rw [watch_decided interval within pending decides] at ends
    exact decides.ne_timeout after ends
  have asked : (patience.watch condition state).askedAt <+: patience.schedule := by
    by_cases pending : ∀ asked ≤ patience.pauses, Undecided condition state patience asked
    · rw [watch_late interval pending]
    · obtain ⟨asked, within, pending, verdict, decides⟩ := exists_first pending
      rw [watch_decided interval within pending decides]
      exact List.take_prefix _ _
  refine ⟨fun asked within verdict pending decides => watch_decided interval within pending decides,
    watch_late interval, timesUp, ?_, fun time member => ?_,
    fun since before lasting after ends => ?_⟩
  · simpa [schedule] using asked.length_le
  · rcases (mem_schedule interval).mp (asked.subset member) with rfl | ⟨early, -⟩
    · exact le_rfl
    · exact early.le
  · -- The question at the deadline comes after the condition has begun to hold.
    have last := timesUp.mp ⟨after, ends⟩ _ le_rfl .holds
    rw [lasting _ (by rwa [timeOf_pauses interval])] at last
    exact last .holds

/-- A condition that fails at the second question and holds from the fifth on. -/
def slow (asked : Nat) : Check String × Nat :=
  (if asked = 1 then .failed "boom" else if asked < 4 then .pending else .holds, asked + 1)

/-- With ten milliseconds in pauses of three the fifth question is the one at the deadline; nine
milliseconds have only four questions. -/
theorem slow_seen_at_deadline :
    Patience.watch ⟨.ofMillis 10, .ofMillis 3, true⟩ slow 0 =
      ⟨[0, 3000000, 6000000, 9000000, 10000000], .holds, 10000000, 5⟩ ∧
    Patience.watch ⟨.ofMillis 9, .ofMillis 3, true⟩ slow 0 =
      ⟨[0, 3000000, 6000000, 9000000], .timeout (.ofMillis 9), 9000000, 4⟩ := by
  have undecided (timeout : Duration) (asked : Nat) (early : asked < 4) :
      Undecided slow 0 ⟨timeout, .ofMillis 3, true⟩ asked := by
    rw [Undecided, ← settled_eq_none_iff]
    obtain rfl | rfl | rfl | rfl : asked = 0 ∨ asked = 1 ∨ asked = 2 ∨ asked = 3 := by omega
    all_goals rfl
  obtain ⟨decided, -⟩ := watch_keeps_schedule ⟨.ofMillis 10, .ofMillis 3, true⟩ (by decide) slow 0
  obtain ⟨-, late, -⟩ := watch_keeps_schedule ⟨.ofMillis 9, .ofMillis 3, true⟩ (by decide) slow 0
  exact ⟨decided 4 (by decide) .holds (fun earlier => undecided _ earlier) .holds,
    late fun asked within => undecided _ asked (Nat.lt_succ_of_le within)⟩

end Conduit.Patience
