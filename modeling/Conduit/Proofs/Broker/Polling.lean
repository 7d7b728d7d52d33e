import Conduit.Broker.Consumer

/-!
# What polls make of what they receive

The polls of a consumer share out what it receives: each takes the next messages, none twice and
none past, and no more than it wants. A poll that ends well returns what it took. A poll that ends
badly took one message that it could not receive or decode, and the records that it had taken before
that one are returned by no poll. So nothing decodable is lost exactly if every poll that fails does
so at its first message.
-/
namespace Conduit

variable {κ α : Type}

/-- A call for records: how long after the last one, with how much time, and for how many. -/
structure PollCall where
  pause : Nat
  time : Nat
  wanted : Nat

/-- A call, the messages that it took, and what it came to. -/
structure PollReport (κ α : Type) where
  call : PollCall
  taken : List Arrival
  result : Except Fault (List (Record κ α))

/-- What is in the inbox after a pause: what was due meanwhile waits no longer. -/
def paused : Nat → List Arrival → List Arrival
  | _, [] => []
  | pause, arrival :: rest =>
    if pause ≤ arrival.wait then ⟨arrival.wait - pause, arrival.content⟩ :: rest
    else ⟨0, arrival.content⟩ :: paused (pause - arrival.wait) rest

theorem paused_content (pause : Nat) (inbox : List Arrival) :
    (paused pause inbox).map Arrival.content = inbox.map Arrival.content := by
  induction inbox generalizing pause with
  | nil => rfl
  | cons arrival rest ih =>
    rw [paused]
    split
    · rfl
    · simp only [List.map_cons, ih]

/-- What was in the inbox in front of what is left. -/
def takenFrom (inbox left : List Arrival) : List Arrival := inbox.take (inbox.length - left.length)

theorem takenFrom_append {taken rest left : List Arrival}
    (left_content : left.map Arrival.content = rest.map Arrival.content) :
    takenFrom (taken ++ rest) left = taken := by
  have length : left.length = rest.length := by simpa using congrArg List.length left_content
  simp [takenFrom, length]

namespace PollReport

/-- The records that the call returned; none if it failed. -/
def returned (report : PollReport κ α) : List (Record κ α) := report.result.toOption.getD []

/-- The call failed at a message that was not its first. -/
def Spoils (report : PollReport κ α) : Prop := report.result.isOk = false ∧ 1 < report.taken.length

instance (report : PollReport κ α) : Decidable report.Spoils :=
  inferInstanceAs (Decidable (_ ∧ _))

end PollReport

namespace Consumer

variable (consumer : Consumer κ α)

/-- Makes one call after the other. -/
def reports : List PollCall → List Arrival → List (PollReport κ α)
  | [], _ => []
  | call :: rest, inbox =>
    let waiting := paused call.pause inbox
    let polled := consumer.poll call.wanted call.time waiting
    ⟨call, takenFrom waiting polled.inbox, polled.result⟩ :: reports rest polled.inbox

def inboxAfter (calls : List PollCall) (inbox : List Arrival) : List Arrival :=
  calls.foldl (fun inbox call =>
    (consumer.poll call.wanted call.time (paused call.pause inbox)).inbox) inbox

/-- The record in a message, if there is one that can be decoded. -/
def recordOf (arrival : Arrival) : Option (Record κ α) :=
  arrival.content.toOption.bind fun raw => (consumer.decode raw).toOption

def decodable (taken : List Arrival) : List (Record κ α) := taken.filterMap consumer.recordOf

/-- A call took these messages and came to this: it returns what is in them, or else the last of
them made it fail. -/
inductive Settles : List Arrival → Except Fault (List (Record κ α)) → Prop
  | returned {taken} {records : List (Record κ α)}
      (decoded : taken.map consumer.recordOf = records.map some) :
      Settles taken (.ok records)
  | undecodable {before wait raw fault}
      (decoded : ∀ arrival ∈ before, (consumer.recordOf arrival).isSome)
      (refused : consumer.decode raw = .error fault) :
      Settles (before ++ [⟨wait, .ok raw⟩]) (.error fault)
  | unreceived {before wait cause}
      (decoded : ∀ arrival ∈ before, (consumer.recordOf arrival).isSome) :
      Settles (before ++ [⟨wait, .error cause⟩]) (.error (.consumer (.receive cause)))

variable {consumer}

theorem recordOf_of_decode {wait : Nat} {raw : RawRecord} {record : Record κ α}
    (decoded : consumer.decode raw = .ok record) :
    consumer.recordOf ⟨wait, .ok raw⟩ = some record := by
  simp [recordOf, Except.toOption, decoded]

theorem recordOf_of_refused {wait : Nat} {raw : RawRecord} {fault : Fault}
    (refused : consumer.decode raw = .error fault) : consumer.recordOf ⟨wait, .ok raw⟩ = none := by
  simp [recordOf, Except.toOption, refused]

theorem decodable_of_map {taken : List Arrival} {records : List (Record κ α)}
    (decoded : taken.map consumer.recordOf = records.map some) :
    consumer.decodable taken = records := by
  have inner : taken.filterMap consumer.recordOf = (taken.map consumer.recordOf).filterMap id := by
    rw [List.filterMap_map, Function.id_comp]
  rw [decodable, inner, decoded, List.filterMap_map, Function.id_comp, List.filterMap_some]

/-- A record in front of what a call took is a record in front of what it returns. -/
theorem Settles.cons {taken : List Arrival} {result : Except Fault (List (Record κ α))} {wait : Nat}
    {raw : RawRecord} {record : Record κ α} (decoded : consumer.decode raw = .ok record)
    (settles : consumer.Settles taken result) :
    consumer.Settles (⟨wait, .ok raw⟩ :: taken) (result.map (record :: ·)) := by
  have first : consumer.recordOf ⟨wait, .ok raw⟩ = some record := recordOf_of_decode decoded
  cases settles with
  | returned rest => exact .returned (by simp [first, rest])
  | undecodable rest refused =>
    exact .undecodable (List.forall_mem_cons.mpr ⟨by simp [first], rest⟩) refused
  | unreceived rest => exact .unreceived (List.forall_mem_cons.mpr ⟨by simp [first], rest⟩)

/-- A call takes messages from the front of the inbox, no more than it wants and none without time;
it leaves the others and comes to what is in those that it took. -/
theorem poll_settles (consumer : Consumer κ α) (wanted left : Nat) (inbox : List Arrival) :
    ∃ taken rest, inbox = taken ++ rest ∧
      (consumer.poll wanted left inbox).inbox.map Arrival.content = rest.map Arrival.content ∧
      consumer.Settles taken (consumer.poll wanted left inbox).result ∧
      taken.length ≤ wanted ∧ (left = 0 → taken = []) := by
  have none : ∀ arrival ∈ [], (consumer.recordOf arrival).isSome := by simp
  -- Message by message, as the poll does, with less time for the later ones. In the first four
  -- cases it takes nothing: nothing is wanted, the time is over, nothing is there, or it comes too
  -- late.
  fun_induction consumer.poll wanted left inbox with
  | case1 left inbox => exact ⟨[], inbox, rfl, rfl, .returned rfl, Nat.le_refl 0, fun _ => rfl⟩
  | case2 wanted inbox => exact ⟨[], inbox, rfl, rfl, .returned rfl, Nat.zero_le _, fun _ => rfl⟩
  | case3 wanted left => exact ⟨[], [], rfl, rfl, .returned rfl, Nat.zero_le _, fun _ => rfl⟩
  | case4 wanted left arrival rest late =>
    exact ⟨[], arrival :: rest, rfl, rfl, .returned rfl, Nat.zero_le _, fun _ => rfl⟩
  -- It fails at the message that it takes.
  | case5 wanted left arrival rest due remaining cause content =>
    obtain ⟨wait, found⟩ := arrival
    obtain rfl : found = .error cause := content
    exact ⟨[⟨wait, .error cause⟩], rest, rfl, rfl, .unreceived none,
      Nat.succ_le_succ (Nat.zero_le _), by simp⟩
  | case6 wanted left arrival rest due remaining raw content fault refused =>
    obtain ⟨wait, found⟩ := arrival
    obtain rfl : found = .ok raw := content
    exact ⟨[⟨wait, .ok raw⟩], rest, rfl, rfl, .undecodable none refused,
      Nat.succ_le_succ (Nat.zero_le _), by simp⟩
  -- A record goes in front of what the rest of the time brings, a fault included.
  | case7 wanted left arrival rest due remaining raw content record decoded polled ih =>
    obtain ⟨wait, found⟩ := arrival
    obtain rfl : found = .ok raw := content
    obtain ⟨taken, later, split, kept, settles, few, -⟩ := ih
    exact ⟨⟨wait, .ok raw⟩ :: taken, later, by rw [split]; rfl, kept, settles.cons decoded,
      Nat.succ_le_succ few, by simp⟩

theorem Settles.returned_eq {taken : List Arrival} {records : List (Record κ α)}
    (settles : consumer.Settles taken (.ok records)) : consumer.decodable taken = records := by
  cases settles with
  | returned decoded => exact decodable_of_map decoded

/-- A call that failed took one message at which it did; all others can be decoded. -/
theorem Settles.length_decodable {taken : List Arrival} {fault : Fault}
    (settles : consumer.Settles taken (.error fault)) :
    taken.length = (consumer.decodable taken).length + 1 := by
  have every {before : List Arrival}
      (decoded : ∀ arrival ∈ before, (consumer.recordOf arrival).isSome) :
        (before.filterMap consumer.recordOf).length = before.length := by
    rw [List.length_filterMap_eq_countP, List.countP_eq_length]
    exact decoded
  cases settles with
  | undecodable decoded refused => simp [decodable, recordOf_of_refused refused, every decoded]
  | unreceived decoded => simp [decodable, recordOf, Except.toOption, every decoded]

/-- The report of a call, of whose messages none is more than it may take. -/
structure Answers (consumer : Consumer κ α) (report : PollReport κ α) : Prop where
  settles : consumer.Settles report.taken report.result
  few : report.taken.length ≤ report.call.wanted
  hurried : report.call.time = 0 → report.taken = []

namespace Answers

variable {report : PollReport κ α}

theorem length_returned_le (answers : consumer.Answers report) :
    report.returned.length ≤ report.call.wanted := by
  obtain ⟨call, taken, result⟩ := report
  cases result with
  | error fault => exact Nat.zero_le _
  | ok records =>
    have same : consumer.decodable taken = records := answers.settles.returned_eq
    have fewer : (consumer.decodable taken).length ≤ taken.length := List.length_filterMap_le _ _
    exact Nat.le_trans (same ▸ fewer) answers.few

/-- A call for no records or without time receives nothing. -/
theorem idle (answers : consumer.Answers report)
    (none : report.call.time = 0 ∨ report.call.wanted = 0) :
    report.taken = [] ∧ report.result = .ok [] := by
  have untaken : report.taken = [] := by
    rcases none with hurried | unwanted
    · exact answers.hurried hurried
    · have few := answers.few
      rw [unwanted, Nat.le_zero, List.length_eq_zero_iff] at few
      exact few
  refine ⟨untaken, ?_⟩
  have settles := answers.settles
  rw [untaken] at settles
  cases ended : report.result with
  | ok records =>
    rw [ended] at settles
    rw [← settles.returned_eq]
    rfl
  | error fault =>
    rw [ended] at settles
    exact absurd settles.length_decodable (by simp)

/-- What a call returned is all that it could decode, unless it spoiled that. -/
theorem returned_sublist (answers : consumer.Answers report) :
    report.returned.Sublist (consumer.decodable report.taken) ∧
      (report.returned = consumer.decodable report.taken ↔ ¬report.Spoils) := by
  have settles := answers.settles
  obtain ⟨call, taken, result⟩ := report
  cases result with
  | ok records =>
    have same : records = consumer.decodable taken := settles.returned_eq.symm
    refine ⟨same ▸ List.Sublist.refl _, ?_⟩
    simp [PollReport.returned, PollReport.Spoils, Except.toOption, Except.isOk, Except.toBool, same]
  | error fault =>
    -- Nothing is returned, so nothing is lost only if the call failed at its first message.
    have length := settles.length_decodable
    refine ⟨List.nil_sublist _, ?_⟩
    simp only [PollReport.returned, Except.toOption, Option.getD_none, PollReport.Spoils,
      Except.isOk, Except.toBool, true_and] at length ⊢
    rw [eq_comm, ← List.length_eq_zero_iff]
    omega

end Answers

/-- Calls share out what is in the inbox: each takes the next messages, and the others are left. -/
theorem reports_share (consumer : Consumer κ α) (calls : List PollCall) (inbox : List Arrival) :
    (consumer.reports calls inbox).map PollReport.call = calls ∧
      (∀ report ∈ consumer.reports calls inbox, consumer.Answers report) ∧
      ((consumer.reports calls inbox).flatMap PollReport.taken ++
        consumer.inboxAfter calls inbox).map
        Arrival.content = inbox.map Arrival.content := by
  induction calls generalizing inbox with
  | nil => exact ⟨rfl, by simp [reports], rfl⟩
  | cons call rest ih =>
    obtain ⟨taken, later, split, kept, settles, few, hurried⟩ :=
      consumer.poll_settles call.wanted call.time (paused call.pause inbox)
    obtain ⟨called, answered, shared⟩ :=
      ih (consumer.poll call.wanted call.time (paused call.pause inbox)).inbox
    have front : takenFrom (paused call.pause inbox)
        (consumer.poll call.wanted call.time (paused call.pause inbox)).inbox = taken := by
      rw [split] at kept ⊢
      exact takenFrom_append kept
    simp only [reports, front, inboxAfter, List.foldl_cons, List.map_cons, List.forall_mem_cons,
      List.flatMap_cons]
    refine ⟨by rw [called], ⟨⟨settles, few, hurried⟩, answered⟩, ?_⟩
    rw [List.append_assoc, List.map_append, ← inboxAfter, shared, kept, ← List.map_append, ← split,
      paused_content]

/-- What calls returned, against what they could decode. -/
theorem returned_reports {reports : List (PollReport κ α)}
    (answered : ∀ report ∈ reports, consumer.Answers report) :
    (reports.flatMap PollReport.returned).Sublist
      (consumer.decodable (reports.flatMap PollReport.taken)) ∧
      (reports.flatMap PollReport.returned = consumer.decodable (reports.flatMap PollReport.taken) ↔
        ∀ report ∈ reports, ¬report.Spoils) := by
  induction reports with
  | nil => simp [decodable]
  | cons report rest ih =>
    obtain ⟨answers, others⟩ := List.forall_mem_cons.mp answered
    obtain ⟨here, whole⟩ := answers.returned_sublist
    obtain ⟨later, wholes⟩ := ih others
    have split : consumer.decodable (report.taken ++ rest.flatMap PollReport.taken) =
        consumer.decodable report.taken ++ consumer.decodable (rest.flatMap PollReport.taken) :=
      List.filterMap_append
    rw [List.flatMap_cons, List.flatMap_cons, List.forall_mem_cons, ← whole, ← wholes, split]
    refine ⟨here.append later, fun same => ?_, fun both => by rw [both.1, both.2]⟩
    -- Neither part is longer than what it is a part of, so neither is shorter.
    have length := congrArg List.length same
    rw [List.length_append, List.length_append] at length
    have short := here.length_le
    have short' := later.length_le
    exact ⟨here.eq_of_length (by omega), later.eq_of_length (by omega)⟩

end Consumer

end Conduit
