import Conduit.Command.Run
import Conduit.Proofs.Broker.Delivery
import Conduit.Proofs.Broker.Joining
import Conduit.Proofs.Data.Action

/-!
# Consuming a topic run by run

Runs of the command that name one group read on where the last one committed, so together they print
a front of each partition, every record once and in order, and the committed offset is just past it.
A run that receives a key or a value that is no text prints nothing and commits nothing. Every other
run prints as many records as it was asked for or all that are left, and fails after that if these
were too few.
-/
namespace Conduit

variable {σ : Type}

namespace ConsumeCommand

variable (command : ConsumeCommand)

def consumer (chance : String) : Except Fault (Consumer String String) :=
  (ConsumerDraft.ofSettings command.settings).build chance .string .string

/-- A run to which the cluster hands over these messages. -/
def runOn (chance : String) (inbox : List Arrival) : Script σ Unit := do
  let consumer ← Script.ofExcept [] (command.consumer chance)
  command.conclude consumer .fresh
    (consumer.poll command.expected command.timeout.nanos inbox).result

/-- The command reads the topic as a member of the group, from the first record on, and can reach
the cluster. -/
structure Joins (group topic : String) (cluster : Cluster) (command : ConsumeCommand) : Prop where
  grouped : command.group = some group
  about : command.topic = topic
  whole : command.latest = false
  usable : Subscription.isUsable topic
  joinable : Joinable command.brokers group
  reached : cluster.reachedBy command.brokers

variable {command}

theorem Joins.built {group topic : String} {cluster : Cluster}
    (joins : command.Joins group topic cluster) (chance : String) :
    command.consumer chance = .ok (.reader command.brokers group topic .string .string) := by
  have drafted : ConsumerDraft.ofSettings command.settings =
      ⟨some command.brokers, [topic], some group, .earliest, .empty⟩ := by
    simp [settings, joins.grouped, joins.about, joins.whole, ConsumerDraft.ofSettings,
      ConsumerDraft.apply, ConsumerDraft.fresh]
  rw [consumer, drafted]
  exact ConsumerDraft.build_reader .string .string joins.joinable joins.usable chance

theorem Joins.of_address {group topic : String} {cluster other : Cluster}
    (joins : command.Joins group topic cluster) (same : other.address = cluster.address) :
    command.Joins group topic other := by
  have reached : other.reachedBy command.brokers := by
    rw [Cluster.reachedBy, same]
    exact joins.reached
  exact { joins with reached }

theorem run_ofExcept {α : Type} (doing : List String) (value : α) (session : Session σ) :
    (Script.ofExcept doing (.ok value)).run session = (.ok value, session) :=
  rfl

/-- Too few records are printed and committed before they are complained about. -/
theorem run_conclude_ok (grouped : command.group.isSome) (reader : Consumer String String)
    (standing : Standing) (records : List (Record String String)) (session : Session σ) :
    (command.conclude reader standing (.ok records)).run session =
      (if records.length < command.expected then
          .error ⟨[], .tooFew command.timeout records.length command.expected command.topic⟩
            else .ok (),
        { session with
          printed := session.printed ++ records.map line,
          cluster := (reader.commitRecords records session.cluster standing).1 }) := by
  have prints (lines : List String) (state : Session σ) :
      (Script.printAll lines : Script σ Unit).run state =
        (.ok (), { state with printed := state.printed ++ lines }) := rfl
  simp only [conclude, Action.run_bind, run_ofExcept, prints, grouped, if_true, Action.run_modify]
  split <;> rfl

theorem run_runOn {chance : String} {reader : Consumer String String}
    (built : command.consumer chance = .ok reader) (inbox : List Arrival) (session : Session σ) :
    (command.runOn chance inbox).run session = (command.conclude reader .fresh
      (reader.poll command.expected command.timeout.nanos inbox).result).run session := by
  rw [runOn, Action.run_bind, built, run_ofExcept]

/-- It does not matter for the cluster how far the consumer is when its records are committed. -/
theorem run_conclude (reader : Consumer String String) (standing other : Standing)
    (result : Except Fault (List (Record String String))) (session : Session σ) :
    (command.conclude reader standing result).run session =
      (command.conclude reader other result).run session := by
  have same (records : List (Record String String)) (cluster : Cluster) :
      (reader.commitRecords records cluster standing).1 =
        (reader.commitRecords records cluster other).1 := by
    unfold Consumer.commitRecords
    split <;> rfl
  simp only [conclude, same]

/-- A run by itself is handed what its partitions hold, one after the other. -/
theorem run_eq_runOn {chance : String} {reader : Consumer String String}
    (built : command.consumer chance = .ok reader) {session : Session σ}
    (reaches : reader.Reaches session.cluster) (fits : session.cluster.Fits) :
    (command.run chance).run session =
      (command.runOn chance
        (reader.inbox session.cluster (reader.assign session.cluster .fresh))).run session := by
  obtain ⟨polled, -⟩ :=
    Consumer.read_poll reaches fits command.timeout.nanos command.expected .fresh
  rw [run_runOn built, ← polled]
  -- The read that the run makes is the poll of what waits for its consumer.
  rw [consumer] at built
  simp only [run, built, Action.run_bind, run_ofExcept, Action.run_get]
  rcases reader.read session.cluster command.timeout.nanos command.expected .fresh with
    ⟨result, left, standing⟩
  exact run_conclude reader standing .fresh result session

end ConsumeCommand

/-! ### Texts -/

/-- A record as it is stored and as texts: the bytes of its key and its value, if there are any, are
UTF-8. -/
structure TextOf (raw : RawRecord) (record : Record String String) : Prop where
  key : raw.key.mapM Text.Utf8.decode = .ok record.key
  value : raw.value.mapM Text.Utf8.decode = .ok record.value
  rest : record =
    ⟨raw.topic, raw.partition, raw.offset, raw.timestamp, record.key, record.value, raw.headers⟩

theorem mapM_string_ok_iff {bytes : Option Text.Utf8.Bytes} {text : Option String} :
    bytes.mapM Codec.string.decode = .ok text ↔ bytes.mapM Text.Utf8.decode = .ok text := by
  cases bytes with
  | none => simp [pure, Except.pure]
  | some bytes =>
    simp only [Option.mapM_some, Codec.string]
    cases Text.Utf8.decode bytes <;> simp [Except.mapError]

theorem decode_ok_iff_textOf (brokers group topic : String) {raw : RawRecord}
    {record : Record String String} :
    (Consumer.reader brokers group topic .string .string).decode raw = .ok record ↔
      TextOf raw record := by
  constructor
  · intro decoded
    obtain ⟨key, value, readKey, readValue, rfl⟩ := Consumer.eq_of_decode decoded
    exact ⟨mapM_string_ok_iff.mp readKey, mapM_string_ok_iff.mp readValue, rfl⟩
  · intro text
    have key := mapM_string_ok_iff.mpr text.key
    have value := mapM_string_ok_iff.mpr text.value
    rw [text.rest]
    simp only [Consumer.decode, Consumer.reader, key, value]
    rfl

theorem TextOf.place_eq {raw : RawRecord} {record : Record String String}
    (text : TextOf raw record) :
    record.place = raw.place := by
  rw [text.rest]
  rfl

theorem TextOf.offset_eq {raw : RawRecord} {record : Record String String}
    (text : TextOf raw record) :
    record.offset = raw.offset := by
  rw [text.rest]

theorem serialization_of_decode {κ α : Type} {consumer : Consumer κ α} {raw : RawRecord}
    {fault : Fault} (refused : consumer.decode raw = .error fault) :
    ∃ cause, fault = .serialization cause := by
  unfold Consumer.decode at refused
  cases key : raw.key.mapM consumer.key.decode with
  | error cause =>
    rw [key] at refused
    cases refused
    exact ⟨cause, rfl⟩
  | ok text =>
    cases value : raw.value.mapM consumer.value.decode with
    | error cause =>
      rw [key, value] at refused
      cases refused
      exact ⟨cause, rfl⟩
    | ok other =>
      rw [key, value] at refused
      cases refused

theorem map_texts {ι : Type} {f : RawRecord → ι} {g : Record String String → ι}
    (same : ∀ {raw record}, TextOf raw record → g record = f raw) {raws : List RawRecord}
    {records : List (Record String String)} (texts : List.Forall₂ TextOf raws records) :
    records.map g = raws.map f := by
  induction texts with
  | nil => rfl
  | cons text _ ih => rw [List.map_cons, List.map_cons, same text, ih]

theorem forall₂_recordsIn {raws : List RawRecord} {records : List (Record String String)}
    (texts : List.Forall₂ TextOf raws records) (part : TopicPartition) :
    List.Forall₂ TextOf (recordsIn part raws) (recordsIn part records) := by
  apply List.rel_filter _ texts
  intro raw record text
  simp only [text.place_eq]

theorem find?_offsetsPast_texts {raws : List RawRecord} {records : List (Record String String)}
    (texts : List.Forall₂ TextOf raws records) (part : TopicPartition) :
    (offsetsPast records).find? part = (offsetsPast raws).find? part := by
  have inside := forall₂_recordsIn texts part
  rw [find?_offsetsPast, find?_offsetsPast, map_texts (fun text => text.offset_eq) inside]

/-! ### Reading on -/

/-- Of what a group had not read of a partition, a front has been printed, and the group has moved
just past it. -/
def ReadOn (group : String) (part : TopicPartition) (before after : Cluster)
    (printed : List (Record String String)) : Prop :=
  ∃ count, List.Forall₂ TextOf ((before.unreadBy group part).take count) (recordsIn part printed) ∧
    after.committed group part =
      (((before.unreadBy group part).take count).getLast?.map Record.past).or
        (before.committed group part) ∧
    after.unreadBy group part = (before.unreadBy group part).drop count

namespace ReadOn

variable {group : String} {part : TopicPartition}

theorem refl (cluster : Cluster) : ReadOn group part cluster cluster [] :=
  ⟨0, .nil, rfl, rfl⟩

theorem trans {first second third : Cluster} {printed more : List (Record String String)}
    (front : ReadOn group part first second printed)
    (further : ReadOn group part second third more) :
    ReadOn group part first third (printed ++ more) := by
  obtain ⟨count, texts, committed, left⟩ := front
  obtain ⟨next, others, moved, rest⟩ := further
  -- What is read next begins behind what was read before.
  rw [left] at others moved rest
  refine ⟨count + next, ?_, ?_, ?_⟩
  · rw [List.take_add, recordsIn_append]
    exact List.rel_append texts others
  · rw [moved, committed, List.take_add, List.getLast?_append, Option.map_or, Option.or_assoc]
  · rw [rest, List.drop_drop]

end ReadOn

/-! ### Runs one after the other -/

/-- A run of the command, and the messages that it is handed. -/
structure Sitting (σ : Type) where
  command : ConsumeCommand
  chance : String
  inbox : List Arrival
  before : Session σ

namespace Sitting

variable (sitting : Sitting σ)

def outcome : Except CommandFault Unit :=
  ((sitting.command.runOn sitting.chance sitting.inbox).run sitting.before).1

def after : Session σ := ((sitting.command.runOn sitting.chance sitting.inbox).run sitting.before).2

/-- The messages that the run receives, as long as it can decode them. -/
def received : List RawRecord := (recordsOf sitting.inbox).take sitting.command.expected

/-- The records that the run has for printing. -/
def polled : Except Fault (List (Record String String)) := do
  let consumer ← sitting.command.consumer sitting.chance
  (consumer.poll sitting.command.expected sitting.command.timeout.nanos sitting.inbox).result

def printed : List (Record String String) := sitting.polled.toOption.getD []

/-- The records that the group has not read in any partition. -/
def left (group topic : String) : Nat :=
  ((sitting.before.cluster.partitionsFor topic).map fun part =>
    (sitting.before.cluster.unreadBy (stripped group) part).length).sum

/-- The run is one of the group, and it is handed what the group has not read in time. -/
structure Fair (group topic : String) (sitting : Sitting σ) : Prop where
  joins : sitting.command.Joins group topic sitting.before.cluster
  brought : Brings sitting.before.cluster (sitting.before.cluster.partitionsFor topic)
    (sitting.before.cluster.resume (stripped group)) sitting.inbox
  inTime : waited sitting.inbox < sitting.command.timeout.nanos

/-- What a run comes to. -/
inductive Ends (group topic : String) (sitting : Sitting σ) : Prop
  | read (texts : List.Forall₂ TextOf sitting.received sitting.printed)
      (many : sitting.printed.length = min sitting.command.expected (sitting.left group topic))
      (outcome : sitting.outcome =
        if sitting.left group topic < sitting.command.expected then .error ⟨[],
          .tooFew sitting.command.timeout sitting.printed.length sitting.command.expected topic⟩
        else .ok ())
      (lines : sitting.after.printed =
        sitting.before.printed ++ sitting.printed.map ConsumeCommand.line)
      (committed : ∀ part, sitting.after.cluster.committed (stripped group) part =
        ((offsetsPast sitting.received).find? part).or
          (sitting.before.cluster.committed (stripped group) part))
      (kept : sitting.after.cluster =
        { sitting.before.cluster with groups := sitting.after.cluster.groups })
  | refused (spoiled : ∃ raw ∈ sitting.received, ∀ record, ¬TextOf raw record)
      (none : sitting.printed = [])
      (outcome : ∃ cause, sitting.outcome = .error ⟨[], .fault (.serialization cause)⟩)
      (unchanged : sitting.after = sitting.before)

end Sitting

/-- Runs one after the other, each with the messages that it is handed. -/
def sittings : List (ConsumeCommand × String × List Arrival) → Session σ → List (Sitting σ)
  | [], _ => []
  | (command, chance, inbox) :: rest, session =>
    let sitting : Sitting σ := ⟨command, chance, inbox, session⟩
    sitting :: sittings rest sitting.after

def sessionAfter (runs : List (ConsumeCommand × String × List Arrival)) (session : Session σ) :
    Session σ :=
  runs.foldl (fun session (command, chance, inbox) =>
    (Sitting.mk command chance inbox session).after) session

namespace Sitting

variable {sitting : Sitting σ} {group topic : String}

theorem Fair.polled_eq (fair : sitting.Fair group topic) : sitting.polled =
    sitting.received.mapM
      (Consumer.reader sitting.command.brokers group topic .string .string).decode := by
  have inTime := Consumer.poll_inTime (.reader sitting.command.brokers group topic .string .string)
    fair.brought.sound fair.inTime sitting.command.expected
  rw [polled, fair.joins.built]
  exact inTime

theorem Fair.run_eq (fair : sitting.Fair group topic) :
    (sitting.command.runOn sitting.chance sitting.inbox).run sitting.before =
      (sitting.command.conclude (.reader sitting.command.brokers group topic .string .string) .fresh
        sitting.polled).run sitting.before := by
  rw [ConsumeCommand.run_runOn (fair.joins.built _), polled, fair.joins.built]
  rfl

theorem Fair.length_received (fair : sitting.Fair group topic)
    (fits : sitting.before.cluster.Fits) :
    sitting.received.length = min sitting.command.expected (sitting.left group topic) := by
  have distinct :=
    (Consumer.reader sitting.command.brokers group topic .string .string).nodup_partitions
      sitting.before.cluster fits
  have length := fair.brought.length_recordsOf distinct
  rw [received, List.length_take, length]
  rfl

theorem Fair.ends_of_error (fair : sitting.Fair group topic) {fault : Fault}
    (failed : sitting.received.mapM
      (Consumer.reader sitting.command.brokers group topic .string .string).decode = .error fault) :
    sitting.Ends group topic := by
  have polled := fair.polled_eq
  rw [failed] at polled
  have ran := fair.run_eq
  rw [polled] at ran
  -- The fault is that of a record whose bytes are no text.
  obtain ⟨raw, member, refused⟩ := exists_of_mapM_error failed
  obtain ⟨cause, rfl⟩ := serialization_of_decode refused
  have spoiled (record : Record String String) : ¬TextOf raw record := by
    intro text
    rw [(decode_ok_iff_textOf _ _ _).mpr text] at refused
    cases refused
  apply Ends.refused
  · exact ⟨raw, member, spoiled⟩
  · rw [printed, polled]
    rfl
  · refine ⟨cause, ?_⟩
    rw [outcome, ran]
    rfl
  · rw [after, ran]
    rfl

theorem Fair.ends_of_ok (fair : sitting.Fair group topic) (fits : sitting.before.cluster.Fits)
    {records : List (Record String String)} (read : sitting.received.mapM
      (Consumer.reader sitting.command.brokers group topic .string .string).decode = .ok records) :
    sitting.Ends group topic := by
  have polled := fair.polled_eq
  rw [read] at polled
  have prints : sitting.printed = records := by
    rw [printed, polled]
    rfl
  have texts : List.Forall₂ TextOf sitting.received records :=
    (mapM_ok_iff.mp read).imp fun raw record => (decode_ok_iff_textOf _ _ _).mp
  have grouped : sitting.command.group.isSome := by
    rw [fair.joins.grouped]
    rfl
  have ran := fair.run_eq
  rw [polled, ConsumeCommand.run_conclude_ok grouped] at ran
  have length : records.length = min sitting.command.expected (sitting.left group topic) := by
    rw [← texts.length_eq, fair.length_received fits]
  -- Fewer than expected are printed exactly if fewer are left.
  have few : records.length < sitting.command.expected ↔
      sitting.left group topic < sitting.command.expected := by
    omega
  apply Ends.read
  · rw [prints]
    exact texts
  · rw [prints, length]
  · rw [outcome, ran, prints, fair.joins.about]
    simp only [few]
  · rw [after, ran, prints]
  · intro part
    rw [after, ran, ← find?_offsetsPast_texts texts]
    have committed :=
      (Consumer.reader sitting.command.brokers group topic .string .string).committed_commitRecords
        records sitting.before.cluster .fresh part
    rw [Consumer.group_reader] at committed
    exact committed
  · rw [after, ran]
    exact Consumer.commitRecords_kept _ records sitting.before.cluster .fresh

theorem Fair.ends (fair : sitting.Fair group topic) (fits : sitting.before.cluster.Fits) :
    sitting.Ends group topic := by
  cases read : sitting.received.mapM
    (Consumer.reader sitting.command.brokers group topic .string .string).decode with
  | error fault => exact fair.ends_of_error read
  | ok records => exact fair.ends_of_ok fits read

theorem Ends.kept (ends : sitting.Ends group topic) :
    sitting.after.cluster =
      { sitting.before.cluster with groups := sitting.after.cluster.groups } := by
  cases ends with
  | read texts many outcome lines committed kept => exact kept
  | refused spoiled none outcome unchanged => rw [unchanged]

theorem Ends.lines_after (ends : sitting.Ends group topic) :
    sitting.after.printed = sitting.before.printed ++ sitting.printed.map ConsumeCommand.line := by
  cases ends with
  | read texts many outcome lines committed kept => exact lines
  | refused spoiled none outcome unchanged =>
    rw [unchanged, none]
    simp

theorem Fair.place_mem (fair : sitting.Fair group topic) (ends : sitting.Ends group topic)
    {record : Record String String} (member : record ∈ sitting.printed) :
    record.place ∈ sitting.before.cluster.partitionsFor topic := by
  cases ends with
  | refused spoiled none outcome unchanged =>
    rw [none] at member
    exact absurd member List.not_mem_nil
  | read texts many outcome lines committed kept =>
    have placed : record.place ∈ sitting.received.map Record.place := by
      rw [← map_texts (fun text => text.place_eq) texts]
      exact List.mem_map_of_mem member
    obtain ⟨raw, received, same⟩ := List.mem_map.mp placed
    rw [← same]
    exact fair.brought.place_mem (List.mem_of_mem_take received)

/-- A run prints a front of what the group has not read, and commits it. -/
theorem Fair.readOn (fair : sitting.Fair group topic) (ends : sitting.Ends group topic)
    (fits : sitting.before.cluster.Fits) {part : TopicPartition}
    (member : part ∈ sitting.before.cluster.partitionsFor topic) :
    ReadOn (stripped group) part sitting.before.cluster sitting.after.cluster sitting.printed := by
  cases ends with
  | refused spoiled none outcome unchanged =>
    rw [none, unchanged]
    exact .refl _
  | read texts many outcome lines committed kept =>
    -- Of each partition the messages bring a front, so what was taken of them is a front too.
    have front : recordsIn part sitting.received =
        (sitting.before.cluster.unreadBy (stripped group) part).take
          (recordsIn part sitting.received).length := by
      have held := recordsIn_take part (recordsOf sitting.inbox) sitting.command.expected
      rw [fair.brought.ordered part member] at held
      exact held
    generalize (recordsIn part sitting.received).length = count at front
    have ascending :=
      Consumer.unreadIn_ascending fits part (sitting.before.cluster.resume (stripped group) part)
    have moved : sitting.after.cluster.committed (stripped group) part =
        (((sitting.before.cluster.unreadBy (stripped group) part).take count).getLast?.map
          Record.past).or (sitting.before.cluster.committed (stripped group) part) := by
      rw [committed, find?_offsetsPast_of_ascending, front]
      · rw [front]
        exact ascending.1.sublist (List.take_sublist _ _)
    refine ⟨count, ?_, moved, ?_⟩
    · rw [← front]
      exact forall₂_recordsIn texts part
    · -- The log is as it was, so what is left is behind the new offset.
      rw [Cluster.unreadBy, Cluster.unreadIn_of_topics part (congrArg Cluster.topics kept),
        Cluster.resume, moved, Option.getD_or]
      exact Consumer.unreadIn_past fits part
        (sitting.before.cluster.resume (stripped group) part) count

end Sitting

theorem sittings_readOn {group topic : String}
    (runs : List (ConsumeCommand × String × List Arrival)) (session : Session σ)
    (fits : session.cluster.Fits)
    (fair : ∀ sitting ∈ sittings runs session, sitting.Fair group topic) :
    (∀ sitting ∈ sittings runs session, sitting.Ends group topic) ∧
      (sessionAfter runs session).printed =
        session.printed ++
          ((sittings runs session).flatMap Sitting.printed).map ConsumeCommand.line ∧
      (sessionAfter runs session).cluster =
        { session.cluster with groups := (sessionAfter runs session).cluster.groups } ∧
      (∀ record ∈ (sittings runs session).flatMap Sitting.printed,
        record.place ∈ session.cluster.partitionsFor topic) ∧
      ∀ part ∈ session.cluster.partitionsFor topic, ReadOn (stripped group) part session.cluster
        (sessionAfter runs session).cluster ((sittings runs session).flatMap Sitting.printed) := by
  induction runs generalizing session with
  | nil =>
    have none : (sittings [] session).flatMap Sitting.printed = [] := rfl
    rw [none]
    refine ⟨?_, (List.append_nil _).symm, rfl, ?_, fun part member => .refl _⟩
    · exact fun sitting member => absurd member List.not_mem_nil
    · exact fun record member => absurd member List.not_mem_nil
  | cons run rest ih =>
    obtain ⟨command, chance, inbox⟩ := run
    rw [sittings] at fair ⊢
    obtain ⟨now, later⟩ := List.forall_mem_cons.mp fair
    have ends := now.ends fits
    -- The first run leaves the topics alone, so the others read the same partitions.
    have topics := congrArg Cluster.topics ends.kept
    obtain ⟨settled, lines, kept, placed, reads⟩ := ih _ (fits.of_topics topics) later
    rw [Cluster.partitionsFor_of_topics topics] at placed reads
    have last : sessionAfter ((command, chance, inbox) :: rest) session =
        sessionAfter rest (Sitting.mk command chance inbox session).after := rfl
    rw [last, List.flatMap_cons]
    refine ⟨List.forall_mem_cons.mpr ⟨ends, settled⟩, ?_, ?_, ?_, ?_⟩
    · rw [lines, ends.lines_after, List.map_append, List.append_assoc]
    · rw [kept, ends.kept]
    · intro record member
      rcases List.mem_append.mp member with first | others
      · exact now.place_mem ends first
      · exact placed record others
    · intro part member
      exact (now.readOn ends fits member).trans (reads part member)

/-- Past the first records of a partition is how many they are. -/
theorem getLast?_past_first {cluster : Cluster} (fits : cluster.Fits) (part : TopicPartition)
    {count : Nat} (inside : count ≤ (Consumer.unreadIn cluster part 0).length) :
    ((Consumer.unreadIn cluster part 0).take count).getLast?.map Record.past =
      if count = 0 then none else some (Int64.ofNat count) := by
  split
  next zero =>
    rw [zero]
    rfl
  next positive =>
    have within : count - 1 < (Consumer.unreadIn cluster part 0).length := by omega
    obtain ⟨offset, bound⟩ := Consumer.offset_getElem_unreadIn fits within
    have bounded := (Consumer.unreadIn_ascending fits part 0).2 _ (List.getElem_mem within)
    have fit := fits.length_log part
    -- The record taken last has its number for offset.
    have last : ((Consumer.unreadIn cluster part 0).take count).getLast? =
        some (Consumer.unreadIn cluster part 0)[count - 1] := by
      rw [List.getLast?_eq_getElem?, List.length_take, Nat.min_eq_left inside,
        List.getElem?_take_of_lt (by omega), List.getElem?_eq_getElem within]
    rw [last, Option.map_some]
    congr 1
    apply Int64.toInt_inj.mp
    rw [Record.past_toInt bounded, offset, Int64.toInt_ofNat_of_lt (by simp at bound ⊢; omega)]
    simp
    omega

theorem exists_fair {group topic : String} {command : ConsumeCommand} {session : Session σ}
    (joins : command.Joins group topic session.cluster) (fits : session.cluster.Fits)
    (patient : 0 < command.timeout.nanos) (chance : String) :
    ∃ inbox, (Sitting.mk command chance inbox session).Fair group topic ∧
      (command.run chance).run session = (command.runOn chance inbox).run session := by
  have reaches :=
    (Consumer.reader_reaches_iff .string .string command.brokers group topic session.cluster).mpr
      joins.reached
  have run := ConsumeCommand.run_eq_runOn (joins.built chance) reaches fits
  refine ⟨_, ⟨joins, ?_, ?_⟩, run⟩
  · have brings := Consumer.brings_fresh reaches fits
    rw [Consumer.start_reader] at brings
    exact brings
  · rw [(Consumer.due_inbox _ _ _).waited]
    exact patient

theorem exists_sittings {group topic : String} (commands : List (ConsumeCommand × String))
    (session : Session σ) (fits : session.cluster.Fits)
    (joins : ∀ command ∈ commands, command.1.Joins group topic session.cluster ∧
      0 < command.1.timeout.nanos) :
    ∃ runs, (sittings runs session).map (fun sitting => (sitting.command, sitting.chance)) =
      commands ∧
      ∀ sitting ∈ sittings runs session, sitting.Fair group topic ∧
        (sitting.command.run sitting.chance).run sitting.before =
          (sitting.outcome, sitting.after) := by
  induction commands generalizing session with
  | nil => exact ⟨[], rfl, fun sitting member => absurd member List.not_mem_nil⟩
  | cons command rest ih =>
    obtain ⟨⟨now, patient⟩, others⟩ := List.forall_mem_cons.mp joins
    obtain ⟨inbox, fair, run⟩ := exists_fair now fits patient command.2
    have address := congrArg Cluster.address (fair.ends fits).kept
    have topics := congrArg Cluster.topics (fair.ends fits).kept
    have later : ∀ other ∈ rest,
        other.1.Joins group topic (Sitting.mk command.1 command.2 inbox session).after.cluster ∧
          0 < other.1.timeout.nanos := by
      intro other member
      obtain ⟨joins, patient⟩ := others other member
      exact ⟨joins.of_address address, patient⟩
    obtain ⟨runs, asked, rest⟩ :=
      ih (Sitting.mk command.1 command.2 inbox session).after (fits.of_topics topics) later
    refine ⟨(command.1, command.2, inbox) :: runs, ?_, List.forall_mem_cons.mpr ⟨⟨fair, run⟩, rest⟩⟩
    rw [sittings, List.map_cons, asked]

/-- Runs that name one group read on where the last one has committed, whatever each of them is
handed of that and in which order. So per partition they print a front of what the group had not
read, each record once and in order, and the committed offset is just past it. A run prints as many
records as it was asked for or all that are left, and fails after that exactly if these were too
few; one that comes to a record that is no text fails, prints nothing and commits nothing. What a
cluster hands over by itself is one way. -/
theorem runs_read_on (group topic : String) (session : Session σ) (fits : session.cluster.Fits) :
    (∀ runs, (∀ sitting ∈ sittings runs session, sitting.Fair group topic) →
      let all := sittings runs session
      let last := sessionAfter runs session
      (∀ sitting ∈ all, sitting.Ends group topic) ∧
        last.printed = session.printed ++ (all.flatMap Sitting.printed).map ConsumeCommand.line ∧
        last.cluster = { session.cluster with groups := last.cluster.groups } ∧
        (∀ record ∈ all.flatMap Sitting.printed,
          record.place ∈ session.cluster.partitionsFor topic) ∧
        ∀ part ∈ session.cluster.partitionsFor topic,
          let unread := session.cluster.unreadBy (stripped group) part
          let before := session.cluster.committed (stripped group) part
          let after := last.cluster.committed (stripped group) part
          ∃ count ≤ unread.length,
            List.Forall₂ TextOf (unread.take count) (recordsIn part (all.flatMap Sitting.printed)) ∧
            after = ((unread.take count).getLast?.map Record.past).or before ∧
            (before = none → unread = Consumer.unreadIn session.cluster part 0 ∧
              after = if count = 0 then none else some (Int64.ofNat count))) ∧
      ∀ commands : List (ConsumeCommand × String),
        (∀ command ∈ commands, command.1.Joins group topic session.cluster ∧
          0 < command.1.timeout.nanos) →
        ∃ runs, (sittings runs session).map (fun sitting => (sitting.command, sitting.chance)) =
          commands ∧
          ∀ sitting ∈ sittings runs session, sitting.Fair group topic ∧
            (sitting.command.run sitting.chance).run sitting.before =
              (sitting.outcome, sitting.after) := by
  refine ⟨fun runs fair => ?_, fun commands => exists_sittings commands session fits⟩
  obtain ⟨ends, lines, kept, placed, reads⟩ := sittings_readOn runs session fits fair
  refine ⟨ends, lines, kept, placed, fun part member => ?_⟩
  obtain ⟨count, front, moved, -⟩ := reads part member
  rw [List.take_eq_take_min] at front moved
  refine ⟨min count (session.cluster.unreadBy (stripped group) part).length, Nat.min_le_right _ _,
    front, moved, fun fresh => ?_⟩
  -- A group that has committed nothing begins with the first record.
  have whole : session.cluster.unreadBy (stripped group) part =
      Consumer.unreadIn session.cluster part 0 := by
    rw [Cluster.unreadBy, Cluster.resume, fresh, Option.getD_none]
  rw [fresh, Option.or_none, whole] at moved
  refine ⟨whole, ?_⟩
  rw [moved, whole]
  exact getLast?_past_first fits part (Nat.min_le_right _ _)

def ledgerLogs : List (List StoredRecord) :=
  [[⟨1, some [0x61], some [0x31], []⟩, ⟨2, some [0x62], some [0x32], []⟩],
    [⟨3, none, some [0x33], []⟩]]

def ledger : Session Unit :=
  ⟨⟨0, ()⟩, { Cluster.bare "here" 0 with topics := .ofList [("ledger", ledgerLogs)] }, []⟩

def audit (expected : Nat) : ConsumeCommand :=
  ⟨"here", "ledger", some "audit", .ofSeconds 1, expected, false⟩

/-- Two records at first, and then the one that is left. -/
theorem ledger_audited_twice :
    (∃ runs, (sittings runs ledger).map (fun sitting => (sitting.command, sitting.chance)) =
        [(audit 2, ""), (audit 2, "")] ∧
        ∀ sitting ∈ sittings runs ledger, sitting.Ends "audit" "ledger") ∧
      let first := ((audit 2).run "").run ledger
      let second := ((audit 2).run "").run first.2
      first.1.isOk ∧ first.2.printed = ["a\t1", "b\t2"] ∧
        first.2.cluster.committed "audit" ⟨"ledger", 0⟩ = some 2 ∧
        second.1.isOk = false ∧ second.2.printed = ["a\t1", "b\t2", "\t3"] ∧
        second.2.cluster.committed "audit" ⟨"ledger", 1⟩ = some 1 := by
  have fits : ledger.cluster.Fits := .of_single rfl (by decide) (by decide)
  have joins : (audit 2).Joins "audit" "ledger" ledger.cluster :=
    ⟨rfl, rfl, rfl, by decide +kernel,
      ⟨by decide +kernel, by decide +kernel, by decide +kernel⟩, by decide +kernel⟩
  constructor
  · obtain ⟨reads, own⟩ := runs_read_on "audit" "ledger" ledger fits
    obtain ⟨runs, asked, fair⟩ := own [(audit 2, ""), (audit 2, "")] (by simp [joins]; decide)
    exact ⟨runs, asked, (reads runs fun sitting member => (fair sitting member).1).1⟩
  · decide +kernel

end Conduit
