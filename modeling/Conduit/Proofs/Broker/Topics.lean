import Conduit.Proofs.Broker.Dialogue
import Conduit.Proofs.Data.Table
import Mathlib.Data.String.Basic

/-!
# What an administrator tells about topics

A topic is on the cluster if it was there at first or was created since, and was not deleted after
that. Along any calls to a cluster that answers candidly, whatever else it refuses, the
administrator's successes and failures say which topics are there, the list names those that are not
the cluster's own, in order, and a topic counts as there exactly if it is listed: of the cluster's
own topics the administrator says that they are not there, also of one that it has just created.
-/
namespace Conduit

inductive TopicCall where
  | create (topic : String) (partitions replication : Int32)
  | delete (topic : String)
  | list
  | exists? (topic : String)

inductive TopicAnswer where
  | done
  | names (topics : List String)
  | found (there : Bool)
deriving DecidableEq, Repr

/-- A call, the cluster to which it was made, what was answered, and the cluster after it. -/
structure TopicReport where
  call : TopicCall
  before : Cluster
  answer : Except Fault TopicAnswer
  after : Cluster

/-- The cluster says that a topic is there already only if it is, and that it is made only if it was
not. -/
def Cluster.Candid (cluster : Cluster) : TopicCall → Prop
  | .create topic partitions replication =>
    let code := (cluster.answer (.createTopic topic partitions replication)).1
    (code = TopicAdmin.topicExists → cluster.topics.contains topic) ∧
      (code = 0 → cluster.topics.contains topic = false)
  | .delete _ | .list | .exists? _ => True

instance (cluster : Cluster) (call : TopicCall) : Decidable (cluster.Candid call) :=
  match call with
  | .create _ _ _ => inferInstanceAs (Decidable (_ ∧ _))
  | .delete _ | .list | .exists? _ => .isTrue trivial

/-- The cluster's own topics. -/
def isInternal (topic : String) : Bool := "__".isPrefixOf topic

/-- Whether a topic is there after a call, going by whether the call succeeded. -/
def thereNext (topic : String) (there : Bool) (report : TopicReport) : Bool :=
  match report.call, report.answer with
  | .create created _ _, .ok _ => there || topic == created
  | .delete deleted, .ok _ => there && topic != deleted
  | _, _ => there

namespace TopicReport

/-- What a call answers, and what it changes, goes by the topics that are there. -/
def Agrees (report : TopicReport) : Prop :=
  match report.call with
  | .create topic partitions replication =>
    (report.answer = .ok .done ∧ report.after.topics.contains topic ∨
        (∃ fault, report.answer = .error fault) ∧ report.after.topics = report.before.topics) ∧
      (report.before.topics.contains topic → report.after.topics = report.before.topics) ∧
      (report.after.asked = .createTopic topic partitions replication :: report.before.asked →
        (report.before.answer (.createTopic topic partitions replication)).1 =
          TopicAdmin.topicExists →
          report.answer = .ok .done) ∧
      ∀ other, other ≠ topic → report.after.topics.find? other = report.before.topics.find? other
  | .delete topic =>
    report.answer = .ok .done ∧ report.after.topics = report.before.topics.erase topic ∨
      (∃ fault, report.answer = .error fault) ∧ report.after.topics = report.before.topics
  | .list => report.after = report.before ∧ ∃ names, report.answer = .ok (.names names) ∧
      names.Pairwise (· < ·) ∧
      ∀ topic, topic ∈ names ↔ report.before.topics.contains topic ∧ isInternal topic = false
  | .exists? topic => report.after = report.before ∧
      report.answer = .ok (.found (report.before.topics.contains topic && !isInternal topic))

end TopicReport

namespace TopicAdmin

variable (admin : TopicAdmin)

def serve : TopicCall → Dialogue TopicAnswer
  | .create topic partitions replication => do
    admin.create topic partitions replication
    return .done
  | .delete topic => do
    admin.delete topic
    return .done
  | .list => return .names (← admin.list)
  | .exists? topic => return .found (← admin.exists? topic)

def report (cluster : Cluster) (call : TopicCall) : TopicReport :=
  let (answer, after) := (admin.serve call).run cluster
  ⟨call, cluster, answer, after⟩

/-- Makes one call after the other. The answers that are fixed may be others for every call. -/
def reports : List (Table String Nat × TopicCall) → Cluster → List TopicReport
  | [], _ => []
  | (answers, call) :: rest, cluster =>
    let report := admin.report { cluster with answers } call
    report :: reports rest report.after

variable {admin} {cluster : Cluster}

/-! ### Single calls -/

theorem run_done (action : Dialogue Unit) (cluster : Cluster) :
    (do action; return TopicAnswer.done : Dialogue TopicAnswer).run cluster =
      ((action.run cluster).1.map fun _ => .done, (action.run cluster).2) := by
  rw [Action.run_bind]
  rcases action.run cluster with ⟨_ | _, later⟩ <;> rfl

theorem report_create (admin : TopicAdmin) (cluster : Cluster) (topic : String)
    (partitions replication : Int32) :
    admin.report cluster (.create topic partitions replication) =
      let outcome := (admin.create topic partitions replication).run cluster
      ⟨.create topic partitions replication, cluster, outcome.1.map fun _ => .done, outcome.2⟩ := by
  rw [report, serve, run_done]

theorem report_delete (admin : TopicAdmin) (cluster : Cluster) (topic : String) :
    admin.report cluster (.delete topic) =
      let outcome := (admin.delete topic).run cluster
      ⟨.delete topic, cluster, outcome.1.map fun _ => .done, outcome.2⟩ := by
  rw [report, serve, run_done]

def listed (cluster : Cluster) : List String :=
  cluster.topics.keys.filter fun name => !"__".isPrefixOf name

theorem report_list (reached : cluster.reachedBy admin.brokers) :
    admin.report cluster .list = ⟨.list, cluster, .ok (.names (listed cluster)), cluster⟩ := by
  simp only [report, serve, Action.run_bind, run_list reached, Action.run_pure, listed]

theorem report_exists? (reached : cluster.reachedBy admin.brokers) (topic : String) :
    admin.report cluster (.exists? topic) =
      ⟨.exists? topic, cluster, .ok (.found ((listed cluster).contains topic)), cluster⟩ := by
  simp only [report, serve, Action.run_bind, run_exists? reached, Action.run_pure, listed]

theorem agrees_create (reached : cluster.reachedBy admin.brokers) {topic : String}
    {partitions replication : Int32}
    (candid : cluster.Candid (.create topic partitions replication)) :
    (admin.report cluster (.create topic partitions replication)).Agrees := by
  have requested := requested_create reached topic partitions replication
  have changed := cluster.topics_answer (.createTopic topic partitions replication)
  rw [report_create]
  generalize (admin.create topic partitions replication).run cluster = outcome at requested
  cases requested with
  | unasked fault =>
    refine ⟨Or.inr ⟨⟨fault, rfl⟩, rfl⟩, fun _ => rfl, fun asked => ?_, fun _ _ => rfl⟩
    -- Nothing was asked, so the requests are as many as before.
    exact absurd asked (List.cons_ne_self _ _).symm
  | @refused fault code =>
    rw [if_neg code.1] at changed
    refine ⟨Or.inr ⟨⟨fault, rfl⟩, changed⟩, fun _ => changed, fun _ there => ?_,
      fun _ _ => by rw [changed]⟩
    exact absurd (congrArg some there) code.2
  | granted code =>
    -- A success is a topic that was made or one that was there.
    by_cases made : (cluster.answer (.createTopic topic partitions replication)).1 = 0
    · rw [if_pos made, Cluster.make] at changed
      have absent := candid.2 made
      refine ⟨Or.inl ⟨rfl, ?_⟩, fun there => ?_, fun _ _ => rfl, fun other different => ?_⟩
      · simp [changed, Table.contains, Table.find?_insert]
      · exact absurd (there.symm.trans absent) (by simp)
      · simp [changed, Table.find?_insert, different]
    · rw [if_neg made] at changed
      have there : cluster.topics.contains topic :=
        candid.1 (Option.some.inj (code.resolve_left made))
      exact ⟨Or.inl ⟨rfl, by rw [changed]; exact there⟩, fun _ => changed, fun _ _ => rfl,
        fun _ _ => by rw [changed]⟩

theorem agrees_delete (reached : cluster.reachedBy admin.brokers) (topic : String) :
    (admin.report cluster (.delete topic)).Agrees := by
  have requested := requested_delete reached topic
  have changed := cluster.topics_answer (.deleteTopic topic)
  rw [report_delete]
  generalize (admin.delete topic).run cluster = outcome at requested
  cases requested with
  | unasked fault => exact Or.inr ⟨⟨fault, rfl⟩, rfl⟩
  | @refused fault code =>
    rw [if_neg code.1] at changed
    exact Or.inr ⟨⟨fault, rfl⟩, changed⟩
  | granted code =>
    have made := code.resolve_right nofun
    rw [if_pos made, Cluster.make] at changed
    exact Or.inl ⟨rfl, changed⟩

theorem mem_listed {topic : String} :
    topic ∈ listed cluster ↔ cluster.topics.contains topic ∧ isInternal topic = false := by
  rw [listed, List.mem_filter, Table.mem_keys_iff, Table.contains, Option.isSome_iff_exists,
    isInternal, Bool.not_eq_true']

theorem agrees_report (reached : cluster.reachedBy admin.brokers) (call : TopicCall)
    (candid : cluster.Candid call) : (admin.report cluster call).Agrees := by
  cases call with
  | create topic partitions replication => exact agrees_create reached candid
  | delete topic => exact agrees_delete reached topic
  | list =>
    rw [report_list reached]
    have ascending : cluster.topics.keys.Pairwise (· < ·) :=
      cluster.topics.ascending_keys.imp compare_lt_iff_lt.mp
    exact ⟨rfl, _, rfl, ascending.sublist List.filter_sublist, fun topic => mem_listed⟩
  | exists? topic =>
    have there : (listed cluster).contains topic =
        (cluster.topics.contains topic && !isInternal topic) := by
      rw [Bool.eq_iff_iff, List.contains_iff_mem, mem_listed, Bool.and_eq_true, Bool.not_eq_true']
    rw [report_exists? reached, there]
    exact ⟨rfl, rfl⟩

/-! ### Calls one after the other -/

/-- After a call that agrees a topic is there if its success says so, and else if it was. -/
theorem contains_after {report : TopicReport} (agrees : report.Agrees) (topic : String) :
    report.after.topics.contains topic =
      thereNext topic (report.before.topics.contains topic) report := by
  -- A change that failed left the topics alone; one that went through changed the one it names.
  obtain ⟨call, before, answer, after⟩ := report
  cases call with
  | create created partitions replication =>
    obtain ⟨made | ⟨⟨fault, failed⟩, same⟩, -, -, others⟩ := agrees
    · obtain ⟨done, there⟩ := made
      dsimp only at done there others
      subst done
      by_cases here : topic = created
      · subst here
        simp [thereNext, there]
      · simp [thereNext, Table.contains, others topic here, here]
    · dsimp only at failed same
      subst failed
      rw [same]
      rfl
  | delete deleted =>
    obtain ⟨done, erased⟩ | ⟨⟨fault, failed⟩, same⟩ := agrees
    · dsimp only at done erased
      subst done
      rw [erased]
      by_cases here : topic = deleted <;> simp [thereNext, Table.contains, Table.find?_erase, here]
    · dsimp only at failed same
      subst failed
      rw [same]
      rfl
  | list => rw [agrees.1, thereNext]
  | exists? other => rw [agrees.1, thereNext]

theorem address_report (reached : cluster.reachedBy admin.brokers) (call : TopicCall) :
    (admin.report cluster call).after.address = cluster.address := by
  -- Only the answer to a change makes another cluster, and it is at the same address.
  have settled {change : Change} {accepted : Option Nat} {outcome : Except Fault Unit × Cluster}
      (requested : Requested cluster change accepted outcome) :
        outcome.2.address = cluster.address := by
    cases requested with
    | unasked => rfl
    | refused | granted => exact cluster.address_answer change
  cases call with
  | create topic partitions replication =>
    rw [report_create]
    exact settled (requested_create reached topic partitions replication)
  | delete topic =>
    rw [report_delete]
    exact settled (requested_delete reached topic)
  | list => rw [report_list reached]
  | exists? topic => rw [report_exists? reached]

/-- Along any calls to a cluster that answers candidly, every answer agrees with the topics that are
there at that moment, and these are the first ones as changed by the calls that succeeded. So a
topic is said to be there if and only if it is there and is not one of the cluster's own. -/
theorem answers_by_topics (admin : TopicAdmin) (visits : List (Table String Nat × TopicCall))
    (cluster : Cluster) (reached : cluster.reachedBy admin.brokers)
    (candid : ∀ report ∈ admin.reports visits cluster, report.before.Candid report.call) :
    (admin.reports visits cluster).map TopicReport.call = visits.map Prod.snd ∧
      (∀ report ∈ admin.reports visits cluster, report.Agrees) ∧
      ∀ earlier report later, admin.reports visits cluster = earlier ++ report :: later → ∀ topic,
        report.before.topics.contains topic = earlier.foldl (thereNext topic)
          (cluster.topics.contains topic) := by
  -- What the earlier calls have left is the cluster with which the later ones begin.
  induction visits generalizing cluster with
  | nil =>
    refine ⟨rfl, fun report member => absurd member List.not_mem_nil,
      fun earlier report later split => ?_⟩
    exact absurd split (by simp [reports])
  | cons visit rest ih =>
    obtain ⟨answers, call⟩ := visit
    rw [reports] at candid ⊢
    obtain ⟨now, later⟩ := List.forall_mem_cons.mp candid
    have here : ({ cluster with answers } : Cluster).reachedBy admin.brokers := reached
    have agrees := agrees_report here call now
    have next : (admin.report { cluster with answers } call).after.reachedBy admin.brokers := by
      rw [Cluster.reachedBy, address_report here call]
      exact reached
    obtain ⟨called, answered, standing⟩ := ih _ next later
    refine ⟨congrArg (call :: ·) called, List.forall_mem_cons.mpr ⟨agrees, answered⟩, ?_⟩
    have first : (admin.report { cluster with answers } call).before.topics = cluster.topics := rfl
    intro earlier report others split topic
    generalize admin.report { cluster with answers } call = head at *
    rcases earlier with _ | ⟨front, earlier⟩
    · obtain ⟨here, -⟩ := List.cons.inj split
      rw [← here, first]
      rfl
    · obtain ⟨here, behind⟩ := List.cons.inj split
      rw [standing earlier report others behind topic, contains_after agrees, first, here]
      rfl

/-- A cluster with two topics, one of them its own. -/
def harbour : Cluster :=
  { Cluster.bare "harbour" 0 with topics := .ofList [("__offsets", [[]]), ("orders", [[], []])] }

/-- Two topics are created, one of which is there already; another one is refused, and one is
deleted. -/
def harbourVisits : List (Table String Nat × TopicCall) :=
  [(.empty, .create "bills" 1 1), (.empty, .create "orders" 3 1),
    (.ofList [("carts", 29)], .create "carts" 1 1), (.empty, .delete "bills"),
    (.empty, .exists? "bills"), (.empty, .exists? "orders"), (.empty, .list)]

theorem harbour_answers :
    let reports := (⟨"harbour"⟩ : TopicAdmin).reports harbourVisits harbour
    (∀ report ∈ reports, report.Agrees) ∧
      reports.map (fun report => report.answer.toOption) =
        [some .done, some .done, none, some .done, some (.found false), some (.found true),
          some (.names ["orders"])] := by
  have candid : ∀ report ∈ (⟨"harbour"⟩ : TopicAdmin).reports harbourVisits harbour,
      report.before.Candid report.call := by decide +kernel
  obtain ⟨-, agrees, -⟩ :=
    answers_by_topics ⟨"harbour"⟩ harbourVisits harbour (by decide +kernel) candid
  exact ⟨agrees, by decide +kernel⟩

/-- A topic is created and found not to be there: its name is one of the cluster's own. -/
theorem created_topic_not_found :
    let reports := (⟨"harbour"⟩ : TopicAdmin).reports
      [(.empty, .create "__audit" 1 1), (.empty, .exists? "__audit")] harbour
    reports.map (fun report => report.answer.toOption) = [some .done, some (.found false)] ∧
      reports.map (fun report => report.after.topics.contains "__audit") = [true, true] := by
  decide +kernel

end TopicAdmin

end Conduit
