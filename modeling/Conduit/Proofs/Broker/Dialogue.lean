import Conduit.Broker.Admin
import Conduit.Proofs.Data.Action

/-!
# Requests to a cluster

A change that is asked of a cluster is made exactly if the answer is zero, and every answer is
noted. Asking may fail before the cluster hears of it, at its answer, or not at all.
-/
namespace Conduit

namespace Cluster

variable (cluster : Cluster) (change : Change)

theorem topics_answer : (cluster.answer change).2.topics =
    if (cluster.answer change).1 = 0 then (cluster.make change).topics else cluster.topics := by
  unfold answer
  dsimp only
  split
  · cases change <;> rfl
  · rfl

theorem address_answer : (cluster.answer change).2.address = cluster.address := by
  unfold answer
  dsimp only
  split
  · cases change <;> rfl
  · rfl

end Cluster

namespace TopicAdmin

variable {admin : TopicAdmin} {cluster : Cluster}

theorem run_request (reached : cluster.reachedBy admin.brokers) (action : AdminAction)
    (change : Change) (accepted : Option Nat) :
    (admin.request action change accepted).run cluster =
      if hasZero change.name then (.error (.request .zero), cluster)
      else
        (if (cluster.answer change).1 ≠ 0 ∧ some (cluster.answer change).1 ≠ accepted then
            .error (.admin action change.name (cluster.answer change).1)
          else .ok (), (cluster.answer change).2) := by
  unfold request
  by_cases zero : hasZero change.name = true
  · simp only [Action.run_bind, Action.run_throw, zero, if_true]
  · simp only [Action.run_bind, Action.run_ite, Action.run_throw, Action.run_pure, Action.run_get,
      Action.run_set, zero, reached, Bool.not_true, Bool.false_eq_true, if_false]
    split <;> simp_all

/-- What came of an action that asks for a change: it was not asked for, or it was refused, or it
was answered by zero or by a code that is taken for a success. -/
inductive Requested (cluster : Cluster) (change : Change) (accepted : Option Nat) :
    Except Fault Unit × Cluster → Prop
  | unasked (fault) : Requested cluster change accepted (.error fault, cluster)
  | refused {fault}
      (code : (cluster.answer change).1 ≠ 0 ∧ some (cluster.answer change).1 ≠ accepted) :
      Requested cluster change accepted (.error fault, (cluster.answer change).2)
  | granted (code : (cluster.answer change).1 = 0 ∨ some (cluster.answer change).1 = accepted) :
      Requested cluster change accepted (.ok (), (cluster.answer change).2)

theorem requested_request (reached : cluster.reachedBy admin.brokers) (action : AdminAction)
    (change : Change) (accepted : Option Nat) :
    Requested cluster change accepted ((admin.request action change accepted).run cluster) := by
  rw [run_request reached]
  split
  · exact .unasked _
  · by_cases refused : (cluster.answer change).1 ≠ 0 ∧ some (cluster.answer change).1 ≠ accepted
    · rw [if_pos refused]
      exact .refused refused
    · rw [if_neg refused]
      have taken := Decidable.not_and_iff_or_not.mp refused
      exact .granted (taken.imp Decidable.not_not.mp Decidable.not_not.mp)

theorem requested_create (reached : cluster.reachedBy admin.brokers) (topic : String)
    (partitions replication : Int32) :
    Requested cluster (.createTopic topic partitions replication) (some topicExists)
      ((admin.create topic partitions replication).run cluster) := by
  unfold create
  split
  · exact .unasked _
  · exact requested_request reached _ _ _

theorem requested_delete (reached : cluster.reachedBy admin.brokers) (topic : String) :
    Requested cluster (.deleteTopic topic) none ((admin.delete topic).run cluster) :=
  requested_request reached _ _ _

theorem run_list (reached : cluster.reachedBy admin.brokers) :
    admin.list.run cluster =
      (.ok (cluster.topics.keys.filter fun name => !"__".isPrefixOf name), cluster) := by
  unfold list
  simp only [Action.run_bind, Action.run_get, Action.run_pure, reached, Bool.not_true,
    Bool.false_eq_true, if_false]

theorem run_exists? (reached : cluster.reachedBy admin.brokers) (topic : String) :
    (admin.exists? topic).run cluster =
      (.ok ((cluster.topics.keys.filter fun name => !"__".isPrefixOf name).contains topic),
        cluster) := by
  unfold exists?
  simp only [Action.run_bind, run_list reached, Action.run_pure]

end TopicAdmin

end Conduit
