import Conduit.Connect.Connector
import Conduit.Proofs.Broker.Writing
import Conduit.Proofs.Data.Latest

/-!
# The last good start

The copying sink and its task are machines that answer calls. A start that fails leaves the machine
as it was, so it might as well not have been called, and a start that succeeds does so whatever came
before. Hence the connector hands out the configuration of the latest start that succeeded, stopped
or not, and the task runs if and only if the latest of its good starts and stops is a start.
-/
namespace Conduit

/-! ### Calls and their answers -/

section

variable {σ γ α : Type} {answer : σ → γ → α × σ}

/-- The calls, each with what it was answered. -/
def logFrom (answer : σ → γ → α × σ) : σ → List γ → List (γ × α)
  | _, [] => []
  | state, call :: calls =>
    (call, (answer state call).1) :: logFrom answer (answer state call).2 calls

/-- Every answer is given in a state of which the log tells what every answer keeps. -/
theorem exists_of_logFrom {tells : σ → List (γ × α) → Prop}
    (keeps : ∀ {state past}, tells state past → ∀ call,
      tells (answer state call).2 (past ++ [(call, (answer state call).1)]))
    {state : σ} {past before after : List (γ × α)} {calls : List γ} {call : γ} {given : α}
    (told : tells state past)
    (logged : logFrom answer state calls = before ++ (call, given) :: after) :
    ∃ found, tells found (past ++ before) ∧ given = (answer found call).1 := by
  induction calls generalizing state past before with
  | nil => cases before <;> cases logged
  | cons first calls ih =>
    cases before with
    | nil =>
      cases logged
      exact ⟨state, by rwa [List.append_nil], rfl⟩
    | cons entry before =>
      obtain ⟨rfl, rest⟩ := List.cons.inj logged
      obtain ⟨found, holds, same⟩ := ih (keeps told first) rest
      exact ⟨found, by simpa using holds, same⟩

/-- A call that left its state as it was might as well not have been made. -/
theorem logFrom_without {state : σ} {before after : List (γ × α)} {calls : List γ} {call : γ}
    {given : α} (idle : ∀ state, (answer state call).1 = given → (answer state call).2 = state)
    (logged : logFrom answer state calls = before ++ (call, given) :: after) :
    ∃ earlier later, calls = earlier ++ call :: later ∧
      logFrom answer state (earlier ++ later) = before ++ after := by
  induction calls generalizing state before with
  | nil => cases before <;> cases logged
  | cons first calls ih =>
    cases before with
    | nil =>
      obtain ⟨entry, rest⟩ := List.cons.inj logged
      obtain ⟨rfl, same⟩ := Prod.mk.inj entry
      rw [idle state same] at rest
      exact ⟨[], calls, rfl, rest⟩
    | cons entry before =>
      obtain ⟨rfl, rest⟩ := List.cons.inj logged
      obtain ⟨earlier, later, rfl, without⟩ := ih rest
      refine ⟨first :: earlier, later, rfl, ?_⟩
      rw [List.cons_append, logFrom, without, List.cons_append]

end

/-- The first of the keys under which there is no option. -/
def TaskConfig.lacking (config : TaskConfig) (keys : List String) : Option String :=
  keys.find? fun key => (config.option? key).isNone

namespace CopySink

namespace Connector

inductive Call where
  | start (config : TaskConfig)
  | stop
  | taskConfigs (count : Nat)

inductive Answer where
  | done (result : Except Fault Unit)
  | configs (result : Except Fault (List TaskConfig))

def answer (connector : Connector) : Call → Answer × Connector
  | .start config => (.done (connector.start config).1, (connector.start config).2)
  | .stop => (.done connector.stop.1, connector.stop.2)
  | .taskConfigs count => (.configs (connector.taskConfigs count), connector)

/-- What a new connector answers. -/
def log (calls : List Call) : List (Call × Answer) := logFrom answer fresh calls

/-- The configuration with which the connector was started. -/
def started? : Call × Answer → Option TaskConfig
  | (.start config, .done (.ok ())) => some config
  | _ => none

theorem start_eq (connector : Connector) (config : TaskConfig) :
    connector.start config = match config.lacking [outputKey, brokerKey] with
      | some key => (.error (.connector (.missingOption key)), connector)
      | none => (.ok (), ⟨some config⟩) := by
  cases output : config.option? outputKey <;> cases broker : config.option? brokerKey <;>
    simp [start, TaskConfig.requireOption, TaskConfig.lacking, output, broker]

theorem config_answer (connector : Connector) (call : Call) :
    (connector.answer call).2.config =
      (started? (call, (connector.answer call).1)).or connector.config := by
  cases call with
  | start config =>
    rw [answer, start_eq]
    cases config.lacking [outputKey, brokerKey] <;> rfl
  | stop | taskConfigs => rfl

/-- The connector holds the configuration of the latest good start. -/
def Holds (connector : Connector) (past : List (Call × Answer)) : Prop :=
  connector.config = latest started? past

theorem Holds.answer {connector : Connector} {past : List (Call × Answer)}
    (holds : connector.Holds past) (call : Call) :
    (connector.answer call).2.Holds (past ++ [(call, (connector.answer call).1)]) := by
  rw [Holds, config_answer, holds, latest_concat]

theorem exists_of_log {calls : List Call} {before after : List (Call × Answer)} {call : Call}
    {given : Answer} (logged : log calls = before ++ (call, given) :: after) :
    ∃ connector : Connector, connector.Holds before ∧ given = (connector.answer call).1 :=
  @exists_of_logFrom _ _ _ answer Holds Holds.answer fresh [] before after calls call given
    rfl logged

end Connector

namespace Task

inductive Call where
  | start (config : TaskConfig)
  | put (records : List SinkRecord)
  | stop

/-- What the task answers to a call, which finds the cluster in some state. -/
def answer (task : Task) : Cluster × Call → Except Fault Unit × Task
  | (_, .start config) => task.start config
  | (cluster, .put records) => (do ((← task.put records).run cluster).1, task)
  | (_, .stop) => task.stop

/-- What a new task answers. -/
def log (calls : List (Cluster × Call)) : List ((Cluster × Call) × Except Fault Unit) :=
  logFrom answer fresh calls

/-- Whether a call set the task going or brought it to rest, if it did. -/
def running? : (Cluster × Call) × Except Fault Unit → Option Bool
  | ((_, .start _), .ok ()) => some true
  | ((_, .stop), _) => some false
  | _ => none

/-- Why the task cannot be started, if it cannot: an option is missing, or no producer can
connect. -/
def obstacle (config : TaskConfig) : Option Fault :=
  match config.lacking [brokerKey, outputKey] with
  | some key => some (.connector (.missingOption key))
  | none =>
    let broker := (config.option? brokerKey).getD ""
    if Text.blank broker then some (.config .connection)
    else if hasZero broker then some (.producer .zero)
    else none

theorem start_cases (task : Task) (config : TaskConfig) :
    (∃ fault, obstacle config = some fault ∧ task.start config = (.error fault, task)) ∨
      obstacle config = none ∧
      ∃ producer output, task.start config = (.ok (), ⟨some producer, some output⟩) := by
  cases broker : config.option? brokerKey with
  | none => simp [start, obstacle, TaskConfig.requireOption, TaskConfig.lacking, broker]
  | some servers =>
    cases output : config.option? outputKey with
    | none => simp [start, obstacle, TaskConfig.requireOption, TaskConfig.lacking, broker, output]
    | some topic =>
      -- With both options there it is up to the producer.
      have clear : config.lacking [brokerKey, outputKey] = none := by
        simp [TaskConfig.lacking, broker, output]
      simp only [start, obstacle, TaskConfig.requireOption, clear, broker, output, producerFor,
        ProducerDraft.build_writer, Option.getD_some]
      by_cases blank : Text.blank servers = true
      · simp [blank]
      by_cases zero : hasZero servers = true
      · simp [blank, zero]
      · simp [blank, zero]

/-- The task has a producer if and only if it was set going last, and then it has an output as
well. -/
def Holds (task : Task) (past : List ((Cluster × Call) × Except Fault Unit)) : Prop :=
  (task.producer.isSome ↔ latest running? past = some true) ∧
  (task.producer.isSome → task.output.isSome)

theorem Holds.answer {task : Task} {past : List ((Cluster × Call) × Except Fault Unit)}
    (holds : task.Holds past) (call : Cluster × Call) :
    (task.answer call).2.Holds (past ++ [(call, (task.answer call).1)]) := by
  obtain ⟨cluster, call⟩ := call
  rw [Holds, latest_concat]
  cases call with
  | start config =>
    rcases task.start_cases config with ⟨fault, -, started⟩ | ⟨-, producer, output, started⟩
    · rw [Task.answer, started]
      exact holds
    · rw [Task.answer, started]
      exact ⟨⟨fun _ => rfl, fun _ => rfl⟩, fun _ => rfl⟩
  | put records => exact holds
  | stop => exact ⟨⟨nofun, nofun⟩, nofun⟩

theorem exists_of_log {calls : List (Cluster × Call)}
    {before after : List ((Cluster × Call) × Except Fault Unit)} {call : Cluster × Call}
    {given : Except Fault Unit} (logged : log calls = before ++ (call, given) :: after) :
    ∃ task : Task, task.Holds before ∧ given = (task.answer call).1 :=
  @exists_of_logFrom _ _ _ answer Holds Holds.answer fresh [] before after calls call given
    ⟨⟨nofun, nofun⟩, nofun⟩ logged

theorem Holds.put_nil {task : Task} {past : List ((Cluster × Call) × Except Fault Unit)}
    (holds : task.Holds past) (cluster : Cluster) : (task.answer (cluster, .put [])).1 =
      if latest running? past = some true then .ok () else .error (.connector .taskNotStarted) := by
  obtain ⟨producer, output⟩ := task
  obtain ⟨runs, ready⟩ := holds
  cases producer with
  | none =>
    rw [if_neg fun going => Bool.false_ne_true (runs.mpr going)]
    rfl
  | some producer =>
    obtain ⟨topic, rfl⟩ := Option.isSome_iff_exists.mp (ready rfl)
    rw [if_pos (runs.mp rfl)]
    rfl

end Task

/-- What the connector hands out is so many copies of the configuration of its latest start that
succeeded, and an error before there is one. The task takes records, even none, if and only if a
start has succeeded since it was stopped last. A start of either succeeds or fails for its
configuration alone, whatever came before, and without a start that failed all other calls would
have been answered the same. -/
theorem last_good_start :
    (∀ calls before count given after,
      Connector.log calls = before ++ (.taskConfigs count, given) :: after →
      given = .configs (match latest Connector.started? before with
        | some config => .ok (List.replicate count config)
        | none => .error (.connector .connectorNotStarted))) ∧
    (∀ calls before config given after,
      Connector.log calls = before ++ (.start config, given) :: after →
      match config.lacking [outputKey, brokerKey] with
      | none => given = .done (.ok ())
      | some key => given = .done (.error (.connector (.missingOption key))) ∧
        ∃ earlier later, calls = earlier ++ .start config :: later ∧
          Connector.log (earlier ++ later) = before ++ after) ∧
    (∀ calls before cluster given after,
      Task.log calls = before ++ ((cluster, .put []), given) :: after →
      given =
        if latest Task.running? before = some true then .ok ()
        else .error (.connector .taskNotStarted)) ∧
    (∀ calls before cluster config given after,
      Task.log calls = before ++ ((cluster, .start config), given) :: after →
      match Task.obstacle config with
      | none => given = .ok ()
      | some fault => given = .error fault ∧
        ∃ earlier later, calls = earlier ++ (cluster, .start config) :: later ∧
          Task.log (earlier ++ later) = before ++ after) := by
  refine ⟨fun calls before count given after logged => ?_,
    fun calls before config given after logged => ?_,
    fun calls before cluster given after logged => ?_,
    fun calls before cluster config given after logged => ?_⟩
  · obtain ⟨connector, holds, rfl⟩ := Connector.exists_of_log logged
    have kept : connector.config = latest Connector.started? before := holds
    exact kept ▸ rfl
  · obtain ⟨connector, -, same⟩ := Connector.exists_of_log logged
    rw [Connector.answer, Connector.start_eq] at same
    cases lacks : config.lacking [outputKey, brokerKey] with
    | none =>
      rw [lacks] at same
      exact same
    | some key =>
      rw [lacks] at same
      have idle (connector : Connector) : (connector.answer (.start config)).2 = connector := by
        rw [Connector.answer, Connector.start_eq, lacks]
      exact ⟨same, logFrom_without (fun connector _ => idle connector) logged⟩
  · obtain ⟨task, holds, rfl⟩ := Task.exists_of_log logged
    exact holds.put_nil cluster
  · obtain ⟨task, -, same⟩ := Task.exists_of_log logged
    rw [Task.answer] at same
    rcases task.start_cases config with
      ⟨fault, hinders, started⟩ | ⟨clear, producer, output, started⟩
    · rw [hinders]
      rw [started] at same
      have idle (task : Task) : (task.answer (cluster, .start config)).2 = task := by
        rcases task.start_cases config with ⟨fault, -, unchanged⟩ | ⟨clear, -⟩
        · rw [Task.answer, unchanged]
        · rw [hinders] at clear
          cases clear
      exact ⟨same, logFrom_without (fun task _ => idle task) logged⟩
    · rw [clear]
      rw [started] at same
      exact same

/-- Orders are copied by way of a broker. -/
def copying (broker : String) : TaskConfig :=
  ⟨"copy", ["orders"], [], .ofList [(outputKey, "copies"), (brokerKey, broker)]⟩

/-- Orders are copied, but it is not said where to. -/
def homeless : TaskConfig := ⟨"copy", ["orders"], [], .ofList [(outputKey, "copies")]⟩

theorem copying_in_force :
    let cluster := Cluster.bare "b1:9092" 0
    (∃ given, Connector.log [.start (copying "b1:9092"), .start homeless, .stop, .taskConfigs 2] =
      [(.start (copying "b1:9092"), .done (.ok ())),
        (.start homeless, .done (.error (.connector (.missingOption brokerKey)))),
        (.stop, .done (.ok ())),
        (.taskConfigs 2, given)] ∧ given = .configs (.ok [copying "b1:9092", copying "b1:9092"])) ∧
    ∃ first second given, Task.log [(cluster, .start (copying "b1:9092")),
      (cluster, .start (copying " ")),
      (cluster, .put [])] = [((cluster, .start (copying "b1:9092")), first),
        ((cluster, .start (copying " ")), second), ((cluster, .put []), given)] ∧
      first = .ok () ∧ second = .error (.config .connection) ∧ given = .ok () := by
  intro cluster
  obtain ⟨handed, -, taken, started⟩ := last_good_start
  constructor
  · exact ⟨_, rfl, handed [.start (copying "b1:9092"), .start homeless, .stop, .taskConfigs 2]
      [(.start (copying "b1:9092"), .done (.ok ())),
        (.start homeless, .done (.error (.connector (.missingOption brokerKey)))),
        (.stop, .done (.ok ()))] 2 _ [] rfl⟩
  · have good : Task.obstacle (copying "b1:9092") = none := by decide +kernel
    have blank : Task.obstacle (copying " ") = some (.config .connection) := by decide +kernel
    let calls : List (Cluster × Task.Call) :=
      [(cluster, .start (copying "b1:9092")), (cluster, .start (copying " ")), (cluster, .put [])]
    -- The answers stand for themselves until the theorem tells what they are.
    have first := started calls [] cluster (copying "b1:9092") _ [_, _] rfl
    have second := started calls [_] cluster (copying " ") _ [_] rfl
    have given := taken calls [_, _] cluster _ [] rfl
    rw [good] at first
    rw [blank] at second
    dsimp only at first second given
    rw [first, second.1] at given
    exact ⟨_, _, _, rfl, first, second.1, given⟩

end CopySink

end Conduit
