import Conduit.Worker.Client

/-!
# Errands

Whatever a client of workers is asked to do is an errand: one operation, offered to the workers in
turn, and a reading of what it brings. An errand always comes to something, it moves the starting
point of the next one by one worker whatever it comes to, and it sees nothing of the workers but the
one reply that decides it.
-/
namespace Conduit

open Text.Utf8
open Json.Writable (write)

namespace Talk

variable {σ : Type}

/-- What an action comes to, and the state it leaves. -/
def after {α : Type} (action : Talk σ α) (state : ClientState σ) : Except Fault α × ClientState σ :=
  action.run.run state

theorem bind_after {α β : Type} (action : Talk σ α) (next : α → Talk σ β)
    (reading : α → Except Fault β)
    (reads : ∀ value state, after (next value) state = (reading value, state))
    (state : ClientState σ) :
    after (action >>= next) state =
      ((after action state).1.bind reading, (after action state).2) := by
  -- A fault passes by what comes next, and so does not change the state again.
  have bound : after (action >>= next) state = match after action state with
      | (.ok value, later) => after (next value) later
      | (.error fault, later) => (.error fault, later) := by
    simp only [after, ExceptT.run_bind, StateT.run_bind]
    generalize action.run.run state = answer
    change Except Fault α × ClientState σ at answer
    rcases answer with ⟨_ | value, later⟩ <;> rfl
  rw [bound]
  rcases after action state with ⟨_ | value, later⟩
  · rfl
  · exact reads value later

end Talk

/-- What a client can be asked to do. -/
inductive Errand where
  | create (name : String) (settings : Settings)
  | delete (name : String)
  | exists? (name : String)
  | active
  | pause (name : String)
  | resume (name : String)
  | status (name : String)
  | config (name : String)
  | plugins

namespace Errand

/-- What an errand gives if all goes well. -/
def Result : Errand → Type
  | create _ _ => ConnectorInfo
  | delete _ | pause _ | resume _ => Unit
  | exists? _ => Bool
  | active => List String
  | status _ => ConnectorStatus
  | config _ => Settings
  | plugins => List Plugin

/-- The one request of an errand. -/
def operation : Errand → Operation
  | create name settings => ⟨.post, ["connectors"],
      some (.object [Json.member "name" (write name), Json.member "config" (write settings)])⟩
  | delete name => ⟨.delete, ["connectors", name], none⟩
  | exists? _ | active => ⟨.get, ["connectors"], none⟩
  | pause name => ⟨.put, ["connectors", name, "pause"], none⟩
  | resume name => ⟨.put, ["connectors", name, "resume"], none⟩
  | status name => ⟨.get, ["connectors", name, "status"], none⟩
  | config name => ⟨.get, ["connectors", name, "config"], none⟩
  | plugins => ⟨.get, ["connector-plugins"], none⟩

/-- What the body of a success says. -/
def reading (body : Option Bytes) : (errand : Errand) → Except Fault errand.Result
  | create _ _ => WorkerClient.decoded Payload.info body
  | delete _ | pause _ | resume _ => .ok ()
  | exists? name => (WorkerClient.decoded Payload.names body).map fun names => names.contains name
  | active => WorkerClient.decoded Payload.names body
  | status _ => WorkerClient.decoded Payload.status body
  | config _ => WorkerClient.decoded Payload.settings body
  | plugins => WorkerClient.decoded Payload.plugins body

variable {σ : Type} (client : WorkerClient) (network : Network σ)

/-- The client does the errand. -/
def talk : (errand : Errand) → Talk σ errand.Result
  | create name settings => client.create network name settings
  | delete name => client.delete network name
  | exists? name => client.exists? network name
  | active => client.active network
  | pause name => client.pause network name
  | resume name => client.resume network name
  | status name => client.status network name
  | config name => client.config network name
  | plugins => client.plugins network

/-- What an errand comes to once a reply decides it. -/
def outcome (errand : Errand) (reply : Reply) : Except Fault errand.Result :=
  (settle client.workers reply).bind fun body => errand.reading body

theorem run_after (operation : Operation) (state : ClientState σ) :
    Talk.after (client.run network operation) state =
      let answer :=
        offer network operation (rotation state.begun.toNat client.workers) state.network
      (settle client.workers answer.1, ⟨state.begun + 1, answer.2⟩) := rfl

/-- An errand is its operation, offered in turn, and the outcome of the reply to it. -/
theorem talk_after (errand : Errand) (state : ClientState σ) :
    Talk.after (talk client network errand) state =
      let answer :=
        offer network errand.operation (rotation state.begun.toNat client.workers) state.network
      (errand.outcome client answer.1, ⟨state.begun + 1, answer.2⟩) := by
  suffices whole : Talk.after (talk client network errand) state =
      ((Talk.after (client.run network errand.operation) state).1.bind fun body =>
        errand.reading body, (Talk.after (client.run network errand.operation) state).2) by
    rw [whole, run_after]
    rfl
  -- All errands read the body of the one reply; only a look for a name reads what another errand
  -- gave.
  cases errand with
  | create name settings => exact Talk.bind_after _ _ _ (fun _ _ => rfl) state
  | delete name => exact Talk.bind_after _ _ _ (fun _ _ => rfl) state
  | exists? name =>
    have asked : Talk.after (client.exists? network name) state =
        ((Talk.after (client.active network) state).1.bind fun names => .ok (names.contains name),
          (Talk.after (client.active network) state).2) :=
            Talk.bind_after _ _ _ (fun _ _ => rfl) state
    have listed : Talk.after (client.active network) state =
        ((Talk.after (client.run network (exists? name).operation) state).1.bind fun body =>
          WorkerClient.decoded Payload.names body,
          (Talk.after (client.run network (exists? name).operation) state).2) :=
      Talk.bind_after _ _ _ (fun _ _ => rfl) state
    have found : Talk.after (client.exists? network name) state =
        ((Talk.after (client.run network (exists? name).operation) state).1.bind fun body =>
          (WorkerClient.decoded Payload.names body).map fun names => names.contains name,
          (Talk.after (client.run network (exists? name).operation) state).2) := by
      rw [asked, listed]
      cases (Talk.after (client.run network (exists? name).operation) state).1 with
      | error fault => rfl
      | ok body =>
        simp only [Except.bind]
        cases WorkerClient.decoded Payload.names body <;> rfl
    exact found
  | active => exact Talk.bind_after _ _ _ (fun _ _ => rfl) state
  | pause name => exact Talk.bind_after _ _ _ (fun _ _ => rfl) state
  | resume name => exact Talk.bind_after _ _ _ (fun _ _ => rfl) state
  | status name => exact Talk.bind_after _ _ _ (fun _ _ => rfl) state
  | config name => exact Talk.bind_after _ _ _ (fun _ _ => rfl) state
  | plugins => exact Talk.bind_after _ _ _ (fun _ _ => rfl) state

/-- A definition that cannot be built is not sent, and leaves no trace. -/
theorem submit_after_of_error {draft : ConnectorDraft} {chance : String} {fault : Fault}
    (refused : draft.build chance = .error fault) (state : ClientState σ) :
    Talk.after (client.submit network draft chance) state = (.error fault, state) := by
  rw [WorkerClient.submit, refused]
  rfl

/-- One that can be built is submitted by creating it. -/
theorem submit_after_of_ok {draft : ConnectorDraft} {chance name : String} {settings : Settings}
    (built : draft.build chance = .ok (name, settings)) (state : ClientState σ) :
    Talk.after (client.submit network draft chance) state =
      Talk.after (talk client network (create name settings)) state := by
  rw [WorkerClient.submit, built]
  rfl

end Errand

end Conduit
