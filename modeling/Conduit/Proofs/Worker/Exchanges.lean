import Conduit.Proofs.Worker.Errand

/-!
# The exchanges of an errand

What a client does for an errand is a chain of exchanges, each of which starts from the state in
which the one before it left the network. All but the last one were refused. The chain goes along
the order in which the errand is offered, and a client that gets the same replies from another
network makes the same chain with it.
-/
namespace Conduit

/-- A network that gives one reply after the other, whatever it is asked. -/
def Network.replay : Network (List Reply) where
  exchange _
    | reply :: rest => (reply, rest)
    | [] => (.silent, [])

namespace Errand

/-- The request of an errand, addressed to a worker. -/
def requestTo (errand : Errand) (worker : Worker) : Request :=
  ⟨worker.locate errand.operation.names, errand.operation.method, errand.operation.body⟩

section

variable {σ : Type} (network : Network σ) (errand : Errand)

/-- Exchanges of an errand with one worker after the other, between two states of the network. -/
inductive Exchanges : σ → List (Worker × Reply) → σ → Prop
  | none {state} : Exchanges state [] state
  | last {state later worker reply}
      (answer : network.exchange (errand.requestTo worker) state = (reply, later)) :
      Exchanges state [(worker, reply)] later
  /-- Only a refusal leads on to a further exchange. -/
  | refused {state next later worker tried}
      (answer : network.exchange (errand.requestTo worker) state = (.refused, next))
      (rest : Exchanges next tried later) : Exchanges state ((worker, .refused) :: tried) later

end

variable {σ : Type} {network : Network σ} {errand : Errand} {state later : σ}
  {tried : List (Worker × Reply)}

/-- Whatever is left of the order is tried after refusals only. -/
theorem Exchanges.offer_of_refused (exchanges : errand.Exchanges network state tried later)
    (refused : ∀ attempt ∈ tried.getLast?, attempt.2 = .refused) (left : List Worker) :
    offer network errand.operation (tried.map Prod.fst ++ left) state =
      offer network errand.operation left later := by
  induction exchanges with
  | none => rfl
  | @last _ _ worker reply answer =>
    obtain rfl : reply = .refused := refused _ rfl
    rw [List.map_cons, List.map_nil, List.singleton_append, offer, ← requestTo, answer]
  | @refused _ _ _ worker tried answer _ ih =>
    rw [List.map_cons, List.cons_append, offer, ← requestTo, answer]
    refine ih fun attempt final => refused attempt ?_
    rw [List.getLast?_cons, Option.mem_def.mp final]
    rfl

/-- A reply that is no refusal ends the chain, and the operation with it. -/
theorem Exchanges.offer_of_answer (exchanges : errand.Exchanges network state tried later)
    {worker : Worker} {reply : Reply} (final : tried.getLast? = some (worker, reply))
    (answer : reply ≠ .refused) (left : List Worker) :
    offer network errand.operation (tried.map Prod.fst ++ left) state = (reply, later) := by
  induction exchanges with
  | none => cases final
  | last exchange =>
    cases final
    rw [List.map_cons, List.map_nil, List.singleton_append, offer, ← requestTo, exchange]
    cases reply with
    | refused => exact absurd rfl answer
    | silent | closed | answered _ _ => rfl
  | @refused _ _ _ other tried exchange rest ih =>
    rw [List.map_cons, List.cons_append, offer, ← requestTo, exchange]
    refine ih ?_
    -- The reply is not the refusal that is ahead of it, so there are further exchanges.
    cases tried with
    | nil =>
      cases final
      exact absurd rfl answer
    | cons attempt others => exact final

/-- A network that replies the same leads through the same exchanges. -/
theorem exchanges_replay (errand : Errand)
    (refused : ∀ attempt ∈ tried.dropLast, attempt.2 = .refused) :
    errand.Exchanges .replay (tried.map Prod.snd) tried [] := by
  induction tried with
  | nil => exact .none
  | cons attempt rest ih =>
    obtain ⟨worker, reply⟩ := attempt
    cases rest with
    | nil => exact .last rfl
    | cons next rest =>
      rw [List.dropLast_cons_cons] at refused
      obtain ⟨passed, others⟩ := List.forall_mem_cons.mp refused
      obtain rfl : reply = .refused := passed
      exact .refused rfl (ih others)

end Errand

end Conduit
