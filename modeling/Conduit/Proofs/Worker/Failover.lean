import Conduit.Proofs.Worker.Exchanges
import Mathlib.Data.List.Rotate

/-!
# Failover

Many errands may be on their way at once. One takes its place in the rotation when it begins, and
then makes its attempts one by one, in any order with the attempts of the others; what a worker
replies may depend on all that went before. Still each errand goes around the workers from its own
starting point, and the first one that does not refuse decides it.
-/
namespace Conduit

theorem rotation_eq_rotate {α : Type} (start : Nat) (all : List α) :
    rotation start all = all.rotate start :=
  List.rotate_eq_drop_append_take_mod.symm

namespace Errand

theorem reading_ne_unreachable (body : Option Text.Utf8.Bytes) (errand : Errand)
    (names : List String) :
    errand.reading body ≠ .error (.unreachable names) := by
  -- A body that cannot be decoded is a fault of its own kind.
  have decoded {α : Type} (decode : Json.Decoder α) :
      WorkerClient.decoded decode body ≠ .error (.unreachable names) := by
    unfold WorkerClient.decoded
    split <;> simp
  cases errand with
  | delete name | pause name | resume name => exact nofun
  | exists? name =>
    have listed := decoded Payload.names
    simp only [reading]
    cases found : WorkerClient.decoded Payload.names body with
    | ok names => exact nofun
    | error fault =>
      rw [found] at listed
      intro same
      cases same
      exact listed rfl
  | _ => exact decoded _

/-- Workers are unreachable only if the last one refused. -/
theorem outcome_eq_unreachable (client : WorkerClient) (errand : Errand) (reply : Reply) :
    errand.outcome client reply = .error (.unreachable client.bases) ↔ reply = .refused := by
  cases reply with
  | refused => exact ⟨fun _ => rfl, fun _ => rfl⟩
  | silent => exact ⟨nofun, nofun⟩
  | closed => exact ⟨nofun, nofun⟩
  | answered status sent =>
    -- An answer of failure keeps its status, one of success is read: neither says unreachable.
    refine ⟨fun same => ?_, nofun⟩
    unfold outcome settle at same
    dsimp only at same
    split at same
    · exact absurd same nofun
    · split at same
      · exact absurd same (reading_ne_unreachable _ _ _)
      · exact absurd same nofun

end Errand

/-- What is settled by a reply when some workers are left. -/
def conclude : Reply → List Worker → Option Reply
  | .refused, [] => some .refused
  | .refused, _ :: _ => none
  | reply, _ => some reply

/-- An errand on its way: its attempts so far, the workers that are left, and the reply that decides
it. -/
structure Flight where
  errand : Errand
  tried : List (Worker × Reply)
  left : List Worker
  decided : Option Reply

namespace Flight

def start (errand : Errand) (order : List Worker) : Flight :=
  ⟨errand, [], order, conclude .refused order⟩

/-- The flight after a further attempt. -/
def after (flight : Flight) (worker : Worker) (reply : Reply) (rest : List Worker) : Flight :=
  ⟨flight.errand, flight.tried ++ [(worker, reply)], rest, conclude reply rest⟩

/-- What the errand came to, if it is decided. -/
def result? (client : WorkerClient) (flight : Flight) :
    Option (Except Fault flight.errand.Result) :=
  flight.decided.map fun reply => flight.errand.outcome client reply

theorem result?_eq_none {client : WorkerClient} {flight : Flight} :
    flight.result? client = none ↔ flight.decided = none := by
  simp [result?]

theorem result?_eq_unreachable {client : WorkerClient} {flight : Flight} :
    flight.result? client = some (.error (.unreachable client.bases)) ↔
      flight.decided = some .refused := by
  cases decided : flight.decided with
  | none => simp [result?, decided]
  | some reply =>
    rw [result?, decided, Option.map_some, Option.some.injEq, Option.some.injEq]
    exact Errand.outcome_eq_unreachable client flight.errand reply

end Flight

/-- A client at work: its state, and its errands in the order in which they began. -/
structure Traffic (σ : Type) where
  client : ClientState σ
  flights : List Flight

namespace Traffic

variable {σ : Type} (client : WorkerClient) (network : Network σ)

/-- One step of a client at work. -/
inductive Next : Traffic σ → Traffic σ → Prop
  | begin {begun state flights} (errand : Errand) :
      Next ⟨⟨begun, state⟩, flights⟩
        ⟨⟨begun + 1, state⟩, flights ++ [.start errand (rotation begun.toNat client.workers)]⟩
  /-- An errand that is not decided tries its next worker. -/
  | attempt {begun state flights k flight worker rest reply later}
      (found : flights[k]? = some flight) (undecided : flight.decided = none)
      (next : flight.left = worker :: rest)
      (answer : network.exchange (flight.errand.requestTo worker) state = (reply, later)) :
      Next ⟨⟨begun, state⟩, flights⟩
        ⟨⟨begun, later⟩, flights.set k (flight.after worker reply rest)⟩
  /-- The workers change by themselves. -/
  | elapse {begun state flights} (later : σ) :
      Next ⟨⟨begun, state⟩, flights⟩ ⟨⟨begun, later⟩, flights⟩

/-- How a client can stand, once it was made. -/
inductive Reached : Traffic σ → Prop
  | new (state : σ) : Reached ⟨⟨0, state⟩, []⟩
  | next {traffic later} (reached : Reached traffic) (step : Next client network traffic later) :
      Reached later

end Traffic

/-- How far a flight is. -/
inductive Flight.Stage (flight : Flight) : Prop
  | underway (undecided : flight.decided = none) (more : flight.left ≠ [])
      (refused : ∀ attempt ∈ flight.tried, attempt.2 = .refused)
  | exhausted (decided : flight.decided = some .refused) (all : flight.left = [])
      (refused : ∀ attempt ∈ flight.tried, attempt.2 = .refused)
  | answered {before worker reply} (decided : flight.decided = some reply)
      (answer : reply ≠ .refused) (last : flight.tried = before ++ [(worker, reply)])
      (refused : ∀ attempt ∈ before, attempt.2 = .refused)

/-- A flight goes along the order in which it meets the workers. -/
structure Flight.Follows (flight : Flight) (order : List Worker) : Prop where
  along : flight.tried.map Prod.fst ++ flight.left = order
  stage : flight.Stage

namespace Flight

theorem stage_of_conclude {errand : Errand} {tried : List (Worker × Reply)} {left : List Worker}
    (refused : ∀ attempt ∈ tried, attempt.2 = .refused) :
    (⟨errand, tried, left, conclude .refused left⟩ : Flight).Stage := by
  cases left with
  | nil => exact .exhausted rfl rfl refused
  | cons worker rest => exact .underway rfl (List.cons_ne_nil _ _) refused

theorem follows_start (errand : Errand) (order : List Worker) :
    (start errand order).Follows order :=
  ⟨rfl, stage_of_conclude (by simp)⟩

/-- An attempt keeps a flight on its way; only a refusal leaves it undecided. -/
theorem Follows.after {flight : Flight} {order rest : List Worker} {worker : Worker}
    (follows : flight.Follows order) (undecided : flight.decided = none)
    (next : flight.left = worker :: rest) (reply : Reply) :
    (flight.after worker reply rest).Follows order := by
  -- As long as nothing is decided all attempts were refused.
  have refused : ∀ attempt ∈ flight.tried, attempt.2 = .refused := by
    cases follows.stage with
    | underway _ _ refused => exact refused
    | exhausted _ _ refused => exact refused
    | answered decided _ _ _ => simp [undecided] at decided
  constructor
  · rw [← follows.along, next]
    simp [Flight.after]
  · cases reply with
    -- A refusal passes on to the next worker, if there is one; any other reply decides.
    | refused =>
      refine stage_of_conclude fun attempt member => ?_
      rcases List.mem_append.mp member with before | last
      · exact refused attempt before
      · rw [List.mem_singleton.mp last]
    | silent | closed | answered _ _ => exact .answered rfl nofun rfl refused

theorem Follows.along_length {flight : Flight} {k : Nat} {workers : List Worker}
    (follows : flight.Follows (rotation k workers)) :
    flight.tried.length + flight.left.length = workers.length := by
  have whole := congrArg List.length follows.along
  rw [rotation_eq_rotate, List.length_rotate, List.length_append, List.length_map] at whole
  exact whole

theorem Follows.tried_along {flight : Flight} {order : List Worker} {i : Nat} {worker : Worker}
    {reply : Reply} (follows : flight.Follows order)
    (found : flight.tried[i]? = some (worker, reply)) :
    i < flight.tried.length ∧ order[i]? = some worker := by
  have inside := (List.getElem?_eq_some_iff.mp found).1
  refine ⟨inside, ?_⟩
  rw [← follows.along, List.getElem?_append_left (by simpa using inside), List.getElem?_map, found]
  rfl

namespace Stage

variable {flight : Flight}

/-- An attempt that is not refused is the last one, and decides. -/
theorem answer_last (stage : flight.Stage) {i : Nat} {worker : Worker} {reply : Reply}
    (found : flight.tried[i]? = some (worker, reply)) (answer : reply ≠ .refused) :
    i + 1 = flight.tried.length ∧ flight.decided = some reply := by
  have member := List.mem_of_getElem? found
  cases stage with
  | underway _ _ refused => exact absurd (refused _ member) answer
  | exhausted _ _ refused => exact absurd (refused _ member) answer
  | @answered before other last decided _ tried refused =>
    have inside := (List.getElem?_eq_some_iff.mp found).1
    rw [tried, List.length_append, List.length_singleton] at inside
    -- Those before the last one were refused, so this one is it.
    rcases Nat.lt_or_ge i before.length with earlier | here
    · rw [tried, List.getElem?_append_left earlier] at found
      exact absurd (refused _ (List.mem_of_getElem? found)) answer
    · have place : i = before.length := by omega
      rw [tried, place, List.getElem?_concat_length] at found
      cases found
      exact ⟨by simp [tried, place], decided⟩

theorem decided_refused_iff (stage : flight.Stage) :
    flight.decided = some .refused ↔
      flight.left = [] ∧ ∀ attempt ∈ flight.tried, attempt.2 = .refused := by
  cases stage with
  | underway undecided more refused => simp [undecided, more]
  | exhausted decided all refused => exact ⟨fun _ => ⟨all, refused⟩, fun _ => decided⟩
  | @answered before worker reply decided answer tried _ =>
    constructor
    · intro same
      rw [decided, Option.some.injEq] at same
      exact absurd same answer
    · rintro ⟨-, all⟩
      exact absurd (all (worker, reply) (by simp [tried])) answer

theorem decided_none_iff (stage : flight.Stage) :
    flight.decided = none ↔ flight.left ≠ [] ∧ ∀ attempt ∈ flight.tried, attempt.2 = .refused := by
  cases stage with
  | underway undecided more refused => exact ⟨fun _ => ⟨more, refused⟩, fun _ => undecided⟩
  -- With no worker left a refusal has decided.
  | exhausted decided all refused => simp [decided, all]
  | @answered before worker reply decided answer tried _ =>
    constructor
    · intro undecided
      simp [undecided] at decided
    · rintro ⟨-, all⟩
      exact absurd (all (worker, reply) (by simp [tried])) answer

end Stage

end Flight

/-- What a client owes to the errand that was the k-th to begin, counting from zero. -/
structure Flight.Fair (client : WorkerClient) (k : Nat) (flight : Flight) : Prop where
  /-- Attempts go around the workers from the starting point, and each worker gets one at most. -/
  cyclic : ∀ i worker reply, flight.tried[i]? = some (worker, reply) →
    i < client.workers.length ∧ client.workers[(k + i) % client.workers.length]? = some worker
  /-- No attempt follows one that was not refused. -/
  final : ∀ i worker reply, flight.tried[i]? = some (worker, reply) → reply ≠ .refused →
    i + 1 = flight.tried.length
  /-- The worker that does not refuse decides the result alone. -/
  decides : ∀ worker reply, (worker, reply) ∈ flight.tried → reply ≠ .refused →
    flight.result? client = some (flight.errand.outcome client reply)
  /-- No worker is available if and only if all refuse. -/
  unreachable : flight.result? client = some (.error (.unreachable client.bases)) ↔
    flight.tried.length = client.workers.length ∧ ∀ attempt ∈ flight.tried, attempt.2 = .refused
  /-- There is no result if and only if all so far refuse and there are more workers to try. -/
  undecided : flight.result? client = none ↔
    flight.tried.length < client.workers.length ∧ ∀ attempt ∈ flight.tried, attempt.2 = .refused

theorem Flight.Follows.fair {flight : Flight} {client : WorkerClient} {k : Nat}
    (follows : flight.Follows (rotation k client.workers)) : flight.Fair client k := by
  have length := follows.along_length
  constructor
  case cyclic =>
    intro i worker reply found
    obtain ⟨inside, here⟩ := follows.tried_along found
    have bound : i < client.workers.length := by omega
    rw [rotation_eq_rotate, List.getElem?_rotate bound, Nat.add_comm] at here
    exact ⟨bound, here⟩
  case final =>
    intro i worker reply found answer
    exact (follows.stage.answer_last found answer).1
  case decides =>
    intro worker reply member answer
    obtain ⟨i, found⟩ := List.getElem?_of_mem member
    rw [result?, (follows.stage.answer_last found answer).2, Option.map_some]
  -- What is left over of the order tells how many attempts there were.
  case unreachable =>
    rw [result?_eq_unreachable, follows.stage.decided_refused_iff, ← List.length_eq_zero_iff]
    refine and_congr_left fun _ => ?_
    omega
  case undecided =>
    rw [result?_eq_none, follows.stage.decided_none_iff, ← List.length_pos_iff]
    refine and_congr_left fun _ => ?_
    omega

/-- An errand whose attempts stand between those of others is what the client does when it does
nothing else, with every network that gives it the same replies. -/
structure Flight.AsAlone (client : WorkerClient) (k : Nat) (flight : Flight) : Prop where
  /-- There is such a network. -/
  replayed : flight.errand.Exchanges .replay (flight.tried.map Prod.snd) flight.tried []
  /-- The client comes to the same result after the same exchanges. -/
  decided : ∀ (σ : Type) (network : Network σ) (start last : σ),
    flight.errand.Exchanges network start flight.tried last →
    ∀ result, flight.result? client = some result →
      Talk.after (Errand.talk client network flight.errand) ⟨UInt64.ofNat k, start⟩ =
        (result, ⟨UInt64.ofNat k + 1, last⟩)
  /-- As long as there is no result it is on the way, with the rest of the workers to try. -/
  undecided : ∀ (σ : Type) (network : Network σ) (start last : σ),
    flight.errand.Exchanges network start flight.tried last → flight.result? client = none →
      offer network flight.errand.operation (rotation k client.workers) start =
        offer network flight.errand.operation flight.left last

namespace Flight

/-- All attempts but the last one were refused. -/
theorem Stage.refused {flight : Flight} (stage : flight.Stage) :
    ∀ attempt ∈ flight.tried.dropLast, attempt.2 = .refused := by
  cases stage with
  | underway _ _ refused =>
    exact fun attempt member => refused attempt (List.mem_of_mem_dropLast member)
  | exhausted _ _ refused =>
    exact fun attempt member => refused attempt (List.mem_of_mem_dropLast member)
  | answered _ _ last refused =>
    rw [last, List.dropLast_concat]
    exact refused

variable {σ : Type} {network : Network σ} {start last : σ} {flight : Flight} {order : List Worker}

theorem Follows.offer_of_decided (follows : flight.Follows order) {reply : Reply}
    (decided : flight.decided = some reply)
    (exchanges : flight.errand.Exchanges network start flight.tried last) :
    offer network flight.errand.operation order start = (reply, last) := by
  rw [← follows.along]
  cases follows.stage with
  | underway undecided _ _ => simp [undecided] at decided
  | exhausted refusal all refused =>
    rw [exchanges.offer_of_refused fun attempt final =>
      refused attempt (List.mem_of_getLast? final), all]
    rw [refusal] at decided
    cases decided
    rfl
  | @answered before worker other settled answer tried _ =>
    rw [settled] at decided
    cases decided
    exact exchanges.offer_of_answer (by rw [tried, List.getLast?_concat]) answer flight.left

theorem Follows.offer_of_undecided (follows : flight.Follows order)
    (undecided : flight.decided = none)
    (exchanges : flight.errand.Exchanges network start flight.tried last) :
    offer network flight.errand.operation order start =
      offer network flight.errand.operation flight.left last := by
  have refused := (follows.stage.decided_none_iff.mp undecided).2
  rw [← follows.along]
  exact exchanges.offer_of_refused (fun attempt final =>
    refused attempt (List.mem_of_getLast? final)) _

theorem Follows.asAlone {client : WorkerClient} {k : Nat}
    (follows : flight.Follows (rotation k client.workers)) (few : k < UInt64.size) :
    flight.AsAlone client k := by
  constructor
  case replayed => exact Errand.exchanges_replay flight.errand follows.stage.refused
  case decided =>
    intro σ network start last exchanges result came
    obtain ⟨reply, decided, rfl⟩ := Option.map_eq_some_iff.mp came
    have offered := follows.offer_of_decided decided exchanges
    rw [Errand.talk_after, UInt64.toNat_ofNat_of_lt' few, offered]
  case undecided =>
    intro σ network start last exchanges pending
    exact follows.offer_of_undecided (result?_eq_none.mp pending) exchanges

end Flight

namespace Traffic

variable {σ : Type} {client : WorkerClient} {network : Network σ}

/-- What holds at every moment. -/
structure Sound (client : WorkerClient) (traffic : Traffic σ) : Prop where
  begun : traffic.client.begun.toNat = traffic.flights.length % UInt64.size
  follows : ∀ k (flight : Flight), traffic.flights[k]? = some flight →
    flight.Follows (rotation (k % UInt64.size) client.workers)

theorem Sound.next {traffic later : Traffic σ} (sound : Sound client traffic)
    (step : Next client network traffic later) : Sound client later := by
  obtain ⟨begun, follows⟩ := sound
  cases step with
  | @begin count state flights errand =>
    constructor
    · simp only [List.length_append, List.length_cons, List.length_nil] at *
      rw [UInt64.toNat_add, begun]
      simp [UInt64.size]
    · intro k flight found
      -- The flights before stay as they are; the new one starts where the counter stood.
      rcases Nat.lt_or_ge k flights.length with old | new
      · rw [List.getElem?_append_left old] at found
        exact follows k flight found
      · rw [List.getElem?_append_right new, List.getElem?_singleton] at found
        split at found
        next same =>
          cases found
          have place : k = flights.length := by omega
          rw [place, ← begun]
          exact Flight.follows_start _ _
        · exact absurd found (Option.some_ne_none flight).symm
  | @attempt count state flights k flight worker rest reply later found undecided next answer =>
    refine ⟨by simpa using begun, fun other changed here => ?_⟩
    -- An attempt changes no other flight.
    by_cases same : k = other
    · subst same
      rw [List.getElem?_set_self (List.getElem?_eq_some_iff.mp found).1] at here
      cases here
      exact (follows k flight found).after undecided next reply
    · rw [List.getElem?_set_ne same] at here
      exact follows other changed here
  | elapse later => exact ⟨begun, follows⟩

theorem Reached.sound {traffic : Traffic σ} (reached : Reached client network traffic) :
    Sound client traffic := by
  induction reached with
  | new state => exact ⟨rfl, by simp⟩
  | next _ step ih => exact ih.next step

/-- As long as the counter has not come around, an errand starts at its own number. -/
theorem Reached.follows {traffic : Traffic σ} (reached : Reached client network traffic) {k : Nat}
    {flight : Flight} (found : traffic.flights[k]? = some flight) (few : k < UInt64.size) :
    flight.Follows (rotation k client.workers) := by
  have follows := reached.sound.follows k flight found
  rw [Nat.mod_eq_of_lt few] at follows
  exact follows

/-- An errand that is alone with the workers is offered to them in turn, and the exchanges by which
this is done are its attempts. -/
theorem offer_reached {errand : Errand} {order : List Worker} {tried : List (Worker × Reply)}
    {begun : UInt64} {state : σ} {flights : List Flight}
    (reached : Reached client network
      ⟨⟨begun, state⟩, flights ++ [⟨errand, tried, order, conclude .refused order⟩]⟩) :
    let answer := offer network errand.operation order state
    ∃ further left, errand.Exchanges network state further answer.2 ∧
      Reached client network
        ⟨⟨begun, answer.2⟩, flights ++ [⟨errand, tried ++ further, left, some answer.1⟩]⟩ := by
  intro offered
  -- Worker by worker; a refusal leaves the rest of the order to try.
  induction order generalizing tried state with
  | nil =>
    refine ⟨[], [], .none, ?_⟩
    rw [List.append_nil]
    exact reached
  | cons worker rest ih =>
    rcases answer : network.exchange (errand.requestTo worker) state with ⟨reply, later⟩
    have found : (flights ++ [⟨errand, tried, worker :: rest, conclude .refused (worker :: rest)⟩])[
        flights.length]? = some ⟨errand, tried, worker :: rest, none⟩ := by
      simp [conclude]
    have attempted := reached.next (.attempt found rfl rfl answer)
    rw [List.set_append_right _ _ (Nat.le_refl _), Nat.sub_self, List.set_cons_zero] at attempted
    simp only [offered, offer]
    rw [← Errand.requestTo, answer]
    cases reply with
    | refused =>
      obtain ⟨further, left, exchanges, done⟩ := ih attempted
      refine ⟨(worker, .refused) :: further, left, .refused answer exchanges, ?_⟩
      simpa using done
    | silent | closed | answered _ _ => exact ⟨_, _, .last answer, attempted⟩

/-- Failover. However the attempts of the errands interleave and whatever the workers do, each
errand is dealt with fairly by its number: so one worker at most gets its request. It comes to what
the client does for it alone when the workers reply the same. And what the client does for an errand
in one go, from the state in which it stands, is a chain of exchanges that starts there and leaves
the network as the client leaves it; these exchanges are the attempts of a flight that is as fair as
the others. A definition that cannot be built moves nothing, and any other is the errand to create
it. -/
theorem errands_fail_over {traffic : Traffic σ} (reached : Reached client network traffic)
    (few : traffic.flights.length + client.workers.length < UInt64.size) :
    (∀ k (flight : Flight), traffic.flights[k]? = some flight →
      flight.Fair client k ∧ flight.AsAlone client k) ∧
    (∀ errand, ∃ tried left reply last,
      let flight : Flight := ⟨errand, tried, left, some reply⟩
      errand.Exchanges network traffic.client.network tried last ∧
      Talk.after (Errand.talk client network errand) traffic.client =
        (errand.outcome client reply, ⟨traffic.client.begun + 1, last⟩) ∧
      flight.Fair client traffic.flights.length ∧
      Reached client network ⟨⟨traffic.client.begun + 1, last⟩, traffic.flights ++ [flight]⟩) ∧
    (∀ (draft : ConnectorDraft) chance fault, draft.build chance = .error fault →
      Talk.after (client.submit network draft chance) traffic.client =
        (.error fault, traffic.client)) ∧
    ∀ (draft : ConnectorDraft) chance name settings, draft.build chance = .ok (name, settings) →
      Talk.after (client.submit network draft chance) traffic.client =
        Talk.after (Errand.talk client network (.create name settings)) traffic.client := by
  refine ⟨fun k flight found => ?_, fun errand => ?_, fun draft chance fault refused => ?_,
    fun draft chance name settings built => ?_⟩
  · have inside := (List.getElem?_eq_some_iff.mp found).1
    have follows := reached.follows found (by omega)
    exact ⟨follows.fair, follows.asAlone (by omega)⟩
  · obtain ⟨⟨begun, state⟩, flights⟩ := traffic
    obtain ⟨tried, left, exchanges, done⟩ := offer_reached (reached.next (.begin errand))
    rw [List.nil_append] at done
    rw [Errand.talk_after]
    refine ⟨tried, left, _, _, exchanges, rfl, ?_, done⟩
    exact (done.follows List.getElem?_concat_length (by dsimp only at few; omega)).fair
  · exact Errand.submit_after_of_error client network refused traffic.client
  · exact Errand.submit_after_of_ok client network built traffic.client

/-- Workers on two ports of one host. -/
def workerOn (port : Nat) : Worker :=
  ⟨"http://worker", ⟨false, .domain "worker".toList, some port, [[]], none⟩⟩

def twoWorkers : WorkerClient := ⟨[workerOn 8083, workerOn 8084]⟩

/-- Workers of which the first is down; the other one answers once and is silent then. -/
def flagging : Network Nat where
  exchange request answers :=
    if request.url.port = some 8083 then (.refused, answers)
    else if answers = 0 then (.answered 204 none, 1)
    else (.silent, answers)

/-- The second errand has overtaken the first, which was passed on to a worker that keeps silent. -/
def overtaken : Traffic Nat :=
  ⟨⟨2, 1⟩,
    [⟨.delete "one", [(workerOn 8083, .refused), (workerOn 8084, .silent)], [], some .silent⟩,
    ⟨.pause "two", [(workerOn 8084, .answered 204 none)], [workerOn 8083],
      some (.answered 204 none)⟩]⟩

/-- Both errands come to what they come to alone, and so does a third one that is done in one go. -/
theorem errands_fail_over_overtaken :
    Reached twoWorkers flagging overtaken ∧ overtaken.flights.length + 2 < UInt64.size ∧
      (∀ k (flight : Flight), overtaken.flights[k]? = some flight → flight.Fair twoWorkers k) ∧
      Talk.after (Errand.talk twoWorkers .replay (.delete "one")) ⟨0, [.refused, .silent]⟩ =
        (.error (.exchange .timeout), ⟨1, []⟩) ∧
      Talk.after (Errand.talk twoWorkers flagging (.resume "three")) overtaken.client =
        (.error (.exchange .timeout), ⟨3, 1⟩) ∧
      ∃ tried left reply, (Errand.resume "three").Exchanges flagging 1 tried 1 ∧
        Flight.Fair twoWorkers 2 ⟨.resume "three", tried, left, some reply⟩ ∧
        .error (.exchange .timeout) = (Errand.resume "three").outcome twoWorkers reply := by
  -- Each line is a step: two errands begin, and their three attempts interleave.
  have new : Reached twoWorkers flagging ⟨⟨0, 0⟩, []⟩ := .new 0
  have begun := new.next (.begin (.delete "one"))
  have refused := begun.next (.attempt (k := 0) rfl rfl rfl rfl)
  have joined := refused.next (.begin (.pause "two"))
  have answered := joined.next (.attempt (k := 1) rfl rfl rfl rfl)
  have silent := answered.next (.attempt (k := 0) rfl rfl rfl rfl)
  have stands : Reached twoWorkers flagging overtaken := silent
  obtain ⟨each, whole, -, -⟩ := errands_fail_over stands (by decide)
  have alone := (each 0 _ rfl).2
  obtain ⟨tried, left, reply, last, exchanges, came, fair, -⟩ := whole (.resume "three")
  -- The first worker is down still, and the other one is silent now.
  have talked : Talk.after (Errand.talk twoWorkers flagging (.resume "three")) overtaken.client =
      (.error (.exchange .timeout), ⟨3, 1⟩) := rfl
  rw [talked] at came
  obtain ⟨result, state⟩ := Prod.mk.inj came
  obtain ⟨-, rfl⟩ := ClientState.mk.inj state
  exact ⟨stands, by decide, fun k flight found => (each k flight found).1,
    alone.decided _ _ _ _ alone.replayed _ rfl, talked, tried, left, reply, exchanges, fair, result⟩

end Traffic

end Conduit
