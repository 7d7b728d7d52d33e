import Conduit.Proofs.Url.Path
import Conduit.Proofs.Worker.Exchanges

/-!
# Where errands about a connector go

An errand about a connector goes to the worker's own path, the collection of connectors, one segment
that spells the name and the word for what is asked. This holds exactly for plain names. For them
the address tells both the name and the errand, and it is never that of the collection. Names that
are not plain lead elsewhere: to the collection, to another errand or to another connector.
-/
namespace Conduit

open Url

/-- What a client can be asked about one connector. -/
inductive ConnectorErrand where
  | delete
  | pause
  | resume
  | status
  | config
deriving DecidableEq

namespace ConnectorErrand

def about : ConnectorErrand → String → Errand
  | delete, name => .delete name
  | pause, name => .pause name
  | resume, name => .resume name
  | status, name => .status name
  | config, name => .config name

/-- What stands behind the name in the address. -/
def words : ConnectorErrand → List String
  | delete => []
  | pause => ["pause"]
  | resume => ["resume"]
  | status => ["status"]
  | config => ["config"]

theorem names_about (kind : ConnectorErrand) (name : String) :
    (kind.about name).operation.names = "connectors" :: name :: kind.words := by
  cases kind <;> rfl

theorem plain_words (kind : ConnectorErrand) : ∀ word ∈ kind.words, Path.Plain word := by
  cases kind <;> simp only [words, List.mem_cons, List.not_mem_nil, or_false, false_implies,
    implies_true, forall_eq] <;> exact ⟨by decide, by decide⟩

theorem eq_of_chars_words {kind other : ConnectorErrand}
    (same : Path.chars (kind.words.map String.toList) =
      Path.chars (other.words.map String.toList)) :
    kind = other := by
  revert same
  cases kind <;> cases other <;> decide

theorem encode_words (kind : ConnectorErrand) :
    (kind.words.map fun word => encode reservedInSegment word.toList) =
      kind.words.map String.toList := by
  cases kind <;> decide

end ConnectorErrand

/-! ### What is sent -/

/-- The network, with a note of every request. -/
def Network.noted {σ : Type} (network : Network σ) : Network (σ × List Request) where
  exchange request state :=
    let (reply, next) := network.exchange request state.1
    (reply, next, state.2 ++ [request])

namespace Errand

/-- The target that stands in the request. -/
def targetAt (errand : Errand) (worker : Worker) : String := (errand.requestTo worker).url.target

variable {σ : Type} (client : WorkerClient) (network : Network σ)

/-- All that is sent when the client does the errand. -/
def sent (state : ClientState σ) (errand : Errand) : List Request :=
  (Talk.after (talk client network.noted errand) ⟨state.begun, state.network, []⟩).2.network.2

theorem offer_noted (errand : Errand) (order : List Worker) (state : σ) (sent : List Request) :
    ∃ count, (offer network.noted errand.operation order (state, sent)).2.2 =
      sent ++ (order.take count).map errand.requestTo := by
  induction order generalizing state sent with
  | nil => exact ⟨0, (List.append_nil sent).symm⟩
  | cons worker rest ih =>
    rcases answer : network.exchange (errand.requestTo worker) state with ⟨reply, next⟩
    have noted :
        network.noted.exchange ⟨worker.locate errand.operation.names, errand.operation.method,
        errand.operation.body⟩ (state, sent) = (reply, next,
        sent ++ [errand.requestTo worker]) := by
      rw [← requestTo]
      simp only [Network.noted, answer]
    rw [offer, noted]
    -- Only a refused connection leads to the next worker.
    cases reply with
    | refused =>
      obtain ⟨count, later⟩ := ih next (sent ++ [errand.requestTo worker])
      exact ⟨count + 1, by simp [later]⟩
    | silent | closed | answered _ _ => exact ⟨1, by simp⟩

/-- Whatever the workers do, what is sent is the errand's request, to one worker after the other. -/
theorem sent_eq (state : ClientState σ) (errand : Errand) :
    ∃ count, errand.sent client network state =
      ((rotation state.begun.toNat client.workers).take count).map errand.requestTo := by
  rw [sent, talk_after]
  exact offer_noted network errand _ state.network []

end Errand

/-- The path of a worker, in front of what is asked of it. -/
def Worker.root (worker : Worker) : Path := worker.url.path.base.trunk

/-- The query of a worker's address, behind what is asked of it. -/
def Worker.ending (worker : Worker) : List Char := worker.url.query.elim [] ('?' :: ·)

theorem Worker.target_locate (worker : Worker) (names : List String) :
    (worker.locate names).target =
      String.ofList ((worker.locate names).path.chars ++ worker.ending) := by
  have kept : (worker.locate names).query = worker.url.query := rfl
  rw [Url.target, ending, kept]
  cases worker.url.query <;> rfl

/-- The collection is the first segment behind the worker's own path. -/
theorem Worker.append_connectors (worker : Worker) :
    worker.url.path.base.append "connectors".toList = worker.root ++ ["connectors".toList] := by
  have plain : Path.Plain "connectors" := ⟨by decide, by decide⟩
  have spelled : encode reservedInSegment "connectors".toList = "connectors".toList := by decide
  rw [Path.append_plain plain, spelled, root]

namespace ConnectorErrand

/-- The request about a connector is addressed to where its name is one segment. -/
def Addresses (kind : ConnectorErrand) (worker : Worker) (name : String) : Prop :=
  ∃ segment, Path.Spells segment name ∧
    ((kind.about name).requestTo worker).url = { worker.url with
      path := worker.root ++ "connectors".toList :: segment :: kind.words.map String.toList }

variable (kind : ConnectorErrand) (worker : Worker)

/-- The path of the collection, with what comes behind it appended. -/
theorem path_locate (name : String) :
    (worker.locate (kind.about name).operation.names).path =
      kind.words.foldl (fun path word => path.append word.toList)
        ((worker.root ++ ["connectors".toList]).append name.toList) := by
  rw [names_about, Worker.locate, Url.Path.extend, List.foldl_cons, List.foldl_cons,
    Worker.append_connectors]

theorem path_locate_plain {name : String} (plain : Path.Plain name) :
    (worker.locate (kind.about name).operation.names).path =
      worker.root ++ "connectors".toList :: encode reservedInSegment name.toList ::
        kind.words.map String.toList := by
  have named : ((worker.root ++ ["connectors".toList]).append name.toList : Path) =
      worker.root ++ ["connectors".toList] ++ [encode reservedInSegment name.toList] := by
    rw [Path.append_plain plain, Path.trunk_concat (Or.inr (by decide))]
  rw [path_locate, named,
    Path.foldl_append_plain kind.plain_words (Path.trunk_concat (Or.inl (by simp)))
    (by simp), encode_words]
  simp

/-- The target of an errand about a plain name. -/
theorem targetAt_plain {name : String} (plain : Path.Plain name) :
    (kind.about name).targetAt worker = String.ofList
      (worker.root.chars ++ '/' :: "connectors".toList ++
        '/' :: encode reservedInSegment name.toList ++
        Path.chars (kind.words.map String.toList) ++ worker.ending) := by
  rw [Errand.targetAt, Errand.requestTo, Worker.target_locate,
    kind.path_locate_plain worker plain, Path.chars_append]
  simp only [Path.chars, List.flatMap_cons, List.append_assoc, List.cons_append]

theorem targetAt_active : Errand.active.targetAt worker =
    String.ofList (worker.root.chars ++ '/' :: "connectors".toList ++ worker.ending) := by
  have path : (worker.locate Errand.active.operation.names).path =
      worker.root ++ ["connectors".toList] :=
    worker.append_connectors
  rw [Errand.targetAt, Errand.requestTo, Worker.target_locate, path, Path.chars_append]
  simp only [Path.chars, List.flatMap_cons, List.flatMap_nil, List.append_nil]

theorem addresses_iff_plain (name : String) : kind.Addresses worker name ↔ Path.Plain name := by
  constructor
  · rintro ⟨segment, spells, address⟩
    have path : (worker.locate (kind.about name).operation.names).path =
        worker.root ++ "connectors".toList :: segment :: kind.words.map String.toList :=
      congrArg Url.path address
    rw [path_locate] at path
    refine Classical.byContradiction fun astray => ?_
    have started : worker.root ++ ["connectors".toList] ≠ [] := by simp
    have free : (worker.root ++ ["connectors".toList]).getLast?.any Path.isDrive = false := by
      rw [List.getLast?_concat]
      decide
    rcases Path.append_astray astray (Path.trunk_concat (Or.inr (by decide))) started free with
      short | ⟨other, grown, wrong⟩
    -- Too few segments for the name and the words behind it.
    · have length := congrArg List.length path
      have bound := Path.length_foldl_append_le kind.words
        ((worker.root ++ ["connectors".toList]).append name.toList)
      simp only [List.length_append, List.length_cons, List.length_nil,
        List.length_map] at length bound short
      omega
    -- One segment more, but not the one that spells the name.
    · rw [grown,
        Path.foldl_append_plain kind.plain_words (Path.trunk_concat (Or.inl started)) (by simp),
        encode_words] at path
      have same : other = segment := by simpa using path
      exact wrong (same ▸ spells)
  · intro plain
    exact ⟨_, plain.spells, by
      rw [← kind.path_locate_plain worker plain]
      rfl⟩

/-- The address tells the errand and the name. -/
theorem eq_of_targetAt {kind other : ConnectorErrand} {worker : Worker} {name another : String}
    (plain : Path.Plain name) (plain' : Path.Plain another)
    (same : (kind.about name).targetAt worker = (other.about another).targetAt worker) :
    kind = other ∧ name = another := by
  rw [targetAt_plain kind worker plain, targetAt_plain other worker plain',
    String.ofList_inj] at same
  -- The worker's own path and query are the same on both sides.
  have inner := List.append_cancel_right same
  simp only [List.append_assoc, List.cons_append, List.append_cancel_left_eq, List.cons.injEq,
    true_and] at inner
  obtain ⟨segments, words⟩ := Path.eq_of_append_chars (plain.spells.closed '/' (by decide))
    (plain'.spells.closed '/' (by decide)) inner
  exact ⟨eq_of_chars_words words, plain.spells.unique (segments ▸ plain'.spells)⟩

theorem targetAt_ne_active {name : String} (plain : Path.Plain name) :
    (kind.about name).targetAt worker ≠ Errand.active.targetAt worker := by
  intro same
  rw [targetAt_plain kind worker plain, targetAt_active, String.ofList_inj] at same
  -- Behind the collection there is at least the slash in front of the name.
  have length := congrArg List.length (List.append_cancel_right same)
  simp only [List.length_append, List.length_cons] at length
  omega

variable {σ : Type} (client : WorkerClient) (network : Network σ) (state : ClientState σ)

/-- What is asked about a connector is asked of one worker after the other, by a request in which
the name is one segment if and only if it is plain. Plain names and what is asked about them can be
told from the target, and none of them leads to the collection. -/
theorem named_by_one_segment_iff :
    (∀ kind name, ∃ count, (about kind name).sent client network state =
      ((rotation state.begun.toNat client.workers).take count).map (about kind name).requestTo) ∧
    ∀ worker : Worker,
      (∀ kind name, Addresses kind worker name ↔ Path.Plain name) ∧
      (∀ kind other name another, Path.Plain name → Path.Plain another →
        (about kind name).targetAt worker = (about other another).targetAt worker →
        kind = other ∧ name = another) ∧
      ∀ kind name, Path.Plain name →
        (about kind name).targetAt worker ≠ Errand.active.targetAt worker :=
  ⟨fun kind name => (kind.about name).sent_eq client network state, fun worker =>
    ⟨fun kind name => kind.addresses_iff_plain worker name,
      fun _ _ _ _ plain plain' same => eq_of_targetAt plain plain' same,
      fun kind _ plain => kind.targetAt_ne_active worker plain⟩⟩

def hub : Worker :=
  ⟨"http://w1:8083/hub", ⟨false, .domain "w1".toList, some 8083, ["hub".toList], none⟩⟩

theorem ofList_hub : WorkerClient.ofList "w1:8083/hub/" = .ok ⟨[hub]⟩ := by
  rfl

/-- A worker that does whatever it is told. -/
def willing : Network Unit where
  exchange _ _ := (.answered 204 none, ())

theorem named_by_one_segment_hub :
    WorkerClient.ofList "w1:8083/hub/" = .ok ⟨[hub]⟩ ∧
    (about status "a?b#c/d").targetAt hub = "/hub/connectors/a%3Fb%23c%2Fd/status" ∧
    Addresses status hub "a?b#c/d" ∧
    (about status "a?b#c/d").targetAt hub ≠ (about delete "a?b#c/d/status").targetAt hub ∧
    (about delete "").targetAt hub ≠ Errand.active.targetAt hub := by
  have plain : Path.Plain "a?b#c/d" ∧ Path.Plain "a?b#c/d/status" ∧ Path.Plain "" :=
    ⟨⟨by decide, by decide⟩, ⟨by decide, by decide⟩, ⟨by decide, by decide⟩⟩
  obtain ⟨addressed, told, beside⟩ := (named_by_one_segment_iff ⟨[hub]⟩ willing ⟨0, ()⟩).2 hub
  refine ⟨ofList_hub, by decide, (addressed _ _).mpr plain.1, fun same => ?_, beside _ _ plain.2.2⟩
  exact absurd (told _ _ _ _ plain.1 plain.2.1 same).1 (by decide)

/-- A tab in a name leads to another connector, and two dots lead to the collection. -/
theorem names_led_astray :
    WorkerClient.ofList "w1:8083/hub/" = .ok ⟨[hub]⟩ ∧
    ¬Addresses delete hub "a\tb" ∧
    (about delete "a\tb").targetAt hub = (about delete "ab").targetAt hub ∧
    ¬Addresses delete hub ".." ∧
    (about delete "..").targetAt hub = Errand.active.targetAt hub := by
  refine ⟨ofList_hub, fun addressed => ?_, by decide, fun addressed => ?_, by decide⟩
  · exact absurd ((addresses_iff_plain delete hub "a\tb").mp addressed).whole (by decide)
  · exact ((addresses_iff_plain delete hub "..").mp addressed).undotted.2 rfl

end ConnectorErrand

end Conduit
