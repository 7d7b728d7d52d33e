import Conduit.Proofs.Data.Traversal
import Conduit.Proofs.Worker.Entry
import Conduit.Worker.Client

/-!
# The workers of a list

A worker list is a configuration, and what is wrong with it is the fault of the configuration. If
nothing is wrong, there is one worker for each entry that is not blank, and it is found where the
entry leads.
-/
namespace Conduit

open Url

namespace Worker

theorem ofBase_ok_iff {base : List Char} {worker : Worker} :
    ofBase base = .ok worker ↔
      worker.base = String.ofList base ∧ Url.parse base = .ok worker.url := by
  rw [ofBase]
  cases Url.parse base with
  | error cause => simp
  | ok url =>
    cases worker
    simp [eq_comm]

theorem exists_cause_of_ofBase {base : List Char} {fault : Fault}
    (refused : ofBase base = .error fault) :
    ∃ cause, fault = .config cause := by
  unfold ofBase at refused
  split at refused
  · cases refused
  · cases refused
    exact ⟨_, rfl⟩

theorem exists_worker_iff {entry : List Char} :
    (∃ worker, ofBase (baseOf entry) = .ok worker) ↔ ∃ endpoint, Reaches entry endpoint := by
  simp only [reaches_iff, ofBase_ok_iff]
  constructor
  · rintro ⟨worker, -, read⟩
    exact ⟨worker.url.endpoint, worker.url, read, rfl⟩
  · rintro ⟨_, url, read, -⟩
    exact ⟨⟨String.ofList (baseOf entry), url⟩, rfl, read⟩

theorem parseList_eq (s : String) : parseList s =
    if Text.entries s = [] then .error (.config .noWorkers)
    else (Text.entries s).mapM fun entry => ofBase (baseOf entry) := by
  have each :
      ((Text.entries s).map String.ofList).mapM (fun entry => ofBase (baseOf entry.toList)) =
        (Text.entries s).mapM fun entry => ofBase (baseOf entry) := by
    simp only [List.mapM_map, Function.comp_def, String.toList_ofList]
  rw [parseList, Text.listed_eq_entries, ← each]
  cases Text.entries s <;> rfl

end Worker

namespace WorkerClient

theorem ofList_ok_iff {s : String} {client : WorkerClient} : ofList s = .ok client ↔
    Text.entries s ≠ [] ∧
      (Text.entries s).mapM (fun entry => Worker.ofBase (Worker.baseOf entry)) =
        .ok client.workers := by
  rw [ofList, Worker.parseList_eq]
  by_cases none : Text.entries s = []
  · simp [none, Except.map]
  · rw [if_neg none]
    cases (Text.entries s).mapM fun entry => Worker.ofBase (Worker.baseOf entry) with
    | error fault => simp [Except.map]
    | ok workers =>
      cases client
      simp [Except.map, none]

theorem exists_cause_of_ofList {s : String} {fault : Fault} (refused : ofList s = .error fault) :
    ∃ cause, fault = .config cause := by
  rw [ofList, Worker.parseList_eq] at refused
  split at refused
  · cases refused
    exact ⟨_, rfl⟩
  · cases all : (Text.entries s).mapM fun entry => Worker.ofBase (Worker.baseOf entry) with
    | error cause =>
      rw [all] at refused
      cases refused
      obtain ⟨entry, -, refused⟩ := exists_of_mapM_error all
      exact Worker.exists_cause_of_ofBase refused
    | ok workers =>
      rw [all] at refused
      cases refused

/-- A list is taken if it has an entry and each of its entries leads somewhere. Then there is one
worker for each of them, in their order, which is found where the entry leads, and so is all that is
asked of it. An entry leads to one place only, and if it is plainly written to the host and the port
that stand in it. If a list is not taken the configuration is at fault. -/
theorem endpoints_by_entries (s : String) :
    (∀ fault, ofList s = .error fault → ∃ cause, fault = .config cause) ∧
    ((∃ client, ofList s = .ok client) ↔
      Text.entries s ≠ [] ∧ ∀ entry ∈ Text.entries s, ∃ endpoint, Worker.Reaches entry endpoint) ∧
    (∀ entry endpoint, Worker.Plainly entry endpoint → Worker.Reaches entry endpoint) ∧
    ∀ client, ofList s = .ok client → List.Forall₂ (fun entry worker =>
      Url.parse worker.base.toList = .ok worker.url ∧
        (∀ endpoint, Worker.Reaches entry endpoint ↔ endpoint = worker.url.endpoint) ∧
        ∀ names, (worker.locate names).endpoint = worker.url.endpoint)
      (Text.entries s) client.workers := by
  refine ⟨fun fault refused => exists_cause_of_ofList refused, ?_,
    fun entry endpoint plainly => plainly.reaches, fun client taken => ?_⟩
  · simp only [← Worker.exists_worker_iff, ← exists_mapM_ok_iff, ofList_ok_iff, exists_and_left]
    constructor
    · rintro ⟨some, client, all⟩
      exact ⟨some, client.workers, all⟩
    · rintro ⟨some, workers, all⟩
      exact ⟨some, ⟨workers⟩, all⟩
  · refine (mapM_ok_iff.mp (ofList_ok_iff.mp taken).2).imp fun entry worker read => ?_
    obtain ⟨base, read⟩ := Worker.ofBase_ok_iff.mp read
    rw [base, String.toList_ofList]
    have reaches : Worker.Reaches entry worker.url.endpoint :=
      Worker.reaches_iff.mpr ⟨worker.url, read, rfl⟩
    refine ⟨read, fun endpoint => ⟨fun other => other.unique reaches, ?_⟩, fun names => rfl⟩
    rintro rfl
    exact reaches

/-- The workers of a list with a bare entry and one with a scheme. -/
def pair : WorkerClient :=
  ⟨[⟨"http://w1:8083/hub", ⟨false, .domain "w1".toList, some 8083, ["hub".toList], none⟩⟩,
    ⟨"https://[::1]", ⟨true, .ipv6 [0, 0, 0, 0, 0, 0, 0, 1], none, [[]], none⟩⟩]⟩

theorem endpoints_of_pair : ofList " w1:8083/hub/,, https://[::1]" = .ok pair ∧
    Worker.Plainly "w1:8083/hub/".toList ⟨false, .domain "w1".toList, 8083⟩ ∧
    Worker.Reaches "w1:8083/hub/".toList ⟨false, .domain "w1".toList, 8083⟩ ∧
    Worker.Reaches "https://[::1]".toList ⟨true, .ipv6 [0, 0, 0, 0, 0, 0, 0, 1], 443⟩ := by
  have taken : ofList " w1:8083/hub/,, https://[::1]" = .ok pair := rfl
  have entries : Text.entries " w1:8083/hub/,, https://[::1]" =
      ["w1:8083/hub/".toList, "https://[::1]".toList] := by
    decide
  have letters : "w1".toList.all fun c => Domain.isAscii c && !Domain.isForbidden c := by decide
  have named : PlainName "w1".toList := by
    simp only [List.all_eq_true, Bool.and_eq_true, Bool.not_eq_true'] at letters
    refine ⟨by decide, fun c member => (letters c member).1, fun c member => ?_, by decide,
      by decide⟩
    simp [(letters c member).2]
  have plainly : Worker.Plainly "w1:8083/hub/".toList ⟨false, .domain "w1".toList, 8083⟩ :=
    @Worker.Plainly.bare "w1".toList ":8083".toList "/hub/".toList 8083 named
      (@SpellsPort.written false (Number.digitsOf 8083) (by decide) (by decide)) (by decide)
      fun c first => (Option.some.inj first).symm
  obtain ⟨-, -, leads, paired⟩ := endpoints_by_entries " w1:8083/hub/,, https://[::1]"
  have ways := paired pair taken
  rw [entries] at ways
  cases ways with
  | cons first others =>
    cases others with
    | cons second _ => exact ⟨taken, plainly, leads _ _ plainly, (second.2.1 _).mpr rfl⟩

/-- Requests go to hosts that are named as schemes: those for a worker whose scheme is in upper
case, and those for an entry that denotes no worker. -/
theorem schemes_taken_for_hosts :
    ofList "HTTP://w1:8083" = .ok
      ⟨[⟨"http://HTTP://w1:8083",
        ⟨false, .domain "http".toList, none, [[], "w1:8083".toList], none⟩⟩]⟩ ∧
    (∀ endpoint, Worker.Denotes "HTTP://w1:8083".toList endpoint ↔
      endpoint = ⟨false, .domain "w1".toList, 8083⟩) ∧
    ofList "ftp://w1" = .ok
      ⟨[⟨"http://ftp://w1", ⟨false, .domain "ftp".toList, none, [[], "w1".toList], none⟩⟩]⟩ ∧
    ∀ endpoint, ¬Worker.Denotes "ftp://w1".toList endpoint := by
  have loud : Worker.Schemed "HTTP://w1:8083".toList "HTTP".toList "//w1:8083".toList :=
    ⟨by decide, ⟨"HTTP".toList, rfl, rfl⟩, ⟨"w1:8083".toList, rfl⟩⟩
  have foreign : Worker.Schemed "ftp://w1".toList "ftp".toList "//w1".toList :=
    ⟨by decide, ⟨"ftp".toList, rfl, rfl⟩, ⟨"w1".toList, rfl⟩⟩
  have meant : parseRest false (Worker.pruned "//w1:8083".toList) =
      .ok ⟨false, .domain "w1".toList, some 8083, [[]], none⟩ := rfl
  refine ⟨rfl, fun endpoint => ?_, rfl, fun endpoint denotes => ?_⟩
  · rw [loud.denotes_iff]
    constructor
    · rintro ⟨secure, known, url, read, rfl⟩
      cases secure with
      | false =>
        rw [meant] at read
        cases read
        rfl
      | true => exact absurd known (by decide)
    · rintro rfl
      exact ⟨false, by decide, _, meant, rfl⟩
  · obtain ⟨secure, known, -⟩ := foreign.denotes_iff.mp denotes
    cases secure <;> exact absurd known (by decide)

end WorkerClient

end Conduit
