import Conduit.Proofs.Stream.Deeds

/-!
# What a run owes and what it has done

The records that a run has read are those of the batches that it committed, followed by those of the
batch that it is at. A record is committed only after it was handled completely, that is, filtered
out or delivered; so at every moment all that is committed is also done.
-/
namespace Conduit

/-- The records that a deed brings in. -/
def Deed.brought : Deed → List RawRecord
  | read (.ok batch) => batch
  | _ => []

/-- The records that a deed commits. -/
def Deed.settled : Deed → List RawRecord
  | commit batch (.ok ()) => batch
  | _ => []

/-- The batch at hand after a deed, from the one before it. -/
def Deed.leaves (batch : List RawRecord) : Deed → List RawRecord
  | read (.ok next) => next
  | commit _ (.ok ()) => []
  | _ => batch

/-- The record that a deed is about. -/
def Deed.subject? : Deed → Option RawRecord
  | filtered record => some record
  | spoiled record _ => some record
  | sent record _ _ => some record
  | _ => none

namespace Deeds

/-- The records read, in order. -/
def brought (deeds : List Deed) : List RawRecord := deeds.flatMap Deed.brought

/-- The records committed, in order. -/
def settled (deeds : List Deed) : List RawRecord := deeds.flatMap Deed.settled

/-- The batch that is read and not committed. -/
def unfinished (deeds : List Deed) : List RawRecord := deeds.foldl Deed.leaves []

/-- The record was handled, whatever came of it. -/
def Touched (deeds : List Deed) (record : RawRecord) : Prop :=
  ∃ deed ∈ deeds, deed.subject? = some record

/-- The output of the record was acknowledged. -/
def Delivered (deeds : List Deed) (record : RawRecord) : Prop :=
  ∃ output, .sent record output (.ok ()) ∈ deeds

/-- The record was handled completely. -/
def Completed (deeds : List Deed) (record : RawRecord) : Prop :=
  .filtered record ∈ deeds ∨ Delivered deeds record

variable {deeds : List Deed} {record : RawRecord}

theorem brought_concat (deeds : List Deed) (deed : Deed) :
    brought (deeds ++ [deed]) = brought deeds ++ deed.brought := by
  simp [brought]

theorem settled_concat (deeds : List Deed) (deed : Deed) :
    settled (deeds ++ [deed]) = settled deeds ++ deed.settled := by
  simp [settled]

theorem unfinished_concat (deeds : List Deed) (deed : Deed) :
    unfinished (deeds ++ [deed]) = deed.leaves (unfinished deeds) := by
  simp [unfinished]

theorem touched_concat (deeds : List Deed) (deed : Deed) (record : RawRecord) :
    Touched (deeds ++ [deed]) record ↔ Touched deeds record ∨ deed.subject? = some record := by
  simp [Touched, or_and_right, exists_or]

theorem Delivered.touched (delivered : Delivered deeds record) : Touched deeds record := by
  obtain ⟨output, member⟩ := delivered
  exact ⟨_, member, rfl⟩

theorem Completed.later (completed : Completed deeds record) (more : List Deed) :
    Completed (deeds ++ more) record := by
  rcases completed with dropped | ⟨output, member⟩
  · exact Or.inl (List.mem_append_left _ dropped)
  · exact Or.inr ⟨output, List.mem_append_left _ member⟩

end Deeds

open Deeds

/-- The books of a run at a moment. -/
structure Ledger (deeds : List Deed) (phase : Phase) : Prop where
  /-- What was read is committed or in the batch at hand. -/
  split : brought deeds = settled deeds ++ unfinished deeds
  complete : ∀ record ∈ settled deeds, Completed deeds record
  touched : ∀ record, Touched deeds record → record ∈ brought deeds
  idle : ∀ looks, phase = .idle looks → unfinished deeds = []
  /-- At a batch, the records before the rest are done. -/
  busy : ∀ looks batch rest, phase = .busy looks batch rest → unfinished deeds = batch ∧
    ∃ done, batch = done ++ rest ∧ ∀ record ∈ done, Completed deeds record

namespace Ledger

variable {κ α σ : Type} {stream : RecordStream κ α} {transport : Transport σ}

theorem fresh (looks : Nat) : Ledger [] (.idle looks) where
  split := rfl
  complete := by simp [settled]
  touched := by simp [Touched]
  idle _ _ := rfl
  busy := by simp

variable {deeds : List Deed} {deed : Deed} {phase later : Phase}

/-- A deed that neither reads nor commits leaves the batches as they are. -/
private theorem keep (ledger : Ledger deeds phase) (reads : deed.brought = [])
    (commits : deed.settled = []) (same : unfinished (deeds ++ [deed]) = unfinished deeds)
    (about : ∀ record, deed.subject? = some record → record ∈ unfinished deeds)
    (idle : ∀ looks, later = .idle looks → unfinished deeds = [])
    (busy : ∀ looks batch rest, later = .busy looks batch rest → unfinished deeds = batch ∧
      ∃ done, batch = done ++ rest ∧ ∀ record ∈ done, Completed (deeds ++ [deed]) record) :
    Ledger (deeds ++ [deed]) later where
  split := by rw [brought_concat, settled_concat, reads, commits, same, List.append_nil,
    List.append_nil, ledger.split]
  complete record member := by
    rw [settled_concat, commits, List.append_nil] at member
    exact (ledger.complete record member).later _
  touched record touched := by
    rw [brought_concat, reads, List.append_nil]
    rcases (touched_concat _ _ _).mp touched with before | now
    · exact ledger.touched record before
    · rw [ledger.split]
      exact List.mem_append_right _ (about record now)
  idle looks here := same.trans (idle looks here)
  busy looks batch rest here := by
    rw [same]
    exact busy looks batch rest here

/-- A deed of failure ends the run at the batch at hand. -/
private theorem fail (ledger : Ledger deeds phase) {ending : Ending} (reads : deed.brought = [])
    (commits : deed.settled = []) (same : unfinished (deeds ++ [deed]) = unfinished deeds)
    (about : ∀ record, deed.subject? = some record → record ∈ unfinished deeds) :
    Ledger (deeds ++ [deed]) (.over ending) :=
  ledger.keep reads commits same about (by simp) (by simp)

/-- A record that is handled completely joins those that are done. -/
private theorem advance {looks : Nat} {batch rest : List RawRecord} {record : RawRecord}
    (ledger : Ledger deeds (.busy looks batch (record :: rest))) (reads : deed.brought = [])
    (commits : deed.settled = []) (same : unfinished (deeds ++ [deed]) = unfinished deeds)
    (subject : deed.subject? = some record) (completed : Completed (deeds ++ [deed]) record) :
    Ledger (deeds ++ [deed]) (.busy looks batch rest) := by
  obtain ⟨hand, done, split, complete⟩ := ledger.busy _ _ _ rfl
  -- The record was the first of the rest, and is now the last of those that are done.
  refine ledger.keep reads commits same ?_ (by simp) ?_
  · intro other about
    rw [subject, Option.some.injEq] at about
    rw [hand, split, ← about]
    simp
  · rintro _ _ _ ⟨⟩
    refine ⟨hand, done ++ [record], by simpa using split, fun other member => ?_⟩
    rcases List.mem_append.mp member with before | now
    · exact (complete other before).later _
    · rw [List.mem_singleton.mp now]
      exact completed

/-- A deed that handles no record touches none. -/
private theorem touched_later (ledger : Ledger deeds phase) (about : deed.subject? = none)
    (record : RawRecord) (touched : Touched (deeds ++ [deed]) record) :
    record ∈ brought (deeds ++ [deed]) := by
  rw [touched_concat, about] at touched
  rw [brought_concat]
  exact List.mem_append_left _ (ledger.touched record (touched.resolve_right nofun))

/-- A batch that comes in when none is at hand. -/
private theorem receive (ledger : Ledger deeds phase) (empty : unfinished deeds = []) (looks : Nat)
    (batch : List RawRecord) : Ledger (deeds ++ [.read (.ok batch)]) (.busy looks batch batch) where
  split := by
    rw [brought_concat, settled_concat, unfinished_concat, ledger.split, empty]
    simp [Deed.brought, Deed.settled, Deed.leaves]
  complete record member := by
    have before : record ∈ settled deeds := by simpa [settled_concat, Deed.settled] using member
    exact (ledger.complete record before).later _
  touched := ledger.touched_later rfl
  idle := by simp
  busy := by
    rintro _ _ _ ⟨⟩
    exact ⟨unfinished_concat _ _, [], rfl, by simp⟩

/-- A batch that is done may be committed. -/
private theorem commit {looks : Nat} {batch : List RawRecord}
    (ledger : Ledger deeds (.busy looks batch [])) :
    Ledger (deeds ++ [.commit batch (.ok ())]) (.idle looks) := by
  obtain ⟨hand, done, split, complete⟩ := ledger.busy _ _ _ rfl
  rw [List.append_nil] at split
  subst split
  -- With no rest all of the batch was done, so it may join what is settled.
  exact {
    split := by
      rw [brought_concat, settled_concat, unfinished_concat, ledger.split, hand]
      simp [Deed.brought, Deed.settled, Deed.leaves]
    complete record member := by
      rw [settled_concat] at member
      rcases List.mem_append.mp member with before | now
      · exact (ledger.complete record before).later _
      · exact (complete record now).later _
    touched := ledger.touched_later rfl
    idle := fun _ _ => unfinished_concat _ _
    busy := by simp }

/-- Every deed keeps the books. -/
theorem next {moment following : Moment σ} (ledger : Ledger deeds moment.phase)
    (follows : stream.Follows transport moment deed following) :
    Ledger (deeds ++ [deed]) following.phase := by
  -- A record that is handled is in the batch at hand.
  have hand {looks batch record rest} (here : moment.phase = .busy looks batch (record :: rest)) :
      record ∈ unfinished deeds := by
    obtain ⟨hand, done, split, -⟩ := ledger.busy _ _ _ here
    rw [hand, split]
    simp
  cases follows with
  | flushed _ => exact ledger.fail rfl rfl (unfinished_concat _ _) (by simp [Deed.subject?])
  | unread _ => exact ledger.fail rfl rfl (unfinished_concat _ _) (by simp [Deed.subject?])
  | uncommitted _ => exact ledger.fail rfl rfl (unfinished_concat _ _) (by simp [Deed.subject?])
  | spoiled _ =>
    refine ledger.fail rfl rfl (unfinished_concat _ _) fun record about => ?_
    cases about
    exact hand rfl
  | undelivered _ _ =>
    refine ledger.fail rfl rfl (unfinished_concat _ _) fun record about => ?_
    cases about
    exact hand rfl
  | filtered _ => exact ledger.advance rfl rfl (unfinished_concat _ _) rfl (Or.inl (by simp))
  | @delivered _ _ _ _ _ _ _ output _ _ =>
    exact ledger.advance rfl rfl (unfinished_concat _ _) rfl (Or.inr ⟨output, by simp⟩)
  | nothing _ =>
    -- A look that finds nothing leaves no batch at hand, as before it.
    have empty := ledger.idle _ rfl
    exact ledger.keep rfl rfl ((unfinished_concat _ _).trans empty.symm) (by simp [Deed.subject?])
      (fun _ _ => empty) (by simp)
  | received _ => exact ledger.receive (ledger.idle _ rfl) _ _
  | committed _ => exact ledger.commit

theorem along {first last : Moment σ} {further : List Deed} (ledger : Ledger deeds first.phase)
    (leads : stream.Leads transport first further last) : Ledger (deeds ++ further) last.phase := by
  induction leads generalizing deeds with
  | done => simpa using ledger
  | cons follows _ ih => simpa using ih (ledger.next follows)

end Ledger

end Conduit
