import Mathlib.Data.List.Forall2

/-!
# Reading one item after the other

Items are read in their order, and the first that cannot be read is where reading ends. So there are
results if and only if every item can be read, and then they are the results of the items.
-/
namespace Conduit

variable {ε ι τ : Type} {read : ι → Except ε τ}

theorem mapM_cons_ok {item : ι} {result : τ} (first : read item = .ok result) (items : List ι) :
    (item :: items).mapM read = (items.mapM read).map (result :: ·) := by
  rw [List.mapM_cons, first]
  cases items.mapM read <;> rfl

theorem mapM_cons_error {item : ι} {fault : ε} (first : read item = .error fault) (items : List ι) :
    (item :: items).mapM read = .error fault := by
  rw [List.mapM_cons, first]
  rfl

theorem mapM_ok_iff {items : List ι} {results : List τ} :
    items.mapM read = .ok results ↔
      List.Forall₂ (fun item result => read item = .ok result) items results := by
  -- A fault in the first item, or in the others, leaves no results to match.
  induction items generalizing results with
  | nil => cases results <;> simp [pure, Except.pure]
  | cons item rest ih =>
    cases first : read item with
    | error fault =>
      rw [mapM_cons_error first]
      cases results <;> simp [first]
    | ok result =>
      rw [mapM_cons_ok first]
      cases others : rest.mapM read with
      | error fault => cases results <;> simp [Except.map, ← ih, others]
      | ok more => cases results <;> simp [Except.map, first, ← ih, others]

theorem exists_of_mapM_error {items : List ι} {fault : ε}
    (failed : items.mapM read = .error fault) :
    ∃ item ∈ items, read item = .error fault := by
  induction items with
  | nil => cases failed
  | cons item rest ih =>
    cases first : read item with
    | error cause =>
      rw [mapM_cons_error first] at failed
      cases failed
      exact ⟨item, List.mem_cons_self, first⟩
    | ok result =>
      rw [mapM_cons_ok first] at failed
      cases others : rest.mapM read with
      | ok more =>
        rw [others] at failed
        cases failed
      | error cause =>
        rw [others] at failed
        cases failed
        obtain ⟨other, member, refused⟩ := ih others
        exact ⟨other, List.mem_cons_of_mem _ member, refused⟩

theorem exists_mapM_ok_iff {items : List ι} :
    (∃ results, items.mapM read = .ok results) ↔
      ∀ item ∈ items, ∃ result, read item = .ok result := by
  constructor
  · rintro ⟨results, all⟩
    rw [mapM_ok_iff] at all
    induction all with
    | nil => simp
    | cons first _ ih => exact List.forall_mem_cons.mpr ⟨⟨_, first⟩, ih⟩
  · intro each
    -- A traversal that fails does so at an item, but every item can be read.
    cases all : items.mapM read with
    | ok results => exact ⟨results, rfl⟩
    | error fault =>
      obtain ⟨item, member, refused⟩ := exists_of_mapM_error all
      obtain ⟨result, ok⟩ := each item member
      rw [ok] at refused
      cases refused

theorem mapM_eq_some_map {f : ι → Option τ} {g : ι → τ} {items : List ι}
    (each : ∀ item ∈ items, f item = some (g item)) : items.mapM f = some (items.map g) := by
  induction items with
  | nil => rfl
  | cons item rest ih =>
    obtain ⟨first, others⟩ := List.forall_mem_cons.mp each
    rw [List.mapM_cons, first, ih others]
    rfl

end Conduit
