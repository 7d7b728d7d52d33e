/-!
# Tables

A table maps keys to values and lists its entries by ascending key, each key once. The order is
part of the type, so two tables with the same look-ups are the same table, and what is written
from a table does not depend on the order in which it was filled.
-/
namespace Conduit

variable {κ α : Type} [Ord κ]

/-- An entry comes before another if its key is less. -/
def entryBefore (a b : κ × α) : Prop := compare a.1 b.1 = .lt

structure Table (κ α : Type) [Ord κ] where
  entries : List (κ × α)
  ascending : entries.Pairwise entryBefore

namespace Table

def empty : Table κ α := ⟨[], .nil⟩

instance : Inhabited (Table κ α) := ⟨empty⟩

def insertEntry (key : κ) (value : α) : List (κ × α) → List (κ × α)
  | [] => [(key, value)]
  | entry :: rest =>
    match compare key entry.1 with
    | .lt => (key, value) :: entry :: rest
    | .eq => (key, value) :: rest
    | .gt => entry :: insertEntry key value rest

theorem mem_insertEntry {key : κ} {value : α} {entries : List (κ × α)} {entry : κ × α}
    (member : entry ∈ insertEntry key value entries) : entry = (key, value) ∨ entry ∈ entries := by
  induction entries with
  | nil => simpa [insertEntry] using member
  | cons first rest ih =>
    rw [insertEntry] at member
    split at member
    · simpa using member
    · rcases List.mem_cons.mp member with same | later
      · exact Or.inl same
      · exact Or.inr (List.mem_cons_of_mem _ later)
    · rcases List.mem_cons.mp member with same | later
      · exact Or.inr (same ▸ List.mem_cons_self)
      · rcases ih later with same | old
        · exact Or.inl same
        · exact Or.inr (List.mem_cons_of_mem _ old)

theorem ascending_insertEntry [Std.TransOrd κ] [Std.LawfulEqOrd κ] (key : κ) (value : α)
    {entries : List (κ × α)} (ascending : entries.Pairwise entryBefore) :
    (insertEntry key value entries).Pairwise entryBefore := by
  induction entries with
  | nil => simp [insertEntry]
  | cons first rest ih =>
    have least := (List.pairwise_cons.mp ascending).1
    have tail := (List.pairwise_cons.mp ascending).2
    rw [insertEntry]
    split
    next less =>
      refine List.pairwise_cons.mpr ⟨fun entry member => ?_, ascending⟩
      rcases List.mem_cons.mp member with same | later
      · exact same ▸ less
      · exact Std.TransCmp.lt_trans less (least entry later)
    next equal =>
      have same : key = first.1 := Std.LawfulEqCmp.eq_of_compare equal
      exact List.pairwise_cons.mpr ⟨fun entry member => by
        have before := least entry member
        simpa [entryBefore, same] using before, tail⟩
    next greater =>
      refine List.pairwise_cons.mpr ⟨fun entry member => ?_, ih tail⟩
      rcases mem_insertEntry member with same | old
      · subst same
        exact Std.OrientedCmp.lt_of_gt greater
      · exact least entry old

variable [Std.TransOrd κ] [Std.LawfulEqOrd κ]

/-- Sets the value of a key. -/
def insert (table : Table κ α) (key : κ) (value : α) : Table κ α :=
  ⟨insertEntry key value table.entries, ascending_insertEntry key value table.ascending⟩

def ofList (entries : List (κ × α)) : Table κ α :=
  entries.foldl (fun table entry => table.insert entry.1 entry.2) empty

omit [Std.TransOrd κ] [Std.LawfulEqOrd κ] in
theorem ascending_map {β : Type} {entries : List (κ × α)} (ascending : entries.Pairwise entryBefore)
    (change : α → β) : (entries.map fun entry => (entry.1, change entry.2)).Pairwise entryBefore :=
  List.pairwise_map.mpr ascending

omit [Std.TransOrd κ] [Std.LawfulEqOrd κ] in
/-- Changes every value and no key. -/
def map {β : Type} (table : Table κ α) (change : α → β) : Table κ β :=
  ⟨table.entries.map fun entry => (entry.1, change entry.2), ascending_map table.ascending change⟩

/-- The entries of both tables; the later one decides keys that are in both. -/
def extend (table later : Table κ α) : Table κ α :=
  later.entries.foldl (fun table entry => table.insert entry.1 entry.2) table

omit [Std.TransOrd κ] [Std.LawfulEqOrd κ] in
theorem ascending_filter {entries : List (κ × α)} (ascending : entries.Pairwise entryBefore)
    (keep : κ × α → Bool) : (entries.filter keep).Pairwise entryBefore :=
  ascending.sublist List.filter_sublist

end Table

namespace Table

variable [BEq κ]

def find? (table : Table κ α) (key : κ) : Option α := table.entries.lookup key

def contains (table : Table κ α) (key : κ) : Bool := (table.find? key).isSome

/-- The table without a key. -/
def erase (table : Table κ α) (key : κ) : Table κ α :=
  ⟨table.entries.filter fun entry => entry.1 != key, ascending_filter table.ascending _⟩

end Table

namespace Table

def keys (table : Table κ α) : List κ := table.entries.map Prod.fst

instance [BEq κ] [BEq α] : BEq (Table κ α) := ⟨fun a b => a.entries == b.entries⟩

theorem ext {a b : Table κ α} (same : a.entries = b.entries) : a = b := by
  cases a; cases b; cases same; rfl

instance [DecidableEq κ] [DecidableEq α] : DecidableEq (Table κ α) := fun a b =>
  decidable_of_iff (a.entries = b.entries) ⟨ext, fun same => same ▸ rfl⟩

end Table

/-- Settings by name. -/
abbrev Settings := Table String String

end Conduit
