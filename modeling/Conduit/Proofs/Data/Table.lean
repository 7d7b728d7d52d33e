import Conduit.Data.Table
import Mathlib.Data.List.Sort

/-!
# Look-ups in tables

A table is known by its look-ups: an insertion changes one of them, so does an erasure, and an
extension lets the later table decide wherever it has an entry. Tables with the same look-ups are
the same. After these laws nothing about the order of the entries is needed to say what a table
holds.
-/
namespace Conduit.Table

variable {κ α : Type} [Ord κ]

omit [Ord κ] in
private theorem lookup_cons_eq_ite [BEq κ] (key : κ) (entry : κ × α) (rest : List (κ × α)) :
    (entry :: rest).lookup key = if key == entry.1 then some entry.2 else rest.lookup key := by
  rw [List.lookup_cons]
  split <;> simp_all

omit [Ord κ] in
private theorem lookup_map [BEq κ] {β : Type} (entries : List (κ × α)) (change : α → β) (key : κ) :
    (entries.map fun entry => (entry.1, change entry.2)).lookup key =
      (entries.lookup key).map change := by
  induction entries with
  | nil => rfl
  | cons entry rest ih =>
    rw [List.map_cons, lookup_cons_eq_ite, lookup_cons_eq_ite, ih]
    split <;> rfl

theorem find?_map [BEq κ] {β : Type} (table : Table κ α) (change : α → β) (key : κ) :
    (table.map change).find? key = (table.find? key).map change :=
  lookup_map table.entries change key

theorem ascending_keys (table : Table κ α) :
    table.keys.Pairwise fun one other => compare one other = .lt :=
  List.pairwise_map.mpr table.ascending

theorem nodup_keys [Std.TransOrd κ] (table : Table κ α) : table.keys.Nodup := by
  refine table.ascending_keys.imp fun {one other} less same => ?_
  subst same
  have equal : compare one one = .eq := Std.ReflCmp.compare_self
  cases less.symm.trans equal

variable [Std.TransOrd κ] [Std.LawfulEqOrd κ] [BEq κ] [LawfulBEq κ]

omit [Std.TransOrd κ] in
theorem lookup_insertEntry (key other : κ) (value : α) (entries : List (κ × α)) :
    (insertEntry key value entries).lookup other =
      if other == key then some value else entries.lookup other := by
  -- An insertion passes the entries before its key and stops at the first one that is not.
  induction entries with
  | nil => simp only [insertEntry, lookup_cons_eq_ite]
  | cons first rest ih =>
    rw [insertEntry]
    split
    · rw [lookup_cons_eq_ite]
    next equal =>
      have same : key = first.1 := Std.LawfulEqCmp.eq_of_compare equal
      rw [lookup_cons_eq_ite, lookup_cons_eq_ite, same]
      by_cases here : other = first.1 <;> simp [here]
    next greater =>
      have different : first.1 ≠ key := by
        rintro rfl
        simp [Std.ReflOrd.compare_self] at greater
      rw [lookup_cons_eq_ite, lookup_cons_eq_ite, ih]
      by_cases here : other = first.1 <;> simp [here, different]

theorem find?_insert (table : Table κ α) (key other : κ) (value : α) :
    (table.insert key value).find? other = if other == key then some value else table.find? other :=
  lookup_insertEntry key other value table.entries

omit [Std.LawfulEqOrd κ] in
/-- No later entry has the key of an earlier one. -/
theorem lookup_eq_none_of_before (first : κ × α) {rest : List (κ × α)}
    (before : ∀ entry ∈ rest, entryBefore first entry) : rest.lookup first.1 = none := by
  refine List.lookup_eq_none_iff.mpr fun entry member => ?_
  have less := before entry member
  rw [bne_iff_ne]
  intro same
  simp [entryBefore, same, Std.ReflOrd.compare_self] at less

theorem find?_foldl_insert (entries : List (κ × α)) (ascending : entries.Pairwise entryBefore)
    (table : Table κ α) (key : κ) :
    (entries.foldl (fun table entry => table.insert entry.1 entry.2) table).find? key =
      (entries.lookup key).or (table.find? key) := by
  -- Every insertion changes the table that the rest is folded into, so the table is general.
  induction entries generalizing table with
  | nil => rfl
  | cons first rest ih =>
    have least := (List.pairwise_cons.mp ascending).1
    rw [List.foldl_cons, ih (List.pairwise_cons.mp ascending).2, find?_insert, lookup_cons_eq_ite]
    by_cases here : key = first.1
    · rw [here, lookup_eq_none_of_before first least]
      simp
    · simp [here]

/-- Of the entries that are inserted one after the other the last one for a key stays. -/
theorem find?_foldl_insert_eq (entries : List (κ × α)) (table : Table κ α) (key : κ) :
    (entries.foldl (fun table entry => table.insert entry.1 entry.2) table).find? key =
      (entries.reverse.lookup key).or (table.find? key) := by
  induction entries generalizing table with
  | nil => rfl
  | cons first rest ih =>
    rw [List.foldl_cons, ih, find?_insert, List.reverse_cons, List.lookup_append,
      lookup_cons_eq_ite, Option.or_assoc]
    split <;> rfl

theorem find?_extend (table later : Table κ α) (key : κ) :
    (table.extend later).find? key = (later.find? key).or (table.find? key) :=
  find?_foldl_insert later.entries later.ascending table key

omit [Ord κ] [Std.TransOrd κ] [Std.LawfulEqOrd κ] in
theorem lookup_filter_key (key other : κ) (entries : List (κ × α)) :
    (entries.filter fun entry => entry.1 != key).lookup other =
      if other == key then none else entries.lookup other := by
  induction entries with
  | nil => simp
  | cons first rest ih =>
    rw [List.filter_cons, lookup_cons_eq_ite]
    by_cases gone : first.1 = key
    · rw [if_neg (by simpa using gone), ih, gone]
      split <;> rfl
    · rw [if_pos (by simpa using gone), lookup_cons_eq_ite, ih]
      by_cases here : other = first.1 <;> simp [here, gone]

omit [Std.TransOrd κ] [Std.LawfulEqOrd κ] in
theorem find?_erase (table : Table κ α) (key other : κ) :
    (table.erase key).find? other = if other == key then none else table.find? other :=
  lookup_filter_key key other table.entries

omit [Std.LawfulEqOrd κ] in
theorem lookup_eq_some_iff {entries : List (κ × α)} (ascending : entries.Pairwise entryBefore)
    {key : κ} {value : α} : entries.lookup key = some value ↔ (key, value) ∈ entries := by
  induction entries with
  | nil => simp
  | cons first rest ih =>
    obtain ⟨least, others⟩ := List.pairwise_cons.mp ascending
    obtain ⟨name, first⟩ := first
    rw [lookup_cons_eq_ite, List.mem_cons, Prod.mk.injEq]
    by_cases here : key = name
    · subst here
      -- The key stands in front, and nowhere behind.
      have once : ¬(key, value) ∈ rest := fun later => by
        rw [← ih others, lookup_eq_none_of_before _ least] at later
        cases later
      simp [once, eq_comm]
    · simp [here, ih others]

omit [Std.LawfulEqOrd κ] in
theorem find?_eq_some_iff {table : Table κ α} {key : κ} {value : α} :
    table.find? key = some value ↔ (key, value) ∈ table.entries :=
  lookup_eq_some_iff table.ascending

omit [Std.LawfulEqOrd κ] in
theorem mem_keys_iff {table : Table κ α} {key : κ} :
    key ∈ table.keys ↔ ∃ value, table.find? key = some value := by
  simp [keys, find?_eq_some_iff]

omit [Std.LawfulEqOrd κ] [BEq κ] [LawfulBEq κ] in
theorem not_entryBefore_of_entryBefore {one two : κ × α} (before : entryBefore one two) :
    ¬entryBefore two one := by
  have after := Std.OrientedCmp.gt_of_lt before
  simp [entryBefore, after]

omit [Std.LawfulEqOrd κ] in
/-- Tables with the same look-ups are the same. -/
theorem eq_of_find? {one two : Table κ α} (same : ∀ key, one.find? key = two.find? key) :
    one = two := by
  have irrefl : Std.Irrefl (entryBefore : κ × α → κ × α → Prop) :=
    ⟨fun _ before => not_entryBefore_of_entryBefore before before⟩
  have antisymm : Std.Antisymm (entryBefore : κ × α → κ × α → Prop) :=
    ⟨fun _ _ before after => absurd after (not_entryBefore_of_entryBefore before)⟩
  refine ext (one.ascending.eq_of_mem_iff two.ascending fun entry => ?_)
  rw [← find?_eq_some_iff, ← find?_eq_some_iff, same]

theorem insert_eq_self {table : Table κ α} {key : κ} {value : α}
    (found : table.find? key = some value) :
    table.insert key value = table := by
  refine eq_of_find? fun other => ?_
  rw [find?_insert]
  split
  next here =>
    rw [LawfulBEq.eq_of_beq here, found]
  · rfl

omit [Std.TransOrd κ] [Std.LawfulEqOrd κ] in
theorem mem_keys_erase {table : Table κ α} {key other : κ} :
    other ∈ (table.erase key).keys ↔ other ∈ table.keys ∧ other ≠ key := by
  simp only [keys, erase, List.mem_map, List.mem_filter, bne_iff_ne]
  constructor
  · rintro ⟨entry, ⟨member, apart⟩, rfl⟩
    exact ⟨⟨entry, member, rfl⟩, apart⟩
  · rintro ⟨⟨entry, member, rfl⟩, apart⟩
    exact ⟨entry, ⟨member, apart⟩, rfl⟩

omit [Std.TransOrd κ] [Std.LawfulEqOrd κ] in
/-- Erasing a key changes nothing if and only if the table does not have it. -/
theorem erase_eq_self_iff {table : Table κ α} {key : κ} :
    table.erase key = table ↔ key ∉ table.keys := by
  constructor
  · intro same member
    rw [← same, mem_keys_erase] at member
    exact member.2 rfl
  · intro absent
    refine ext (List.filter_eq_self.mpr fun entry member => ?_)
    rw [bne_iff_ne]
    exact fun same => absent (List.mem_map.mpr ⟨entry, member, same⟩)

end Conduit.Table
