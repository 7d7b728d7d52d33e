import Conduit.Text.Blank
import Mathlib.Data.List.DropRight

/-!
# Reading back a joined list

What is listed are the entries between commas that are not blank. Parts that are joined with commas
are listed again as they were if and only if none of them is empty, has a comma in it or has a blank
at either end. Whatever is listed has these properties, so parts without them cannot come back.
-/
namespace Conduit.Text

/-- No blank begins or ends the text. -/
def Tight (s : List Char) : Prop := (∀ c ∈ s.head?, ¬isBlank c) ∧ ∀ c ∈ s.getLast?, ¬isBlank c

instance (s : List Char) : Decidable (Tight s) :=
  decidable_of_iff ((s.head?.all fun c => !isBlank c) ∧ s.getLast?.all fun c => !isBlank c)
    (by simp [Tight, Option.all_eq_true])

theorem trimStart_eq_self_iff {s : List Char} : trimStart s = s ↔ ∀ c ∈ s.head?, ¬isBlank c := by
  cases s with
  | nil => simp [trimStart]
  | cons first rest => simp [trimStart, List.dropWhile_eq_self_iff]

theorem trimEnd_eq_self_iff {s : List Char} : trimEnd s = s ↔ ∀ c ∈ s.getLast?, ¬isBlank c := by
  change s.rdropWhile isBlank = s ↔ _
  rw [List.rdropWhile_eq_self_iff]
  constructor
  · intro last c found
    obtain ⟨some, rfl⟩ := List.mem_getLast?_eq_getLast found
    exact last some
  · exact fun last some => last _ (List.getLast?_eq_some_getLast some)

theorem trimEnd_isPrefix (s : List Char) : trimEnd s <+: s := List.rdropWhile_prefix isBlank s

theorem tight_trim (s : List Char) : Tight (trim s) := by
  have first : trimStart (trimStart s) = trimStart s := List.dropWhile_idempotent isBlank s
  have last : trimEnd (trim s) = trim s := List.rdropWhile_idempotent isBlank (trimStart s)
  refine ⟨fun c found => ?_, trimEnd_eq_self_iff.mp last⟩
  -- What is left of a text begins as the text does.
  obtain ⟨cut, whole⟩ := trimEnd_isPrefix (trimStart s)
  refine trimStart_eq_self_iff.mp first c ?_
  rw [← whole]
  exact List.mem_head?_append_of_mem_head? found

theorem trim_eq_self_iff {s : List Char} : trim s = s ↔ Tight s := by
  refine ⟨fun same => same ▸ tight_trim s, fun tight => ?_⟩
  rw [trim, trimStart_eq_self_iff.mpr tight.1, trimEnd_eq_self_iff.mpr tight.2]

/-- Blanks around a text are trimmed with its own. -/
theorem trim_surrounded {before s after : List Char} (front : ∀ c ∈ before, isBlank c)
    (back : ∀ c ∈ after, isBlank c) : trim (before ++ s ++ after) = trim s := by
  have start : trimStart (before ++ s ++ after) = trimStart (s ++ after) := by
    rw [List.append_assoc]
    exact List.dropWhile_append_of_pos front
  have finish (kept : List Char) : trimEnd (kept ++ after) = trimEnd kept := by
    rw [trimEnd, List.reverse_append, List.dropWhile_append_of_pos (by simpa using back), trimEnd]
  rw [trim, start, trim, trimStart, List.dropWhile_append, trimStart]
  split
  next none =>
    -- Nothing is left of the text, so the blanks behind it go with those in front.
    rw [List.isEmpty_iff.mp none, List.dropWhile_eq_nil_iff.mpr back]
  · exact finish _

theorem pieces_eq_splitOn (mark : Char) (s : List Char) : pieces mark s = s.splitOn mark := by
  induction s with
  | nil => rfl
  | cons c rest ih =>
    rw [pieces, ih, List.splitOn_cons_eq_if_modifyHead]
    by_cases same : c = mark
    · simp [same]
    · rw [if_neg same, if_neg (by simpa using same)]
      cases pieces : rest.splitOn mark with
      | nil => exact absurd pieces (List.splitOn_ne_nil mark rest)
      | cons piece more => rfl

/-- No piece has the mark in it. -/
theorem mark_notMem_of_mem_pieces {mark : Char} {s piece : List Char}
    (member : piece ∈ pieces mark s) :
    mark ∉ piece := by
  induction s generalizing piece with
  | nil => simp_all [pieces]
  | cons c rest ih =>
    rw [pieces] at member
    split at member
    · rcases List.mem_cons.mp member with rfl | later
      · simp
      · exact ih later
    next different =>
      split at member
      · simp only [List.mem_singleton] at member
        simpa [member] using Ne.symm different
      next first more split =>
        rcases List.mem_cons.mp member with rfl | later
        · have apart := ih (split ▸ List.mem_cons_self)
          simp [apart, Ne.symm different]
        · exact ih (split ▸ List.mem_cons_of_mem _ later)

/-- There is nothing in the pieces that is not in the text. -/
theorem mem_of_mem_pieces {mark : Char} {s piece : List Char} (among : piece ∈ pieces mark s)
    {c : Char} (inside : c ∈ piece) : c ∈ s := by
  induction s generalizing piece with
  | nil =>
    rw [pieces, List.mem_singleton] at among
    simp [among] at inside
  | cons d rest ih =>
    rw [pieces] at among
    split at among
    · rcases List.mem_cons.mp among with rfl | later
      · cases inside
      · exact List.mem_cons_of_mem d (ih later inside)
    · split at among
      · rw [List.mem_singleton.mp among, List.mem_singleton] at inside
        exact inside ▸ List.mem_cons_self
      next first more split =>
        rcases List.mem_cons.mp among with rfl | later
        · rcases List.mem_cons.mp inside with rfl | behind
          · exact List.mem_cons_self
          · exact List.mem_cons_of_mem d (ih (split ▸ List.mem_cons_self) behind)
        · exact List.mem_cons_of_mem d (ih (split ▸ List.mem_cons_of_mem _ later) inside)

theorem trim_eq_nil_iff {s : List Char} : trim s = [] ↔ ∀ c ∈ s, isBlank c := by
  change (s.dropWhile isBlank).rdropWhile isBlank = [] ↔ _
  rw [List.rdropWhile_eq_nil_iff]
  constructor
  · intro none c member
    rw [← List.takeWhile_append_dropWhile (p := isBlank) (l := s)] at member
    rcases List.mem_append.mp member with front | back
    · exact List.mem_takeWhile_imp front
    · exact none c back
  · exact fun blank c member => blank c ((List.dropWhile_suffix isBlank).subset member)

/-- The entries between commas that are not blank, without the blanks around them. -/
def entries (s : String) : List (List Char) :=
  ((s.toList.splitOn ',').filter fun piece => !piece.all isBlank).map trim

theorem listed_eq_entries (s : String) : listed s = (entries s).map String.ofList := by
  have named (piece : List Char) :
      decide (String.ofList (trim piece) ≠ "") = !piece.all isBlank := by
    have empty : String.ofList (trim piece) = "" ↔ piece.all isBlank := by
      rw [List.all_eq_true, ← trim_eq_nil_iff]
      exact String.ofList_inj
    by_cases blank : piece.all isBlank <;> simp [empty, blank]
  rw [listed, pieces_eq_splitOn, List.filter_map, entries, List.map_map]
  simp only [Function.comp_def, named]

/-- A part of a list that can be told from the others. -/
structure Listable (part : String) : Prop where
  named : part ≠ ""
  whole : ',' ∉ part.toList
  tight : Tight part.toList

instance (part : String) : Decidable (Listable part) :=
  decidable_of_iff (part ≠ "" ∧ ',' ∉ part.toList ∧ Tight part.toList)
    ⟨fun ⟨named, whole, tight⟩ => ⟨named, whole, tight⟩,
      fun ⟨named, whole, tight⟩ => ⟨named, whole, tight⟩⟩

theorem listable_of_mem_listed {s part : String} (member : part ∈ listed s) : Listable part := by
  rw [listed, List.mem_filter, List.mem_map] at member
  obtain ⟨⟨piece, among, rfl⟩, named⟩ := member
  refine ⟨by simpa using named, ?_, ?_⟩
  · rw [String.toList_ofList]
    intro comma
    have inside : ',' ∈ piece :=
      (List.dropWhile_suffix isBlank).subset ((trimEnd_isPrefix _).subset comma)
    exact mark_notMem_of_mem_pieces among inside
  · rw [String.toList_ofList]
    exact tight_trim piece

theorem listed_joined {parts : List String} (listable : ∀ part ∈ parts, Listable part) :
    listed (joined "," parts) = parts := by
  by_cases none : parts = []
  · subst none
    decide
  · have apart : ∀ part ∈ parts.map String.toList, ',' ∉ part := by
      simpa using fun part member => (listable part member).whole
    have split : pieces ',' (joined "," parts).toList = parts.map String.toList := by
      rw [pieces_eq_splitOn, joined, String.toList_intercalate]
      exact List.splitOn_intercalate ',' apart (by simpa using none)
    have trimmed : parts.map (fun part => String.ofList (trim part.toList)) = parts := by
      refine (List.map_congr_left fun part member => ?_).trans (List.map_id parts)
      rw [trim_eq_self_iff.mpr (listable part member).tight, String.ofList_toList, id]
    rw [listed, split, List.map_map, Function.comp_def, trimmed, List.filter_eq_self]
    exact fun part member => decide_eq_true (listable part member).named

theorem listed_joined_iff (parts : List String) :
    listed (joined "," parts) = parts ↔ ∀ part ∈ parts, Listable part :=
  ⟨fun same _ member => listable_of_mem_listed (same.symm ▸ member), listed_joined⟩

end Conduit.Text
