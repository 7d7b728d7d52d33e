import Conduit.Pattern.Basic

/-!
# Sets between brackets

A set lists characters, ranges and classes; a circumflex in front turns it over. A closing bracket
in the first place stands for itself, and so does a minus sign in the first or the last place;
anywhere else a minus sign makes a range. `[:name:]` is a class, `[.c.]` the character itself and
`[=c=]` what counts as equal to it, which is nothing else. Every element takes at least one
character, so reading ends.
-/
namespace Conduit.CharSet

/-- What is left of a text after something was read from it. -/
abbrev Shorter (s : List Char) := { rest : List Char // rest.length < s.length }

inductive Element where
  /-- A character, which may begin or end a range. -/
  | char (c : Char)
  /-- A class, which may not. -/
  | every (ranges : List (Char × Char))
deriving DecidableEq, Repr

/-- The name up to its mark and a closing bracket. -/
def symbol? (mark : Char) : (s : List Char) → Option (List Char × Shorter s)
  | [] => none
  | [_] => none
  | c :: d :: rest =>
    if c = mark ∧ d = ']' then some ([], ⟨rest, by simp only [List.length_cons]; omega⟩)
    else (symbol? mark (d :: rest)).map fun (name, after) =>
      (c :: name,
        ⟨after.val, by have := after.property; simp only [List.length_cons] at this ⊢; omega⟩)

/-- What a name between marks stands for. -/
def named? (mark : Char) (name : List Char) : Option Element :=
  match mark, name with
  | ':', _ => (classRanges.lookup (String.ofList name)).map .every
  | '=', [c] => some (.every [(c, c)])
  | '.', [c] => some (.char c)
  | _, _ => none

/-- The next element; whether a minus sign may be one is told. -/
def element? (minus : Bool) : (s : List Char) → Option (Element × Shorter s)
  | [] => none
  | [c] => some (.char c, ⟨[], by simp⟩)
  | c :: d :: rest =>
    if c = '[' ∧ d ∈ ['.', '=', ':'] then do
      let (name, after) ← symbol? d rest
      let element ← named? d name
      return (element, ⟨after.val, by have := after.property; simp only [List.length_cons]; omega⟩)
    else if c = '-' ∧ !minus ∧ d ≠ ']' then none
    else some (.char c, ⟨d :: rest, by simp⟩)

/-- An element or a range of them, as ranges. -/
def item? (first : Bool) (s : List Char) : Option (List (Char × Char) × Shorter s) := do
  let (start, after) ← element? first s
  match start, hr : after.val with
  | .every ranges, _ => return (ranges, after)
  | .char low, '-' :: d :: rest =>
    if d = ']' then return ([(low, low)], after)
    else
      match ← element? true (d :: rest) with
      | (.char high, more) =>
        if low ≤ high then
          return ([(low, high)], ⟨more.val, by
            have shorter := after.property
            have further := more.property
            rw [hr] at shorter
            simp only [List.length_cons] at shorter further
            omega⟩)
        else none
      | (.every _, _) => none
  | .char low, _ => return ([(low, low)], after)

/-- The items up to the closing bracket, and what follows it. -/
def items? (first : Bool) (s : List Char) : Option (List (Char × Char) × List Char) :=
  match s with
  | [] => none
  | c :: rest =>
    if c = ']' ∧ !first then some ([], rest)
    else
      match item? first (c :: rest) with
      | none => none
      | some (ranges, after) =>
        (items? false after.val).map fun (more, left) => (ranges ++ more, left)
termination_by s.length
decreasing_by exact after.property

/-- The set behind an opening bracket, and what follows it. -/
def ofBracket? : List Char → Option (CharSet × List Char)
  | '^' :: rest => (items? true rest).map fun (ranges, after) => (⟨ranges, true⟩, after)
  | s => (items? true s).map fun (ranges, after) => (⟨ranges, false⟩, after)

end Conduit.CharSet
