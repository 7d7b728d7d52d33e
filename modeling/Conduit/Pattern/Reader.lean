import Conduit.Pattern.Bracket
import Conduit.Text.Natural

/-!
# Reading patterns

The text of a pattern is cut into tokens, and the tokens are gathered with the groups that are open.
What repeats needs something before it in its branch that can be repeated, which an anchor is not. A
closing parenthesis that closes nothing stands for itself, as a closing brace does. A group can be
asked for again once it is closed.
-/
namespace Conduit.Pattern

inductive Token where
  /-- What can be repeated. -/
  | atom (pattern : Pattern)
  | anchor (anchor : Anchor)
  | rounds (least : Nat) (most : Option Nat)
  | bar
  | opening
  | closing
deriving DecidableEq, Repr

/-- The most rounds that may be asked for. -/
def roundLimit : Nat := 32767

/-- The number in front, if there is one, and what follows it. -/
def splitNumber (s : List Char) : Option Nat × List Char :=
  let digits := s.takeWhile Char.isDigit
  (if digits.isEmpty then none else Text.digitsIn 10 digits, s.dropWhile Char.isDigit)

/-- The numbers of rounds behind an opening brace, and what follows the closing one. -/
def rounds? (s : List Char) : Option (Token × List Char) :=
  let (least, after) := splitNumber s
  match least, after with
  | some n, '\x7d' :: rest => if n ≤ roundLimit then some (.rounds n (some n), rest) else none
  | _, ',' :: more => upTo (least.getD 0) more
  | _, '\\' :: ',' :: more => upTo (least.getD 0) more
  | _, _ => none
where
  upTo (least : Nat) (s : List Char) : Option (Token × List Char) :=
    match splitNumber s with
    | (most, '\x7d' :: rest) =>
      if most.all (least ≤ ·) && most.getD least ≤ roundLimit then some (.rounds least most, rest)
      else none
    | _ => none

/-- What a character stands for behind a backslash. -/
def escaped (c : Char) : Token :=
  match c with
  | '<' => .anchor .wordStart
  | '>' => .anchor .wordEnd
  | 'b' => .anchor .wordEdge
  | 'B' => .anchor .noWordEdge
  | '\x60' => .anchor .textStart
  | '\x27' => .anchor .textEnd
  | 'w' => .atom (.one ⟨CharSet.wordRanges, false⟩)
  | 'W' => .atom (.one ⟨CharSet.wordRanges, true⟩)
  | 's' => .atom (.one ⟨CharSet.blanks, false⟩)
  | 'S' => .atom (.one ⟨CharSet.blanks, true⟩)
  | _ =>
    if c.isDigit ∧ c ≠ '0' then .atom (.again (c.toNat - '0'.toNat)) else .atom (.one (.single c))

/-- The token that begins with a character, and what follows it. -/
def token? (c : Char) (s : List Char) : Option (Token × List Char) :=
  match c with
  | '\\' =>
    match s with
    | [] => none
    | d :: rest => some (escaped d, rest)
  | '[' => (CharSet.ofBracket? s).map fun (set, rest) => (.atom (.one set), rest)
  | '\x7b' => rounds? s
  | '^' => some (.anchor .textStart, s)
  | '$' => some (.anchor .textEnd, s)
  | '.' => some (.atom (.one .any), s)
  | '*' => some (.rounds 0 none, s)
  | '+' => some (.rounds 1 none, s)
  | '?' => some (.rounds 0 (some 1), s)
  | '|' => some (.bar, s)
  | '(' => some (.opening, s)
  | ')' => some (.closing, s)
  | _ => some (.atom (.one (.single c)), s)

/-- Cuts a text into tokens, of which the first so many characters are used already. -/
def tokens? : Nat → List Char → Option (List Token)
  | _, [] => some []
  | used + 1, _ :: rest => tokens? used rest
  | 0, c :: rest =>
    match token? c rest with
    | none => none
    | some (token, after) => (tokens? (rest.length - after.length) rest).map (token :: ·)

/-- A group that is open: the branches before the current one, and the parts of that, last first,
each with whether it can be repeated. -/
structure Open where
  number : Nat
  branches : Option Pattern
  parts : List (Pattern × Bool)

/-- What has been gathered: the groups that are open around the innermost one, that one, how many
were opened, and which are closed. -/
structure Gathered where
  around : List Open
  inner : Open
  opened : Nat
  closed : List Nat

def Open.fresh (number : Nat) : Open := ⟨number, none, []⟩

def Open.branch (group : Open) : Pattern :=
  group.parts.foldl (fun rest part => .sequence part.1 rest) .empty

/-- All the branches as one pattern. -/
def Open.whole (group : Open) : Pattern :=
  match group.branches with
  | none => group.branch
  | some before => .either before group.branch

def Open.push (group : Open) (part : Pattern) (repeatable : Bool) : Open :=
  { group with parts := (part, repeatable) :: group.parts }

namespace Gathered

def push (state : Gathered) (part : Pattern) (repeatable : Bool) : Gathered :=
  { state with inner := state.inner.push part repeatable }

def step (state : Gathered) : Token → Option Gathered
  | .atom (.again number) =>
    if number ∈ state.closed then some (state.push (.again number) true) else none
  | .atom part => some (state.push part true)
  | .anchor asked => some (state.push (.anchor asked) false)
  | .bar => some { state with inner := ⟨state.inner.number, some state.inner.whole, []⟩ }
  | .rounds least most =>
    match state.inner.parts with
    | (part, true) :: before =>
      some { state with
        inner := { state.inner with parts := (.rounds part least most, true) :: before } }
    | _ => none
  | .opening =>
    let number := state.opened + 1
    some { state with
      around := state.inner :: state.around, inner := .fresh number, opened := number }
  | .closing =>
    match state.around with
    | [] => some (state.push (.one (.single ')')) true)
    | outer :: around =>
      let number := state.inner.number
      some { state with
        around, inner := outer.push (.group number state.inner.whole) true,
        closed := number :: state.closed }

end Gathered

/-- The pattern of a text, if it is one. -/
def ofText? (s : String) : Option Pattern := do
  let gathered ← (← tokens? 0 (bytewise s)).foldlM Gathered.step ⟨[], .fresh 0, 0, []⟩
  if gathered.around.isEmpty then some gathered.inner.whole else none

end Conduit.Pattern
