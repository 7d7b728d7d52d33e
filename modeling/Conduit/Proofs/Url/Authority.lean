import Conduit.Proofs.Text.Natural
import Conduit.Url.Basic
import Mathlib.Data.List.DropRight

/-!
# Where an address leads

What follows the scheme of an address has parts: slashes, perhaps a user, a host, perhaps a port,
and whatever stands behind. Every text has these parts, and only the host and the port tell where
requests go.
-/
namespace Conduit.Url

open Number

/-- Where the requests for an address go. -/
structure Endpoint where
  secure : Bool
  host : Host
  port : Nat
deriving DecidableEq, Repr

def standardPort (secure : Bool) : Nat := if secure then 443 else 80

def endpoint (url : Url) : Endpoint := ⟨url.secure, url.host, url.effectivePort⟩

/-! ### The parts -/

def isBracket (c : Char) : Bool := c = '[' || c = ']'

/-- The last bracket so far is an opening one, where `bracket` is the last one before the text. -/
def LeavesOpen (bracket : Char) (s : List Char) : Prop :=
  (s.filter isBracket).getLast?.getD bracket = '['

/-- Colons in a host stand in brackets. The first one that does not is where the port begins. -/
structure Parted (bracket : Char) (host port : List Char) : Prop where
  sheltered : ∀ before after, host = before ++ ':' :: after → LeavesOpen bracket before
  apart : ∀ c ∈ port.head?, c = ':' ∧ ¬LeavesOpen bracket host

structure Authority where
  slashes : List Char
  user : List Char
  host : List Char
  port : List Char
  behind : List Char
  slashed : ∀ c ∈ slashes, isSlash c
  unslashed : ∀ c ∈ (user ++ (host ++ port) ++ behind).head?, ¬isSlash c
  unended : ∀ c ∈ user ++ (host ++ port), ¬endsAuthority c
  ended : ∀ c ∈ behind.head?, endsAuthority c
  /-- A user is given by all up to the last at sign. -/
  signed : ∀ c ∈ user.getLast?, c = '@'
  unsigned : '@' ∉ host ++ port
  /-- Outside of a host there is no open bracket. -/
  parted : Parted ']' host port

def Authority.text (a : Authority) : List Char :=
  a.slashes ++ (a.user ++ (a.host ++ a.port) ++ a.behind)

theorem leavesOpen_nil (bracket : Char) : LeavesOpen bracket [] ↔ bracket = '[' := Iff.rfl

theorem leavesOpen_cons (bracket c : Char) (s : List Char) :
    LeavesOpen bracket (c :: s) ↔ LeavesOpen (if isBracket c then c else bracket) s := by
  unfold LeavesOpen
  rw [List.filter_cons]
  split
  · rw [List.getLast?_cons, Option.getD_some]
  · rfl

/-- What is left to be parted once a character of the host is read. -/
theorem parted_cons_iff {bracket c : Char} {host port : List Char} :
    Parted bracket (c :: host) port ↔
      (c = ':' → bracket = '[') ∧ Parted (if isBracket c then c else bracket) host port := by
  constructor
  · rintro ⟨sheltered, apart⟩
    refine ⟨fun colon => sheltered [] host (by rw [colon, List.nil_append]),
      fun before after split => ?_, ?_⟩
    · rw [← leavesOpen_cons]
      exact sheltered (c :: before) after (by rw [split, List.cons_append])
    · simpa only [leavesOpen_cons] using apart
  · rintro ⟨first, sheltered, apart⟩
    refine ⟨fun before after split => ?_, by simpa only [leavesOpen_cons] using apart⟩
    cases before with
    | nil => exact first (List.cons.inj split).1
    | cons d before =>
      obtain ⟨rfl, rest⟩ := List.cons.inj split
      rw [leavesOpen_cons]
      exact sheltered before after rest

theorem splitPort_cons (bracket c : Char) (s : List Char) : splitPort (bracket = '[') (c :: s) =
    if c = ':' ∧ bracket ≠ '[' then ([], c :: s)
    else (c :: (splitPort ((if isBracket c then c else bracket) = '[') s).1,
      (splitPort ((if isBracket c then c else bracket) = '[') s).2) := by
  have inside : (if c = '[' then true else if c = ']' then false else decide (bracket = '[')) =
      decide ((if isBracket c then c else bracket) = '[') := by
    unfold isBracket
    by_cases opening : c = '['
    · simp [opening]
    · by_cases closing : c = ']'
      · simp [closing]
      · simp [opening, closing]
  rw [splitPort, inside]
  simp

/-- A text is parted in one way. -/
theorem splitPort_eq_iff {bracket : Char} {s host port : List Char} :
    splitPort (bracket = '[') s = (host, port) ↔ s = host ++ port ∧ Parted bracket host port := by
  -- The last bracket so far changes along the text, so the induction is for all of them.
  induction s generalizing bracket host with
  | nil =>
    simp only [splitPort, Prod.mk.injEq]
    constructor
    · rintro ⟨rfl, rfl⟩
      exact ⟨rfl, by simp, by simp⟩
    · rintro ⟨none, -⟩
      exact ⟨(List.append_eq_nil_iff.mp none.symm).1.symm,
        (List.append_eq_nil_iff.mp none.symm).2.symm⟩
  | cons c rest ih =>
    rw [splitPort_cons]
    split
    next colon =>
      obtain ⟨rfl, closed⟩ := colon
      simp only [Prod.mk.injEq]
      constructor
      · rintro ⟨rfl, rfl⟩
        exact ⟨rfl, by simp, by simpa [leavesOpen_nil] using closed⟩
      · rintro ⟨whole, parted⟩
        cases host with
        | nil => exact ⟨rfl, whole⟩
        | cons d host =>
          obtain ⟨rfl, -⟩ := List.cons.inj whole
          exact absurd ((parted_cons_iff.mp parted).1 rfl) closed
    next inner =>
      simp only [Prod.mk.injEq]
      constructor
      · rintro ⟨rfl, rfl⟩
        obtain ⟨whole, parted⟩ := ih.mp rfl
        refine ⟨by rw [List.cons_append, ← whole], parted_cons_iff.mpr ⟨fun colon => ?_, parted⟩⟩
        exact Classical.not_not.mp fun closed => inner ⟨colon, closed⟩
      · rintro ⟨whole, parted⟩
        cases host with
        | nil =>
          -- A port that begins here begins with a colon outside of brackets.
          obtain ⟨colon, closed⟩ := parted.apart c (by rw [← List.nil_append port, ← whole]; rfl)
          exact absurd ⟨colon, closed⟩ inner
        | cons d host =>
          obtain ⟨rfl, rest⟩ := List.cons.inj whole
          rw [ih.mpr ⟨rest, (parted_cons_iff.mp parted).2⟩]
          exact ⟨rfl, rfl⟩

/-- How a port stands behind a host: not at all, or as digits behind a colon. -/
inductive IsPort : List Char → Prop where
  | omitted : IsPort []
  | given (digits : List Digit) : IsPort (':' :: digits.map Digit.char)

theorem IsPort.inside {port : List Char} (isPort : IsPort port) :
    ∀ c ∈ port, ¬endsAuthority c ∧ c ≠ '@' ∧ ¬isControlOrBlank c := by
  have digit : ∀ d : Digit, ¬endsAuthority d.char ∧ d.char ≠ '@' ∧
      ¬isControlOrBlank d.char := by decide
  intro c member
  cases isPort with
  | omitted => cases member
  | given digits =>
    rcases List.mem_cons.mp member with rfl | among
    · decide
    · obtain ⟨d, -, rfl⟩ := List.mem_map.mp among
      exact digit d

/-- What a domain may hold means nothing in an address. -/
theorem ordinary_of_not_isForbidden {c : Char} (free : ¬Domain.isForbidden c) :
    ¬endsAuthority c ∧ ¬isBracket c ∧ c ≠ '@' ∧ c ≠ ':' := by
  refine ⟨fun ends => free ?_, fun bracket => free ?_, ?_, ?_⟩
  · simp only [endsAuthority, isSlash, Bool.or_eq_true, decide_eq_true_eq] at ends
    rcases ends with ((rfl | rfl) | rfl) | rfl <;> decide
  · simp only [isBracket, Bool.or_eq_true, decide_eq_true_eq] at bracket
    rcases bracket with rfl | rfl <;> decide
  · rintro rfl
    exact free (by decide)
  · rintro rfl
    exact free (by decide)

theorem parted_free {name port : List Char} (free : ∀ c ∈ name, ¬Domain.isForbidden c)
    (isPort : IsPort port) :
    Parted ']' name port where
  sheltered before after whole := by
    have colon : ':' ∈ name := whole ▸ List.mem_append_right before List.mem_cons_self
    exact absurd rfl (ordinary_of_not_isForbidden (free ':' colon)).2.2.2
  apart c first := by
    have unopened : name.filter isBracket = [] :=
      List.filter_eq_nil_iff.mpr fun c member => (ordinary_of_not_isForbidden (free c member)).2.1
    refine ⟨?_, by simp [LeavesOpen, unopened]⟩
    cases isPort with
    | omitted => cases first
    | given digits => exact (Option.some.inj first).symm

/-- A name, perhaps a port, and what stands behind them. -/
def Authority.ofName {slashes name port behind : List Char} (slashed : ∀ c ∈ slashes, isSlash c)
    (named : name ≠ []) (free : ∀ c ∈ name, ¬Domain.isForbidden c) (isPort : IsPort port)
    (ended : ∀ c ∈ behind.head?, endsAuthority c) :
    Authority where
  slashes := slashes
  user := []
  host := name
  port := port
  behind := behind
  slashed := slashed
  unslashed c first := by
    obtain ⟨start, rest, rfl⟩ := List.exists_cons_of_ne_nil named
    obtain rfl : start = c := Option.some.inj first
    have outside := (ordinary_of_not_isForbidden (free start List.mem_cons_self)).1
    exact fun slash => outside (by simp [endsAuthority, slash])
  unended c member := by
    rw [List.nil_append] at member
    rcases List.mem_append.mp member with inside | behind
    · exact (ordinary_of_not_isForbidden (free c inside)).1
    · exact (isPort.inside c behind).1
  ended := ended
  signed := by simp
  unsigned member := by
    rcases List.mem_append.mp member with inside | behind
    · exact (ordinary_of_not_isForbidden (free '@' inside)).2.2.1 rfl
    · exact (isPort.inside '@' behind).2.1 rfl
  parted := parted_free free isPort

/-! ### Taking an authority apart -/

section

variable {α : Type} {p : α → Bool}

theorem takeWhile_bounded {kept rest : List α} (inside : ∀ a ∈ kept, p a)
    (bound : ∀ a ∈ rest.head?, ¬p a) : (kept ++ rest).takeWhile p = kept := by
  have stop : rest.takeWhile p = [] := by
    cases rest with
    | nil => rfl
    | cons a more => exact List.takeWhile_cons_of_neg (bound a rfl)
  rw [List.takeWhile_append_of_pos inside, stop, List.append_nil]

theorem dropWhile_bounded {dropped rest : List α} (inside : ∀ a ∈ dropped, p a)
    (bound : ∀ a ∈ rest.head?, ¬p a) : (dropped ++ rest).dropWhile p = rest := by
  rw [List.dropWhile_append_of_pos inside]
  cases rest with
  | nil => rfl
  | cons a more => exact List.dropWhile_cons_of_neg (bound a rfl)

theorem exists_span (p : α → Bool) (s : List α) :
    ∃ front rest, s = front ++ rest ∧ (∀ a ∈ front, p a) ∧ ∀ a ∈ rest.head?, ¬p a := by
  refine ⟨s.takeWhile p, s.dropWhile p, List.takeWhile_append_dropWhile.symm,
    fun a => List.mem_takeWhile_imp, fun a first => ?_⟩
  have stopped := List.head?_dropWhile_not p s
  rw [first] at stopped
  simpa using stopped

end

theorem afterUser_append {user rest : List Char} (signed : ∀ c ∈ user.getLast?, c = '@')
    (unsigned : '@' ∉ rest) :
    afterUser (user ++ rest) = rest := by
  rw [afterUser, List.reverse_append, takeWhile_bounded, List.reverse_reverse]
  · intro c member
    refine decide_eq_true fun sign => unsigned ?_
    rwa [← sign, ← List.mem_reverse]
  · intro c last
    rw [List.head?_reverse] at last
    simp [signed c last]

theorem exists_user (s : List Char) :
    ∃ user rest, s = user ++ rest ∧ (∀ c ∈ user.getLast?, c = '@') ∧ '@' ∉ rest := by
  obtain ⟨rest, user, whole, unsigned, signed⟩ := exists_span (· ≠ '@') s.reverse
  refine ⟨user.reverse, rest.reverse, ?_, fun c last => ?_, fun sign => ?_⟩
  · rw [← List.reverse_append, ← whole, List.reverse_reverse]
  · rw [List.getLast?_reverse] at last
    simpa using signed c last
  · simpa using unsigned '@' (List.mem_reverse.mp sign)

/-- Every text has the parts of an authority. -/
theorem Authority.exists_text (s : List Char) : ∃ a : Authority, a.text = s := by
  -- From the outside to the inside: each cut leaves what the next one is about.
  obtain ⟨slashes, s, rfl, slashed, unslashed⟩ := exists_span isSlash s
  obtain ⟨front, behind, rfl, unended, ended⟩ := exists_span (!endsAuthority ·) s
  obtain ⟨user, rest, rfl, signed, unsigned⟩ := exists_user front
  obtain ⟨whole, parted⟩ := splitPort_eq_iff.mp (rfl : splitPort (']' = '[') rest = (_, _))
  rw [whole] at unslashed unended unsigned ⊢
  exact ⟨⟨slashes, user, _, _, behind, slashed, unslashed, by simpa using unended,
    by simpa using ended, signed, unsigned, parted⟩, rfl⟩

/-! ### The port -/

/-- How a port is written: in digits, unless it is the standard one of the scheme. -/
inductive SpellsPort (secure : Bool) : List Char → Nat → Prop where
  | omitted : SpellsPort secure [] (standardPort secure)
  | empty : SpellsPort secure [':'] (standardPort secure)
  | written {digits : List Digit} (some : digits ≠ []) (small : digitsValue 0 digits ≤ 65535) :
      SpellsPort secure (':' :: digits.map Digit.char) (digitsValue 0 digits)

theorem SpellsPort.isPort {secure : Bool} {text : List Char} {n : Nat}
    (spelled : SpellsPort secure text n) :
    IsPort text := by
  cases spelled with
  | omitted => exact .omitted
  | empty => exact .given []
  | written => exact .given _

theorem spellsPort_colon_iff {secure : Bool} {n : Nat} :
    SpellsPort secure [':'] n ↔ n = standardPort secure := by
  constructor
  · generalize lone : [':'] = text
    rintro (_ | _ | ⟨some, -⟩)
    · rfl
    · rfl
    · exact absurd (List.map_eq_nil_iff.mp (List.cons.inj lone).2.symm) some
  · rintro rfl
    exact .empty

theorem parsePort_ok_iff {secure : Bool} {text : List Char} {n : Nat}
    (colon : ∀ c ∈ text.head?, c = ':') :
    (∃ port, parsePort text = .ok port ∧ port.getD (standardPort secure) = n) ↔
      SpellsPort secure text n := by
  constructor
  · rintro ⟨port, read, rfl⟩
    unfold parsePort at read
    split at read
    · cases read
      exact .omitted
    next c =>
      cases read
      obtain rfl : c = ':' := colon c rfl
      exact .empty
    -- Something stands behind the colon: it has to be digits, and their value a word of 16 bits.
    next c rest lone =>
      obtain rfl : c = ':' := colon c rfl
      split at read
      next value digits =>
        split at read
        next small =>
          cases read
          obtain ⟨digits, rfl, rfl⟩ := Text.digitsIn_ten_eq_some_iff.mp digits
          exact .written (fun none => lone (by rw [none]; rfl)) small
        · cases read
      · cases read
  · intro spelled
    cases spelled with
    | omitted => exact ⟨none, rfl, rfl⟩
    | empty => exact ⟨none, rfl, rfl⟩
    | @written digits some small =>
      obtain ⟨d, more, rfl⟩ := List.exists_cons_of_ne_nil some
      have digits : Text.digitsIn 10 (d.char :: more.map Digit.char) =
          .some (digitsValue 0 (d :: more)) :=
        Text.digitsIn_ten_eq_some_iff.mpr ⟨d :: more, rfl, rfl⟩
      refine ⟨.some (digitsValue 0 (d :: more)), ?_, rfl⟩
      simp only [List.map_cons, parsePort, digits, if_pos small]

/-! ### The endpoint -/

/-- The host and the port lead there, whatever the other parts are. -/
structure Authority.Names (a : Authority) (secure : Bool) (endpoint : Endpoint) : Prop where
  scheme : endpoint.secure = secure
  host : parseHost a.host = .ok endpoint.host
  port : SpellsPort secure a.port endpoint.port

theorem Authority.splitPort_afterUser (a : Authority) :
    splitPort false (afterUser (((a.text).dropWhile isSlash).takeWhile fun c => !endsAuthority c)) =
      (a.host, a.port) := by
  have front : (a.text).dropWhile isSlash = a.user ++ (a.host ++ a.port) ++ a.behind :=
    dropWhile_bounded a.slashed a.unslashed
  rw [front, takeWhile_bounded (by simpa using a.unended) (by simpa using a.ended),
    afterUser_append a.signed a.unsigned]
  exact splitPort_eq_iff.mpr ⟨rfl, a.parted⟩

theorem Authority.map_endpoint_parseRest (a : Authority) (secure : Bool) :
    (parseRest secure a.text).map endpoint = (do
      let host ← parseHost a.host
      let port ← parsePort a.port
      return ⟨secure, host, port.getD (standardPort secure)⟩) := by
  simp only [parseRest, a.splitPort_afterUser]
  cases parseHost a.host with
  | error cause => rfl
  | ok host => cases parsePort a.port <;> rfl

theorem Authority.names_iff {a : Authority} {secure : Bool} {e : Endpoint} :
    a.Names secure e ↔ ∃ url, parseRest secure a.text = .ok url ∧ url.endpoint = e := by
  have colon : ∀ c ∈ a.port.head?, c = ':' := fun c first => (a.parted.apart c first).1
  have read : (parseRest secure a.text).map endpoint = .ok e ↔
      ∃ url, parseRest secure a.text = .ok url ∧ url.endpoint = e := by
    cases parseRest secure a.text <;> simp [Except.map]
  -- Reading an authority is reading its host and then its port.
  rw [← read, a.map_endpoint_parseRest]
  constructor
  · rintro ⟨rfl, host, port⟩
    obtain ⟨written, known, same⟩ := (parsePort_ok_iff colon).mpr port
    simp only [host, known, same, bind, Except.bind, pure, Except.pure]
  · intro leads
    cases host : parseHost a.host with
    | error cause => simp [host, bind, Except.bind] at leads
    | ok h =>
      cases port : parsePort a.port with
      | error cause => simp [host, port, bind, Except.bind] at leads
      | ok p =>
        simp only [host, port, bind, Except.bind, pure, Except.pure, Except.ok.injEq] at leads
        subst leads
        exact ⟨rfl, host, (parsePort_ok_iff colon).mp ⟨p, port, rfl⟩⟩

/-- An address is read if and only if its host and its port can be read, and leads where they
say. -/
theorem exists_names_iff {s : List Char} {secure : Bool} {e : Endpoint} :
    (∃ a : Authority, a.text = s ∧ a.Names secure e) ↔
      ∃ url, parseRest secure s = .ok url ∧ url.endpoint = e := by
  constructor
  · rintro ⟨a, rfl, names⟩
    exact Authority.names_iff.mp names
  · intro read
    obtain ⟨a, rfl⟩ := Authority.exists_text s
    exact ⟨a, rfl, Authority.names_iff.mpr read⟩

end Conduit.Url
