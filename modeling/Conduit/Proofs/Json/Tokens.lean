import Conduit.Json.Reader

/-!
# Documents as tokens

A document is a list of tokens: scalars and names, with brackets, commas and colons between them.
The reader takes a token as a whole, and it ends up with a document exactly on the tokens of that
document. One direction follows the document. For the other one the open containers and what may
come next tell all the tokens that were taken.
-/
namespace Conduit.Json

open Number

inductive Token where
  | mark (mark : Punctuation)
  | null
  | bool (value : Bool)
  | number (n : Numeral)
  | text (spelled : Option String)

mutual

def tokens : Json → List Token
  | .null => [.null]
  | .bool value => [.bool value]
  | .number n => [.number n]
  | .text spelled => [.text spelled]
  | .array items => .mark .openArray :: (tokensOfItems items ++ [.mark .closeArray])
  | .object members => .mark .openObject :: (tokensOfMembers members ++ [.mark .closeObject])

def tokensOfItems : List Json → List Token
  | [] => []
  | [item] => item.tokens
  | item :: next :: rest => item.tokens ++ .mark .comma :: tokensOfItems (next :: rest)

def tokensOfMembers : List (Option String × Json) → List Token
  | [] => []
  | [(name, value)] => .text name :: .mark .colon :: value.tokens
  | (name, value) :: next :: rest =>
    .text name :: .mark .colon :: (value.tokens ++ .mark .comma :: tokensOfMembers (next :: rest))

end

/-- Where a value may stand. -/
def Expectation.Awaits (expects : Expectation) : Prop := expects = .value ∨ expects = .itemOrEnd

namespace Reader

def take (reader : Reader) : Token → Option Reader
  | .mark mark => reader.punctuation mark
  | .null => reader.scalar .null
  | .bool value => reader.scalar (.bool value)
  | .number n => reader.scalar (.number n)
  | .text spelled => reader.string spelled

/-- What the reader makes of the tokens that are left. -/
def parse (reader : Reader) (tokens : List Token) : Option Json :=
  (tokens.foldlM take reader).bind finish

theorem parse_cons (reader : Reader) (token : Token) (rest : List Token) :
    reader.parse (token :: rest) = (reader.take token).bind fun next => next.parse rest := by
  rw [parse, List.foldlM_cons]
  exact Option.bind_assoc _ _ _

theorem parse_of_take {reader next : Reader} {token : Token} (taken : reader.take token = some next)
    (rest : List Token) : reader.parse (token :: rest) = next.parse rest := by
  rw [parse_cons, taken, Option.bind_some]

variable {stack : List Frame} {expects : Expectation}

theorem scalar_of_awaits (awaits : expects.Awaits) (value : Json) (lexeme : Lexeme) :
    scalar value ⟨lexeme, stack, expects⟩ = complete value stack := by
  rcases awaits with rfl | rfl <;> rfl

theorem string_of_awaits (awaits : expects.Awaits) (s : Option String) (lexeme : Lexeme) :
    string s ⟨lexeme, stack, expects⟩ = complete (.text s) stack := by
  rcases awaits with rfl | rfl <;> cases stack <;> rfl

/-! ### Between tokens nothing of the next one has been read -/

theorem lexeme_complete {value : Json} {next : Reader}
    (settled : complete value stack = some next) :
    next.lexeme = .between := by
  cases stack with
  | nil =>
    cases settled
    rfl
  | cons frame stack => cases frame <;> cases settled <;> rfl

theorem complete_of_scalar {reader next : Reader} {value : Json}
    (settled : reader.scalar value = some next) :
    complete value reader.stack = some next := by
  unfold scalar at settled
  split at settled
  · exact settled
  · exact settled
  · cases settled

theorem lexeme_scalar {reader next : Reader} {value : Json}
    (settled : reader.scalar value = some next) :
    next.lexeme = .between :=
  lexeme_complete (complete_of_scalar settled)

theorem lexeme_string {reader next : Reader} {spelled : Option String}
    (settled : reader.string spelled = some next) :
    next.lexeme = .between := by
  unfold string at settled
  split at settled
  · cases settled
    rfl
  · cases settled
    rfl
  · exact lexeme_scalar settled

theorem lexeme_punctuation {reader next : Reader} {mark : Punctuation}
    (settled : reader.punctuation mark = some next) : next.lexeme = .between := by
  unfold punctuation at settled
  split at settled
  any_goals exact lexeme_complete settled
  all_goals cases settled
  all_goals rfl

theorem lexeme_take {reader next : Reader} {token : Token}
    (settled : reader.take token = some next) :
    next.lexeme = .between := by
  cases token with
  | mark mark => exact lexeme_punctuation settled
  | null | bool | number => exact lexeme_scalar settled
  | text spelled => exact lexeme_string settled

theorem lexeme_run {reader last : Reader} (between : reader.lexeme = .between) {tokens : List Token}
    (ran : tokens.foldlM take reader = some last) : last.lexeme = .between := by
  induction tokens generalizing reader with
  | nil =>
    cases ran
    exact between
  | cons token tokens ih =>
    rw [List.foldlM_cons] at ran
    obtain ⟨next, settled, onward⟩ := Option.bind_eq_some_iff.mp ran
    exact ih (lexeme_take settled) onward

/-! ### A document is read from its tokens -/

/-- Goes on after a value that was read. -/
def parseAfter (value : Json) (stack : List Frame) (rest : List Token) : Option Json :=
  (complete value stack).bind fun next => next.parse rest

theorem parse_scalar (awaits : expects.Awaits) (value : Json) (stack : List Frame)
    (rest : List Token) :
    ((scalar value ⟨.between, stack, expects⟩).bind fun next => next.parse rest) =
      parseAfter value stack rest := by
  rw [scalar_of_awaits awaits]
  rfl

theorem parse_closeArray (may : expects = .itemOrEnd ∨ expects = .separator) (items : List Json)
    (rest : List Token) :
    parse ⟨.between, .array items :: stack, expects⟩ (.mark .closeArray :: rest) =
      parseAfter (.array items.reverse) stack rest := by
  rw [parse_cons]
  rcases may with rfl | rfl <;> rfl

theorem parse_closeObject (may : expects = .nameOrEnd ∨ expects = .separator)
    (members : List (Option String × Json)) (rest : List Token) :
    parse ⟨.between, .object members :: stack, expects⟩ (.mark .closeObject :: rest) =
      parseAfter (.object members.reverse) stack rest := by
  rw [parse_cons]
  rcases may with rfl | rfl <;> rfl

theorem parse_name (may : expects = .name ∨ expects = .nameOrEnd)
    (members : List (Option String × Json)) (name : Option String) (rest : List Token) :
    parse ⟨.between, .object members :: stack, expects⟩ (.text name :: .mark .colon :: rest) =
      parse ⟨.between, .member members name :: stack, .value⟩ rest := by
  rcases may with rfl | rfl <;> rfl

mutual

theorem parse_tokens : ∀ (json : Json) (stack : List Frame) (expects : Expectation)
    (rest : List Token),
    expects.Awaits → parse ⟨.between, stack, expects⟩ (json.tokens ++ rest) =
      parseAfter json stack rest
  | .null, stack, _, rest, awaits => by
    rw [tokens, List.singleton_append, parse_cons]
    exact parse_scalar awaits .null stack rest
  | .bool value, stack, _, rest, awaits => by
    rw [tokens, List.singleton_append, parse_cons]
    exact parse_scalar awaits (.bool value) stack rest
  | .number n, stack, _, rest, awaits => by
    rw [tokens, List.singleton_append, parse_cons]
    exact parse_scalar awaits (.number n) stack rest
  | .text spelled, stack, expects, rest, awaits => by
    rw [tokens, List.singleton_append, parse_cons, take, string_of_awaits awaits]
    rfl
  | .array items, stack, expects, rest, awaits => by
    have opened : take ⟨.between, stack, expects⟩ (.mark .openArray) =
        some ⟨.between, .array [] :: stack, .itemOrEnd⟩ := by
      rcases awaits with rfl | rfl <;> rfl
    rw [tokens, List.cons_append, List.append_assoc, parse_of_take opened]
    exact parse_items items [] stack .itemOrEnd rest (Or.inr rfl) fun _ => rfl
  | .object members, stack, expects, rest, awaits => by
    have opened : take ⟨.between, stack, expects⟩ (.mark .openObject) =
        some ⟨.between, .object [] :: stack, .nameOrEnd⟩ := by
      rcases awaits with rfl | rfl <;> rfl
    rw [tokens, List.cons_append, List.append_assoc, parse_of_take opened]
    exact parse_members members [] stack .nameOrEnd rest (Or.inr rfl) fun _ => rfl

theorem parse_items : ∀ (items done : List Json) (stack : List Frame) (expects : Expectation)
    (rest : List Token), expects.Awaits → (items = [] → expects = .itemOrEnd) →
    parse ⟨.between, .array done :: stack, expects⟩
      (tokensOfItems items ++ .mark .closeArray :: rest) =
        parseAfter (.array (done.reverse ++ items)) stack rest
  | [], done, stack, expects, rest, _, empty => by
    rw [tokensOfItems, List.nil_append, List.append_nil]
    exact parse_closeArray (Or.inl (empty rfl)) done rest
  -- Behind the last item stands the bracket, behind any other one a comma.
  | [item], done, stack, expects, rest, awaits, _ => by
    rw [tokensOfItems, parse_tokens item _ _ _ awaits, ← List.reverse_cons]
    exact parse_closeArray (Or.inr rfl) (item :: done) rest
  | item :: next :: others, done, stack, expects, rest, awaits, _ => by
    rw [tokensOfItems, List.append_assoc, parse_tokens item _ _ _ awaits]
    have further := parse_items (next :: others) (item :: done) stack .value rest (Or.inl rfl) nofun
    rwa [List.reverse_cons, List.append_assoc] at further

theorem parse_members : ∀ (members done : List (Option String × Json)) (stack : List Frame)
    (expects : Expectation) (rest : List Token),
    expects = .name ∨ expects = .nameOrEnd → (members = [] → expects = .nameOrEnd) →
    parse ⟨.between, .object done :: stack, expects⟩
      (tokensOfMembers members ++ .mark .closeObject :: rest) =
        parseAfter (.object (done.reverse ++ members)) stack rest
  | [], done, stack, expects, rest, _, empty => by
    rw [tokensOfMembers, List.nil_append, List.append_nil]
    exact parse_closeObject (Or.inl (empty rfl)) done rest
  | [(name, value)], done, stack, expects, rest, may, _ => by
    rw [tokensOfMembers, List.cons_append, List.cons_append, parse_name may,
      parse_tokens value _ _ _ (Or.inl rfl), ← List.reverse_cons]
    exact parse_closeObject (Or.inr rfl) ((name, value) :: done) rest
  | (name, value) :: next :: others, done, stack, expects, rest, may, _ => by
    rw [tokensOfMembers, List.cons_append, List.cons_append, List.append_assoc, parse_name may,
      parse_tokens value _ _ _ (Or.inl rfl)]
    have further := parse_members (next :: others)
      ((name, value) :: done) stack .name rest (Or.inl rfl) nofun
    rwa [List.reverse_cons, List.append_assoc] at further

end

/-! ### No other tokens are taken -/

/-- Items that a comma follows, last first. -/
def leadingItems (items : List Json) : List Token :=
  items.reverse.flatMap fun item => item.tokens ++ [.mark .comma]

def leadingMembers (members : List (Option String × Json)) : List Token :=
  members.reverse.flatMap fun member =>
    .text member.1 :: .mark .colon :: (member.2.tokens ++ [.mark .comma])

/-- The tokens up to where the next part of the innermost container may stand. -/
def leading : List Frame → List Token
  | [] => []
  | .array items :: stack => leading stack ++ .mark .openArray :: leadingItems items
  | .object members :: stack => leading stack ++ .mark .openObject :: leadingMembers members
  | .member members name :: stack =>
    leading stack ++ .mark .openObject :: (leadingMembers members ++ [.text name, .mark .colon])

/-- The tokens that were taken when these containers are open and this may come next. -/
inductive Taken : List Token → List Frame → Expectation → Prop where
  | value (stack : List Frame) : Taken (leading stack) stack .value
  | itemOrEnd (stack : List Frame) :
      Taken (leading (.array [] :: stack)) (.array [] :: stack) .itemOrEnd
  | nameOrEnd (stack : List Frame) :
      Taken (leading (.object [] :: stack)) (.object [] :: stack) .nameOrEnd
  | name (members : List (Option String × Json)) (stack : List Frame) :
      Taken (leading (.object members :: stack)) (.object members :: stack) .name
  | colon (members : List (Option String × Json)) (name : Option String) (stack : List Frame) :
      Taken (leading (.object members :: stack) ++ [.text name])
        (.member members name :: stack) .colon
  | item (items : List Json) (item : Json) (stack : List Frame) :
      Taken (leading (.array items :: stack) ++ item.tokens)
        (.array (item :: items) :: stack) .separator
  | member (members : List (Option String × Json)) (name : Option String) (value : Json)
      (stack : List Frame) :
      Taken (leading (.member members name :: stack) ++ value.tokens)
        (.object ((name, value) :: members) :: stack) .separator
  | finished (json : Json) : Taken json.tokens [] (.finished json)

theorem tokensOfItems_concat (items : List Json) (last : Json) :
    tokensOfItems (items.reverse ++ [last]) = leadingItems items ++ last.tokens := by
  rw [leadingItems]
  induction items.reverse with
  | nil => rfl
  | cons item rest ih =>
    cases rest with
    | nil => simp [tokensOfItems]
    | cons next rest =>
      rw [List.cons_append] at ih
      rw [List.cons_append, List.cons_append, tokensOfItems, ih, List.flatMap_cons]
      simp

theorem tokensOfMembers_concat (members : List (Option String × Json)) (name : Option String)
    (last : Json) :
    tokensOfMembers (members.reverse ++ [(name, last)]) =
      leadingMembers members ++ .text name :: .mark .colon :: last.tokens := by
  rw [leadingMembers]
  induction members.reverse with
  | nil => rfl
  | cons member rest ih =>
    cases rest with
    | nil => simp [tokensOfMembers]
    | cons next rest =>
      rw [List.cons_append] at ih
      rw [List.cons_append, List.cons_append, tokensOfMembers, ih, List.flatMap_cons]
      simp

theorem Taken.complete {value : Json} {next : Reader}
    (settled : Reader.complete value stack = some next) :
    Taken (leading stack ++ value.tokens) next.stack next.expects := by
  cases stack with
  | nil =>
    cases settled
    exact .finished value
  | cons frame stack =>
    cases frame with
    | array items =>
      cases settled
      exact .item items value stack
    | member members name =>
      cases settled
      exact .member members name value stack
    | object members => cases settled

theorem Taken.scalar {taken : List Token} (here : Taken taken stack expects) {lexeme : Lexeme}
    {value : Json} {next : Reader}
    (settled : Reader.scalar value ⟨lexeme, stack, expects⟩ = some next) :
    Taken (taken ++ value.tokens) next.stack next.expects := by
  cases here with
  | value => exact .complete settled
  | itemOrEnd => exact .complete settled
  | nameOrEnd | name | colon | item | member | finished => cases settled

theorem Taken.string {taken : List Token} (here : Taken taken stack expects) {lexeme : Lexeme}
    {spelled : Option String} {next : Reader}
    (settled : Reader.string spelled ⟨lexeme, stack, expects⟩ = some next) :
    Taken (taken ++ [.text spelled]) next.stack next.expects := by
  cases here with
  | value =>
    rw [string_of_awaits (Or.inl rfl)] at settled
    exact .complete settled
  | itemOrEnd =>
    rw [string_of_awaits (Or.inr rfl)] at settled
    exact .complete settled
  | nameOrEnd stack =>
    cases settled
    exact .colon [] spelled stack
  | name members stack =>
    cases settled
    exact .colon members spelled stack
  | colon | item | member | finished => cases settled

/-- Behind the last item the bracket completes the array. -/
theorem Taken.closeArray {items : List Json} {last : Json} {next : Reader}
    (settled : Reader.complete (.array (last :: items).reverse) stack = some next) :
    Taken (leading (.array items :: stack) ++ last.tokens ++ [.mark .closeArray]) next.stack
      next.expects := by
  have closed := Taken.complete settled
  rw [List.reverse_cons, tokens, tokensOfItems_concat] at closed
  simpa [leading] using closed

theorem Taken.closeObject {members : List (Option String × Json)} {name : Option String}
    {last : Json} {next : Reader}
    (settled : Reader.complete (.object ((name, last) :: members).reverse) stack = some next) :
    Taken (leading (.member members name :: stack) ++ last.tokens ++ [.mark .closeObject])
      next.stack next.expects := by
  have closed := Taken.complete settled
  rw [List.reverse_cons, tokens, tokensOfMembers_concat] at closed
  simpa [leading] using closed

theorem Taken.punctuation {taken : List Token} (here : Taken taken stack expects) {lexeme : Lexeme}
    {mark : Punctuation} {next : Reader}
    (settled : Reader.punctuation mark ⟨lexeme, stack, expects⟩ = some next) :
    Taken (taken ++ [.mark mark]) next.stack next.expects := by
  cases here with
  | value =>
    cases mark with
    | openArray =>
      cases settled
      exact .itemOrEnd stack
    | openObject =>
      cases settled
      exact .nameOrEnd stack
    | closeArray | closeObject | comma | colon => cases settled
  | itemOrEnd stack =>
    cases mark with
    | openArray =>
      cases settled
      exact .itemOrEnd (.array [] :: stack)
    | openObject =>
      cases settled
      exact .nameOrEnd (.array [] :: stack)
    | closeArray =>
      have closed : Taken (leading stack ++ tokens (.array [])) _ _ := .complete settled
      simpa [leading, leadingItems, tokens, tokensOfItems] using closed
    | closeObject | comma | colon => cases settled
  | nameOrEnd stack =>
    cases mark with
    | closeObject =>
      have closed : Taken (leading stack ++ tokens (.object [])) _ _ := .complete settled
      simpa [leading, leadingMembers, tokens, tokensOfMembers] using closed
    | openArray | openObject | closeArray | comma | colon => cases settled
  | name members stack => cases mark <;> cases settled
  | colon members name stack =>
    cases mark with
    | colon =>
      cases settled
      have named := Taken.value (.member members name :: stack)
      simpa [leading] using named
    | openArray | openObject | closeArray | closeObject | comma => cases settled
  -- After an item or a member a comma puts it with the earlier ones, and the bracket closes the
  -- container.
  | item items item stack =>
    cases mark with
    | comma =>
      cases settled
      have further := Taken.value (.array (item :: items) :: stack)
      simpa [leading, leadingItems] using further
    | closeArray => exact .closeArray settled
    | openArray | openObject | closeObject | colon => cases settled
  | member members name value stack =>
    cases mark with
    | comma =>
      cases settled
      have further := Taken.name ((name, value) :: members) stack
      simpa [leading, leadingMembers] using further
    | closeObject => exact .closeObject settled
    | openArray | openObject | closeArray | colon => cases settled
  | finished => cases mark <;> cases settled

theorem Taken.take {taken : List Token} {reader next : Reader}
    (here : Taken taken reader.stack reader.expects) {token : Token}
    (settled : reader.take token = some next) :
    Taken (taken ++ [token]) next.stack next.expects := by
  cases token with
  | mark mark => exact here.punctuation settled
  | null => exact here.scalar settled
  | bool value => exact here.scalar settled
  | number n => exact here.scalar settled
  | text spelled => exact here.string settled

theorem Taken.run {taken : List Token} {reader last : Reader}
    (here : Taken taken reader.stack reader.expects) {tokens : List Token}
    (ran : tokens.foldlM Reader.take reader = some last) :
    Taken (taken ++ tokens) last.stack last.expects := by
  induction tokens generalizing taken reader with
  | nil =>
    cases ran
    rwa [List.append_nil]
  | cons token tokens ih =>
    rw [List.foldlM_cons] at ran
    obtain ⟨next, settled, onward⟩ := Option.bind_eq_some_iff.mp ran
    have further := ih (here.take settled) onward
    rwa [List.append_assoc] at further

/-- The reader makes a document of its tokens, and of no others. -/
theorem parse_eq_some_iff {tokens : List Token} {json : Json} :
    initial.parse tokens = some json ↔ tokens = json.tokens := by
  constructor
  · intro parsed
    -- Only a reader that expects nothing more has finished, and then the tokens taken are those of
    -- its document.
    obtain ⟨⟨lexeme, stack, expects⟩, ran, finished⟩ := Option.bind_eq_some_iff.mp parsed
    obtain rfl : lexeme = .between := lexeme_run rfl ran
    have begins : Taken [] initial.stack initial.expects := .value []
    have taken := begins.run ran
    rw [List.nil_append] at taken
    cases taken with
    | finished document =>
      cases finished
      rfl
    | value | itemOrEnd | nameOrEnd | name | colon | item | member => cases finished
  · rintro rfl
    have parsed := parse_tokens json [] .value [] (Or.inl rfl)
    rw [List.append_nil] at parsed
    exact parsed

end Reader

end Conduit.Json
