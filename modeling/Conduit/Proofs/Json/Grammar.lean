import Conduit.Proofs.Json.Spelling

/-!
# The grammar of documents

A text spells a document if it is the tokens of the document, with white space before, between and
after them as one likes. The reader reads exactly such texts, each as the one document that it
spells.
-/
namespace Conduit.Json

open Number Text.Utf8

/-- The tokens one after the other, with white space between them. -/
inductive Spaced : List Token → Bytes → Prop where
  | done : Spaced [] []
  | space {tokens : List Token} {b : UInt8} {rest : Bytes} (space : Reader.isSpace b)
      (further : Spaced tokens rest) :
      Spaced tokens (b :: rest)
  | token {token : Token} {tokens : List Token} {bytes rest : Bytes} (spelled : token.Spelled bytes)
      (apart : token.Apart rest) (further : Spaced tokens rest) :
      Spaced (token :: tokens) (bytes ++ rest)

theorem foreign_of_isSpace {b : UInt8} (space : Reader.isSpace b) : Foreign b := by
  simp only [Reader.isSpace, Bool.or_eq_true, decide_eq_true_eq] at space
  rcases space with ((rfl | rfl) | rfl) | rfl <;> exact ⟨rfl, by decide, rfl⟩

/-- Two texts may be put together if the second one begins with what may follow a numeral. -/
theorem Spaced.append {one two : List Token} {front back : Bytes} (first : Spaced one front)
    (second : Spaced two back) (ends : Ends back) : Spaced (one ++ two) (front ++ back) := by
  induction first with
  | done => exact second
  | space space further ih => exact .space space ih
  | @token token tokens bytes rest spelled apart further ih =>
    have apart : token.Apart (rest ++ back) := by
      cases token with
      | number =>
        cases rest with
        | nil => exact ends
        | cons => exact apart
      | mark | null | bool | text => trivial
    rw [List.cons_append, List.append_assoc]
    exact .token spelled apart ih

/-- The text is one of those for the document. -/
def Spells (json : Json) (bytes : Bytes) : Prop := Spaced json.tokens bytes

namespace Reader

variable {stack : List Frame} {expects : Expectation}

theorem run_spaced {tokens : List Token} {bytes : Bytes} (spaced : Spaced tokens bytes) :
    run ⟨.between, stack, expects⟩ bytes = parse ⟨.between, stack, expects⟩ tokens := by
  induction spaced generalizing stack expects with
  | done => rfl
  | space space further ih =>
    have skipped : step ⟨.between, stack, expects⟩ _ = some ⟨.between, stack, expects⟩ :=
      if_pos space
    rw [run_of_step skipped, ih]
  | @token token tokens bytes rest spelled apart further ih =>
    rw [run_token spelled apart, parse_cons]
    cases taken : take ⟨.between, stack, expects⟩ token with
    | none => rfl
    | some next =>
      obtain ⟨lexeme, stack, expects⟩ := next
      obtain rfl : lexeme = .between := lexeme_take taken
      exact ih

/-! ### What is read is spaced -/

/-- The bytes complete the part of a token, and tokens come after it. -/
inductive Resumes : Lexeme → Bytes → Prop where
  | between {tokens : List Token} {bytes : Bytes} (spaced : Spaced tokens bytes) :
      Resumes .between bytes
  | word {letters : Bytes} {value : Json} {tokens : List Token} {rest : Bytes}
      (spaced : Spaced tokens rest) :
      Resumes (.word letters value) (letters ++ rest)
  | string {s t : Spelling} {inside : Bytes} {tokens : List Token} {rest : Bytes}
      (continues : s.Continues inside t) (spaced : Spaced tokens rest) :
      Resumes (.string s) (inside ++ 0x22 :: rest)
  | escape {s t : Spelling} {inside : Bytes} {tokens : List Token} {rest : Bytes}
      (continues : s.Continues (0x5C :: inside) t) (spaced : Spaced tokens rest) :
      Resumes (.escape s) (inside ++ 0x22 :: rest)
  /-- One digit at least is owed. -/
  | unit {s t : Spelling} {digits inside : Bytes} {left value unit : Nat} {tokens : List Token}
      {rest : Bytes} (owed : digits.length = max 1 left) (hex : hexUnit value digits = some unit)
      (continues : (s.appendUnit unit).Continues inside t) (spaced : Spaced tokens rest) :
      Resumes (.unit s left value) (digits ++ (inside ++ 0x22 :: rest))
  | numeral {part last : PartNumeral} {more : Bytes} {n : Numeral} {tokens : List Token}
      {rest : Bytes} (fed : part.feed more = some last) (complete : last.numeral? = some n)
      (ends : Ends rest) (spaced : Spaced tokens rest) : Resumes (.numeral part) (more ++ rest)

theorem Resumes.spaced {bytes : Bytes} (resumes : Resumes .between bytes) :
    ∃ tokens, Spaced tokens bytes := by
  cases resumes with
  | between spaced => exact ⟨_, spaced⟩

theorem spelled_of_word {b : UInt8} {letters : Bytes} {value : Json}
    (word : word? b = some (letters, value)) :
    ∃ token : Token, token.Spelled (b :: letters) ∧ ∀ rest, token.Apart rest := by
  unfold word? at word
  split at word
  next here =>
    cases word
    rw [here]
    exact ⟨_, .true, fun _ => trivial⟩
  split at word
  next here =>
    cases word
    rw [here]
    exact ⟨_, .false, fun _ => trivial⟩
  split at word
  next here =>
    cases word
    rw [here]
    exact ⟨_, .null, fun _ => trivial⟩
  · cases word

theorem byte_of_punctuation {b : UInt8} {mark : Punctuation}
    (punctuates : punctuation? b = some mark) :
    b = mark.byte := by
  unfold punctuation? at punctuates
  repeat' split at punctuates
  all_goals cases punctuates
  all_goals assumption

/-- A byte between tokens is white space or the first of a token. -/
theorem Resumes.begin {reader next : Reader} {b : UInt8} {bytes : Bytes}
    (begun : reader.begin b = some next) (resumes : Resumes next.lexeme bytes) :
    Resumes .between (b :: bytes) := by
  -- In the order in which the reader asks: white space, a mark, a quote, a word, a numeral.
  unfold Reader.begin at begun
  split at begun
  next space =>
    cases begun
    obtain ⟨tokens, spaced⟩ := resumes.spaced
    exact .between (.space space spaced)
  split at begun
  next mark punctuates =>
    rw [lexeme_punctuation begun] at resumes
    obtain ⟨tokens, spaced⟩ := resumes.spaced
    rw [byte_of_punctuation punctuates]
    exact .between (.token (.mark mark) trivial spaced)
  split at begun
  next quote =>
    cases begun
    dsimp only at resumes
    cases resumes with
    | @string s t inside tokens rest continues spaced =>
      rw [quote]
      have quoted := Spaced.token (.text continues) trivial spaced
      rw [List.cons_append, List.append_assoc] at quoted
      exact .between quoted
  split at begun
  next letters value word =>
    cases begun
    dsimp only at resumes
    cases resumes with
    | word spaced =>
      obtain ⟨token, spelled, apart⟩ := spelled_of_word word
      exact .between (.token spelled (apart _) spaced)
  · obtain ⟨first, started, rfl⟩ := Option.map_eq_some_iff.mp begun
    dsimp only at resumes
    cases resumes with
    | numeral fed complete ends spaced =>
      obtain ⟨wellFormed, spelled⟩ := PartNumeral.spelled_of_read started fed complete
      exact .between (.token (.number wellFormed spelled) ends spaced)

theorem Resumes.step_word {letters : Bytes} {value : Json} {next : Reader} {b : UInt8}
    {bytes : Bytes} (taken : step ⟨.word letters value, stack, expects⟩ b = some next)
    (resumes : Resumes next.lexeme bytes) :
    Resumes (.word letters value) (b :: bytes) := by
  cases letters with
  | nil => cases taken
  | cons expected letters =>
    simp only [step] at taken
    split at taken
    next here =>
      subst here
      cases letters with
      -- The last letter of a word completes it.
      | nil =>
        rw [lexeme_scalar taken] at resumes
        obtain ⟨tokens, spaced⟩ := resumes.spaced
        exact @Resumes.word [b] value tokens bytes spaced
      | cons next letters =>
        cases taken
        dsimp only at resumes
        generalize spelled : next :: letters = letters at resumes
        cases resumes with
        | word spaced => exact .word spaced
    · cases taken

theorem Resumes.step_string {s : Spelling} {next : Reader} {b : UInt8} {bytes : Bytes}
    (taken : step ⟨.string s, stack, expects⟩ b = some next) (resumes : Resumes next.lexeme bytes) :
    Resumes (.string s) (b :: bytes) := by
  -- The byte is the quote at the end, begins an escape, or stands for itself.
  simp only [step] at taken
  split at taken
  next quote =>
    rw [lexeme_string taken] at resumes
    obtain ⟨tokens, spaced⟩ := resumes.spaced
    rw [quote]
    exact @Resumes.string s s [] tokens bytes (.done s) spaced
  split at taken
  next escape =>
    cases taken
    dsimp only at resumes
    cases resumes with
    | @escape _ t inside tokens rest continues spaced =>
      rw [escape]
      exact @Resumes.string s t (0x5C :: inside) tokens rest continues spaced
  split at taken
  · cases taken
  next noQuote noEscape printable =>
    cases taken
    dsimp only at resumes
    cases resumes with
    | @string _ t inside tokens rest continues spaced =>
      have further :=
        Spelling.Continues.plain noQuote noEscape (UInt8.not_lt.mp printable) continues
      exact @Resumes.string s t (b :: inside) tokens rest further spaced

theorem Resumes.step_escape {s : Spelling} {next : Reader} {b : UInt8} {bytes : Bytes}
    (taken : step ⟨.escape s, stack, expects⟩ b = some next) (resumes : Resumes next.lexeme bytes) :
    Resumes (.escape s) (b :: bytes) := by
  simp only [step] at taken
  split at taken
  next letter =>
    cases taken
    dsimp only at resumes
    cases resumes with
    | @unit _ t digits inside _ _ unit tokens rest owed hex continues spaced =>
      have further := Spelling.Continues.unit owed hex continues
      have escaped := Resumes.escape further spaced
      rwa [List.cons_append, List.append_assoc, ← letter] at escaped
  · obtain ⟨byte, escapes, rfl⟩ := Option.map_eq_some_iff.mp taken
    dsimp only at resumes
    cases resumes with
    | @string _ t inside tokens rest continues spaced =>
      exact @Resumes.escape s t (b :: inside) tokens rest (.escape escapes continues) spaced

theorem Resumes.step_unit {s : Spelling} {left value : Nat} {next : Reader} {b : UInt8}
    {bytes : Bytes} (taken : step ⟨.unit s left value, stack, expects⟩ b = some next)
    (resumes : Resumes next.lexeme bytes) :
    Resumes (.unit s left value) (b :: bytes) := by
  cases digit : Text.Hex.value? b with
  | none => simp [step, digit] at taken
  | some d =>
    have hexUnit_cons (digits : Bytes) :
        hexUnit value (b :: digits) = hexUnit (16 * value + d) digits := by
      rw [hexUnit, List.foldlM_cons, digit]
      rfl
    rcases left with _ | _ | further
    -- The last digit, or one to be followed by others.
    case succ.succ =>
      simp only [step, digit] at taken
      cases taken
      dsimp only at resumes
      cases resumes with
      | @unit _ t digits inside _ _ unit tokens rest owed hex continues spaced =>
        have longer : (b :: digits).length = max 1 (further + 2) := by
          rw [List.length_cons]
          omega
        exact .unit longer ((hexUnit_cons digits).trans hex) continues spaced
    all_goals
      simp only [step, digit] at taken
      cases taken
      dsimp only at resumes
      cases resumes with
      | @string _ t inside tokens rest continues spaced =>
        have last : hexUnit value [b] = some (16 * value + d) := hexUnit_cons []
        have owed : [b].length = 1 := rfl
        exact .unit owed last continues spaced

/-- After a value comes no other one. -/
theorem not_awaits_scalar {reader next : Reader} {value : Json}
    (settled : reader.scalar value = some next) :
    ¬next.expects.Awaits := by
  have completed := complete_of_scalar settled
  obtain ⟨lexeme, stack, expects⟩ := reader
  cases stack with
  | nil =>
    cases completed
    simp [Expectation.Awaits]
  | cons frame stack =>
    cases frame with
    | array | member =>
      cases completed
      simp [Expectation.Awaits]
    | object => cases completed

/-- A numeral where no value may stand is refused when it ends, if not before. -/
theorem run_numeral_astray (astray : ¬expects.Awaits) (part : PartNumeral) (bytes : Bytes) :
    run ⟨.numeral part, stack, expects⟩ bytes = none := by
  have refused (part : PartNumeral) (value : Json) :
      scalar value ⟨.numeral part, stack, expects⟩ = none := by
    cases expects with
    | value => exact absurd (Or.inl rfl) astray
    | itemOrEnd => exact absurd (Or.inr rfl) astray
    | nameOrEnd | name | colon | separator | finished => rfl
  induction bytes generalizing part with
  | nil =>
    change finish ⟨.numeral part, stack, expects⟩ = none
    cases complete : part.numeral? <;> simp [finish, complete, refused]
  | cons b bytes ih =>
    rw [run_cons]
    cases continued : part.next b with
    | some further => simp [step, continued, ih]
    | none => cases complete : part.numeral? <;> simp [step, continued, complete, refused]

/-- A numeral is not followed by another one, nor by what begins no token. -/
theorem foreign_of_begin {reader next : Reader} {b : UInt8} {bytes : Bytes} {json : Json}
    (begun : reader.begin b = some next) (astray : ¬reader.expects.Awaits)
    (read : next.run bytes = some json) :
    Foreign b := by
  refine ⟨?_, ?_, ?_⟩
  · cases digit : digit? b with
    | none => rfl
    | some d =>
      -- A digit would begin a second numeral, right after a value.
      have noSign : ∀ d : Digit, digitByte d ≠ 0x2D := by decide
      have started : PartNumeral.start b =
          some ⟨if d.isZero then .zero else .whole, false, [d], [], .none, []⟩ := by
        rw [PartNumeral.start, if_neg (eq_digitByte digit ▸ noSign d), digit]
      rw [begin_numeral started] at begun
      cases begun
      rw [run_numeral_astray astray] at read
      cases read
  · rintro rfl
    cases begun
  · cases mark : PartNumeral.isMark b with
    | false => rfl
    | true =>
      simp only [PartNumeral.isMark, Bool.or_eq_true, decide_eq_true_eq] at mark
      rcases mark with rfl | rfl <;> cases begun

theorem Resumes.step_numeral {part : PartNumeral} {next : Reader} {b : UInt8} {bytes : Bytes}
    {json : Json} (taken : step ⟨.numeral part, stack, expects⟩ b = some next)
    (read : next.run bytes = some json) (resumes : Resumes next.lexeme bytes) :
    Resumes (.numeral part) (b :: bytes) := by
  cases continued : part.next b with
  | some further =>
    simp only [step, continued] at taken
    cases taken
    dsimp only at resumes
    cases resumes with
    | @numeral _ last more n tokens rest fed complete ends spaced =>
      exact @Resumes.numeral part last (b :: more) n tokens rest
        ((PartNumeral.feed_cons continued more).trans fed)
        complete ends spaced
  | none =>
    simp only [step, continued] at taken
    -- The byte is the first one after the numeral, where the reader takes it up anew.
    obtain ⟨n, complete, settles⟩ := Option.bind_eq_some_iff.mp taken
    obtain ⟨settled, scalar, begun⟩ := Option.bind_eq_some_iff.mp settles
    obtain ⟨tokens, spaced⟩ := (Resumes.begin begun resumes).spaced
    have ends : Ends (b :: bytes) := foreign_of_begin begun (not_awaits_scalar scalar) read
    exact @Resumes.numeral part part [] n tokens (b :: bytes) rfl complete ends spaced

theorem resumes_of_run (bytes : Bytes) {reader : Reader} {json : Json}
    (read : reader.run bytes = some json) :
    Resumes reader.lexeme bytes := by
  -- From the last byte to the first: what the reader has begun after a byte is completed by the
  -- bytes behind it.
  induction bytes generalizing reader with
  | nil =>
    obtain ⟨lexeme, stack, expects⟩ := reader
    change finish ⟨lexeme, stack, expects⟩ = some json at read
    cases lexeme with
    | between => exact .between .done
    | numeral part =>
      obtain ⟨n, complete, -⟩ := Option.bind_eq_some_iff.mp read
      exact @Resumes.numeral part part [] n [] [] rfl complete trivial .done
    | word | string | escape | unit => cases read
  | cons b bytes ih =>
    rw [run_cons] at read
    obtain ⟨next, taken, onward⟩ := Option.bind_eq_some_iff.mp read
    have resumes := ih onward
    obtain ⟨lexeme, stack, expects⟩ := reader
    cases lexeme with
    | between => exact .begin taken resumes
    | word letters value => exact .step_word taken resumes
    | string s => exact .step_string taken resumes
    | escape s => exact .step_escape taken resumes
    | unit s left value => exact .step_unit taken resumes
    | numeral part => exact .step_numeral taken onward resumes

end Reader

theorem read_eq_parse {tokens : List Token} {bytes : Bytes} (spaced : Spaced tokens bytes) :
    read bytes = Reader.initial.parse tokens := Reader.run_spaced spaced

/-- The texts that spell a document are those that are read as it. -/
theorem read_eq_some_iff {bytes : Bytes} {json : Json} :
    read bytes = some json ↔ Spells json bytes := by
  constructor
  · intro read
    change Reader.run ⟨.between, [], .value⟩ bytes = some json at read
    obtain ⟨tokens, spaced⟩ := (Reader.resumes_of_run bytes read).spaced
    rw [Reader.run_spaced spaced] at read
    obtain rfl := Reader.parse_eq_some_iff.mp read
    exact spaced
  · intro spells
    rw [read_eq_parse spells]
    exact Reader.parse_eq_some_iff.mpr rfl

end Conduit.Json
