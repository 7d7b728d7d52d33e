import Conduit.Proofs.Json.Grammar
import Conduit.Proofs.Json.Record
import Conduit.Proofs.Worker.Errand

/-!
# What a refusal says

A worker that refuses an operation says why in the body of its answer. If that is an object with a
message, the refusal is worded by the worker: whatever else stands in the object makes no
difference. There are two exceptions. A code is looked at although nothing depends on it, so a
number that does not fit 16 bits keeps the message from being told apart, and a name that spells no
text does so too; then the refusal is worded by the whole body. So it is by any other body, unless
that is blank. Then there is only the status left to be worded.
-/
namespace Conduit

open Json Text.Utf8

/-! ### Blank texts -/

namespace Json

/-- A byte that is no ASCII sign begins nothing: it is white space, or has no place between
tokens. -/
theorem Reader.begin_unsigned {b : UInt8} (unsigned : b ≤ 0x20 ∨ 0x80 ≤ b) (reader : Reader) :
    reader.begin b = if isSpace b then some { reader with lexeme := .between } else none := by
  have apart : ∀ sign : UInt8, 0x20 < sign → sign < 0x80 → b ≠ sign := by
    rintro sign low high rfl
    rw [UInt8.lt_iff_toNat_lt] at low high
    simp only [UInt8.le_iff_toNat_le] at unsigned
    omega
  have digit : digit? b = none := by
    refine if_neg fun inside => ?_
    simp [UInt8.le_iff_toNat_le] at unsigned inside
    omega
  unfold Reader.begin
  split
  · rfl
  · simp [punctuation?, word?, PartNumeral.start, digit, apart]

theorem read_unsigned {bytes : Bytes} (unsigned : ∀ b ∈ bytes, b ≤ 0x20 ∨ 0x80 ≤ b) :
    read bytes = none := by
  -- The reader stays where it was, waiting for a value, or stops.
  have idle : bytes.foldlM Reader.step Reader.initial = some Reader.initial ∨
      bytes.foldlM Reader.step Reader.initial = none := by
    induction bytes with
    | nil => exact Or.inl rfl
    | cons b rest ih =>
      obtain ⟨here, others⟩ := List.forall_mem_cons.mp unsigned
      have step : Reader.step Reader.initial b =
          if Reader.isSpace b then some Reader.initial else none :=
        Reader.begin_unsigned here Reader.initial
      rw [List.foldlM_cons, step]
      split
      · exact ih others
      · exact Or.inr rfl
  rcases idle with same | stopped
  · simp only [read, same, bind, Option.bind_some]
    rfl
  · simp only [read, stopped, bind, Option.bind_none]

theorem not_spells_of_blank {s : String} (blank : Text.blank s) (json : Json) :
    ¬Spells json (encode s) := by
  have unread : read (encode s) = none := by
    refine read_unsigned fun b member => ?_
    obtain ⟨c, among, inside⟩ := List.mem_flatMap.mp member
    have isBlank : Text.isBlank c := List.all_eq_true.mp blank c among
    -- The blanks of ASCII are controls and the space; all bytes of the others are beyond ASCII.
    rcases Nat.lt_or_ge c.toNat 0x80 with ascii | beyond
    · have low : c.toNat ≤ 0x20 := by
        simp [Text.isBlank, Text.blankRanges] at isBlank
        omega
      rw [utf8EncodeChar_of_ascii ascii, List.mem_singleton] at inside
      refine Or.inl ?_
      rw [inside, UInt8.le_iff_toNat_le, UInt8.toNat_ofNat_of_lt' (by simp [UInt8.size]; omega)]
      exact low
    · exact Or.inr (le_of_mem_utf8EncodeChar beyond inside)
  intro spells
  rw [read_eq_some_iff.mpr spells] at unread
  cases unread

end Json

/-! ### The worker's own message -/

namespace Payload

open Number

/-- The object says what went wrong: it has one message, a text, and at most one code, a number or
nothing. -/
structure Complaint (members : Members) (said : String) : Prop where
  message : Holds members "message" (some (.text (some said)))
  code : ∃ code, Holds members "error_code" code ∧
    ∀ json ∈ code, json = .null ∨ ∃ n, json = .number n

/-- The code is written as a natural number that fits 16 bits. -/
structure Fits (n : Numeral) : Prop where
  natural : n.negative = false
  whole : n.isWhole
  small : digitsValue 0 n.whole ≤ 65535

/-- Every name is a text, and the code fits if it is a number. -/
structure Legible (members : Members) : Prop where
  named : ∀ member ∈ members, member.1.isSome
  fits : ∀ n, Holds members "error_code" (some (.number n)) → Fits n

/-- The documents in which a message is found. Without names the code comes first, and cannot be
left out. -/
inductive Tells : Json → String → Prop where
  | object {members : Members} {said : String} (complaint : Complaint members said)
      (legible : Legible members) :
      Tells (.object members) said
  | array {code : Json} {said : String} (fits : code = .null ∨ ∃ n, code = .number n ∧ Fits n) :
      Tells (.array [code, .text (some said)]) said

/-- What may stand for the code. -/
def code : Decoder (Option Nat) := Json.Decode.nullable (Json.Decode.natural 65535)

theorem natural_isSome_iff (depth : Nat) (json : Json) :
    (Json.Decode.natural 65535 depth json).isSome ↔ ∃ n, json = .number n ∧ Fits n := by
  cases json with
  | number n =>
    have parts : (∃ m, Json.number n = .number m ∧ Fits m) ↔
        n.negative = false ∧ n.isWhole ∧ digitsValue 0 n.whole ≤ 65535 := by
      constructor
      · rintro ⟨_, ⟨⟩, natural, whole, small⟩
        exact ⟨natural, whole, small⟩
      · rintro ⟨natural, whole, small⟩
        exact ⟨n, rfl, natural, whole, small⟩
    rw [parts]
    simp only [Json.Decode.natural, Json.Decode.integer, Numeral.toInt?]
    -- With a minus sign the number is below zero, and zero itself is then none.
    cases n.isWhole <;> cases n.negative <;> cases digitsValue 0 n.whole <;> simp <;> omega
  | _ => simp [Json.Decode.natural, Json.Decode.integer]

theorem code_isSome_iff (depth : Nat) (json : Json) :
    (code depth json).isSome ↔ json = .null ∨ ∃ n, json = .number n ∧ Fits n := by
  rw [← natural_isSome_iff depth]
  cases json <;> simp [code, Json.Decode.nullable]

/-- A code that is left out is as good as one that fits. -/
theorem absentOr_code_isSome_iff (depth : Nat) (found : Option Json) :
    (Json.Decode.absentOr none code depth found).isSome ↔
      ∀ json ∈ found, json = .null ∨ ∃ n, json = .number n ∧ Fits n := by
  cases found with
  | none => simp [Json.Decode.absentOr]
  | some json => simp [Json.Decode.absentOr, code_isSome_iff]

theorem text_eq_some_iff {depth : Nat} {json : Json} {said : String} :
    Json.Decode.text depth json = some said ↔ json = .text (some said) := by
  cases json <;> simp [Json.Decode.text]

theorem errorMessage_object (members : Members) : errorMessage allowance (.object members) =
    if members.all fun member => member.1.isSome then do
      let found ← member? "error_code" members
      let message ← (← member? "message" members)
      let _ ← Json.Decode.absentOr none code 126 found
      Json.Decode.text 126 message
    else none := by
  simp only [errorMessage, allowance, record, List.mapM_cons, List.mapM_nil, fieldOfObject]
  split
  · rcases member? "error_code" members with _ | _ | found <;>
      rcases member? "message" members with _ | _ | message <;> rfl
  · rfl

theorem errorMessage_array (items : List Json) : errorMessage allowance (.array items) =
    match items with
    | [found, message] => do
      let _ ← code 126 found
      Json.Decode.text 126 message
    | _ => none := by
  match items with
  | [] | [_] | [_, _] | _ :: _ :: _ :: _ => rfl

theorem errorMessage_object_iff {members : Members} {said : String} :
    errorMessage allowance (.object members) = some said ↔
      (∀ member ∈ members, member.1.isSome) ∧ Holds members "message" (some (.text (some said))) ∧
        ∃ found, Holds members "error_code" found ∧
          ∀ json ∈ found, json = .null ∨ ∃ n, json = .number n ∧ Fits n := by
  rw [errorMessage_object]
  simp only [← member?_eq_some_iff, ← absentOr_code_isSome_iff 126, ← List.all_eq_true]
  split
  next named =>
    simp only [bind, Option.bind_eq_some_iff, text_eq_some_iff, Option.isSome_iff_exists]
    constructor
    · rintro ⟨found, code, _, message, _, rfl, value, fits, rfl⟩
      exact ⟨named, message, found, code, value, fits⟩
    · rintro ⟨-, message, found, code, value, fits⟩
      exact ⟨found, code, _, message, _, rfl, value, fits, rfl⟩
  next unnamed => simp [unnamed]

/-- A message is found in these documents and in no others. -/
theorem errorMessage_eq_some_iff {json : Json} {said : String} :
    errorMessage allowance json = some said ↔ Tells json said := by
  constructor
  · intro told
    -- Only objects and arrays are looked into.
    cases json with
    | object members =>
      obtain ⟨named, message, found, code, fits⟩ := errorMessage_object_iff.mp told
      refine .object ⟨message, found, code, fun json here => ?_⟩ ⟨named, fun n number => ?_⟩
      · exact (fits json here).imp_right fun ⟨n, same, _⟩ => ⟨n, same⟩
      · rcases fits (.number n) (code.unique number) with ⟨⟨⟩⟩ | ⟨_, ⟨⟩, fits⟩
        exact fits
    | array items =>
      rw [errorMessage_array] at told
      split at told
      next found message =>
        obtain ⟨value, read, text⟩ := Option.bind_eq_some_iff.mp told
        rw [text_eq_some_iff] at text
        subst text
        exact .array ((code_isSome_iff 126 found).mp (Option.isSome_of_eq_some read))
      · cases told
    | _ => cases told
  · rintro (@⟨members, _, ⟨message, found, code, number⟩, ⟨named, legible⟩⟩ | @⟨found, _, fits⟩)
    · refine errorMessage_object_iff.mpr ⟨named, message, found, code, fun json here => ?_⟩
      obtain rfl : found = some json := here
      rcases number json rfl with null | ⟨n, rfl⟩
      · exact .inl null
      · exact .inr ⟨n, rfl, legible n code⟩
    · obtain ⟨value, read⟩ := Option.isSome_iff_exists.mp ((code_isSome_iff 126 found).mpr fits)
      rw [errorMessage_array]
      simp [read, Json.Decode.text]

end Payload

/-! ### The wording of a refusal -/

/-- What can be read of the body of an answer. Answers of some statuses have none. -/
def answerText (status : Nat) (sent : Option Bytes) : String :=
  mend ((if Status.isBodiless status then some [] else sent).getD [])

theorem answerText_encode {status : Nat} (bodied : ¬Status.isBodiless status) (body : String) :
    answerText status (some (encode body)) = body := by
  rw [answerText, if_neg bodied, Option.getD_some, mend_encode]

/-- How a refusal with a status is worded if this is the text of its body. -/
structure Worded (status : Nat) (text message : String) : Prop where
  /-- By the worker, if its message is found. -/
  told : ∀ json said, Spells json (encode text) → Payload.Tells json said → message = said
  /-- A message that cannot be told apart is given with all that it stands in. -/
  lost : ∀ members said, Spells (.object members) (encode text) → Payload.Complaint members said →
    ¬Payload.Legible members → message = text
  whole : ¬Text.blank text → (∀ json said, Spells json (encode text) → ¬Payload.Tells json said) →
    message = text
  phrase : Text.blank text → message = (Status.phrase? status).getD "unknown error"

theorem told_iff {text said : String} :
    (readText text).bind (Payload.errorMessage allowance) = some said ↔
      ∃ json, Spells json (encode text) ∧ Payload.Tells json said := by
  simp only [Option.bind_eq_some_iff, Payload.errorMessage_eq_some_iff, readText, read_eq_some_iff]

theorem refusalMessage_told {status : Nat} {body : Option Bytes} {json : Json} {said : String}
    (spells : Spells json (encode (mend (body.getD [])))) (tells : Payload.Tells json said) :
    refusalMessage status body = said := by
  have told := told_iff.mpr ⟨json, spells, tells⟩
  simp only [refusalMessage, told]

theorem refusalMessage_untold {status : Nat} {body : Option Bytes}
    (silent : ∀ json said, Spells json (encode (mend (body.getD []))) → ¬Payload.Tells json said) :
    refusalMessage status body = if Text.blank (mend (body.getD [])) then
      (Status.phrase? status).getD "unknown error"
      else mend (body.getD []) := by
  have untold : (readText (mend (body.getD []))).bind (Payload.errorMessage allowance) = none := by
    refine Option.eq_none_iff_forall_ne_some.mpr fun said told => ?_
    obtain ⟨json, spells, tells⟩ := told_iff.mp told
    exact silent json said spells tells
  simp only [refusalMessage, untold]

theorem worded_refusalMessage (status : Nat) (body : Option Bytes) :
    Worded status (mend (body.getD [])) (refusalMessage status body) := by
  constructor
  case told => exact fun json said spells tells => refusalMessage_told spells tells
  case lost =>
    intro members said spells _ illegible
    -- The text is not blank, and it spells nothing but this object.
    have worded : ¬Text.blank (mend (body.getD [])) :=
      fun blank => not_spells_of_blank blank _ spells
    refine (refusalMessage_untold fun json other same tells => ?_).trans (if_neg worded)
    obtain rfl : Json.object members = json :=
      Option.some.inj ((read_eq_some_iff.mpr spells).symm.trans (read_eq_some_iff.mpr same))
    cases tells with
    | object _ legible => exact illegible legible
  case whole => exact fun worded silent => (refusalMessage_untold silent).trans (if_neg worded)
  case phrase =>
    intro blank
    refine (refusalMessage_untold fun json said spells _ => ?_).trans (if_pos blank)
    exact not_spells_of_blank blank json spells

namespace Errand

variable {σ : Type} (client : WorkerClient) (network : Network σ)

/-- Whatever was asked, an answer that is no success is given as a refusal with its status, in the
worker's own words as far as they can be told apart. -/
theorem refused_in_own_words (errand : Errand) (state : ClientState σ) {status : Nat}
    {sent : Option Bytes}
    (answered :
      (offer network errand.operation (rotation state.begun.toNat client.workers) state.network).1 =
        .answered status sent)
    (code : Status.isCode status) (final : ¬Status.isInterim status)
    (failure : ¬Status.isSuccess status) :
    ∃ message, (Talk.after (talk client network errand) state).1 = .error (.worker status message) ∧
      Worded status (answerText status sent) message ∧
      ∀ body, ¬Status.isBodiless status → sent = some (encode body) →
        Worded status body message := by
  have worded := worded_refusalMessage status (if Status.isBodiless status then some [] else sent)
  refine ⟨_, ?_, worded, fun body bodied whole => ?_⟩
  · rw [talk_after]
    simp [answered, outcome, settle, code, final, failure, Except.bind]
  · rw [← answerText_encode bodied body, ← whole]
    exact worded

end Errand

def lone : WorkerClient := ⟨[⟨"http://w1", ⟨false, .domain "w1".toList, none, [[]], none⟩⟩]⟩

/-- A worker that answers everything alike. -/
def answering (status : Nat) (body : String) : Network Unit where
  exchange _ _ := (.answered status (some (encode body)), ())

/-- A message behind a number that no type holds, and in front of its code. -/
def lateText : String := "\x7b\"trace\":[1e400],\"message\":\"gone\",\"error_code\":404\x7d"

def lateMembers : Members :=
  [member "trace" (.array
      [.number { Number.Numeral.ofNat 1 with exponent := some ⟨.none, Number.digitsOf 400⟩ }]),
    member "message" (ofString "gone"), member "error_code" (.number (.ofNat 404))]

theorem refused_as_gone :
    Spells (.object lateMembers) (encode lateText) ∧
      (Talk.after (Errand.talk lone (answering 404 lateText) (.status "a")) ⟨0, ()⟩).1 =
        .error (.worker 404 "gone") := by
  have spells : Spells (.object lateMembers) (encode lateText) := read_eq_some_iff.mp rfl
  have code : Holds lateMembers "error_code" (some (.number (.ofNat 404))) :=
    ⟨[lateMembers[0], lateMembers[1]], [], rfl, by simp [lateMembers, member]⟩
  have message : Holds lateMembers "message" (some (.text (some "gone"))) :=
    ⟨[lateMembers[0]], [lateMembers[2]], rfl, by simp [lateMembers, member]⟩
  have complaint : Payload.Complaint lateMembers "gone" := ⟨message, _, code, by simp⟩
  have legible : Payload.Legible lateMembers := by
    refine ⟨by simp [lateMembers, member], fun n number => ?_⟩
    cases code.unique number
    exact ⟨rfl, rfl, by decide⟩
  obtain ⟨message, refused, -, worded⟩ :=
    Errand.refused_in_own_words lone (answering 404 lateText) (.status "a") ⟨0, ()⟩ rfl
      (by decide) (by decide) (by decide)
  have own := (worded lateText (by decide) rfl).told _ _ spells (.object complaint legible)
  exact ⟨spells, own ▸ refused⟩

/-- A message behind a code that does not fit 16 bits. -/
def largeText : String := "\x7b\"error_code\":70000,\"message\":\"m\"\x7d"

def largeMembers : Members :=
  [member "error_code" (.number (.ofNat 70000)), member "message" (ofString "m")]

theorem message_behind_large_code :
    Spells (.object largeMembers) (encode largeText) ∧ Payload.Complaint largeMembers "m" ∧
      (Talk.after (Errand.talk lone (answering 500 largeText) .plugins) ⟨0, ()⟩).1 =
        .error (.worker 500 largeText) := by
  have spells : Spells (.object largeMembers) (encode largeText) := read_eq_some_iff.mp rfl
  have code : Holds largeMembers "error_code" (some (.number (.ofNat 70000))) :=
    ⟨[], [largeMembers[1]], rfl, by simp [largeMembers, member]⟩
  have message : Holds largeMembers "message" (some (.text (some "m"))) :=
    ⟨[largeMembers[0]], [], rfl, by simp [largeMembers, member]⟩
  have complaint : Payload.Complaint largeMembers "m" := ⟨message, _, code, by simp⟩
  have illegible : ¬Payload.Legible largeMembers :=
    fun legible => absurd (legible.fits _ code).small (by decide)
  have given : refusalMessage 500 (some (encode largeText)) = largeText := by
    have worded := worded_refusalMessage 500 (some (encode largeText))
    rw [Option.getD_some, mend_encode] at worded
    exact worded.lost largeMembers "m" spells complaint illegible
  refine ⟨spells, complaint, ?_⟩
  rw [← given]
  rfl

end Conduit
