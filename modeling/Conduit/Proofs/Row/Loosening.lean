import Mathlib.Logic.Relation
import Conduit.Codec.Basic
import Conduit.Proofs.Json.Record
import Conduit.Proofs.Row.RoundTrip

/-!
# Loosely written rows

What a row is decoded from may be written loosely: with white space between the tokens, with the
members of a row or of a cell in any order, and with members that are none of their fields and hold
any document. The row stays the same, however deep the place is at which the text was changed. A
field of a row or of a cell that occurs once more makes the whole text no row.
-/
namespace Conduit

open Json Text.Utf8

/-! ### Records in records -/

/-- The kinds of records on the way into a row. -/
inductive RecordKind where
  | row
  | cell

namespace RecordKind

def Thing : RecordKind → Type
  | row => Row
  | cell => Cell

def decode : (kind : RecordKind) → Decoder kind.Thing
  | row => Row.decode
  | cell => Cell.decode

def fields : RecordKind → List Field
  | row => Row.fields
  | cell => Cell.fields

end RecordKind

/-- The ways from a record to one inside it, in documents that differ nowhere else. -/
inductive RecordPath : RecordKind → RecordKind → (Json → Json) → Prop where
  | here (kind : RecordKind) : RecordPath kind kind id
  | cells {inner : RecordKind} {fill : Json → Json} (before after : Members)
      (front back : List Json) (path : RecordPath .cell inner fill) :
      RecordPath .row inner fun hole =>
        .object (before ++ (some "cells", .array (front ++ fill hole :: back)) :: after)
  | cellsOfArray {inner : RecordKind} {fill : Json → Json} (front back rest : List Json)
      (path : RecordPath .cell inner fill) :
      RecordPath .row inner fun hole =>
        .array (.array (front ++ fill hole :: back) :: rest)
  | value {inner : RecordKind} {fill : Json → Json} (before after : Members)
      (path : RecordPath .row inner fill) :
      RecordPath .cell inner fun hole =>
        .object (before ++ (some "value", .object [(some "Row", fill hole)]) :: after)
  | valueOfArray {inner : RecordKind} {fill : Json → Json} (name : Json) (rest : List Json)
      (path : RecordPath .row inner fill) :
      RecordPath .cell inner fun hole =>
        .array (name :: .object [(some "Row", fill hole)] :: rest)

/-- What is made of the whole depends on what is made of the part, and nothing can be made of it
without. -/
def Focuses {ι α β : Type} (whole : ι → Option α) (part : ι → Option β) : Prop :=
  ∃ f : Option β → Option α, f none = none ∧ ∀ x, whole x = f (part x)

namespace Focuses

variable {ι α β γ : Type} {whole : ι → Option α} {part : ι → Option β} {inmost : ι → Option γ}

theorem refl (whole : ι → Option α) : Focuses whole whole := ⟨id, rfl, fun _ => rfl⟩

theorem refused (nothing : ∀ x, whole x = none) (part : ι → Option β) : Focuses whole part :=
  ⟨fun _ => none, rfl, nothing⟩

theorem of_bind {f : β → Option α} (bound : ∀ x, whole x = (part x).bind f) : Focuses whole part :=
  ⟨fun found => found.bind f, rfl, bound⟩

theorem trans (first : Focuses whole part) (second : Focuses part inmost) :
    Focuses whole inmost := by
  obtain ⟨f, fNone, first⟩ := first
  obtain ⟨g, gNone, second⟩ := second
  exact ⟨f ∘ g, by rw [Function.comp_apply, gNone, fNone],
    fun x => by rw [first, second, Function.comp_apply]⟩

theorem comp {κ : Type} (focuses : Focuses whole part) (fill : κ → ι) :
    Focuses (whole ∘ fill) (part ∘ fill) := by
  obtain ⟨f, none, same⟩ := focuses
  exact ⟨f, none, fun x => same (fill x)⟩

/-- One step, and the rest of the way from there. -/
theorem onward {κ : Type} {part : Nat → ι → Option β} {inmost : Nat → κ → Option γ}
    (step : ∃ left, Focuses whole (part left)) (fill : κ → ι)
    (further : ∀ left, ∃ last, Focuses (part left ∘ fill) (inmost last)) :
    ∃ last, Focuses (whole ∘ fill) (inmost last) := by
  obtain ⟨left, step⟩ := step
  obtain ⟨last, focuses⟩ := further left
  exact ⟨last, (step.comp fill).trans focuses⟩

end Focuses

/-! ### One step of the way -/

theorem Cell.focuses_decodeList (depth : Nat) (front back : List Json) :
    Focuses (fun item => Cell.decodeList (depth + 1) (.array (front ++ item :: back)))
      (Cell.decode depth) := by
  cases first : front.mapM (Cell.decode depth) with
  | none => exact .refused (fun item => by simp [Cell.decodeList, first]) _
  | some cells =>
    refine .of_bind
      (f := fun cell => do return cells ++ cell :: (← back.mapM (Cell.decode depth))) fun item => ?_
    simp [Cell.decodeList, first, Option.bind_assoc]

theorem Row.focuses_of_record {depth : Nat} {whole : Json → Json} (rest : Option (Option Json))
    (found : ∀ cells, record Row.fields (whole cells) = rest.map fun tags => [some cells, tags]) :
    Focuses (fun cells => Row.decode (depth + 1) (whole cells)) (Cell.decodeList depth) := by
  cases rest with
  | none => exact .refused (fun cells => by rw [Row.decode, found]; rfl) _
  | some tags => exact .of_bind fun cells => by rw [Row.decode, found]; rfl

theorem Cell.focuses_of_record {depth : Nat} {whole : Json → Json} (rest : Option (Option Json))
    (found : ∀ value, record Cell.fields (whole value) = rest.map fun name => [name, some value]) :
    Focuses (fun value => Cell.decode (depth + 1) (whole value)) (Value.decode depth) := by
  cases rest with
  | none => exact .refused (fun value => by rw [Cell.decode, found]; rfl) _
  | some name =>
    -- A cell has a name, and the name has to be a text.
    cases name with
    | none => exact .refused (fun value => by rw [Cell.decode, found]; rfl) _
    | some name =>
      cases read : Json.Decode.text depth name with
      | none => exact .refused (fun value => by simp [Cell.decode, found, read]) _
      | some name =>
        exact .of_bind fun value => by simp only [Cell.decode, found, read, Option.map_some]; rfl

theorem Row.focuses_object (before after : Members) (depth : Nat) :
    Focuses (fun cells =>
      Row.decode (depth + 1) (.object (before ++ (some "cells", cells) :: after)))
      (Cell.decodeList depth) := by
  obtain ⟨once, found⟩ :=
    @record_insert [] [⟨"tags", .defaulted⟩] ⟨"cells", .required⟩ nofun (by simp) before after
  refine Row.focuses_of_record
    (if once then fieldOfObject (before ++ after) ⟨"tags", .defaulted⟩ else none)
    fun cells => (found cells).trans ?_
  cases once with
  | false => rfl
  | true => cases tags : fieldOfObject (before ++ after) ⟨"tags", .defaulted⟩ <;> simp [tags]

theorem Row.focuses_array (rest : List Json) (depth : Nat) :
    Focuses (fun cells => Row.decode (depth + 1) (.array (cells :: rest)))
      (Cell.decodeList depth) := by
  match rest with
  | [] => exact Row.focuses_of_record (some none) fun cells => rfl
  | [tags] => exact Row.focuses_of_record (some (some tags)) fun cells => rfl
  | _ :: _ :: _ => exact Row.focuses_of_record none fun cells => rfl

theorem Cell.focuses_object (before after : Members) (depth : Nat) :
    Focuses (fun value =>
      Cell.decode (depth + 1) (.object (before ++ (some "value", value) :: after)))
      (Value.decode depth) := by
  obtain ⟨once, found⟩ :=
    @record_insert [⟨"name", .required⟩] [] ⟨"value", .required⟩ (by simp) nofun before after
  refine Cell.focuses_of_record
    (if once then fieldOfObject (before ++ after) ⟨"name", .required⟩ else none)
    fun value => (found value).trans ?_
  cases once with
  | false => rfl
  | true => cases name : fieldOfObject (before ++ after) ⟨"name", .required⟩ <;> simp [name]

theorem Cell.focuses_array (name : Json) (rest : List Json) (depth : Nat) :
    Focuses (fun value => Cell.decode (depth + 1) (.array (name :: value :: rest)))
      (Value.decode depth) := by
  match rest with
  | [] => exact Cell.focuses_of_record (some (some name)) fun value => rfl
  | _ :: _ => exact Cell.focuses_of_record none fun value => rfl

/-! ### The whole way -/

/-- From a row to one of its cells, if there are brackets enough. -/
theorem Row.focuses_cell {whole : Json → Json}
    (step : ∀ depth, Focuses (fun cells => Row.decode (depth + 1) (whole cells))
      (Cell.decodeList depth))
    (front back : List Json) (depth : Nat) :
    ∃ left, Focuses (fun item => Row.decode depth (whole (.array (front ++ item :: back))))
      (Cell.decode left) := by
  match depth with
  | 0 => exact ⟨0, .refused (fun item => by rw [Row.decode]) _⟩
  | depth + 1 =>
    have outer := (step depth).comp fun item => .array (front ++ item :: back)
    match depth with
    | 0 => exact ⟨0, outer.trans (.refused (fun item => by simp [Cell.decodeList]) _)⟩
    | depth + 1 => exact ⟨depth, outer.trans (Cell.focuses_decodeList depth front back)⟩

/-- From a cell to the row that is its value. -/
theorem Cell.focuses_row {whole : Json → Json}
    (step : ∀ depth, Focuses (fun value => Cell.decode (depth + 1) (whole value))
      (Value.decode depth)) (depth : Nat) :
    ∃ left, Focuses (fun row => Cell.decode depth (whole (.object [(some "Row", row)])))
      (Row.decode left) := by
  match depth with
  | 0 => exact ⟨0, .refused (fun row => by rw [Cell.decode]) _⟩
  | depth + 1 =>
    have outer := (step depth).comp fun row => .object [(some "Row", row)]
    match depth with
    | 0 => exact ⟨0, outer.trans (.refused (fun row => Value.decode_object_zero "Row" row) _)⟩
    | depth + 1 =>
      exact ⟨depth, outer.trans ⟨Option.map Value.row, rfl, fun row => Value.decode_row row depth⟩⟩

/-- What is decoded at the outset depends on what is decoded at the end of the way. -/
theorem RecordPath.focuses {kind inner : RecordKind} {fill : Json → Json}
    (path : RecordPath kind inner fill) (depth : Nat) :
    ∃ left, Focuses (fun hole => kind.decode depth (fill hole)) (inner.decode left) := by
  -- Each step takes two brackets, and the rest of the way has to do with what is left.
  induction path generalizing depth with
  | here kind => exact ⟨depth, .refl _⟩
  | @cells inner fill before after front back path ih =>
    have step := Row.focuses_cell (Row.focuses_object before after) front back depth
    exact (Focuses.onward step fill ih :)
  | @cellsOfArray inner fill front back rest path ih =>
    have step := Row.focuses_cell (Row.focuses_array rest) front back depth
    exact (Focuses.onward step fill ih :)
  | @value inner fill before after path ih =>
    have step := Cell.focuses_row (Cell.focuses_object before after) depth
    exact (Focuses.onward step fill ih :)
  | @valueOfArray inner fill name rest path ih =>
    have step := Cell.focuses_row (Cell.focuses_array name rest) depth
    exact (Focuses.onward step fill ih :)

/-! ### Documents -/

theorem Row.decode_congr {document other : Json}
    (same : record Row.fields document = record Row.fields other) (depth : Nat) :
    Row.decode depth document = Row.decode depth other := by
  cases depth with
  | zero => rw [Row.decode, Row.decode]
  | succ depth => rw [Row.decode, Row.decode, same]

theorem Cell.decode_congr {document other : Json}
    (same : record Cell.fields document = record Cell.fields other) (depth : Nat) :
    Cell.decode depth document = Cell.decode depth other := by
  cases depth with
  | zero => rw [Cell.decode, Cell.decode]
  | succ depth => rw [Cell.decode, Cell.decode, same]

namespace RecordKind

/-- Nothing but its fields is decoded from a record. -/
theorem decode_congr (kind : RecordKind) {document other : Json}
    (same : record kind.fields document = record kind.fields other) (depth : Nat) :
    kind.decode depth document = kind.decode depth other := by
  cases kind with
  | row => exact Row.decode_congr same depth
  | cell => exact Cell.decode_congr same depth

theorem decode_null (kind : RecordKind) (depth : Nat) : kind.decode depth .null = none := by
  cases kind with
  | row => cases depth <;> rw [decode, Row.decode] <;> rfl
  | cell => cases depth <;> rw [decode, Cell.decode] <;> rfl

theorem decode_of_refused (kind : RecordKind) {document : Json}
    (refused : record kind.fields document = none) (depth : Nat) :
    kind.decode depth document = none :=
  (kind.decode_congr refused depth).trans (kind.decode_null depth)

end RecordKind

/-- A way to a record keeps what is decoded if the record is loosened. -/
theorem RecordPath.decode_loosened {kind inner : RecordKind} {fill : Json → Json}
    (path : RecordPath kind inner fill) {members others : Members}
    (loosened : Loosened inner.fields members others) (depth : Nat) :
    kind.decode depth (fill (.object members)) = kind.decode depth (fill (.object others)) := by
  obtain ⟨left, f, -, same⟩ := path.focuses depth
  calc kind.decode depth (fill (.object members))
      = f (inner.decode left (.object members)) := same _
    _ = f (inner.decode left (.object others)) := by
      rw [inner.decode_congr (record_loosened loosened)]
    _ = kind.decode depth (fill (.object others)) := (same _).symm

theorem RecordPath.decode_repeated {kind inner : RecordKind} {fill : Json → Json}
    (path : RecordPath kind inner fill) {members others : Members}
    (repeated : Repeated inner.fields members others) (depth : Nat) :
    kind.decode depth (fill (.object others)) = none := by
  obtain ⟨left, f, none, same⟩ := path.focuses depth
  calc kind.decode depth (fill (.object others))
      = f (inner.decode left (.object others)) := same _
    _ = f .none := by rw [inner.decode_of_refused (record_repeated repeated)]
    _ = .none := none

/-! ### Texts -/

/-- The text with one more byte of white space between two of its tokens, or with the members of a
row or of a cell loosened. -/
inductive Loosens : Bytes → Bytes → Prop where
  | spaced {one two : List Token} {front back : Bytes} {b : UInt8} (first : Spaced one front)
      (second : Spaced two back) (whole : Spaced (one ++ two) (front ++ back))
      (space : Reader.isSpace b) : Loosens (front ++ back) (front ++ b :: back)
  | members {kind : RecordKind} {fill : Json → Json} {members others : Members} {t t' : Bytes}
      (path : RecordPath .row kind fill) (loosened : Loosened kind.fields members others)
      (before : Spells (fill (.object members)) t) (after : Spells (fill (.object others)) t') :
      Loosens t t'

/-- The text with a field of a row or of a cell once more. -/
inductive Repeats : Bytes → Bytes → Prop where
  | members {kind : RecordKind} {fill : Json → Json} {members others : Members} {t t' : Bytes}
      (path : RecordPath .row kind fill) (repeated : Repeated kind.fields members others)
      (before : Spells (fill (.object members)) t) (after : Spells (fill (.object others)) t') :
      Repeats t t'

namespace Codec

theorem row_decode_eq_ok_iff {t : Bytes} {r : Row} :
    row.decode t = .ok r ↔ rowOfBytes t = some r := by
  simp only [row]
  cases rowOfBytes t <;> simp

theorem rowOfBytes_of_spells {document : Json} {t : Bytes} (spells : Spells document t) :
    rowOfBytes t = Row.decode allowance document := by
  rw [rowOfBytes, read_eq_some_iff.mpr spells, Option.bind_some]

theorem rowOfBytes_loosens {t t' : Bytes} (loosens : Loosens t t') :
    rowOfBytes t' = rowOfBytes t := by
  cases loosens with
  | spaced first second whole space =>
    -- White space may follow any token, so the tokens are the same.
    have apart := first.append (.space space second) (foreign_of_isSpace space)
    rw [rowOfBytes, rowOfBytes, read_eq_parse apart, read_eq_parse whole]
  | members path loosened before after =>
    rw [rowOfBytes_of_spells before, rowOfBytes_of_spells after]
    exact (path.decode_loosened loosened allowance).symm

theorem rowOfBytes_repeats {t t' : Bytes} (repeats : Repeats t t') : rowOfBytes t' = none := by
  cases repeats with
  | members path repeated before after =>
    rw [rowOfBytes_of_spells after]
    exact path.decode_repeated repeated allowance

/-- However often it is loosened, what is made of a text is the same. -/
theorem rowOfBytes_loosened {t t' : Bytes} (loosened : Relation.ReflTransGen Loosens t t') :
    rowOfBytes t' = rowOfBytes t := by
  induction loosened with
  | refl => rfl
  | tail earlier last ih => rw [rowOfBytes_loosens last, ih]

/-- A text that is decoded to a row spells one document. It may be loosened as often as one likes:
it is decoded to the same row. With a field of a row or of a cell once more, it is refused, and so
it is however it is loosened then. -/
theorem row_decode_loosened {t : Bytes} {r : Row} (decoded : row.decode t = .ok r) :
    (∃ document, Spells document t ∧ ∀ other, Spells other t → other = document) ∧
    ∀ t', Relation.ReflTransGen Loosens t t' →
      row.decode t' = .ok r ∧
      ∀ repeated, Repeats t' repeated → ∀ t'', Relation.ReflTransGen Loosens repeated t'' →
        ∃ fault, row.decode t'' = .error fault := by
  have found := row_decode_eq_ok_iff.mp decoded
  refine ⟨?_, fun t' loosened => ⟨?_, fun repeated repeats t'' further => ?_⟩⟩
  · obtain ⟨document, read, -⟩ := Option.bind_eq_some_iff.mp found
    refine ⟨document, read_eq_some_iff.mp read, fun other spells => ?_⟩
    exact Option.some.inj ((read_eq_some_iff.mpr spells).symm.trans read)
  · rw [row_decode_eq_ok_iff, rowOfBytes_loosened loosened, found]
  · have refused : rowOfBytes t'' = none := by
      rw [rowOfBytes_loosened further, rowOfBytes_repeats repeats]
    exact ⟨.row, by simp only [row, refused]⟩

/-- A row of one cell, with more members in front. -/
def noteDocument (more cell : Members) : Json :=
  .object (more ++ [member "cells" (.array [.object cell])])

def noteText (more cell : Members) : Bytes := encodeChars (noteDocument more cell).compact

/-- A cell is turned round and a member is put before the cells; then the cell gets another name. -/
theorem row_decode_loosened_note :
    let name := member "name" (.ofString "a")
    let value := member "value" (.ofString "Null")
    let more := member "more" (.array [.null])
    row.decode (noteText [] [name, value]) = .ok ⟨[⟨"a", .null⟩], []⟩ ∧
    row.decode (noteText [more] [value, name]) = .ok ⟨[⟨"a", .null⟩], []⟩ ∧
    ∃ fault, row.decode (noteText [more] [value, member "name" (.ofString "b"), name]) =
      .error fault := by
  intro name value more
  let other := member "name" (.ofString "b")
  have printable : (noteDocument [] [name, value]).Printable ∧
      (noteDocument [] [value, name]).Printable ∧
      (noteDocument [more] [value, name]).Printable ∧
      (noteDocument [more] [value, other, name]).Printable := by
    simp [name, value, more, other, noteDocument, Printable, PrintableItems, PrintableMembers,
      member, ofString]
  obtain ⟨plain, turned, loose, again⟩ := printable
  have spells {more cell : Members} (printable : (noteDocument more cell).Printable) :
      Spells (noteDocument more cell) (noteText more cell) :=
    read_eq_some_iff.mp (read_compact printable)
  have decoded : row.decode (noteText [] [name, value]) = .ok ⟨[⟨"a", .null⟩], []⟩ := by
    rw [row_decode_eq_ok_iff, rowOfBytes_of_spells (spells plain)]
    rfl
  have turns : Loosens (noteText [] [name, value]) (noteText [] [value, name]) :=
    .members (.cells [] [] [] [] (.here .cell)) (.reordered (.swap _ _ _)) (spells plain)
      (spells turned)
  have adds : Loosens (noteText [] [value, name]) (noteText [more] [value, name]) :=
    .members (.here .row) (.added (by decide) _ [] _) (spells turned) (spells loose)
  have known : (⟨"name", .required⟩ : Field) ∈ Cell.fields := List.mem_cons_self
  have occurs : (some "name", ofString "a") ∈ [value] ++ [name] :=
    List.mem_append_right _ List.mem_cons_self
  have repeats : Repeats (noteText [more] [value, name]) (noteText [more] [value, other, name]) :=
    .members (.cells [more] [] [] [] (.here .cell)) (.again known _ occurs) (spells loose)
      (spells again)
  obtain ⟨-, kept⟩ := row_decode_loosened decoded
  obtain ⟨same, refused⟩ := kept _ (.tail (.tail .refl turns) adds)
  exact ⟨decoded, same, refused _ repeats _ .refl⟩

end Codec

end Conduit
