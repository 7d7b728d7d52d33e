import Conduit.Codec.Basic
import Conduit.Proofs.Json.Decoding

/-!
# Reading back a written row

A row is always written, and what is written is a document that the reader of documents takes. The
decoder counts brackets on its way down, so it gives the row back if and only if the deepest path in
it has no more brackets than are allowed; deeper rows are refused. All values come back as they
were, but that there is only one number that is none.
-/
namespace Conduit

open Number Text.Utf8

/-! ### Numbers -/

namespace Number

/-- The pattern of not-a-number stands for all of them. -/
def Double.oneNaN (x : Double) : Double := if x.isNaN then .nan else x

def Single.oneNaN (x : Single) : Single := if x.isNaN then .nan else x

/-- What is written for the number, if it is finite, is read as the number. -/
def Double.Legible (x : Double) : Prop :=
  ∀ negative mantissa exponent, x.read = .finite negative mantissa exponent →
    x.numeral.toDouble? = some x

def Single.Legible (x : Single) : Prop :=
  ∀ negative mantissa exponent, x.read = .finite negative mantissa exponent →
    x.numeral.toSingle? = some x

theorem Format.eq_of_read_infinite {f : Format} {bits : Nat} {negative : Bool}
    (read : f.read bits = .infinite negative) (bound : bits < 2 * f.signPlace) :
    bits = f.signed negative f.infinity := by
  unfold Format.read at read
  dsimp only at read
  split at read
  · split at read <;> exact absurd read (by simp)
  split at read
  next magnitude =>
    -- The sign is the top place; without it the pattern is that of infinity.
    have sign : decide (f.signPlace ≤ bits) = negative := by simpa using read
    subst sign
    by_cases below : f.signPlace ≤ bits
    · rw [Nat.mod_eq_sub_mod below, Nat.mod_eq_of_lt (by omega)] at magnitude
      simp only [signed, below, decide_true, if_true]
      omega
    · rw [Nat.mod_eq_of_lt (by omega)] at magnitude
      simpa only [signed, below, decide_false, Bool.false_eq_true, if_false] using magnitude
  · exact absurd read (by simp)

end Number

/-- What is written for a number is read as the number, or as the one pattern that is none. -/
theorem Decode.floating_toJson {α : Type} (f : Format) (ofPattern : Nat → α) {bits : Nat}
    {read : Numeral → Option α} {numeral : Numeral} (bound : bits < 2 * f.signPlace)
    (legible : ∀ negative mantissa exponent, f.read bits = .finite negative mantissa exponent →
      read numeral = some (ofPattern bits)) (depth : Nat) :
    Decode.floating f ofPattern read depth ((nonFiniteJson (f.read bits)).getD (.number numeral)) =
      some (ofPattern (if f.read bits = .nan then f.quietNaN else bits)) := by
  cases reading : f.read bits with
  | nan => simp [nonFiniteJson, Json.ofString, Decode.floating]
  | infinite negative =>
    have same := Format.eq_of_read_infinite reading bound
    cases negative <;> simp [nonFiniteJson, Json.ofString, Decode.floating, ← same]
  | finite negative mantissa exponent =>
    simp [nonFiniteJson, Decode.floating, legible _ _ _ reading]

theorem Decode.double_toJson {x : Double} (legible : x.Legible) (depth : Nat) :
    Decode.double depth x.toJson = some x.oneNaN := by
  have same : Double.ofPattern x.bits.toNat = x := by rw [Double.ofPattern, UInt64.ofNat_toNat]
  have back := Decode.floating_toJson .double .ofPattern x.bits.toNat_lt
    (fun _ _ _ read => (legible _ _ _ read).trans (congrArg some same.symm)) depth
  rw [apply_ite Double.ofPattern, same] at back
  simp only [Double.oneNaN, Double.isNaN, decide_eq_true_eq]
  exact back

theorem Decode.single_toJson {x : Single} (legible : x.Legible) (depth : Nat) :
    Decode.single depth x.toJson = some x.oneNaN := by
  have same : Single.ofPattern x.bits.toNat = x := by rw [Single.ofPattern, UInt32.ofNat_toNat]
  have back := Decode.floating_toJson .single .ofPattern x.bits.toNat_lt
    (fun _ _ _ read => (legible _ _ _ read).trans (congrArg some same.symm)) depth
  rw [apply_ite Single.ofPattern, same] at back
  simp only [Single.oneNaN, Single.isNaN, decide_eq_true_eq]
  exact back

theorem Decode.bytes_toJson (bytes : Bytes) (depth : Nat) :
    Decode.bytes (depth + 1) (.array (bytes.map fun b => .ofNat b.toNat)) = some bytes := by
  have each (b : UInt8) : Json.Decode.natural 255 depth (.ofNat b.toNat) = some b.toNat :=
    Json.Decode.natural_ofNat (Nat.le_of_lt_succ b.toNat_lt) depth
  rw [Decode.bytes, Json.Decode.list, Json.mapM_map bytes each, Option.map_some, List.map_map]
  simp [Function.comp_def]

theorem Json.Decode.texts_toJson (texts : List String) (depth : Nat) :
    Json.Decode.list Json.Decode.text (depth + 1) (.array (texts.map Json.ofString)) =
      some texts := by
  have each (s : String) : Json.Decode.text depth (.ofString s) = some s := rfl
  rw [Json.Decode.list, Json.mapM_map texts each, List.map_id']

/-! ### Brackets -/

mutual

/-- The brackets on the deepest path into what is written for a value. -/
def Value.depth : Value → Nat
  | .boolean _ | .byte _ | .short _ | .int _ | .long _ | .float _ | .double _ | .string _ => 1
  | .bytes _ => 2
  | .row value => 1 + value.depth
  | .null => 0

def Cell.depth : Cell → Nat
  | ⟨_, value⟩ => 1 + value.depth

def Cell.depthOfAll : List Cell → Nat
  | [] => 0
  | cell :: rest => max cell.depth (Cell.depthOfAll rest)

def Row.depth : Row → Nat
  | ⟨cells, _⟩ => 2 + Cell.depthOfAll cells

end

mutual

/-- The finite floating-point numbers in the value are legible. -/
def Value.Legible : Value → Prop
  | .float value => value.Legible
  | .double value => value.Legible
  | .row value => value.Legible
  | .boolean _ | .byte _ | .short _ | .int _ | .long _ | .string _ | .bytes _ | .null => True

def Cell.Legible : Cell → Prop
  | ⟨_, value⟩ => value.Legible

def Cell.AllLegible : List Cell → Prop
  | [] => True
  | cell :: rest => cell.Legible ∧ Cell.AllLegible rest

def Row.Legible : Row → Prop
  | ⟨cells, _⟩ => Cell.AllLegible cells

end

mutual

/-- The same value, with one pattern for all numbers that are none. -/
def Value.oneNaN : Value → Value
  | .float value => .float value.oneNaN
  | .double value => .double value.oneNaN
  | .row value => .row value.oneNaN
  | .boolean value => .boolean value
  | .byte value => .byte value
  | .short value => .short value
  | .int value => .int value
  | .long value => .long value
  | .string value => .string value
  | .bytes value => .bytes value
  | .null => .null

def Cell.oneNaN : Cell → Cell
  | ⟨name, value⟩ => ⟨name, value.oneNaN⟩

def Cell.oneNaNInAll : List Cell → List Cell
  | [] => []
  | cell :: rest => cell.oneNaN :: Cell.oneNaNInAll rest

def Row.oneNaN : Row → Row
  | ⟨cells, tags⟩ => ⟨Cell.oneNaNInAll cells, tags⟩

end

/-! ### Values -/

theorem Value.decode_null (depth : Nat) : Value.decode depth (.ofString "Null") = some .null := by
  rw [Value.decode.eq_def]
  rfl

theorem Value.decode_row (payload : Json) (depth : Nat) :
    Value.decode (depth + 1) (.object [Json.member "Row" payload]) =
      (Row.decode depth payload).map .row := by
  rw [Value.decode.eq_def]
  rfl

theorem Value.decode_plain {kind : String} (plain : kind ≠ "Row") (payload : Json) (depth : Nat) :
    Value.decode (depth + 1) (.object [Json.member kind payload]) =
      Decode.plainValue kind depth payload := by
  rw [Value.decode.eq_def]
  simp only [Json.choice, Json.member]

theorem Value.decode_object_zero (kind : String) (payload : Json) :
    Value.decode 0 (.object [Json.member kind payload]) = none := by
  rw [Value.decode.eq_def]
  simp only [Json.choice, Json.member]

/-- A value with a bracket of its own and no other. -/
theorem Value.decode_scalar {kind : String} {payload : Json} {value : Value} (plain : kind ≠ "Row")
    (read : ∀ depth, Decode.plainValue kind depth payload = some value) (depth : Nat) :
    Value.decode depth (.object [Json.member kind payload]) =
      if 1 ≤ depth then some value else none := by
  cases depth with
  | zero => rw [Value.decode_object_zero, if_neg (by omega)]
  | succ depth => rw [Value.decode_plain plain, read, if_pos (by omega)]

theorem Decode.word_ofInt {bits : Nat} {n : Int} (above : -(Nat.pow 2 (bits - 1) : Int) ≤ n)
    (below : n < Nat.pow 2 (bits - 1)) (depth : Nat) : Decode.word bits depth (.ofInt n) = some n :=
  Json.Decode.integer_ofInt above (Int.le_sub_one_of_lt below) depth

/-- An integer of the range of its kind. -/
theorem Value.decode_integer {kind : String} {bits : Nat} {wrap : Int → Value} {n : Int}
    (plain : kind ≠ "Row") (reads : ∀ depth payload, Decode.plainValue kind depth payload =
      (Decode.word bits depth payload).map wrap)
    (above : -(Nat.pow 2 (bits - 1) : Int) ≤ n) (below : n < Nat.pow 2 (bits - 1)) (depth : Nat) :
    Value.decode depth (.object [Json.member kind (.ofInt n)]) =
      if 1 ≤ depth then some (wrap n) else none := by
  refine Value.decode_scalar plain (fun depth => ?_) depth
  rw [reads, Decode.word_ofInt above below, Option.map_some]

theorem Value.decode_bytes (bytes : Bytes) (depth : Nat) :
    Value.decode depth (Value.bytes bytes).toJson =
      if 2 ≤ depth then some (.bytes bytes) else none := by
  rw [Value.toJson]
  -- One bracket opens the value, and a second one the list of its bytes.
  match depth with
  | 0 => rw [Value.decode_object_zero, if_neg (by omega)]
  | 1 =>
    rw [Value.decode_plain (by decide), if_neg (by omega)]
    rfl
  | depth + 2 =>
    rw [Value.decode_plain (by decide), if_pos (by omega)]
    change (Decode.bytes (depth + 1) _).map Value.bytes = _
    rw [Decode.bytes_toJson, Option.map_some]

theorem Cell.decode_object (name : String) (value : Json) (depth : Nat) :
    Cell.decode (depth + 1)
      (.object [Json.member "name" (.ofString name), Json.member "value" value]) =
        (Value.decode depth value).map (Cell.mk name) := by
  have fields : Json.record Cell.fields
      (.object [Json.member "name" (.ofString name), Json.member "value" value]) =
        some [some (.ofString name), some value] := by
    simp [Json.record, Cell.fields, Json.fieldOfObject, Json.member?, Json.member]
  rw [Cell.decode, fields]
  simp only [Json.Decode.text, Json.ofString, Option.bind_eq_bind, Option.bind_some]
  cases Value.decode depth value <;> rfl

/-- The fields of a row, as they are written. -/
theorem Row.fields_toJson (cells : List Cell) (tags : List String) :
    Json.record Row.fields (Row.toJson ⟨cells, tags⟩) = some [some (.array (Cell.listToJson cells)),
      if tags = [] then none else some (.array (tags.map Json.ofString))] := by
  cases tags with
  | nil => simp [Row.toJson, Json.record, Row.fields, Json.fieldOfObject, Json.member?, Json.member]
  | cons tag tags =>
    simp [Row.toJson, Json.record, Row.fields, Json.fieldOfObject, Json.member?, Json.member]

theorem Row.decode_eq (cells : List Cell) (tags : List String) (depth : Nat) :
    Row.decode (depth + 2) (Row.toJson ⟨cells, tags⟩) =
      ((Cell.listToJson cells).mapM (Cell.decode depth)).map fun cells => ⟨cells, tags⟩ := by
  -- Tags are written only if there are some, and none are read where none are written.
  have tagged : Json.Decode.absentOr [] (Json.Decode.list Json.Decode.text) (depth + 1)
      (if tags = [] then none else some (.array (tags.map Json.ofString))) = some tags := by
    cases tags with
    | nil => rfl
    | cons tag tags => exact Json.Decode.texts_toJson (tag :: tags) depth
  rw [Row.decode, Row.fields_toJson]
  simp only [Cell.decodeList, tagged]
  cases (Cell.listToJson cells).mapM (Cell.decode depth) <;> rfl

theorem Row.decode_one (cells : List Cell) (tags : List String) :
    Row.decode 1 (Row.toJson ⟨cells, tags⟩) = none := by
  rw [Row.decode, Row.fields_toJson]
  rfl

mutual

/-- A value is given back if and only if the allowance suffices. -/
theorem Value.decode_toJson : ∀ value : Value, value.Legible → ∀ depth : Nat,
    Value.decode depth value.toJson = if value.depth ≤ depth then some value.oneNaN else none
  -- Kinds without brackets inside need one bracket for the value, the others what is inside as
  -- well.
  | .boolean value, _, depth => by
    rw [Value.toJson]
    exact Value.decode_scalar (by decide) (fun _ => rfl) depth
  | .byte value, _, depth => by
    rw [Value.toJson,
      Value.decode_integer (by decide) (fun _ _ => rfl) value.le_toInt value.toInt_lt,
      Int8.ofInt_toInt, Value.depth, Value.oneNaN]
  | .short value, _, depth => by
    rw [Value.toJson,
      Value.decode_integer (by decide) (fun _ _ => rfl) value.le_toInt value.toInt_lt,
      Int16.ofInt_toInt, Value.depth, Value.oneNaN]
  | .int value, _, depth => by
    rw [Value.toJson,
      Value.decode_integer (by decide) (fun _ _ => rfl) value.le_toInt value.toInt_lt,
      Int32.ofInt_toInt, Value.depth, Value.oneNaN]
  | .long value, _, depth => by
    rw [Value.toJson,
      Value.decode_integer (by decide) (fun _ _ => rfl) value.le_toInt value.toInt_lt,
      Int64.ofInt_toInt, Value.depth, Value.oneNaN]
  | .float value, legible, depth => by
    rw [Value.Legible] at legible
    rw [Value.toJson]
    refine Value.decode_scalar (by decide) (fun depth => ?_) depth
    change (Decode.single depth _).map _ = _
    rw [Decode.single_toJson legible, Option.map_some, Value.oneNaN]
  | .double value, legible, depth => by
    rw [Value.Legible] at legible
    rw [Value.toJson]
    refine Value.decode_scalar (by decide) (fun depth => ?_) depth
    change (Decode.double depth _).map _ = _
    rw [Decode.double_toJson legible, Option.map_some, Value.oneNaN]
  | .string value, _, depth => by
    rw [Value.toJson]
    exact Value.decode_scalar (by decide) (fun _ => rfl) depth
  | .bytes value, _, depth => by
    rw [Value.decode_bytes, Value.depth, Value.oneNaN]
  | .row value, legible, depth => by
    rw [Value.Legible] at legible
    rw [Value.toJson, Value.depth, Value.oneNaN]
    cases depth with
    | zero => rw [Value.decode_object_zero, if_neg (by omega)]
    | succ depth =>
      rw [Value.decode_row, Row.decode_toJson value legible, Option.map_if]
      simp only [Nat.add_comm 1, Nat.add_le_add_iff_right]
  | .null, _, depth => by
    rw [Value.toJson, Value.decode_null, Value.depth, Value.oneNaN, if_pos (Nat.zero_le depth)]

theorem Cell.decode_toJson : ∀ cell : Cell, cell.Legible → ∀ depth : Nat,
    Cell.decode depth cell.toJson = if cell.depth ≤ depth then some cell.oneNaN else none
  | ⟨name, value⟩, legible, depth => by
    rw [Cell.Legible] at legible
    rw [Cell.toJson, Cell.depth, Cell.oneNaN]
    cases depth with
    | zero => rw [Cell.decode, if_neg (by omega)]
    | succ depth =>
      have read := Value.decode_toJson value legible depth
      rw [Cell.decode_object, read]
      split
      next fits =>
        rw [if_pos (by omega)]
        rfl
      next deeper =>
        rw [if_neg (by omega)]
        rfl

theorem Cell.mapM_decode_toJson : ∀ cells : List Cell, Cell.AllLegible cells → ∀ depth : Nat,
    (Cell.listToJson cells).mapM (Cell.decode depth) =
      if Cell.depthOfAll cells ≤ depth then some (Cell.oneNaNInAll cells) else none
  | [], _, depth => by
    rw [Cell.listToJson, Cell.depthOfAll, Cell.oneNaNInAll, if_pos (Nat.zero_le depth)]
    rfl
  | cell :: rest, legible, depth => by
    rw [Cell.AllLegible] at legible
    have first := Cell.decode_toJson cell legible.1 depth
    have others := Cell.mapM_decode_toJson rest legible.2 depth
    rw [Cell.listToJson, Cell.depthOfAll, Cell.oneNaNInAll, List.mapM_cons, first, others]
    simp only [Nat.max_le]
    -- The list is read if and only if its deepest cell is.
    by_cases here : cell.depth ≤ depth <;> by_cases there : Cell.depthOfAll rest ≤ depth <;>
      simp [here, there]

theorem Row.decode_toJson : ∀ row : Row, row.Legible → ∀ depth : Nat,
    Row.decode depth row.toJson = if row.depth ≤ depth then some row.oneNaN else none
  | ⟨cells, tags⟩, legible, depth => by
    rw [Row.Legible] at legible
    rw [Row.depth, Row.oneNaN]
    -- One bracket opens the row, and a second one the list of its cells.
    match depth with
    | 0 => rw [Row.decode, if_neg (by omega)]
    | 1 => rw [Row.decode_one, if_neg (by omega)]
    | depth + 2 =>
      rw [Row.decode_eq, Cell.mapM_decode_toJson cells legible depth]
      split
      next fits =>
        rw [if_pos (by omega)]
        rfl
      next deeper =>
        rw [if_neg (by omega)]
        rfl

end

/-! ### Bytes -/

/-- A number that is not finite is written as a string, which is printable too. -/
theorem printable_floating {numeral : Numeral} (wellFormed : numeral.WellFormed)
    (reading : Reading) : ((nonFiniteJson reading).getD (.number numeral)).Printable := by
  cases reading with
  | nan => simp [nonFiniteJson, Json.ofString, Json.Printable]
  | infinite negative => cases negative <;> simp [nonFiniteJson, Json.ofString, Json.Printable]
  | finite => exact wellFormed

mutual

theorem Value.printable_toJson : ∀ value : Value, value.toJson.Printable
  | .boolean _ => Json.printable_object_one trivial
  | .byte _ => Json.printable_object_one (Json.printable_ofInt _)
  | .short _ => Json.printable_object_one (Json.printable_ofInt _)
  | .int _ => Json.printable_object_one (Json.printable_ofInt _)
  | .long _ => Json.printable_object_one (Json.printable_ofInt _)
  | .float value =>
    Json.printable_object_one (printable_floating value.wellFormed_numeral value.read)
  | .double value =>
    Json.printable_object_one (printable_floating value.wellFormed_numeral value.read)
  | .string _ => Json.printable_object_one rfl
  | .bytes value =>
    Json.printable_object_one
      (Json.printable_array_map (fun b : UInt8 => Json.printable_ofNat b.toNat) value)
  | .row value => Json.printable_object_one (Row.printable_toJson value)
  | .null => rfl

theorem Cell.printable_toJson : ∀ cell : Cell, cell.toJson.Printable
  | ⟨_, value⟩ => ⟨rfl, rfl, rfl, Value.printable_toJson value, trivial⟩

theorem Cell.printableItems_listToJson :
    ∀ cells : List Cell, Json.PrintableItems (Cell.listToJson cells)
  | [] => trivial
  | cell :: rest => ⟨Cell.printable_toJson cell, Cell.printableItems_listToJson rest⟩

theorem Row.printable_toJson : ∀ row : Row, row.toJson.Printable
  | ⟨cells, []⟩ => ⟨rfl, Cell.printableItems_listToJson cells, trivial⟩
  | ⟨cells, tag :: tags⟩ =>
    ⟨rfl, Cell.printableItems_listToJson cells, rfl,
      Json.printableItems_map Json.printable_ofString (tag :: tags), trivial⟩

end

namespace Codec

/-- What is written for a row is given back, with one pattern for all numbers that are none, if and
only if the row is not too deep; else it is refused. -/
theorem row_decode_encode {r : Row} (legible : r.Legible) :
    (row.decode (row.encode r) = .ok r.oneNaN ↔ r.depth ≤ 127) ∧
      (127 < r.depth → row.decode (row.encode r) = .error .row) := by
  -- The document comes back as it was written, so that the depth alone decides.
  have read : rowOfBytes (row.encode r) = if r.depth ≤ 127 then some r.oneNaN else none := by
    rw [rowOfBytes, row, Json.read_compact (Row.printable_toJson r), Option.bind_some]
    exact Row.decode_toJson r legible 127
  by_cases shallow : r.depth ≤ 127
  · have back : row.decode (row.encode r) = .ok r.oneNaN := by
      rw [if_pos shallow] at read
      simp only [row] at read ⊢
      rw [read]
    exact ⟨⟨fun _ => shallow, fun _ => back⟩, fun deeper => absurd shallow (Nat.not_le.mpr deeper)⟩
  · have refused : row.decode (row.encode r) = .error .row := by
      rw [if_neg shallow] at read
      simp only [row] at read ⊢
      rw [read]
    rw [refused]
    exact ⟨⟨nofun, fun fits => absurd fits shallow⟩, fun _ => rfl⟩

/-- A row of an order with a number that is none. -/
def orderRow : Row :=
  ⟨[⟨"price", .double ⟨0x3FF8000000000000⟩⟩, ⟨"weight", .float ⟨0x7FC00001⟩⟩,
    ⟨"buyer", .row ⟨[⟨"name", .string "J\n"⟩, ⟨"name", .bytes [0, 255]⟩], []⟩⟩,
    ⟨"count", .long (-7)⟩], ["new"]⟩

theorem row_decode_encode_order :
    orderRow.depth = 9 ∧ row.decode (row.encode orderRow) = .ok orderRow.oneNaN := by
  have price : Number.Double.Legible ⟨0x3FF8000000000000⟩ := fun _ _ _ _ => by decide +kernel
  have weight : Number.Single.Legible ⟨0x7FC00001⟩ := by
    intro negative mantissa exponent finite
    have none : Number.Single.read ⟨0x7FC00001⟩ = .nan := by decide
    simp [none] at finite
  have legible : orderRow.Legible := ⟨price, weight, ⟨trivial, trivial, trivial⟩, trivial, trivial⟩
  exact ⟨by decide, (row_decode_encode legible).1.mpr (by decide)⟩

end Codec

end Conduit
