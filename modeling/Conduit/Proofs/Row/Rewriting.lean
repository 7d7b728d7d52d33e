import Conduit.Proofs.Row.RoundTrip

/-!
# Writing a row that was read

Rows are read from many spellings and written in one. What is read of a document is never deeper
than the allowance with which it is read, however it is spelled: the brackets that the written form
opens on a path were opened, in one way or another, on the path that was followed. And of the
numbers that are none only one is ever read. So a row that was read is written in a form that gives
it back.
-/
namespace Conduit

open Number Text.Utf8

/-! ### Numbers -/

namespace Number

theorem Format.read_signed_ne_nan {f : Format} {magnitude : Nat} (room : f.infinity < f.signPlace)
    (bound : magnitude ≤ f.infinity) (negative : Bool) :
    f.read (f.signed negative magnitude) ≠ .nan := by
  have below : magnitude < f.signPlace := Nat.lt_of_le_of_lt bound room
  -- The sign stands above the magnitude, so it does not touch it.
  have apart : f.signed negative magnitude % f.signPlace = magnitude := by
    cases negative with
    | false => exact Nat.mod_eq_of_lt below
    | true => exact (Nat.add_mod_left _ _).trans (Nat.mod_eq_of_lt below)
  unfold Format.read
  dsimp only
  rw [apart]
  split
  · split <;> simp
  · rw [if_pos (by omega)]
    simp

theorem Format.nearest_le (f : Format) (num den : Nat) : f.nearest num den ≤ f.infinity := by
  unfold Format.nearest
  split
  · exact Nat.zero_le _
  · exact Nat.min_le_left _ _

theorem scaledMagnitude_le (bits power : Nat) (up : Bool) :
    scaledMagnitude bits power up ≤ Format.double.infinity := by
  unfold scaledMagnitude
  split
  · dsimp only
    split <;> exact Format.nearest_le _ _ _
  · exact Nat.le_refl _

theorem magnitude?_le {significand bits : Nat} {exponent : Int}
    (found : magnitude? significand exponent = some bits) : bits ≤ Format.double.infinity := by
  unfold magnitude? at found
  dsimp only at found
  split at found
  · split at found
    next finite =>
      cases found
      exact Nat.le_of_lt finite
    next => cases found
  · split at found
    · cases found
      exact Nat.zero_le _
    · split at found
      · cases found
      · split at found <;> cases found
        · exact scaledMagnitude_le _ _ _
        · exact Nat.zero_le _

theorem Format.signed_lt {f : Format} {magnitude : Nat} (room : f.infinity < f.signPlace)
    (bound : magnitude ≤ f.infinity) (negative : Bool) :
    f.signed negative magnitude < 2 * f.signPlace := by
  cases negative <;> simp only [Format.signed, Bool.false_eq_true, if_true, if_false] <;> omega

/-- A sign and a magnitude up to the infinite one are a number. -/
theorem Double.isNaN_ofPattern_signed {magnitude : Nat} (bound : magnitude ≤ Format.double.infinity)
    (negative : Bool) :
    (Double.ofPattern (Format.double.signed negative magnitude)).isNaN = false := by
  have room : Format.double.infinity < Format.double.signPlace := by decide
  have fits : Format.double.signed negative magnitude < UInt64.size :=
    Format.signed_lt room bound negative
  rw [Double.isNaN, Double.read, Double.ofPattern, UInt64.toNat_ofNat_of_lt' fits]
  exact decide_eq_false (Format.read_signed_ne_nan room bound negative)

theorem Single.isNaN_ofPattern_signed {magnitude : Nat} (bound : magnitude ≤ Format.single.infinity)
    (negative : Bool) :
    (Single.ofPattern (Format.single.signed negative magnitude)).isNaN = false := by
  have room : Format.single.infinity < Format.single.signPlace := by decide
  have fits : Format.single.signed negative magnitude < UInt32.size :=
    Format.signed_lt room bound negative
  rw [Single.isNaN, Single.read, Single.ofPattern, UInt32.toNat_ofNat_of_lt' fits]
  exact decide_eq_false (Format.read_signed_ne_nan room bound negative)

theorem Double.isNaN_narrow {x : Double} (number : x.isNaN = false) : x.narrow.isNaN = false := by
  rw [Double.narrow, Format.convert]
  cases read : Format.double.read x.bits.toNat with
  | nan =>
    rw [Double.isNaN, Double.read, read] at number
    simp at number
  | infinite negative => exact Single.isNaN_ofPattern_signed (Nat.le_refl _) negative
  | finite negative mantissa exponent =>
    exact Single.isNaN_ofPattern_signed (Format.nearest_le _ _ _) negative

theorem Numeral.isNaN_of_toDouble? {n : Numeral} {x : Double} (read : n.toDouble? = some x) :
    x.isNaN = false := by
  unfold Numeral.toDouble? at read
  split at read
  · cases read
    exact Double.isNaN_ofPattern_signed (Format.nearest_le _ _ _) _
  · obtain ⟨bits, found, rfl⟩ := Option.map_eq_some_iff.mp read
    exact Double.isNaN_ofPattern_signed (magnitude?_le found) _

theorem Numeral.isNaN_of_toSingle? {n : Numeral} {x : Single} (read : n.toSingle? = some x) :
    x.isNaN = false := by
  unfold Numeral.toSingle? at read
  split at read
  · cases read
    exact Single.isNaN_ofPattern_signed (Format.nearest_le _ _ _) _
  · obtain ⟨wide, found, rfl⟩ := Option.map_eq_some_iff.mp read
    exact Double.isNaN_narrow (Numeral.isNaN_of_toDouble? found)

theorem Double.oneNaN_eq_self {x : Double} (number : x.isNaN = false) : x.oneNaN = x := by
  rw [Double.oneNaN, number]
  rfl

theorem Single.oneNaN_eq_self {x : Single} (number : x.isNaN = false) : x.oneNaN = x := by
  rw [Single.oneNaN, number]
  rfl

end Number

/-- What is read as a number is the value of a numeral, or has one of three names. -/
theorem Decode.cases_of_floating {α : Type} {f : Format} {ofPattern : Nat → α}
    {read : Numeral → Option α} {depth : Nat} {json : Json} {x : α}
    (decoded : Decode.floating f ofPattern read depth json = some x) :
    (∃ numeral, read numeral = some x) ∨ x = ofPattern f.quietNaN ∨
      ∃ negative, x = ofPattern (f.signed negative f.infinity) := by
  unfold Decode.floating at decoded
  split at decoded
  · exact Or.inl ⟨_, decoded⟩
  · exact Or.inr (Or.inl (Option.some.inj decoded).symm)
  · exact Or.inr (Or.inr ⟨false, (Option.some.inj decoded).symm⟩)
  · exact Or.inr (Or.inr ⟨true, (Option.some.inj decoded).symm⟩)
  · cases decoded

theorem Decode.oneNaN_of_double {depth : Nat} {json : Json} {x : Double}
    (decoded : Decode.double depth json = some x) : x.oneNaN = x := by
  rcases Decode.cases_of_floating decoded with ⟨numeral, read⟩ | rfl | ⟨negative, rfl⟩
  · exact Double.oneNaN_eq_self (Numeral.isNaN_of_toDouble? read)
  · decide
  · exact Double.oneNaN_eq_self (Double.isNaN_ofPattern_signed (Nat.le_refl _) negative)

theorem Decode.oneNaN_of_single {depth : Nat} {json : Json} {x : Single}
    (decoded : Decode.single depth json = some x) : x.oneNaN = x := by
  rcases Decode.cases_of_floating decoded with ⟨numeral, read⟩ | rfl | ⟨negative, rfl⟩
  · exact Single.oneNaN_eq_self (Numeral.isNaN_of_toSingle? read)
  · decide
  · exact Single.oneNaN_eq_self (Single.isNaN_ofPattern_signed (Nat.le_refl _) negative)

/-! ### What is read within an allowance -/

theorem exists_of_mem_mapM {ι τ : Type} {read : ι → Option τ} {items : List ι} {results : List τ}
    (all : items.mapM read = some results) :
    ∀ result ∈ results, ∃ item ∈ items, read item = some result := by
  induction items generalizing results with
  | nil =>
    cases all
    exact nofun
  | cons item items ih =>
    rw [List.mapM_cons] at all
    obtain ⟨head, first, all⟩ := Option.bind_eq_some_iff.mp all
    obtain ⟨tail, others, made⟩ := Option.bind_eq_some_iff.mp all
    cases made
    intro result member
    rcases List.mem_cons.mp member with rfl | later
    · exact ⟨item, List.mem_cons_self, first⟩
    · obtain ⟨source, among, found⟩ := ih others result later
      exact ⟨source, List.mem_cons_of_mem item among, found⟩

theorem Cell.depthOfAll_le {cells : List Cell} {depth : Nat}
    (each : ∀ cell ∈ cells, cell.depth ≤ depth) :
    Cell.depthOfAll cells ≤ depth := by
  induction cells with
  | nil => exact Nat.zero_le depth
  | cons cell rest ih =>
    obtain ⟨here, others⟩ := List.forall_mem_cons.mp each
    exact Nat.max_le.mpr ⟨here, ih others⟩

theorem Cell.oneNaNInAll_eq_self {cells : List Cell} (each : ∀ cell ∈ cells, cell.oneNaN = cell) :
    Cell.oneNaNInAll cells = cells := by
  induction cells with
  | nil => rfl
  | cons cell rest ih =>
    obtain ⟨here, others⟩ := List.forall_mem_cons.mp each
    rw [Cell.oneNaNInAll, here, ih others]

/-- A value without rows in it needs one bracket for itself and one more if it is a list of
bytes. -/
theorem Decode.plainValue_within {kind : String} {depth : Nat} {payload : Json} {value : Value}
    (decoded : Decode.plainValue kind depth payload = some value) :
    value.depth ≤ depth + 1 ∧ value.oneNaN = value := by
  unfold Decode.plainValue at decoded
  split at decoded
  -- Kinds with one bracket and no number that could be none.
  iterate 5
    obtain ⟨inner, -, rfl⟩ := Option.map_eq_some_iff.mp decoded
    exact ⟨Nat.le_add_left 1 depth, rfl⟩
  · obtain ⟨x, number, rfl⟩ := Option.map_eq_some_iff.mp decoded
    exact ⟨Nat.le_add_left 1 depth, congrArg Value.float (Decode.oneNaN_of_single number)⟩
  · obtain ⟨x, number, rfl⟩ := Option.map_eq_some_iff.mp decoded
    exact ⟨Nat.le_add_left 1 depth, congrArg Value.double (Decode.oneNaN_of_double number)⟩
  · obtain ⟨inner, -, rfl⟩ := Option.map_eq_some_iff.mp decoded
    exact ⟨Nat.le_add_left 1 depth, rfl⟩
  · obtain ⟨inner, listed, rfl⟩ := Option.map_eq_some_iff.mp decoded
    -- The list was opened, so there was an allowance for it.
    cases depth with
    | zero => simp [Decode.bytes, Json.Decode.list] at listed
    | succ depth => exact ⟨Nat.le_add_left 2 depth, rfl⟩
  · split at decoded
    · cases decoded
      exact ⟨Nat.zero_le _, rfl⟩
    · cases decoded
  · cases decoded

/-- A value that is read is nothing, or a bracket was opened for it. -/
theorem Value.decode_cases {depth : Nat} {json : Json} {value : Value}
    (decoded : Value.decode depth json = some value) :
    value = .null ∨ ∃ fewer payload, depth = fewer + 1 ∧
      ((∃ row, Row.decode fewer payload = some row ∧ value = .row row) ∨
        ∃ kind, Decode.plainValue kind fewer payload = some value) := by
  rw [Value.decode.eq_def] at decoded
  dsimp only at decoded
  split at decoded
  · exact Or.inl (Option.some.inj decoded).symm
  next payload fewer _ =>
    obtain ⟨row, nested, rfl⟩ := Option.map_eq_some_iff.mp decoded
    exact Or.inr ⟨fewer, payload, rfl, Or.inl ⟨row, nested, rfl⟩⟩
  next kind payload fewer _ _ => exact Or.inr ⟨fewer, payload, rfl, Or.inr ⟨kind, decoded⟩⟩
  · cases decoded

mutual

theorem Value.within_of_decode : ∀ (depth : Nat) {json : Json} {value : Value},
    Value.decode depth json = some value → value.depth ≤ depth ∧ value.oneNaN = value
  | depth, json, value, decoded => by
    rcases Value.decode_cases decoded with rfl | ⟨fewer, payload, opened, inner⟩
    · exact ⟨Nat.zero_le depth, rfl⟩
    rcases inner with ⟨row, nested, rfl⟩ | ⟨kind, plain⟩
    · obtain ⟨shallow, same⟩ := Row.within_of_decode fewer nested
      refine ⟨?_, congrArg Value.row same⟩
      rw [Value.depth]
      omega
    · rw [opened]
      exact Decode.plainValue_within plain

theorem Cell.within_of_decode : ∀ (depth : Nat) {json : Json} {cell : Cell},
    Cell.decode depth json = some cell → cell.depth ≤ depth ∧ cell.oneNaN = cell
  | 0, json, cell, decoded => by
    rw [Cell.decode] at decoded
    cases decoded
  | depth + 1, json, cell, decoded => by
    rw [Cell.decode] at decoded
    split at decoded
    next nameJson valueJson _ =>
      obtain ⟨name, -, decoded⟩ := Option.bind_eq_some_iff.mp decoded
      obtain ⟨value, inner, made⟩ := Option.bind_eq_some_iff.mp decoded
      cases made
      obtain ⟨shallow, same⟩ := Value.within_of_decode depth inner
      exact ⟨(Nat.add_comm 1 value.depth).trans_le (Nat.succ_le_succ shallow),
        congrArg (Cell.mk name) same⟩
    · cases decoded

theorem Cell.within_of_decodeList : ∀ (depth : Nat) {json : Json} {cells : List Cell},
    Cell.decodeList depth json = some cells →
      Cell.depthOfAll cells + 1 ≤ depth ∧ Cell.oneNaNInAll cells = cells
  | 0, json, cells, decoded => by
    rw [Cell.decodeList.eq_def] at decoded
    cases decoded
  | depth + 1, json, cells, decoded => by
    rw [Cell.decodeList.eq_def] at decoded
    split at decoded
    next fewer items same =>
      obtain rfl : depth = fewer := Nat.succ.inj same
      have each : ∀ cell ∈ cells, cell.depth ≤ depth ∧ cell.oneNaN = cell := by
        intro cell member
        obtain ⟨item, -, found⟩ := exists_of_mem_mapM decoded cell member
        exact Cell.within_of_decode depth found
      exact ⟨Nat.succ_le_succ (Cell.depthOfAll_le fun cell member => (each cell member).1),
        Cell.oneNaNInAll_eq_self fun cell member => (each cell member).2⟩
    · cases decoded

theorem Row.within_of_decode : ∀ (depth : Nat) {json : Json} {row : Row},
    Row.decode depth json = some row → row.depth ≤ depth ∧ row.oneNaN = row
  | 0, json, row, decoded => by
    rw [Row.decode] at decoded
    cases decoded
  | depth + 1, json, row, decoded => by
    rw [Row.decode] at decoded
    split at decoded
    next cellsJson tagsJson _ =>
      obtain ⟨cells, inner, decoded⟩ := Option.bind_eq_some_iff.mp decoded
      obtain ⟨tags, -, made⟩ := Option.bind_eq_some_iff.mp decoded
      cases made
      -- Whatever the tags are, they are beside the cells and no deeper.
      obtain ⟨shallow, same⟩ := Cell.within_of_decodeList depth inner
      refine ⟨?_, congrArg (Row.mk · tags) same⟩
      rw [Row.depth]
      omega
    · cases decoded

end

namespace Codec

/-- Whatever the spelling from which a row was read, its written form is not too deep to be read: it
gives the row back, to the bit, and writing that row gives the written form again. -/
theorem row_decode_rewritten {bytes : Bytes} {r : Row} (read : row.decode bytes = .ok r)
    (legible : r.Legible) :
    row.decode (row.encode r) = .ok r ∧
    (row.decode (row.encode r)).map row.encode = .ok (row.encode r) := by
  have found : rowOfBytes bytes = some r := by
    simp only [row] at read
    split at read
    next other found =>
      cases read
      exact found
    · cases read
  obtain ⟨document, -, decoded⟩ := Option.bind_eq_some_iff.mp found
  -- The allowance was enough for the spelling, so it is enough for the written form.
  obtain ⟨shallow, same⟩ := Row.within_of_decode Json.allowance decoded
  have back : row.decode (row.encode r) = .ok r := by
    have whole := (row_decode_encode legible).1.mpr shallow
    rwa [same] at whole
  refine ⟨back, ?_⟩
  rw [back]
  rfl

/-- A row spelled by arrays: a whole number for a floating-point one, a member that is no field,
nothing as an object, and a row in a row. -/
def looseDocument : Json :=
  .array
    [.array
      [.array [.ofString "a", .object [Json.member "Float" (.ofNat 7)]],
        .object [Json.member "more" (.array [.array []]),
          Json.member "value" (.object [Json.member "Null" .null]),
          Json.member "name" (.ofString "b")],
        .array [.ofString "c", .object [Json.member "Double" (.ofString "NaN")]],
        .array [.ofString "d", .object [Json.member "Row" (.array [.array []])]]],
      .array [.ofString "new"]]

def looseRow : Row :=
  ⟨[⟨"a", .float ⟨0x40E00000⟩⟩, ⟨"b", .null⟩, ⟨"c", .double .nan⟩, ⟨"d", .row ⟨[], []⟩⟩], ["new"]⟩

theorem row_decode_rewritten_loose :
    row.decode (encodeChars looseDocument.compact) = .ok looseRow ∧
      row.decode (row.encode looseRow) = .ok looseRow := by
  have printable : looseDocument.Printable := by
    have seven := Json.printable_ofNat 7
    simp [looseDocument, Json.Printable, Json.PrintableItems, Json.PrintableMembers, Json.member,
      Json.ofString, seven]
  have found : rowOfBytes (encodeChars looseDocument.compact) = some looseRow := by
    rw [rowOfBytes, Json.read_compact printable, Option.bind_some]
    rfl
  have read : row.decode (encodeChars looseDocument.compact) = .ok looseRow := by
    simp only [row, found]
  have seven : Number.Single.Legible ⟨0x40E00000⟩ := fun _ _ _ _ => by decide +kernel
  have none : Number.Double.Legible .nan := by
    intro negative mantissa exponent finite
    have name : Number.Double.read .nan = .nan := by decide
    simp [name] at finite
  have legible : looseRow.Legible := ⟨seven, trivial, none, trivial, trivial⟩
  exact ⟨read, (row_decode_rewritten read legible).1⟩

end Codec

end Conduit
