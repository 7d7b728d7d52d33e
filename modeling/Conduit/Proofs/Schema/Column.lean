import Conduit.Proofs.Json.Decoding
import Conduit.Proofs.Text.Listed
import Conduit.Schema.Column

/-!
# Reading back a written column list

A column list is always written, and what is written is a document without blanks around it. It is
read back as it was if all its columns have names, and refused if one has none. A list that was read
from any text has only columns with names, so it is read back from what it is written as.
-/
namespace Conduit

theorem DataType.decode_toJson (kind : DataType) (depth : Nat) :
    decode depth kind.toJson = some kind := by
  cases kind <;> rfl

namespace Column

theorem record_toJson (column : Column) :
    Json.record fields column.toJson =
      some [some (.ofString column.name), some (.ofString column.newName),
      some column.dataType.toJson, some (.ofNat column.order.toNat)] := by
  simp [toJson, Json.record, fields, Json.fieldOfObject, Json.member?, Json.member]

theorem decodeJson_toJson (column : Column) (depth : Nat) :
    decodeJson (depth + 1) column.toJson = some column := by
  have order : column.order.toNat ≤ Nat.pow 2 32 - 1 := Nat.le_of_lt_succ column.order.toNat_lt
  rw [decodeJson, record_toJson]
  simp [Json.Decode.text, Json.ofString, DataType.decode_toJson, Json.Decode.natural_ofNat order]

theorem printable_toJson (column : Column) : column.toJson.Printable :=
  ⟨rfl, rfl, rfl, rfl, rfl, rfl, rfl, Json.printable_ofNat column.order.toNat, trivial⟩

theorem encode_toList (columns : List Column) :
    (encode columns).toList = '[' :: Json.compactItems (columns.map toJson) ++ [']'] := by
  rw [encode, Json.compactText, String.toList_ofList, Json.compact]

theorem trimmed_encode (columns : List Column) :
    Text.trimmed (encode columns) = encode columns := by
  have tight : Text.Tight (encode columns).toList := by
    rw [encode_toList]
    refine ⟨fun c first => ?_, fun c last => ?_⟩
    · obtain rfl : '[' = c := by simpa using first
      decide
    · rw [List.getLast?_concat] at last
      obtain rfl : ']' = c := by simpa using last
      decide
  rw [Text.trimmed, Text.trim_eq_self_iff.mpr tight, String.ofList_toList]

theorem readText_encode (columns : List Column) :
    Json.readText (encode columns) = some (.array (columns.map toJson)) := by
  rw [Json.readText, Text.Utf8.encode, encode, Json.compactText, String.toList_ofList]
  exact Json.read_compact (Json.printable_array_map printable_toJson columns)

theorem decode_encode (columns : List Column) :
    decode (encode columns) =
      if columns.all fun column => column.name ≠ "" then .ok columns else .error .nameless := by
  have written : encode columns ≠ "" := fun none => by
    have chars := encode_toList columns
    simp [none] at chars
  have items : Json.Decode.list decodeJson Json.allowance (.array (columns.map toJson)) =
      some columns := by
    rw [Json.allowance, Json.Decode.list, Json.mapM_map columns fun column =>
      decodeJson_toJson column _]
    exact congrArg some (List.map_id columns)
  rw [decode, trimmed_encode, if_neg written, readText_encode, Option.bind_some, items]

theorem named_of_decode {s : String} {columns : List Column} (read : decode s = .ok columns) :
    (columns.all fun column => column.name ≠ "") = true := by
  unfold decode at read
  dsimp only at read
  split at read
  · cases read
    rfl
  · split at read
    · cases read
    · split at read
      next named =>
        cases read
        exact named
      · cases read

theorem decode_surrounded {before after : String} (front : Text.blank before)
    (back : Text.blank after) (text : String) : decode (before ++ text ++ after) = decode text := by
  have same : Text.trimmed (before ++ text ++ after) = Text.trimmed text := by
    rw [Text.trimmed, String.toList_append, String.toList_append,
      Text.trim_surrounded (List.all_eq_true.mp front) (List.all_eq_true.mp back), Text.trimmed]
  rw [decode, same, decode]

theorem decode_blank {text : String} (blank : Text.blank text) : decode text = .ok [] := by
  have surrounded := decode_surrounded blank (rfl : Text.blank "") ""
  rwa [String.append_empty, String.append_empty] at surrounded

/-- A column list is read back from what it is written as if all its columns have names, and refused
for want of a name if not. Whatever text a list is read from, its columns have names, and it is read
back. Blanks around a text do not matter, and a text of blanks is the empty list. -/
theorem lists_read_back :
    (∀ columns, (∀ column ∈ columns, column.name ≠ "") → decode (encode columns) = .ok columns) ∧
    (∀ columns, (∃ column ∈ columns, column.name = "") →
      decode (encode columns) = .error .nameless) ∧
    (∀ text columns, decode text = .ok columns →
      (∀ column ∈ columns, column.name ≠ "") ∧ decode (encode columns) = .ok columns) ∧
    (∀ before text after, Text.blank before → Text.blank after →
      decode (before ++ text ++ after) = decode text) ∧
    ∀ text, Text.blank text → decode text = .ok [] := by
  have named (columns : List Column) (names : ∀ column ∈ columns, column.name ≠ "") :
      decode (encode columns) = .ok columns := by
    rw [decode_encode, if_pos (by simpa using names)]
  refine ⟨named, fun columns nameless => ?_, fun text columns read => ?_,
    fun before text after front back => decode_surrounded front back text, fun text => decode_blank⟩
  · rw [decode_encode, if_neg (by simpa using nameless)]
  · have names : ∀ column ∈ columns, column.name ≠ "" := by simpa using named_of_decode read
    exact ⟨names, named columns names⟩

/-- A column as an array, with an escaped letter, a type as an object and the greatest position. -/
def looseText : String := "[[\"\\u0061\", \"\", \x7b\"INT\": null\x7d, 4294967295]]"

theorem looseText_reads_back :
    decode ("\u3000" ++ looseText ++ "\n") = .ok [⟨"a", "", .int, 4294967295⟩] ∧
      decode (encode [⟨"a", "", .int, 4294967295⟩]) = .ok [⟨"a", "", .int, 4294967295⟩] := by
  have read : decode ("\u3000" ++ looseText ++ "\n") = .ok [⟨"a", "", .int, 4294967295⟩] := by rfl
  obtain ⟨-, -, readBack, -, -⟩ := lists_read_back
  exact ⟨read, (readBack _ _ read).2⟩

end Column

end Conduit
