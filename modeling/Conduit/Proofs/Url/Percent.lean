import Conduit.Proofs.Text.Utf8
import Conduit.Url.Percent

/-!
# Reading back percent triples

An encoded text decodes to the bytes of the text it was made from, whatever set of characters is
reserved, as long as the percent sign and everything beyond ASCII are in it. The text itself holds
no reserved character any more, apart from the percent sign that opens a triple.
-/
namespace Conduit.Url

open Text.Utf8

/-- A set of characters after whose encoding every percent sign opens a triple. -/
structure Escaping (reserved : Char → Bool) : Prop where
  sign : reserved '%' = true
  beyond : ∀ c : Char, 0x80 ≤ c.toNat → reserved c = true

theorem escaping_reservedInSegment : Escaping reservedInSegment where
  sign := by decide
  beyond c outside := by
    have graphic : outsideGraphic c = true := by simp [outsideGraphic]; omega
    simp [reservedInSegment, reservedInPath, graphic]

/-! ### Triples -/

private theorem value?_upperDigit : ∀ n < 16,
    Text.Hex.value? (UInt8.ofNat (Text.Hex.upperDigit n).toNat) = some n := by
  decide

private theorem upperDigit_ascii : ∀ n < 16, (Text.Hex.upperDigit n).toNat < 0x80 := by
  decide

theorem encodeChars_encodeByte (b : UInt8) :
    encodeChars (encodeByte b) = [0x25, UInt8.ofNat (Text.Hex.upperDigit (b.toNat / 16)).toNat,
      UInt8.ofNat (Text.Hex.upperDigit (b.toNat % 16)).toNat] := by
  have small := b.toNat_lt
  have high := utf8EncodeChar_of_ascii (upperDigit_ascii (b.toNat / 16) (by omega))
  have low := utf8EncodeChar_of_ascii (upperDigit_ascii (b.toNat % 16) (by omega))
  have sign : String.utf8EncodeChar '%' = [0x25] := utf8EncodeChar_of_ascii (by decide)
  simp only [encodeByte, encodeChars, List.flatMap_cons, List.flatMap_nil, sign, high, low,
    List.cons_append, List.nil_append]

theorem decodeBytes_cons_of_ne {b : UInt8} (plain : b ≠ 0x25) (rest : Bytes) :
    decodeBytes (b :: rest) = b :: decodeBytes rest := by
  match rest with
  | [] | [_] => simp [decodeBytes]
  | high :: low :: rest => rw [decodeBytes, if_neg plain]

theorem decodeBytes_encodeByte (b : UInt8) (rest : Bytes) :
    decodeBytes (encodeChars (encodeByte b) ++ rest) = b :: decodeBytes rest := by
  have small := b.toNat_lt
  have high := value?_upperDigit (b.toNat / 16) (by omega)
  have low := value?_upperDigit (b.toNat % 16) (by omega)
  have whole : 16 * (b.toNat / 16) + b.toNat % 16 = b.toNat := by omega
  rw [encodeChars_encodeByte, List.cons_append, List.cons_append, List.cons_append, List.nil_append,
    decodeBytes, if_pos rfl, high, low]
  simp only [whole, UInt8.ofNat_toNat]

theorem decodeBytes_encodeBytes (bytes rest : Bytes) :
    decodeBytes (encodeChars (bytes.flatMap encodeByte) ++ rest) = bytes ++ decodeBytes rest := by
  induction bytes with
  | nil => rfl
  | cons b bytes ih =>
    rw [List.flatMap_cons, encodeChars_append, List.append_assoc, decodeBytes_encodeByte, ih,
      List.cons_append]

/-! ### Texts -/

theorem decodeBytes_encode {reserved : Char → Bool} (escaping : Escaping reserved) (s : List Char) :
    decodeBytes (encodeChars (encode reserved s)) = encodeChars s := by
  induction s with
  | nil => rfl
  | cons c rest ih =>
    rw [encode, List.flatMap_cons, ← encode, encodeChars_append, encodeChar]
    split
    next _ =>
      -- The bytes of a reserved character come back from its triples.
      rw [decodeBytes_encodeBytes, ih]
      rfl
    next free =>
      -- A free character is a byte of its own, and no percent sign.
      have ascii : c.toNat < 0x80 :=
        Nat.lt_of_not_le fun outside => free (escaping.beyond c outside)
      have spelled := utf8EncodeChar_of_ascii ascii
      have plain : UInt8.ofNat c.toNat ≠ 0x25 := by
        intro same
        have code : c.toNat = '%'.toNat := by
          have value := congrArg UInt8.toNat same
          rwa [UInt8.toNat_ofNat_of_lt' (by simp [UInt8.size]; omega)] at value
        exact free (Char.toNat_inj.mp code ▸ escaping.sign)
      have whole : encodeChars (c :: rest) = UInt8.ofNat c.toNat :: encodeChars rest := by
        rw [encodeChars, List.flatMap_cons, spelled, ← encodeChars, List.singleton_append]
      have alone : encodeChars [c] = [UInt8.ofNat c.toNat] := by
        rw [encodeChars, List.flatMap_cons, spelled, List.flatMap_nil, List.append_nil]
      rw [whole, alone, List.singleton_append, decodeBytes_cons_of_ne plain, ih]

/-- A reserved character does not occur, unless triples are made of it. -/
theorem not_mem_encode {reserved : Char → Bool} {mark : Char} (kept : reserved mark = true)
    (sign : mark ≠ '%') (foreign : ∀ n < 16, mark ≠ Text.Hex.upperDigit n) (s : List Char) :
    mark ∉ encode reserved s := by
  intro member
  obtain ⟨c, _, inside⟩ := List.mem_flatMap.mp member
  rw [encodeChar] at inside
  split at inside
  next _ =>
    obtain ⟨b, _, triple⟩ := List.mem_flatMap.mp inside
    have small := b.toNat_lt
    simp only [encodeByte, List.mem_cons, List.not_mem_nil, or_false] at triple
    rcases triple with percent | high | low
    · exact sign percent
    · exact foreign (b.toNat / 16) (by omega) high
    · exact foreign (b.toNat % 16) (by omega) low
  next free => exact free (List.mem_singleton.mp inside ▸ kept)

end Conduit.Url
