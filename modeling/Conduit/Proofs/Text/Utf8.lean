import Conduit.Text.Utf8

/-!
# Reading back UTF-8

What is written in UTF-8 is read back as it was, one character after the other. The bytes of a
character outside ASCII are all outside ASCII, so a reader that looks for ASCII marks never finds
one inside a character.
-/
namespace Conduit.Text.Utf8

private theorem toNat_ofNat {n : Nat} (small : n < 256) : (UInt8.ofNat n).toNat = n :=
  UInt8.toNat_ofNat_of_lt' small

theorem first_ascii {n : Nat} (small : n < 0x80) :
    first (UInt8.ofNat n) = .whole (Char.ofNat n) := by
  have value : (UInt8.ofNat n).toNat = n := toNat_ofNat (by omega)
  simp [first, UInt8.lt_iff_toNat_lt, value, small]

theorem first_two : ∀ n < 0x20, 2 ≤ n →
    first (UInt8.ofNat (n + 0xC0)) = .begun ⟨1, 0, 0x80, 0xBF, n⟩ := by
  decide

theorem first_three : ∀ n < 0x10, first (UInt8.ofNat (n + 0xE0)) =
    .begun ⟨1, 1, if n = 0 then 0xA0 else 0x80, if n = 13 then 0x9F else 0xBF, n⟩ := by
  decide

theorem first_four : ∀ n < 5, first (UInt8.ofNat (n + 0xF0)) =
    .begun ⟨1, 2, if n = 0 then 0x90 else 0x80, if n = 4 then 0x8F else 0xBF, n⟩ := by
  decide

/-- A byte in the range that is open to it adds six bits. -/
theorem Begun.next_inside (state : Begun) (n : Nat) (small : n < 0x40)
    (low : state.low.toNat ≤ n + 0x80) (high : n + 0x80 ≤ state.high.toNat) :
    state.next (UInt8.ofNat (n + 0x80)) = match state.owed with
      | 0 => .whole (Char.ofNat (64 * state.bits + n))
      | owed + 1 => .begun ⟨state.seen + 1, owed, 0x80, 0xBF, 64 * state.bits + n⟩ := by
  have value : (UInt8.ofNat (n + 0x80)).toNat = n + 0x80 := toNat_ofNat (by omega)
  have inside : state.low ≤ UInt8.ofNat (n + 0x80) ∧ UInt8.ofNat (n + 0x80) ≤ state.high := by
    rw [UInt8.le_iff_toNat_le, UInt8.le_iff_toNat_le, value]
    exact ⟨low, high⟩
  -- The last byte that is owed completes the character.
  cases owes : state.owed with
  | zero => simp only [next, if_pos inside, value, Nat.add_sub_cancel, owes]
  | succ owed => simp only [next, if_pos inside, value, Nat.add_sub_cancel, owes]

theorem decodeFrom_utf8EncodeChar (index : Nat) (c : Char) (rest : Bytes) :
    decodeFrom index none (String.utf8EncodeChar c ++ rest) =
      (decodeFrom (index + (String.utf8EncodeChar c).length) none rest).map (c :: ·) := by
  have spelled : Char.ofNat c.val.toNat = c := Char.ofNat_toNat c
  have valid : c.val.toNat < 0xD800 ∨ 0xDFFF < c.val.toNat ∧ c.val.toNat < 0x110000 := c.valid
  -- A character is spelled in one to four bytes, each of which gives the reader some of its bits.
  unfold String.utf8EncodeChar
  generalize c.val.toNat = v at *
  dsimp only
  split
  next one =>
    simp only [List.cons_append, List.nil_append, decodeFrom, first_ascii (show v < 0x80 by omega),
      spelled, List.length_cons, List.length_nil]
  split
  next two =>
    have lead := first_two (v / 64 % 32) (by omega) (by omega)
    have last := Begun.next_inside ⟨1, 0, 0x80, 0xBF, v / 64 % 32⟩ (v % 64) (by omega) (by simp)
      (by simp; omega)
    have whole : 64 * (v / 64 % 32) + v % 64 = v := by omega
    simp only [List.cons_append, List.nil_append, decodeFrom, lead, last, whole, spelled,
      List.length_cons, List.length_nil, Nat.add_assoc]
  split
  next three =>
    have lead := first_three (v / 4096 % 16) (by omega)
    -- After some first bytes the range of the next one is narrower, so that no spelling is too
    -- long.
    have middle := Begun.next_inside ⟨1, 1, if v / 4096 % 16 = 0 then 0xA0 else 0x80,
      if v / 4096 % 16 = 13 then 0x9F else 0xBF, v / 4096 % 16⟩ (v / 64 % 64) (by omega)
      (by dsimp only; split <;> simp; omega)
      (by dsimp only; split <;> (simp; omega))
    have last := Begun.next_inside ⟨2, 0, 0x80, 0xBF, 64 * (v / 4096 % 16) + v / 64 % 64⟩ (v % 64)
      (by omega) (by simp) (by simp; omega)
    have whole : 64 * (64 * (v / 4096 % 16) + v / 64 % 64) + v % 64 = v := by omega
    simp only [List.cons_append, List.nil_append, decodeFrom, lead, middle, last, whole, spelled,
      List.length_cons, List.length_nil, Nat.add_assoc]
  next four =>
    have lead := first_four (v / 262144 % 8) (by omega)
    have second := Begun.next_inside ⟨1, 2, if v / 262144 % 8 = 0 then 0x90 else 0x80,
      if v / 262144 % 8 = 4 then 0x8F else 0xBF, v / 262144 % 8⟩ (v / 4096 % 64) (by omega)
      (by dsimp only; split <;> simp; omega)
      (by dsimp only; split <;> (simp; omega))
    have third := Begun.next_inside ⟨2, 1, 0x80, 0xBF, 64 * (v / 262144 % 8) + v / 4096 % 64⟩
      (v / 64 % 64) (by omega) (by simp) (by simp; omega)
    have last := Begun.next_inside
      ⟨3, 0, 0x80, 0xBF, 64 * (64 * (v / 262144 % 8) + v / 4096 % 64) + v / 64 % 64⟩ (v % 64)
        (by omega)
      (by simp) (by simp; omega)
    have whole : 64 * (64 * (64 * (v / 262144 % 8) + v / 4096 % 64) + v / 64 % 64) + v % 64 =
        v := by omega
    simp only [List.cons_append, List.nil_append, decodeFrom, lead, second, third, last, whole,
      spelled, List.length_cons, List.length_nil, Nat.add_assoc]

theorem decodeFrom_encodeChars (index : Nat) (s : List Char) :
    decodeFrom index none (encodeChars s) = .ok s := by
  induction s generalizing index with
  | nil => rfl
  | cons c rest ih =>
    rw [encodeChars, List.flatMap_cons, decodeFrom_utf8EncodeChar, ← encodeChars, ih]
    rfl

theorem decode_encodeChars (s : List Char) : decode (encodeChars s) = .ok (String.ofList s) := by
  rw [decode, decodeFrom_encodeChars]
  rfl

/-- Where nothing is refused there is nothing to mend. -/
theorem mendFrom_of_decodeFrom {index : Nat} {state : Option Begun} {bytes : Bytes} {s : List Char}
    (read : decodeFrom index state bytes = .ok s) : mendFrom state bytes = s := by
  induction bytes generalizing index state s with
  | nil =>
    cases state with
    | none => exact Except.ok.inj read
    | some begun => cases read
  | cons b rest ih =>
    -- A whole character is put in front of what the rest is read as.
    have whole {c : Char} {later : Nat} (read : (decodeFrom later none rest).map (c :: ·) = .ok s) :
        c :: mendFrom none rest = s := by
      cases further : decodeFrom later none rest with
      | error fault =>
        rw [further] at read
        cases read
      | ok t =>
        rw [further] at read
        rw [ih further]
        exact Except.ok.inj read
    cases state with
    | none =>
      rw [mendFrom]
      rw [decodeFrom] at read
      cases taken : first b with
      | whole c => exact whole (taken ▸ read)
      | begun state => exact ih (taken ▸ read)
      | refused =>
        rw [taken] at read
        cases read
    | some begun =>
      rw [mendFrom]
      rw [decodeFrom] at read
      cases taken : begun.next b with
      | whole c => exact whole (taken ▸ read)
      | begun state => exact ih (taken ▸ read)
      | refused =>
        rw [taken] at read
        cases read

theorem mend_encode (s : String) : mend (encode s) = s := by
  rw [mend, encode, mendFrom_of_decodeFrom (decodeFrom_encodeChars 0 s.toList),
    String.ofList_toList]

theorem encodeChars_append (s t : List Char) :
    encodeChars (s ++ t) = encodeChars s ++ encodeChars t :=
  List.flatMap_append

theorem utf8EncodeChar_of_ascii {c : Char} (ascii : c.toNat < 0x80) :
    String.utf8EncodeChar c = [UInt8.ofNat c.toNat] := by
  have small : c.val.toNat ≤ 0x7F := Nat.le_of_lt_succ ascii
  simp only [String.utf8EncodeChar, if_pos small]
  rfl

/-- Outside ASCII every byte is at least 128. -/
theorem le_of_mem_utf8EncodeChar {c : Char} (outside : 0x80 ≤ c.toNat) {b : UInt8}
    (member : b ∈ String.utf8EncodeChar c) : 0x80 ≤ b := by
  have large : ¬c.val.toNat ≤ 0x7F := Nat.not_le.mpr outside
  -- Every byte of a longer spelling has its highest bit set.
  rw [UInt8.le_iff_toNat_le]
  simp only [String.utf8EncodeChar, if_neg large] at member
  generalize c.val.toNat = v at member
  split at member
  · simp only [List.mem_cons, List.not_mem_nil, or_false] at member
    rcases member with rfl | rfl <;> simp <;> omega
  split at member
  · simp only [List.mem_cons, List.not_mem_nil, or_false] at member
    rcases member with rfl | rfl | rfl <;> simp <;> omega
  · simp only [List.mem_cons, List.not_mem_nil, or_false] at member
    rcases member with rfl | rfl | rfl | rfl <;> simp <;> omega

end Conduit.Text.Utf8
