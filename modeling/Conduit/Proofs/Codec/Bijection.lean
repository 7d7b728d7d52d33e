import Mathlib.Algebra.GroupWithZero.Nat
import Mathlib.Data.List.Induction
import Conduit.Codec.Basic
import Conduit.Proofs.Text.WellFormed

/-!
# Codecs as bijections

A codec reads back what it writes, and what it reads it writes as it was. So it is a bijection
between its values and the bytes it accepts: all bytes of the right number for the codecs of fixed
size, well-formed UTF-8 for texts.
-/
namespace Conduit.Codec

open Text.Utf8

structure Bijects {α : Type} (codec : Codec α) (accepts : Bytes → Prop) : Prop where
  decode_encode (value : α) : codec.decode (codec.encode value) = .ok value
  accepts_iff (b : Bytes) : (∃ value, codec.decode b = .ok value) ↔ accepts b
  encode_of_decode {b : Bytes} {value : α} (read : codec.decode b = .ok value) :
    codec.encode value = b

/-! ### Numbers of a fixed size -/

theorem length_bigEndian (size n : Nat) : (bigEndian size n).length = size := by
  induction size generalizing n with
  | zero => rfl
  | succ size ih => rw [bigEndian, List.length_append, ih, List.length_singleton]

theorem bigEndianValue_concat (front : Bytes) (last : UInt8) :
    bigEndianValue (front ++ [last]) = 256 * bigEndianValue front + last.toNat := by
  rw [bigEndianValue, List.foldl_append]
  rfl

theorem bigEndianValue_bigEndian {size n : Nat} (small : n < 256 ^ size) :
    bigEndianValue (bigEndian size n) = n := by
  induction size generalizing n with
  | zero => exact (Nat.lt_one_iff.mp small).symm
  | succ size ih =>
    have upper : n / 256 < 256 ^ size :=
      Nat.div_lt_of_lt_mul (by rwa [Nat.mul_comm, ← Nat.pow_succ])
    have lowest : (UInt8.ofNat (n % 256)).toNat = n % 256 :=
      UInt8.toNat_ofNat_of_lt' (Nat.mod_lt n (by decide))
    rw [bigEndian, bigEndianValue_concat, ih upper, lowest, Nat.div_add_mod]

theorem bigEndianValue_lt (b : Bytes) : bigEndianValue b < 256 ^ b.length := by
  induction b using List.reverseRecOn with
  | nil => decide
  | append_singleton front last ih =>
    have small := last.toNat_lt
    rw [bigEndianValue_concat, List.length_append, List.length_singleton, Nat.pow_succ]
    omega

theorem bigEndian_bigEndianValue (b : Bytes) : bigEndian b.length (bigEndianValue b) = b := by
  induction b using List.reverseRecOn with
  | nil => rfl
  | append_singleton front last ih =>
    have small := last.toNat_lt
    have upper : (256 * bigEndianValue front + last.toNat) / 256 = bigEndianValue front := by omega
    have lowest : (256 * bigEndianValue front + last.toNat) % 256 = last.toNat := by omega
    rw [bigEndianValue_concat, List.length_append, List.length_singleton, bigEndian, upper,
      lowest, ih, UInt8.ofNat_toNat]

/-- A codec that writes a number for each value accepts all bytes of its size, if the numbers of
that many bytes are those of the values. -/
theorem bijects_fixed {α : Type} {size : Nat} {toNat : α → Nat} {ofNat : Nat → α} (kind : String)
    (small : ∀ value, toNat value < 256 ^ size) (ofNat_toNat : ∀ value, ofNat (toNat value) = value)
    (toNat_ofNat : ∀ n < 256 ^ size, toNat (ofNat n) = n) :
    Bijects ⟨fun value => bigEndian size (toNat value), fixed kind size ofNat⟩
      (·.length = size) where
  decode_encode value := by
    simp only [fixed, length_bigEndian, if_true, bigEndianValue_bigEndian (small value),
      ofNat_toNat]
  accepts_iff b := by
    by_cases right : b.length = size
    · simp [fixed, right]
    · simp [fixed, right]
  encode_of_decode {b value} read := by
    simp only [fixed] at read
    split at read
    next right =>
      obtain rfl := Except.ok.inj read
      dsimp only
      rw [toNat_ofNat _ (right ▸ bigEndianValue_lt b), ← right, bigEndian_bigEndianValue]
    · cases read

theorem int_bijects : int.Bijects (·.length = 4) :=
  bijects_fixed "int" (fun value => value.toUInt32.toNat_lt)
    (fun value => by rw [UInt32.ofNat_toNat, Int32.toInt32_toUInt32])
    (fun n small => by rw [UInt32.toUInt32_toInt32, UInt32.toNat_ofNat_of_lt' small])

theorem long_bijects : long.Bijects (·.length = 8) :=
  bijects_fixed "long" (fun value => value.toUInt64.toNat_lt)
    (fun value => by rw [UInt64.ofNat_toNat, Int64.toInt64_toUInt64])
    (fun n small => by rw [UInt64.toUInt64_toInt64, UInt64.toNat_ofNat_of_lt' small])

theorem double_bijects : double.Bijects (·.length = 8) :=
  bijects_fixed "double" (fun value => value.bits.toNat_lt)
    (fun value => by rw [UInt64.ofNat_toNat])
    (fun n small => UInt64.toNat_ofNat_of_lt' small)

/-! ### Texts and bytes -/

theorem string_decode_eq_ok {b : Bytes} {text : String} :
    string.decode b = .ok text ↔ Text.Utf8.decode b = .ok text := by
  dsimp only [string]
  cases Text.Utf8.decode b <;> simp [Except.mapError]

theorem string_decode_eq_error {b : Bytes} {fault : CodecFault} :
    string.decode b = .error fault ↔
      ∃ cause, Text.Utf8.decode b = .error cause ∧ fault = .text cause := by
  dsimp only [string]
  cases Text.Utf8.decode b <;> simp [Except.mapError, eq_comm]

theorem string_bijects : string.Bijects WellFormed where
  decode_encode text := string_decode_eq_ok.mpr (Text.Utf8.decode_encode text)
  accepts_iff b := by simp only [string_decode_eq_ok, decode_isOk_iff]
  encode_of_decode read := Text.Utf8.encode_of_decode (string_decode_eq_ok.mp read)

theorem bytes_bijects : bytes.Bijects fun _ => True where
  decode_encode _ := rfl
  accepts_iff b := ⟨fun _ => trivial, fun _ => ⟨b, rfl⟩⟩
  encode_of_decode read := (Except.ok.inj read).symm

/-- Each codec but the one of rows is a bijection between its values and the bytes it accepts. Where
a text is refused, the message has the end of its longest well-formed beginning, and says that it is
incomplete if what comes after is less than a character. -/
theorem bijections_and_refusals :
    int.Bijects (·.length = 4) ∧ long.Bijects (·.length = 8) ∧ double.Bijects (·.length = 8) ∧
    string.Bijects WellFormed ∧ bytes.Bijects (fun _ => True) ∧
    ∀ b fault, string.decode b = .error fault →
      ∃ index : Nat, index ≤ b.length ∧ WellFormed (b.take index) ∧
      (∀ longer ≤ b.length, WellFormed (b.take longer) → longer ≤ index) ∧
      (BeginsCharacter (b.drop index) ∧ fault.message =
          "Invalid UTF-8 string: " ++ s!"incomplete utf-8 byte sequence from index {index}" ∨
        ¬BeginsCharacter (b.drop index) ∧ ∃ length : Nat, fault.message =
          "Invalid UTF-8 string: " ++
            s!"invalid utf-8 sequence of {length} bytes from index {index}") := by
  refine ⟨int_bijects, long_bijects, double_bijects, string_bijects, bytes_bijects,
    fun b fault refused => ?_⟩
  obtain ⟨cause, undecoded, rfl⟩ := string_decode_eq_error.mp refused
  obtain ⟨⟨inside, formed, furthest⟩, told⟩ := decode_refusal undecoded
  refine ⟨cause.index, inside, formed, furthest, ?_⟩
  rcases told with ⟨begins, incomplete⟩ | ⟨foreign, length, invalid⟩
  · exact Or.inl ⟨begins, congrArg (CodecFault.message ∘ .text) incomplete⟩
  · exact Or.inr ⟨foreign, length, congrArg (CodecFault.message ∘ .text) invalid⟩

/-- The euro sign without its last byte is incomplete. -/
theorem refuses_part_of_character :
    string.decode [0x31, 0xE2, 0x82] = .error (.text (.incomplete 1)) ∧
    ∃ index ≤ 3, WellFormed ([0x31, 0xE2, 0x82].take index) ∧
      ∀ longer ≤ 3, WellFormed ([0x31, 0xE2, 0x82].take longer) → longer ≤ index := by
  have refused : string.decode [0x31, 0xE2, 0x82] = .error (.text (.incomplete 1)) := by decide
  obtain ⟨index, inside, formed, furthest, -⟩ := bijections_and_refusals.2.2.2.2.2 _ _ refused
  exact ⟨refused, index, inside, formed, furthest⟩

end Conduit.Codec
