import Conduit.Json.Record
import Conduit.Proofs.Data.Traversal
import Conduit.Proofs.Json.RoundTrip

/-!
# Decoding what was written

Integers within bounds, texts and lists of things that come back are decoded as what they were
written for, and what is written for them is printable.
-/
namespace Conduit.Json

open Number

theorem Decode.integer_ofInt {low high n : Int} (above : low ≤ n) (below : n ≤ high) (depth : Nat) :
    Decode.integer low high depth (.ofInt n) = some n := by
  simp [Decode.integer, ofInt, Numeral.toInt?_ofInt, above, below]

theorem ofNat_eq_ofInt (n : Nat) : ofNat n = ofInt n := by
  rw [ofNat, Numeral.ofNat_eq_ofInt, ofInt]

theorem Decode.natural_ofNat {high n : Nat} (below : n ≤ high) (depth : Nat) :
    Decode.natural high depth (.ofNat n) = some n := by
  rw [Decode.natural, ofNat_eq_ofInt, Decode.integer_ofInt (by omega) (by omega)]
  rfl

theorem mapM_map {α β γ : Type} {write : α → β} {read : β → Option γ} {back : α → γ} (xs : List α)
    (each : ∀ x, read (write x) = some (back x)) :
    (xs.map write).mapM read = some (xs.map back) := by
  rw [List.mapM_map]
  exact mapM_eq_some_map fun x _ => each x

theorem printable_ofString (s : String) : (ofString s).Printable := rfl

theorem printable_ofInt (n : Int) : (ofInt n).Printable := Numeral.wellFormed_ofInt n

theorem printable_ofNat (n : Nat) : (ofNat n).Printable := by
  rw [ofNat_eq_ofInt]
  exact printable_ofInt n

theorem printableItems_map {α : Type} {write : α → Json} (each : ∀ x, (write x).Printable)
    (xs : List α) :
    PrintableItems (xs.map write) := by
  induction xs with
  | nil => trivial
  | cons x xs ih => exact ⟨each x, ih⟩

theorem printable_array_map {α : Type} {write : α → Json} (each : ∀ x, (write x).Printable)
    (xs : List α) : (array (xs.map write)).Printable := printableItems_map each xs

theorem printable_object_one {name : String} {value : Json} (printable : value.Printable) :
    (object [member name value]).Printable := ⟨rfl, printable, trivial⟩

end Conduit.Json
