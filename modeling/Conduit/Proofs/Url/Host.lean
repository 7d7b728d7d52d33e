import Conduit.Proofs.Data.Traversal
import Conduit.Proofs.Text.Listed
import Conduit.Proofs.Url.Percent
import Conduit.Url.Host

/-!
# Plain names of hosts

Most hosts are named in ASCII. Such a name stands for itself in lower case, unless a label in it
spells characters beyond ASCII or the last one is a number.
-/
namespace Conduit.Url

open Domain Text Text.Utf8

structure PlainName (name : List Char) : Prop where
  named : name ≠ []
  ascii : ∀ c ∈ name, isAscii c
  free : ∀ c ∈ name, ¬isForbidden c
  unspelled : ∀ label ∈ name.splitOn '.', spelling? (label.map Char.toLower) = none
  unnumbered : endsInNumber (name.map Char.toLower) = false

theorem of_ascii {P : Char → Prop} (all : ∀ n < 0x80, P (Char.ofNat n)) {c : Char}
    (ascii : isAscii c) : P c := by
  have one := all c.toNat (by simpa [isAscii] using ascii)
  rwa [Char.ofNat_toNat] at one

theorem isAscii_of_isForbidden {c : Char} (forbidden : isForbidden c) : isAscii c := by
  simp only [isForbidden, Bool.or_eq_true, decide_eq_true_eq] at forbidden
  simp only [isAscii, decide_eq_true_eq]
  rcases forbidden with (control | deletion) | sign
  · omega
  · omega
  · simpa [isAscii] using List.all_eq_true.mp (by decide : List.all _ isAscii) c
      (List.contains_iff_mem.mp sign)

/-- Lower case makes no sign and no character beyond ASCII. -/
theorem toLower_ascii {c : Char} (ascii : isAscii c) :
    isForbidden c.toLower = isForbidden c ∧ isAscii c.toLower ∧ (c.toLower = '.' ↔ c = '.') := by
  refine of_ascii (P := fun c => isForbidden c.toLower = isForbidden c ∧ isAscii c.toLower ∧
    (c.toLower = '.' ↔ c = '.')) ?_ ascii
  decide

theorem not_runsLeftward_of_ascii {c : Char} (ascii : isAscii c) : ¬Unicode.runsLeftward c := by
  have early : c.toNat < 0x80 := by simpa [isAscii] using ascii
  have outside : ¬0x590 ≤ c.toNat := by omega
  simp [Unicode.runsLeftward, Unicode.leftToRightUntil, outside]

/-- Without percent signs there is nothing to decode. -/
theorem decodeBytes_ascii {s : List Char} (ascii : ∀ c ∈ s, isAscii c) (plain : '%' ∉ s) :
    decodeBytes (encodeChars s) = encodeChars s := by
  -- A text without percent signs is encoded to itself, as far as only these are reserved.
  have escaping : Escaping fun c => c = '%' || !isAscii c :=
    ⟨by decide, fun c outside => by simp [isAscii, outside]⟩
  have same : encode (fun c => c = '%' || !isAscii c) s = s := by
    induction s with
    | nil => rfl
    | cons c rest ih =>
      obtain ⟨first, others⟩ := List.forall_mem_cons.mp ascii
      obtain ⟨noSign, plain⟩ := not_or.mp (mt List.mem_cons.mpr plain)
      rw [encode, List.flatMap_cons, ← encode, ih others plain, encodeChar,
        if_neg (by simp [first, Ne.symm noSign]), List.singleton_append]
  rw [← same, decodeBytes_encode escaping, same]

theorem pieces_map {mark : Char} {change : Char → Char} {s : List Char}
    (kept : ∀ c ∈ s, change c = mark ↔ c = mark) :
    pieces mark (s.map change) = (pieces mark s).map (List.map change) := by
  induction s with
  | nil => rfl
  | cons c rest ih =>
    obtain ⟨first, others⟩ := List.forall_mem_cons.mp kept
    rw [List.map_cons, pieces, pieces, ih others]
    by_cases same : c = mark
    · rw [if_pos same, if_pos (first.mpr same), List.map_cons, List.map_nil]
    · rw [if_neg same, if_neg fun changed => same (first.mp changed)]
      cases pieces mark rest <;> rfl

theorem labels?_plain {part : List Char} (ascii : ∀ c ∈ part, isAscii c)
    (free : ∀ c ∈ part, ¬isForbidden c) (unspelled : spelling? (part.map Char.toLower) = none) :
    labels? part = some [part.map Char.toLower] := by
  have lower : (part.map Char.toLower).any isForbidden = false := by
    refine List.any_eq_false.mpr fun lowered member => ?_
    obtain ⟨c, inside, rfl⟩ := List.mem_map.mp member
    rw [(toLower_ascii (ascii c inside)).1]
    exact free c inside
  rw [labels?, if_pos (List.all_eq_true.mpr ascii)]
  simp only [unspelled, lower, Bool.false_eq_true, if_false]

theorem ofText?_plain {name : List Char} (plain : PlainName name) :
    ofText? name = some (name.map Char.toLower) := by
  have each : (pieces '.' name).mapM labels? =
      some ((pieces '.' name).map fun part => [part.map Char.toLower]) := by
    refine mapM_eq_some_map fun part among => labels?_plain ?_ ?_ ?_
    · exact fun c inside => plain.ascii c (mem_of_mem_pieces among inside)
    · exact fun c inside => plain.free c (mem_of_mem_pieces among inside)
    · exact plain.unspelled part (pieces_eq_splitOn '.' name ▸ among)
  have labels : ((pieces '.' name).map fun part => [part.map Char.toLower]).flatten =
      pieces '.' (name.map Char.toLower) := by
    rw [pieces_map fun c member => (toLower_ascii (plain.ascii c member)).2.2]
    rw [← List.flatMap_def, List.map_eq_flatMap]
  have leftward : (pieces '.' (name.map Char.toLower)).any (·.any Unicode.runsLeftward) =
      false := by
    refine List.any_eq_false.mpr fun piece among leftward => ?_
    obtain ⟨c, inside, leftward⟩ := List.any_eq_true.mp leftward
    obtain ⟨d, member, rfl⟩ := List.mem_map.mp (mem_of_mem_pieces among inside)
    exact not_runsLeftward_of_ascii (toLower_ascii (plain.ascii d member)).2.1 leftward
  rw [ofText?, each]
  simp only [bind, Option.bind_some, labels, leftward, Bool.false_and, Bool.false_eq_true, if_false]
  rw [pieces_eq_splitOn, List.intercalate_splitOn]

theorem parseHost_plain {name : List Char} (plain : PlainName name) :
    parseHost name = .ok (.domain (name.map Char.toLower)) := by
  have bytes : Domain.ofBytes? (decodeBytes (encodeChars name)) = some (name.map Char.toLower) := by
    have sign : '%' ∉ name := fun member => plain.free '%' member (by decide)
    rw [decodeBytes_ascii plain.ascii sign, Domain.ofBytes?, decode_encodeChars]
    exact (congrArg ofText? String.toList_ofList).trans (ofText?_plain plain)
  obtain ⟨first, rest, rfl⟩ := List.exists_cons_of_ne_nil plain.named
  -- It is no address in brackets, since a name holds none.
  unfold parseHost
  split
  next none => cases none
  next bracket => exact absurd (by simp [bracket]) (mt (plain.free '[') (by decide))
  · have unnumbered := plain.unnumbered
    rw [List.map_cons] at unnumbered bytes
    simp only [bytes, unnumbered]
    rfl

end Conduit.Url
