import Conduit.Proofs.Url.Percent
import Conduit.Url.Path

/-!
# Names as segments of a path

A name that is appended to a path becomes one segment that spells it, as long as it is plain: it is
not made of one or two dots, and holds none of the characters that are dropped from addresses. Any
other name goes astray: either the path grows by no segment at all, or by one that spells a
different name.
-/
namespace Conduit.Url.Path

open Text.Utf8

/-- The segment stays one segment in an address, and decodes to the name. -/
structure Spells (segment : List Char) (name : String) : Prop where
  closed : ∀ mark ∈ ['/', '?', '#'], mark ∉ segment
  kept : isSingleDot segment = false ∧ isDoubleDot segment = false
  decoded : decode (decodeBytes (encodeChars segment)) = .ok name

/-- A name that can be appended as it is. -/
structure Plain (name : String) : Prop where
  undotted : name ≠ "." ∧ name ≠ ".."
  whole : cleaned name.toList = name.toList

/-! ### Segments and what they spell -/

theorem Spells.unique {segment : List Char} {name other : String} (one : Spells segment name)
    (two : Spells segment other) : name = other := by
  have same := one.decoded
  rw [two.decoded] at same
  exact (Except.ok.inj same).symm

theorem decoded_encode (name : List Char) :
    decode (decodeBytes (encodeChars (encode reservedInSegment name))) =
      .ok (String.ofList name) := by
  rw [decodeBytes_encode escaping_reservedInSegment, decode_encodeChars]

/-- Lower case changes capital letters, and nothing else. -/
private theorem eq_or_of_toLower_eq {c d : Char} (same : c.toLower = d) :
    c = d ∨ 65 ≤ c.toNat ∧ c.toNat + 32 = d.toNat := by
  unfold Char.toLower at same
  split at same
  next capital =>
    right
    obtain ⟨low, high⟩ := capital
    rw [ge_iff_le, UInt32.le_iff_toNat_le] at low
    rw [UInt32.le_iff_toNat_le] at high
    subst same
    change 65 ≤ c.val.toNat at low
    change c.val.toNat ≤ 90 at high
    refine ⟨low, ?_⟩
    -- A capital letter is moved without a carry.
    change c.val.toNat + 32 = (c.val + 32).toNat
    rw [UInt32.toNat_add]
    change _ = (c.val.toNat + 32) % 4294967296
    omega
  · exact Or.inl same

private theorem toLower_eq_sign {c : Char} : ∀ d ∈ ['.', '%', '2'], c.toLower = d ↔ c = d := by
  intro d sign
  have small : d.toNat < 97 ∧ d.toLower = d := by
    simp only [List.mem_cons, List.not_mem_nil, or_false] at sign
    rcases sign with rfl | rfl | rfl <;> decide
  refine ⟨fun same => ?_, fun same => same ▸ small.2⟩
  rcases eq_or_of_toLower_eq same with equal | ⟨capital, place⟩
  · exact equal
  · omega

private theorem toLower_eq_e {c : Char} : c.toLower = 'e' ↔ c = 'e' ∨ c = 'E' := by
  constructor
  · intro same
    rcases eq_or_of_toLower_eq same with equal | ⟨_, place⟩
    · exact Or.inl equal
    · have code : c.toNat = 'E'.toNat := Nat.add_right_cancel (m := 32) place
      exact Or.inr (Char.toNat_inj.mp code)
  · rintro (rfl | rfl) <;> decide

/-- A segment that stands for a dot decodes to it, however the dot is spelled. -/
theorem decoded_of_isSingleDot {segment : List Char} (dot : isSingleDot segment = true) :
    decode (decodeBytes (encodeChars segment)) = .ok "." := by
  have spelled : segment = ['.'] ∨ segment = ['%', '2', 'e'] ∨ segment = ['%', '2', 'E'] := by
    simpa [isSingleDot, List.map_eq_cons_iff, toLower_eq_sign, toLower_eq_e, or_and_right,
      and_or_left, exists_or] using dot
  rcases spelled with rfl | rfl | rfl <;> rfl

theorem decoded_of_isDoubleDot {segment : List Char} (dots : isDoubleDot segment = true) :
    decode (decodeBytes (encodeChars segment)) = .ok ".." := by
  have spelled : segment = ['.', '.'] ∨
      (segment = ['.', '%', '2', 'e'] ∨ segment = ['.', '%', '2', 'E']) ∨
      (segment = ['%', '2', 'e', '.'] ∨ segment = ['%', '2', 'E', '.']) ∨
      (segment = ['%', '2', 'e', '%', '2', 'e'] ∨ segment = ['%', '2', 'E', '%', '2', 'e']) ∨
      segment = ['%', '2', 'e', '%', '2', 'E'] ∨ segment = ['%', '2', 'E', '%', '2', 'E'] := by
    simpa [isDoubleDot, List.map_eq_cons_iff, toLower_eq_sign, toLower_eq_e, or_and_right,
      and_or_left, exists_or] using dots
  rcases spelled with rfl | (rfl | rfl) | (rfl | rfl) | (rfl | rfl) | rfl | rfl <;> rfl

/-- A plain name is spelled by its encoded form. -/
theorem Plain.spells {name : String} (plain : Plain name) :
    Spells (encode reservedInSegment name.toList) name := by
  have decoded := decoded_encode name.toList
  rw [String.ofList_toList] at decoded
  refine ⟨fun mark special => ?_, ⟨?_, ?_⟩, decoded⟩
  · have foreign : reservedInSegment mark = true ∧ mark ≠ '%' ∧
        ∀ n < 16, mark ≠ Text.Hex.upperDigit n := by
      simp only [List.mem_cons, List.not_mem_nil, or_false] at special
      rcases special with rfl | rfl | rfl <;> decide
    exact not_mem_encode foreign.1 foreign.2.1 foreign.2.2 name.toList
  -- A segment that stood for dots would decode to dots, and these are not plain.
  · refine Bool.eq_false_iff.mpr fun dot => plain.undotted.1 ?_
    rw [decoded_of_isSingleDot dot] at decoded
    exact (Except.ok.inj decoded).symm
  · refine Bool.eq_false_iff.mpr fun dots => plain.undotted.2 ?_
    rw [decoded_of_isDoubleDot dots] at decoded
    exact (Except.ok.inj decoded).symm

/-! ### Appending -/

/-- The segments behind which another one is put. -/
def trunk (path : Path) : Path := if isRoot path then [] else path

theorem push_eq (path : Path) (segment : List Char) :
    push path segment = trunk path ++ [segment] := by
  unfold push trunk
  split <;> rfl

theorem trunk_concat {path : Path} {segment : List Char} (grown : path ≠ [] ∨ segment ≠ []) :
    trunk (path ++ [segment]) = path ++ [segment] := by
  have rooted : isRoot (path ++ [segment]) = false := by
    cases path <;> simp_all [isRoot]
  simp [trunk, rooted]

theorem append_plain {name : String} (plain : Plain name) (path : Path) :
    append path name.toList = trunk path ++ [encode reservedInSegment name.toList] := by
  have noDot : name.toList ≠ ['.'] := fun same => plain.undotted.1 (String.toList_inj.mp same)
  have noDots : name.toList ≠ ['.', '.'] := fun same => plain.undotted.2 (String.toList_inj.mp same)
  rw [append, if_neg (by simp [noDot, noDots]), plain.whole, if_neg noDots, if_neg noDot, push_eq]

/-- Plain names are appended one by one, once there is a segment. -/
theorem foldl_append_plain {names : List String} (plain : ∀ name ∈ names, Plain name) {path : Path}
    (grown : trunk path = path) (started : path ≠ []) :
    names.foldl (fun path name => append path name.toList) path =
      path ++ names.map fun name => encode reservedInSegment name.toList := by
  induction names generalizing path with
  | nil => simp
  | cons name rest ih =>
    rw [List.foldl_cons, append_plain (plain name List.mem_cons_self), grown,
      ih (fun other member => plain other (List.mem_cons_of_mem _ member))
      (trunk_concat (Or.inl started))
        (by simp), List.map_cons, List.append_assoc, List.singleton_append]

/-! ### Names that go astray -/

theorem length_push_le (path : Path) (segment : List Char) :
    (push path segment).length ≤ path.length + 1 := by
  rw [push]
  split <;> simp

/-- A name that is not plain adds no segment, or one that does not spell it. -/
theorem append_astray {name : String} (astray : ¬Plain name) {path : Path}
    (grown : trunk path = path) (started : path ≠ []) (free : path.getLast?.any isDrive = false) :
    (append path name.toList).length ≤ path.length ∨
      ∃ segment, append path name.toList = path ++ [segment] ∧ ¬Spells segment name := by
  have above : parent path = path.dropLast := by simp [parent, free]
  have shorter : path.dropLast.length + 1 = path.length := by
    rw [List.length_dropLast, Nat.sub_add_cancel (List.length_pos_iff.mpr started)]
  unfold append
  split
  · exact Or.inl (Nat.le_refl _)
  next undotted =>
  have dropped : cleaned name.toList ≠ name.toList := by
    intro whole
    refine astray ⟨⟨?_, ?_⟩, whole⟩
    · rintro rfl
      exact undotted (Or.inl rfl)
    · rintro rfl
      exact undotted (Or.inr rfl)
  split
  -- Two dots lead out of the last segment before an empty one is put there.
  · left
    have length := length_push_le (parent path) []
    rwa [above, shorter, ← above] at length
  split
  next dot =>
    -- An empty segment spells the empty name, of which nothing was dropped.
    refine Or.inr ⟨[], by rw [push_eq, grown], fun spells => dropped ?_⟩
    have empty : name = "" := by
      have decoded := spells.decoded
      exact (Except.ok.inj decoded).symm
    rw [empty]
    rfl
  · refine Or.inr ⟨_, by rw [push_eq, grown], fun spells => dropped ?_⟩
    have decoded := spells.decoded
    rw [decoded_encode] at decoded
    have same := congrArg String.toList (Except.ok.inj decoded)
    rwa [String.toList_ofList] at same

/-- Nothing adds more than one segment. -/
theorem length_append_le (path : Path) (name : List Char) :
    (append path name).length ≤ path.length + 1 := by
  have up : (parent path).length ≤ path.length := by
    unfold parent
    split <;> simp
  have higher := length_push_le (parent path) []
  unfold append
  split
  · omega
  split
  · omega
  split
  · exact length_push_le _ _
  · exact length_push_le _ _

theorem length_foldl_append_le (names : List String) (path : Path) :
    (names.foldl (fun path name => append path name.toList) path).length ≤
      path.length + names.length := by
  induction names generalizing path with
  | nil => simp
  | cons name rest ih =>
    have one := length_append_le path name.toList
    have others := ih (append path name.toList)
    rw [List.foldl_cons, List.length_cons]
    omega

/-! ### The written path -/

theorem chars_append (path more : Path) : chars (path ++ more) = chars path ++ chars more :=
  List.flatMap_append

/-- The first segment can be told from what is written, as it holds no slash. -/
theorem eq_of_append_chars {segment other : List Char} (closed : '/' ∉ segment)
    (closed' : '/' ∉ other) {rest rest' : Path}
    (same : segment ++ chars rest = other ++ chars rest') :
    segment = other ∧ chars rest = chars rest' := by
  -- What comes behind a segment is empty or begins with a slash.
  have bounded : ∀ c text, ∀ path : Path, c :: text = chars path → c = '/' := by
    intro c text path written
    cases path with
    | nil => simp [chars] at written
    | cons first more =>
      simp only [chars, List.flatMap_cons, List.cons_append, List.cons.injEq] at written
      exact written.1
  induction segment generalizing other with
  | nil =>
    cases other with
    | nil => exact ⟨rfl, same⟩
    | cons c text =>
      exact absurd (bounded c _ rest same.symm) fun slash => closed' (slash ▸ List.mem_cons_self)
  | cons c text ih =>
    cases other with
    | nil => exact absurd (bounded c _ rest' same) fun slash => closed (slash ▸ List.mem_cons_self)
    | cons c' text' =>
      simp only [List.cons_append, List.cons.injEq] at same
      obtain ⟨equal, behind⟩ := ih (fun member => closed (List.mem_cons_of_mem _ member))
        (fun member => closed' (List.mem_cons_of_mem _ member)) same.2
      exact ⟨by rw [same.1, equal], behind⟩

end Conduit.Url.Path
