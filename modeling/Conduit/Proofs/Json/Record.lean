import Conduit.Json.Record

/-!
# Members in any order, and more of them

A record takes its fields from an object by name. So the order of the members makes no difference,
and neither does a member whose name is a text that is no field's. A field that occurs once more is
refused.
-/
namespace Conduit.Json

abbrev Members := List (Option String × Json)

/-- The members in another order, or with one more that is no field. -/
inductive Loosened (fields : List Field) : Members → Members → Prop where
  | reordered {members others : Members} (order : members.Perm others) :
      Loosened fields members others
  | added {name : String} (foreign : ∀ field ∈ fields, field.name ≠ name) (value : Json)
      (before after : Members) :
      Loosened fields (before ++ after) (before ++ (some name, value) :: after)

/-- The members with a field once more. -/
inductive Repeated (fields : List Field) : Members → Members → Prop where
  | again {field : Field} (known : field ∈ fields) {first : Json} (value : Json)
      {before after : Members} (occurs : (some field.name, first) ∈ before ++ after) :
      Repeated fields (before ++ after) (before ++ (some field.name, value) :: after)

/-! ### One member -/

theorem member?_perm {members others : Members} (order : members.Perm others) (name : String) :
    member? name members = member? name others := by
  have found := order.filter fun member => member.1 = some name
  unfold member?
  generalize members.filter _ = here at found
  generalize others.filter _ = there at found
  match here with
  | [] => rw [found.nil_eq]
  | [member] => rw [List.perm_singleton.mp found.symm]
  | first :: second :: rest =>
    match there, found.length_eq with
    | _ :: _ :: _, _ => rfl

theorem member?_insert_ne {other : Option String} {name : String} (different : other ≠ some name)
    (value : Json) (before after : Members) :
    member? name (before ++ (other, value) :: after) = member? name (before ++ after) := by
  simp only [member?, List.filter_append, List.filter_cons, different, decide_false,
    Bool.false_eq_true, if_false]

/-- A member is found if no other one has the name. -/
theorem member?_insert (name : String) (value : Json) (before after : Members) :
    member? name (before ++ (some name, value) :: after) = match member? name (before ++ after) with
      | some none => some (some value)
      | _ => none := by
  simp only [member?, List.filter_append, List.filter_cons, decide_true, if_true]
  cases before.filter _ with
  | nil =>
    cases after.filter _ with
    | nil => rfl
    | cons first rest => cases rest <;> rfl
  | cons first rest =>
    cases rest with
    | nil => cases after.filter _ <;> rfl
    | cons second rest => rfl

theorem member?_ne_absent {name : String} {value : Json} {members : Members}
    (occurs : (some name, value) ∈ members) :
    member? name members ≠ some none := by
  have found : (some name, value) ∈ members.filter fun member => member.1 = some name :=
    List.mem_filter.mpr ⟨occurs, by simp⟩
  unfold member?
  split
  next none =>
    rw [none] at found
    cases found
  · nofun
  · nofun

/-- What an object has under a name: nothing, or one value and no other. -/
def Holds (members : Members) (name : String) : Option Json → Prop
  | none => ∀ member ∈ members, member.1 ≠ some name
  | some value =>
    ∃ before after, members = before ++ (some name, value) :: after ∧
      ∀ other ∈ before ++ after, other.1 ≠ some name

theorem member?_eq_some_iff {name : String} {members : Members} {found : Option Json} :
    member? name members = some found ↔ Holds members name found := by
  have absent_iff {members : Members} :
      member? name members = some none ↔ Holds members name none := by
    constructor
    · rintro absent ⟨-, value⟩ occurs rfl
      exact member?_ne_absent occurs absent
    · intro absent
      have none : members.filter (fun member => member.1 = some name) = [] :=
        List.filter_eq_nil_iff.mpr fun member among => by simpa using absent member among
      rw [member?, none]
  cases found with
  | none => exact absent_iff
  | some value =>
    constructor
    · intro found
      unfold member? at found
      split at found
      · cases found
      -- One member has the name, and none does on either side of it.
      next member single =>
        obtain ⟨before, after, rfl, front, named, back⟩ := List.filter_eq_cons_iff.mp single
        obtain ⟨_, value⟩ := member
        cases found
        obtain rfl : _ = some name := by simpa using named
        refine ⟨before, after, rfl, fun other among => ?_⟩
        rcases List.mem_append.mp among with early | late
        · simpa using front other early
        · simpa using List.filter_eq_nil_iff.mp back other late
      · cases found
    · rintro ⟨before, after, rfl, alone⟩
      rw [member?_insert, absent_iff.mpr alone]

theorem Holds.unique {members : Members} {name : String} {one other : Option Json}
    (first : Holds members name one) (second : Holds members name other) : one = other :=
  Option.some.inj ((member?_eq_some_iff.mpr first).symm.trans (member?_eq_some_iff.mpr second))

theorem fieldOfObject_congr {members others : Members} {field : Field}
    (same : member? field.name members = member? field.name others) :
    fieldOfObject members field = fieldOfObject others field := by
  rw [fieldOfObject, fieldOfObject, same]

/-! ### Whole records -/

theorem mapM_fields_congr {members others : Members} {fields : List Field}
    (same : ∀ field ∈ fields, member? field.name members = member? field.name others) :
    fields.mapM (fieldOfObject members) = fields.mapM (fieldOfObject others) := by
  induction fields with
  | nil => rfl
  | cons field fields ih =>
    obtain ⟨here, others⟩ := List.forall_mem_cons.mp same
    rw [List.mapM_cons, List.mapM_cons, fieldOfObject_congr here, ih others]

theorem mapM_fields_eq_none {members : Members} {fields : List Field} {field : Field}
    (known : field ∈ fields) (refused : member? field.name members = none) :
    fields.mapM (fieldOfObject members) = none := by
  induction fields with
  | nil => cases known
  | cons first fields ih =>
    rw [List.mapM_cons]
    rcases List.mem_cons.mp known with rfl | later
    · simp [fieldOfObject, refused]
    · simp [ih later]

theorem record_loosened {fields : List Field} {members others : Members}
    (loosened : Loosened fields members others) :
    record fields (.object members) = record fields (.object others) := by
  cases loosened with
  | reordered order =>
    have named : (members.all fun member => member.1.isSome) = others.all fun member =>
      member.1.isSome := by
      rw [Bool.eq_iff_iff, List.all_eq_true, List.all_eq_true]
      simp only [order.mem_iff]
    simp only [record, named, mapM_fields_congr fun field _ => member?_perm order field.name]
  | @added name foreign value before after =>
    have named : ((before ++ (some name, value) :: after).all fun member => member.1.isSome) =
        (before ++ after).all fun member => member.1.isSome := by
      simp
    have same : ∀ field ∈ fields, member? field.name (before ++ after) =
        member? field.name (before ++ (some name, value) :: after) := by
      intro field known
      have different : some name ≠ some field.name :=
        fun equal => foreign field known (Option.some.inj equal).symm
      rw [member?_insert_ne different]
    simp only [record, named, mapM_fields_congr same]

theorem record_repeated {fields : List Field} {members others : Members}
    (repeated : Repeated fields members others) :
    record fields (.object others) = none := by
  cases repeated with
  | @again field known first value before after occurs =>
    have refused : member? field.name (before ++ (some field.name, value) :: after) = none := by
      have absent := member?_ne_absent occurs
      rw [member?_insert]
      split
      next found => exact absurd found absent
      · rfl
    simp only [record, mapM_fields_eq_none known refused, ite_self]

/-- Which value an object has for a field makes no difference to what becomes of its other
fields. -/
theorem mapM_fields_insert {fields : List Field} {name : String}
    (other : ∀ field ∈ fields, field.name ≠ name) (value : Json) (before after : Members) :
    fields.mapM (fieldOfObject (before ++ (some name, value) :: after)) =
      fields.mapM (fieldOfObject (before ++ after)) := by
  refine mapM_fields_congr fun field known => member?_insert_ne ?_ value before after
  exact fun equal => other field known (Option.some.inj equal).symm

/-- A field that an object has is found in its place, if it is found, between what the others are
found to be. -/
theorem record_insert {front back : List Field} {field : Field}
    (inFront : ∀ other ∈ front, other.name ≠ field.name)
    (behind : ∀ other ∈ back, other.name ≠ field.name) (before after : Members) :
    ∃ once : Bool, ∀ value,
      record (front ++ field :: back) (.object (before ++ (some field.name, value) :: after)) =
        if once then do
          let first ← front.mapM (fieldOfObject (before ++ after))
          let last ← back.mapM (fieldOfObject (before ++ after))
          return first ++ some value :: last
        else none := by
  have named (value : Json) :
      ((before ++ (some field.name, value) :: after).all fun member => member.1.isSome) =
        (before ++ after).all fun member => member.1.isSome := by
    simp
  -- The field is found for every value or for none, by whether another member has its name.
  have alone : (∀ value, fieldOfObject (before ++ (some field.name, value) :: after) field =
      some (some value)) ∨
      ∀ value, fieldOfObject (before ++ (some field.name, value) :: after) field = none := by
    simp only [fieldOfObject, member?_insert]
    cases member? field.name (before ++ after) with
    | none => exact Or.inr fun _ => rfl
    | some other =>
      cases other with
      | none => exact Or.inl fun _ => rfl
      | some _ => exact Or.inr fun _ => rfl
  simp only [record, named, List.mapM_append, List.mapM_cons, mapM_fields_insert inFront,
    mapM_fields_insert behind]
  rcases alone with once | again
  · refine ⟨(before ++ after).all fun member => member.1.isSome, fun value => ?_⟩
    simp [once, Option.bind_assoc]
  · refine ⟨false, fun value => ?_⟩
    simp [again]

end Conduit.Json
