import Mathlib.Data.List.Induction

/-!
# The latest of several calls

What is put together by calls has parts, and a call may give the value of some of them. A part holds
what the latest call gave for it. So calls that give the values of different parts may change
places.
-/
namespace Conduit

variable {γ β : Type}

/-- What the latest of the calls gave, of those that gave anything. -/
def latest (given : γ → Option β) (calls : List γ) : Option β := (calls.filterMap given).getLast?

theorem latest_concat (given : γ → Option β) (calls : List γ) (call : γ) :
    latest given (calls ++ [call]) = (given call).or (latest given calls) := by
  have last : ([call].filterMap given).getLast? = given call := by
    rw [List.filterMap_cons, List.filterMap_nil]
    cases given call <;> rfl
  rw [latest, List.filterMap_append, List.getLast?_append, last, latest]

theorem exists_of_latest {given : γ → Option β} {calls : List γ} {value : β}
    (found : latest given calls = some value) :
    ∃ before call after, calls = before ++ call :: after ∧ given call = some value ∧
      ∀ later ∈ after, given later = none := by
  induction calls using List.reverseRecOn with
  | nil => cases found
  | append_singleton calls call ih =>
    rw [latest_concat] at found
    cases here : given call with
    | some value =>
      rw [here] at found
      cases found
      exact ⟨calls, call, [], rfl, here, nofun⟩
    | none =>
      rw [here, Option.none_or] at found
      obtain ⟨before, earlier, after, rfl, gave, silent⟩ := ih found
      refine ⟨before, earlier, after ++ [call], by simp, gave, fun later member => ?_⟩
      rcases List.mem_append.mp member with old | new
      · exact silent later old
      · rwa [List.mem_singleton.mp new]

section

variable {δ : Type} {apply : δ → γ → δ}

/-- Call by call a part is replaced by what is given, or stays. -/
theorem foldl_latest {part : δ → Option β} {given : γ → Option β}
    (replaces : ∀ draft call, part (apply draft call) = (given call).or (part draft)) (draft : δ)
    (calls : List γ) :
    part (calls.foldl apply draft) = (latest given calls).or (part draft) := by
  induction calls using List.reverseRecOn with
  | nil => rfl
  | append_singleton calls call ih =>
    rw [List.foldl_append, List.foldl_cons, List.foldl_nil, replaces, ih, latest_concat,
      Option.or_assoc]

theorem foldl_latest_of_none {part : δ → Option β} {given : γ → Option β}
    (replaces : ∀ draft call, part (apply draft call) = (given call).or (part draft)) {draft : δ}
    (unset : part draft = none) (calls : List γ) :
    part (calls.foldl apply draft) = latest given calls := by
  rw [foldl_latest replaces, unset, Option.or_none]

/-- The same for a part that always has a value. -/
theorem foldl_latest_getD {part : δ → β} {given : γ → Option β}
    (replaces : ∀ draft call, part (apply draft call) = (given call).getD (part draft)) (draft : δ)
    (calls : List γ) :
    part (calls.foldl apply draft) = (latest given calls).getD (part draft) := by
  have held : some (part (calls.foldl apply draft)) =
      (latest given calls).or (some (part draft)) := by
    apply @foldl_latest _ _ _ apply fun draft => some (part draft)
    intro draft call
    rw [replaces, Option.or_some]
  rw [Option.or_some] at held
  exact Option.some.inj held

end

theorem latest_filter {given : γ → Option β} {keep : γ → Bool}
    (kept : ∀ call, (given call).isSome = true → keep call = true) (calls : List γ) :
    latest given (calls.filter keep) = latest given calls := by
  have same : (fun call => if keep call = true then given call else none) = given := by
    funext call
    cases here : given call with
    | none => split <;> rfl
    | some value => rw [if_pos (kept call (Option.isSome_of_eq_some here))]
  rw [latest, List.filterMap_filter, same, latest]

section

variable {σ : Type} {writes : γ → σ → Bool}

/-- For each part the calls that give its value come in the same order. -/
def SameOrder (writes : γ → σ → Bool) (one other : List γ) : Prop :=
  ∀ part, one.filter (writes · part) = other.filter (writes · part)

theorem SameOrder.latest_eq {one other : List γ} (same : SameOrder writes one other) (part : σ)
    {given : γ → Option β} (reads : ∀ call, (given call).isSome = true → writes call part = true) :
    latest given one = latest given other := by
  rw [← latest_filter reads one, same part, latest_filter reads other]

/-- Two calls in a row may change places if no part has its value from both. -/
theorem SameOrder.swap {one other : γ}
    (apart : ∀ part, writes one part = false ∨ writes other part = false) (before after : List γ) :
    SameOrder writes (before ++ one :: other :: after) (before ++ other :: one :: after) := by
  intro part
  rcases apart part with absent | absent
  · simp [List.filter_cons, absent]
  · simp [List.filter_cons, absent]

end

end Conduit
