import Conduit.Stream.Step
import Mathlib.Data.List.Range

/-!
# What comes out of the steps

A step makes a record of a record or drops it, and a chain of steps is one after the other. A peek
sees the record that the steps before it made, once, if none of them dropped it; what is seen on the
way is listed in the order of the peeks.
-/
namespace Conduit.Step

variable {κ α : Type}

/-- What a step makes of a key and a value. -/
def act : Step κ α → Option κ × Option α → Option (Option κ × Option α)
  | .filter keep, (key, value) => if keep key value then some (key, value) else none
  | .mapValues transform, (key, value) => some (key, value.map transform)
  | .map transform, (key, value) => some (transform key value)
  | .peek _, pair => some pair

/-- What the steps make of it, one after the other. -/
def apply (steps : List (Step κ α)) (pair : Option κ × Option α) : Option (Option κ × Option α) :=
  steps.foldlM (fun pair step => step.act pair) pair

/-- What is seen at a place in the chain: by a peek, what the steps before it made. -/
def seenAt (steps : List (Step κ α)) (pair : Option κ × Option α) (place : Nat) :
    Option (Observation κ α) :=
  match steps[place]? with
  | some (.peek label) => (apply (steps.take place) pair).map fun made => ⟨label, made.1, made.2⟩
  | _ => none

theorem apply_cons (step : Step κ α) (rest : List (Step κ α)) (pair : Option κ × Option α) :
    apply (step :: rest) pair = (step.act pair).bind (apply rest) :=
  List.foldlM_cons

theorem result_pass (steps : List (Step κ α)) (key : Option κ) (value : Option α) :
    (pass steps key value).result = apply steps (key, value) := by
  induction steps generalizing key value with
  | nil => rfl
  | cons step rest ih =>
    rw [apply_cons]
    cases step with
    | filter keep =>
      rw [pass, act]
      split
      · exact ih key value
      · rfl
    | mapValues transform => exact ih key (value.map transform)
    | map transform => exact ih (transform key value).1 (transform key value).2
    | peek label => exact ih key value

theorem seenAt_succ (step : Step κ α) (rest : List (Step κ α)) (pair : Option κ × Option α)
    (place : Nat) :
    seenAt (step :: rest) pair (place + 1) = (step.act pair).bind fun made =>
      seenAt rest made place := by
  unfold seenAt
  rw [List.getElem?_cons_succ, List.take_succ_cons, apply_cons]
  split
  · exact Option.map_bind
  · cases step.act pair <;> rfl

theorem observations_pass_cons (step : Step κ α) (rest : List (Step κ α)) (key : Option κ)
    (value : Option α) : (pass (step :: rest) key value).observations =
      (seenAt (step :: rest) (key, value) 0).toList ++
      ((step.act (key, value)).elim [] fun made => (pass rest made.1 made.2).observations) := by
  cases step with
  | filter keep =>
    rw [pass, act]
    split <;> rfl
  | mapValues _ | map _ | peek _ => rfl

theorem observations_pass (steps : List (Step κ α)) (key : Option κ) (value : Option α) :
    (pass steps key value).observations =
      (List.range steps.length).filterMap (seenAt steps (key, value)) := by
  induction steps generalizing key value with
  | nil => rfl
  | cons step rest ih =>
    -- At the later places is seen what the rest of the chain sees of what the first step made.
    have later : (List.range rest.length).filterMap (fun place =>
      seenAt (step :: rest) (key, value) (place + 1)) =
        (step.act (key, value)).elim [] fun made => (pass rest made.1 made.2).observations := by
      simp only [seenAt_succ]
      cases step.act (key, value) with
      | none => exact List.filterMap_none _
      | some made => exact (ih made.1 made.2).symm
    rw [observations_pass_cons, ← later, List.length_cons, List.range_succ_eq_map,
      List.filterMap_cons, List.filterMap_map]
    cases seenAt (step :: rest) (key, value) 0 <;> rfl

end Conduit.Step
