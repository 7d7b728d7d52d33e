/-!
# Actions that may fail

What an action on a state comes to: a result, and the state after it. An action that fails on its
way leaves the state as it was then, and what would have come next does not happen.
-/
namespace Conduit.Action

variable {ε σ α β : Type}

theorem run_bind (action : ExceptT ε (StateM σ) α) (next : α → ExceptT ε (StateM σ) β) (state : σ) :
    (action >>= next).run state = match action.run state with
      | (.ok value, later) => (next value).run later
      | (.error fault, later) => (.error fault, later) := by
  unfold ExceptT.run
  simp only [bind, ExceptT.bind, ExceptT.mk, StateT.bind, ExceptT.bindCont]
  rcases action state with ⟨_ | value, later⟩ <;> rfl

theorem run_pure (value : α) (state : σ) :
    (pure value : ExceptT ε (StateM σ) α).run state = (.ok value, state) :=
  rfl

theorem run_get (state : σ) : (get : ExceptT ε (StateM σ) σ).run state = (.ok state, state) :=
  rfl

theorem run_set (next state : σ) :
    (set next : ExceptT ε (StateM σ) PUnit).run state = (.ok ⟨⟩, next) :=
  rfl

theorem run_modify (change : σ → σ) (state : σ) :
    (modify change : ExceptT ε (StateM σ) PUnit).run state = (.ok ⟨⟩, change state) :=
  rfl

theorem run_throw (fault : ε) (state : σ) :
    (throw fault : ExceptT ε (StateM σ) α).run state = (.error fault, state) :=
  rfl

theorem run_ite (condition : Prop) [Decidable condition] (one other : ExceptT ε (StateM σ) α)
    (state : σ) :
    (if condition then one else other).run state =
      if condition then one.run state else other.run state := by
  split <;> rfl

end Conduit.Action
