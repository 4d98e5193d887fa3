import TokenAuthority.Pipeline.Basic

/-!
# Whether a handler runs

What surrounds a handler may run it or not, and may change the context and the state that it is run
in. Neither shows in the handler. It shows in what is made of it: a handler that was run makes a
difference by what it comes to, one that was not makes none.
-/

namespace TokenAuthority.Pipeline

variable {Result : Type} {use : Handler → Result} {context other : Context} {state further : State}

/-- What is made of a handler runs it in a context and a state: the result hangs on the handler, and
on nothing of it but what it comes to there. -/
structure Runs (use : Handler → Result) (context : Context) (state : State) : Prop where
  only : ∀ left right : Handler, left context state = right context state → use left = use right
  matters : ∃ left right : Handler, use left ≠ use right

/-- Nothing of the handler shows. -/
def Ignores (use : Handler → Result) : Prop :=
  ∀ left right : Handler, use left = use right

theorem Ignores.not_runs (ignores : Ignores use) : ¬ Runs use context state := by
  rintro ⟨_, left, right, differ⟩
  exact differ (ignores left right)

theorem Runs.unique (here : Runs use context state) (there : Runs use other further) :
    context = other ∧ state = further := by
  apply Decidable.byContradiction
  intro elsewhere
  rcases here.matters with ⟨left, right, differ⟩
  -- The handler that is `left` here and `right` everywhere else has to count as both.
  let mixed : Handler := fun inner held =>
    if inner = context ∧ held = state then left inner held else right inner held
  have asLeft : use left = use mixed := here.only _ _ (by simp [mixed])
  have asRight : use mixed = use right := by
    apply there.only
    have apart : ¬(other = context ∧ further = state) := fun same =>
      elsewhere ⟨same.1.symm, same.2.symm⟩
    simp only [mixed, if_neg apart]
  exact differ (asLeft.trans asRight)

theorem runs_iff_of_eq {finish : Outcome × State → Result}
    (made : ∀ handler, use handler = finish (handler context state))
    (tells : ∃ left right, finish left ≠ finish right) :
    Runs use other further ↔ other = context ∧ further = state := by
  have runs : Runs use context state := by
    rcases tells with ⟨left, right, differ⟩
    refine ⟨?_, fun _ _ => left, fun _ _ => right, ?_⟩
    · intro one another same
      rw [made, made, same]
    · rw [made, made]
      exact differ
  constructor
  · intro elsewhere
    exact elsewhere.unique runs
  · rintro ⟨rfl, rfl⟩
    exact runs

theorem ignores_of_eq {result : Result} (made : ∀ handler, use handler = result) : Ignores use := by
  intro left right
  rw [made left, made right]

end TokenAuthority.Pipeline
