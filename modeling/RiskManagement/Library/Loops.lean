import Mathlib.Data.List.Basic

/-!
# Loops on fuel

A loop body does one turn: it goes on with a new state or leaves with a
result.  `none` is a turn whose own inner loop ran out of fuel.  A loop is
reasoned about by an invariant for its result and by a measure for its end.
-/

namespace Loops

variable {State Result : Type}

/-- How a turn of a loop ends. -/
inductive Turn (State Result : Type) where
  | next (state : State)
  | exit (result : Result)
deriving DecidableEq

abbrev Body (State Result : Type) := State → Option (Turn State Result)

/-- Takes turns until one leaves. -/
def iterate (body : Body State Result) : Nat → State → Option Result
  | 0, _ => none
  | fuel + 1, state =>
      match body state with
      | none => none
      | some (.exit result) => some result
      | some (.next state) => iterate body fuel state

/-- The new state or the result of a turn is as it should be. -/
def Turn.Meets (keeps : State → Prop) (ends : Result → Prop) :
    Turn State Result → Prop
  | .next state => keeps state
  | .exit result => ends result

theorem Turn.Meets.imp {keeps kept : State → Prop} {ends ended : Result → Prop}
    {turn : Turn State Result} (meets : turn.Meets keeps ends)
    (keepsImp : ∀ state, keeps state → kept state)
    (endsImp : ∀ result, ends result → ended result) :
    turn.Meets kept ended := by
  cases turn with
  | next state => exact keepsImp state meets
  | exit result => exact endsImp result meets

/-- What every turn keeps and every exit establishes holds of the result. -/
theorem iterate_invariant {body : Body State Result}
    (keeps : State → Prop) (ends : Result → Prop)
    (turns : ∀ state turn, keeps state → body state = some turn →
      turn.Meets keeps ends)
    {fuel : Nat} {state : State} {result : Result}
    (start : keeps state) (returned : iterate body fuel state = some result) :
    ends result := by
  induction fuel generalizing state with
  | zero => cases returned
  | succ fuel ih =>
      rw [iterate] at returned
      cases turned : body state with
      | none => simp [turned] at returned
      | some turn =>
          have meets := turns state turn start turned
          cases turn with
          | exit left =>
              simp only [turned, Option.some.injEq] at returned
              subst returned
              exact meets
          | next after =>
              simp only [turned] at returned
              exact ih meets returned

/-- A loop returns when each turn leaves it or makes the measure smaller. -/
theorem iterate_returns {body : Body State Result}
    (keeps : State → Prop) (measure : State → Nat)
    (turns : ∀ state, keeps state → ∃ turn, body state = some turn ∧
      turn.Meets (fun after => keeps after ∧ measure after < measure state)
        (fun _ => True))
    {fuel : Nat} {state : State}
    (start : keeps state) (enough : measure state < fuel) :
    ∃ result, iterate body fuel state = some result := by
  induction fuel generalizing state with
  | zero => omega
  | succ fuel ih =>
      rw [iterate]
      obtain ⟨turn, turned, meets⟩ := turns state start
      cases turn with
      | exit result => exact ⟨result, by simp [turned]⟩
      | next after =>
          obtain ⟨kept, smaller⟩ := meets
          have returns := ih kept (show measure after < fuel by omega)
          simpa [turned] using returns

/-- A body that has more fuel for its own inner loops, run with more fuel,
returns the same result. -/
theorem iterate_more {body richer : Body State Result}
    (agrees : ∀ state turn, body state = some turn →
      richer state = some turn)
    {fuel more : Nat} (notLess : fuel ≤ more)
    {state : State} {result : Result}
    (returned : iterate body fuel state = some result) :
    iterate richer more state = some result := by
  induction fuel generalizing more state with
  | zero => cases returned
  | succ fuel ih =>
      obtain ⟨more, rfl⟩ : ∃ less, more = less + 1 := ⟨more - 1, by omega⟩
      rw [iterate] at returned ⊢
      cases turn : body state with
      | none => simp [turn] at returned
      | some turned =>
          rw [agrees state turned turn]
          cases turned with
          | exit left => simpa [turn] using returned
          | next after =>
              simp only [turn] at returned
              exact ih (show fuel ≤ more by omega) returned

end Loops
