import Mathlib.Data.List.Basic

/-!
# Computations that may fail

Taking apart a successful run of a fallible computation.
-/

namespace Checked

variable {ε α β : Type}

theorem bind_eq_ok_iff {first : Except ε α} {next : α → Except ε β}
    {result : β} :
    first >>= next = .ok result ↔
      ∃ value, first = .ok value ∧ next value = .ok result := by
  cases first with
  | error failure => simp [bind, Except.bind]
  | ok value => simp [bind, Except.bind]

theorem check_bind_eq_ok_iff {check : Except ε Unit} {next : Unit → Except ε β}
    {result : β} :
    check >>= next = .ok result ↔
      check = .ok () ∧ next () = .ok result := by
  rw [bind_eq_ok_iff]
  constructor
  · intro ⟨_, passed, rest⟩
    exact ⟨passed, rest⟩
  · intro ⟨passed, rest⟩
    exact ⟨(), passed, rest⟩

theorem mapM_eq_ok {step : α → Except ε β} {result : α → β} {items : List α}
    (steps : ∀ item ∈ items, step item = .ok (result item)) :
    items.mapM step = .ok (items.map result) := by
  induction items with
  | nil => rfl
  | cons first rest induction =>
      have others := induction fun item member =>
        steps item (List.mem_cons_of_mem _ member)
      rw [List.mapM_cons, steps first List.mem_cons_self, others]
      rfl

theorem forM_eq_ok_iff {check : α → Except ε Unit} {items : List α} :
    items.forM check = .ok () ↔ ∀ item ∈ items, check item = .ok () := by
  induction items with
  | nil => simp [pure, Except.pure]
  | cons first rest induction =>
      rw [List.forM, check_bind_eq_ok_iff, List.forall_mem_cons,
        ← induction]

theorem exists_of_forM_error {check : α → Except ε Unit} {items : List α}
    {failure : ε} (failed : items.forM check = .error failure) :
    ∃ item ∈ items, check item = .error failure := by
  induction items with
  | nil => cases failed
  | cons first rest ih =>
      rw [List.forM] at failed
      cases isFirst : check first with
      | error other =>
          rw [isFirst] at failed
          cases failed
          exact ⟨first, List.mem_cons_self, isFirst⟩
      | ok checked =>
          rw [isFirst] at failed
          obtain ⟨item, member, isFailed⟩ := ih failed
          exact ⟨item, List.mem_cons_of_mem _ member, isFailed⟩

/-- What each step of a successful fold preserves holds at its end. -/
theorem foldlM_preserves {step : β → α → Except ε β} {Holds : β → Prop}
    {items : List α}
    (preserves : ∀ state next, ∀ item ∈ items, Holds state →
      step state item = .ok next → Holds next)
    {initial final : β} (start : Holds initial)
    (run : items.foldlM step initial = .ok final) : Holds final := by
  induction items generalizing initial with
  | nil =>
      cases run
      exact start
  | cons item rest induction =>
      rw [List.foldlM_cons] at run
      obtain ⟨middle, first, runRest⟩ := bind_eq_ok_iff.mp run
      apply induction ?_ ?_ runRest
      · intro state next other member
        exact preserves state next other (List.mem_cons_of_mem _ member)
      · exact preserves initial middle item List.mem_cons_self start first

/-- What one step establishes and the later ones preserve holds at the end. -/
theorem foldlM_establishes {step : β → α → Except ε β} {Holds : β → Prop}
    {items : List α} {item : α} (member : item ∈ items)
    (establishes : ∀ state next, step state item = .ok next → Holds next)
    (preserves : ∀ state next, ∀ other ∈ items, Holds state →
      step state other = .ok next → Holds next)
    {initial final : β} (run : items.foldlM step initial = .ok final) :
    Holds final := by
  induction items generalizing initial with
  | nil => simp at member
  | cons first rest induction =>
      rw [List.foldlM_cons] at run
      obtain ⟨middle, firstStep, runRest⟩ := bind_eq_ok_iff.mp run
      have later : ∀ state next, ∀ other ∈ rest, Holds state →
          step state other = .ok next → Holds next := by
        intro state next other member
        exact preserves state next other (List.mem_cons_of_mem _ member)
      rcases List.mem_cons.mp member with isFirst | inRest
      · subst isFirst
        exact foldlM_preserves later (establishes _ _ firstStep) runRest
      · exact induction inRest later runRest

end Checked
