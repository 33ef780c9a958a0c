import Mathlib.Data.List.Basic

/-!
# Windows of a list ordered by key

A list whose entries carry non-decreasing natural keys is cut into half-open
key windows.  Adjacent windows join, so a list can be read window by window
without a gap or a repetition.
-/

universe u

namespace KeyedWindow

variable {Entry : Type u} (key : Entry → Nat)

/-- Keys do not decrease along the list. -/
def InOrder (entries : List Entry) : Prop :=
  entries.Pairwise fun earlier later => key earlier ≤ key later

/-- The entries whose key is at least `low` and below `high`. -/
def window (low high : Nat) (entries : List Entry) : List Entry :=
  entries.filter fun entry => low ≤ key entry ∧ key entry < high

variable {key}

theorem mem_window {low high : Nat} {entries : List Entry} {entry : Entry} :
    entry ∈ window key low high entries ↔
      entry ∈ entries ∧ low ≤ key entry ∧ key entry < high := by
  simp [window]

theorem window_cons_inside {low high : Nat} {entry : Entry}
    (entries : List Entry) (lower : low ≤ key entry)
    (upper : key entry < high) :
    window key low high (entry :: entries) =
      entry :: window key low high entries := by
  simp [window, lower, upper]

theorem window_cons_outside {low high : Nat} {entry : Entry}
    (entries : List Entry) (outside : ¬(low ≤ key entry ∧ key entry < high)) :
    window key low high (entry :: entries) = window key low high entries := by
  unfold window
  rw [List.filter_cons_of_neg]
  simpa using outside

theorem window_eq_nil_of_le {low high : Nat} (empty : high ≤ low)
    (entries : List Entry) : window key low high entries = [] := by
  apply List.eq_nil_iff_forall_not_mem.mpr
  intro entry member
  obtain ⟨_, lower, upper⟩ := mem_window.mp member
  omega

theorem InOrder.tail {entry : Entry} {entries : List Entry}
    (ordered : InOrder key (entry :: entries)) : InOrder key entries :=
  (List.pairwise_cons.mp ordered).2

/-- A window below the first key of an ordered list is empty. -/
theorem InOrder.window_eq_nil {entry : Entry} {entries : List Entry}
    (ordered : InOrder key (entry :: entries)) {low high : Nat}
    (below : high ≤ key entry) : window key low high entries = [] := by
  apply List.eq_nil_iff_forall_not_mem.mpr
  intro later member
  obtain ⟨laterMember, _, upper⟩ := mem_window.mp member
  have order := (List.pairwise_cons.mp ordered).1 later laterMember
  omega

theorem InOrder.window_append {entries : List Entry}
    (ordered : InOrder key entries) {low middle high : Nat}
    (lower : low ≤ middle) (upper : middle ≤ high) :
    window key low middle entries ++ window key middle high entries =
      window key low high entries := by
  induction entries with
  | nil => rfl
  | cons entry entries induction =>
      have rest := induction ordered.tail
      by_cases inFirst : low ≤ key entry ∧ key entry < middle
      · have notSecond : ¬(middle ≤ key entry ∧ key entry < high) := by
          omega
        rw [window_cons_inside entries inFirst.1 inFirst.2,
          window_cons_outside entries notSecond,
          window_cons_inside entries inFirst.1 (by omega),
          List.cons_append, rest]
      · by_cases inSecond : middle ≤ key entry ∧ key entry < high
        · have firstEmpty : window key low middle entries = [] :=
            ordered.window_eq_nil inSecond.1
          rw [firstEmpty, List.nil_append] at rest
          rw [window_cons_outside entries inFirst, firstEmpty,
            window_cons_inside entries inSecond.1 inSecond.2,
            window_cons_inside entries (by omega) inSecond.2,
            List.nil_append, rest]
        · have outside : ¬(low ≤ key entry ∧ key entry < high) := by
            omega
          rw [window_cons_outside entries inFirst,
            window_cons_outside entries inSecond,
            window_cons_outside entries outside, rest]

end KeyedWindow
