import Mathlib.Data.List.Induction

/-!
# The best of several outcomes

Outcomes that may fail are compared in pairs, one after the other.  Costs
decide between two successes, and the older one wins a tie.
-/

namespace BestOf

variable {ε α : Type}

/-- The better one of two outcomes. -/
def better (cost : α → Nat) : Except ε α → Except ε α → Except ε α
  | .ok older, .ok newer =>
      if cost older ≤ cost newer then .ok older else .ok newer
  | .error _, .ok newer => .ok newer
  | .ok older, .error _ => .ok older
  | .error _, .error newer => .error newer

/-- The best one of all outcomes, or an error where there is none. -/
def best (cost : α → Nat) (initial : ε) (outcomes : List (Except ε α)) :
    Except ε α :=
  outcomes.foldl (better cost) (.error initial)

/-- The value is the first success of least cost. -/
def Earliest (cost : α → Nat) (outcomes : List (Except ε α)) (value : α) :
    Prop :=
  ∃ before after, outcomes = before ++ .ok value :: after ∧
    (∀ other, .ok other ∈ before → cost value < cost other) ∧
    ∀ other, .ok other ∈ after → cost value ≤ cost other

/-- Every outcome failed, the last one with the error. -/
def AllFailed (initial : ε) (outcomes : List (Except ε α)) (error : ε) :
    Prop :=
  (∀ value, .ok value ∉ outcomes) ∧
    (outcomes = [] ∧ error = initial ∨
      outcomes.getLast? = some (.error error))

variable {cost : α → Nat} {initial : ε} {outcomes : List (Except ε α)}

theorem Earliest.least {value other : α}
    (earliest : Earliest cost outcomes value)
    (member : .ok other ∈ outcomes) : cost value ≤ cost other := by
  obtain ⟨before, after, rfl, less, notMore⟩ := earliest
  rcases List.mem_append.mp member with older | newer
  · exact Nat.le_of_lt (less other older)
  · rcases List.mem_cons.mp newer with same | newer
    · cases same
      exact Nat.le_refl _
    · exact notMore other newer

theorem Earliest.mem {value : α} (earliest : Earliest cost outcomes value) :
    .ok value ∈ outcomes := by
  obtain ⟨before, after, rfl, _, _⟩ := earliest
  exact List.mem_append_right _ List.mem_cons_self

theorem best_append_singleton (newer : Except ε α) :
    best cost initial (outcomes ++ [newer]) =
      better cost (best cost initial outcomes) newer := by
  rw [best, List.foldl_append]
  rfl

/-- The older success stays when the next outcome is no cheaper success. -/
theorem Earliest.append {value : α} (earliest : Earliest cost outcomes value)
    {newer : Except ε α}
    (notLess : ∀ other, newer = .ok other → cost value ≤ cost other) :
    Earliest cost (outcomes ++ [newer]) value := by
  obtain ⟨before, after, rfl, less, notMore⟩ := earliest
  refine ⟨before, after ++ [newer], by simp, less, ?_⟩
  intro other member
  rcases List.mem_append.mp member with old | last
  · exact notMore other old
  · exact notLess other (List.mem_singleton.mp last).symm

/-- The next outcome takes over when it is cheaper than every success. -/
theorem Earliest.of_last {value : α}
    (less : ∀ other, .ok other ∈ outcomes → cost value < cost other) :
    Earliest cost (outcomes ++ [.ok value]) value := by
  refine ⟨outcomes, [], rfl, less, ?_⟩
  intro other member
  exact absurd member List.not_mem_nil

theorem AllFailed.append {error newer : ε}
    (allFailed : AllFailed initial outcomes error) :
    AllFailed initial (outcomes ++ [.error newer]) newer := by
  refine ⟨?_, .inr List.getLast?_concat⟩
  intro value member
  rcases List.mem_append.mp member with old | last
  · exact allFailed.1 value old
  · cases List.mem_singleton.mp last

/-- What a value so far says of the outcomes so far. -/
def Describes (cost : α → Nat) (initial : ε) (outcomes : List (Except ε α)) :
    Except ε α → Prop
  | .ok value => Earliest cost outcomes value
  | .error error => AllFailed initial outcomes error

theorem Describes.better {older newer : Except ε α}
    (describes : Describes cost initial outcomes older) :
    Describes cost initial (outcomes ++ [newer])
      (better cost older newer) := by
  cases older with
  | ok older =>
      cases newer with
      | ok newer =>
          rw [BestOf.better]
          split
          · rename_i notMore
            apply Earliest.append describes
            intro other same
            cases same
            exact notMore
          · rename_i more
            apply Earliest.of_last
            intro other member
            have notMore := Earliest.least describes member
            omega
      | error error =>
          apply Earliest.append describes
          intro other same
          cases same
  | error error =>
      cases newer with
      | ok newer =>
          apply Earliest.of_last
          intro other member
          exact absurd member (describes.1 other)
      | error newer => exact AllFailed.append describes

theorem best_describes (cost : α → Nat) (initial : ε)
    (outcomes : List (Except ε α)) :
    Describes cost initial outcomes (best cost initial outcomes) := by
  induction outcomes using List.reverseRecOn with
  | nil => exact ⟨fun value => List.not_mem_nil, .inl ⟨rfl, rfl⟩⟩
  | append_singleton outcomes newer ih =>
      rw [best_append_singleton]
      exact ih.better

theorem best_spec (cost : α → Nat) (initial : ε)
    (outcomes : List (Except ε α)) :
    (∀ value, best cost initial outcomes = .ok value →
        Earliest cost outcomes value) ∧
      ∀ error, best cost initial outcomes = .error error →
        AllFailed initial outcomes error := by
  have describes := best_describes cost initial outcomes
  constructor
  · intro value isBest
    rw [isBest] at describes
    exact describes
  · intro error isBest
    rw [isBest] at describes
    exact describes

end BestOf
