import RiskManagement.Library.EntryMap

/-!
# Cooldowns

A table holds for a key the time until which it rests.  A key that rests is
left alone; a mark lets it rest for an interval from then on.  The marks of a
key are then that far apart.
-/

abbrev Cooldown (Key : Type) := EntryMap Key Nat

namespace Cooldown

variable {Key : Type} [DecidableEq Key]

/-- Whether the key is to be left alone. -/
def rests (table : Cooldown Key) (key : Key) (now : Nat) : Bool :=
  match table.lookup key with
  | none => false
  | some restsUntil => now < restsUntil

/-- From now on the key rests for the interval. -/
def mark (table : Cooldown Key) (interval : Nat) (key : Key) (now : Nat) :
    Cooldown Key :=
  table.insert key (now + interval)

/-- The table knows the last mark of every key, and only marks. -/
structure Records (interval : Nat) (table : Cooldown Key)
    (marks : List (Key × Nat)) : Prop where
  sound : ∀ key restsUntil, table.lookup key = some restsUntil →
    ∃ now, (key, now) ∈ marks ∧ restsUntil = now + interval
  latest : ∀ key now, (key, now) ∈ marks →
    ∃ restsUntil, table.lookup key = some restsUntil ∧
      now + interval ≤ restsUntil

variable {interval : Nat} {table : Cooldown Key} {marks : List (Key × Nat)}
  {key : Key} {checked now : Nat}

theorem records_empty : Records interval (∅ : Cooldown Key) [] where
  sound := by
    intro key restsUntil found
    simp at found
  latest := by
    intro key now member
    cases member

theorem rests_eq_true_iff :
    table.rests key now = true ↔
      ∃ restsUntil, table.lookup key = some restsUntil ∧ now < restsUntil := by
  rw [rests]
  cases table.lookup key with
  | none => simp
  | some restsUntil => simp

theorem Records.apart (records : Records interval table marks)
    (awake : table.rests key checked = false)
    (marked : (key, now) ∈ marks) : now + interval ≤ checked := by
  obtain ⟨restsUntil, found, notBefore⟩ := records.latest key now marked
  simp only [rests, found, decide_eq_false_iff_not] at awake
  omega

/-- A key that rests was marked less than an interval ago. -/
theorem Records.recent (records : Records interval table marks)
    (resting : table.rests key checked = true) :
    ∃ now, (key, now) ∈ marks ∧ checked < now + interval := by
  obtain ⟨restsUntil, found, early⟩ := rests_eq_true_iff.mp resting
  obtain ⟨now, marked, same⟩ := records.sound key restsUntil found
  exact ⟨now, marked, same ▸ early⟩

theorem Records.mark (records : Records interval table marks)
    (awake : table.rests key checked = false) (later : checked ≤ now) :
    Records interval (table.mark interval key now) (marks ++ [(key, now)])
      where
  sound := by
    intro other restsUntil found
    rw [Cooldown.mark] at found
    by_cases same : other = key
    · subst same
      rw [AList.lookup_insert, Option.some.injEq] at found
      exact ⟨now, by simp, found.symm⟩
    · rw [AList.lookup_insert_ne same] at found
      obtain ⟨past, marked, isUntil⟩ := records.sound other restsUntil found
      exact ⟨past, List.mem_append_left _ marked, isUntil⟩
  latest := by
    intro other past marked
    rw [Cooldown.mark]
    rw [List.mem_append, List.mem_singleton, Prod.mk.injEq] at marked
    by_cases same : other = key
    · subst same
      rw [AList.lookup_insert]
      refine ⟨now + interval, rfl, ?_⟩
      cases marked with
      | inl old =>
          have longAgo := records.apart awake old
          omega
      | inr new => omega
    · rw [AList.lookup_insert_ne same]
      cases marked with
      | inl old => exact records.latest other past old
      | inr new => exact absurd new.1 same

end Cooldown
