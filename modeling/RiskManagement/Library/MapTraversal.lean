import RiskManagement.Library.EntryMap
import RiskManagement.Library.Panics

/-!
# Maps that are made out of maps

A loop over a map makes an entry of each entry, and stops at the first that
fails.
-/

namespace EntryMap

open Panics

variable {ε Key Value Other : Type} [DecidableEq Key]
  (step : Key → Value → Run ε Other)

/-- One turn of the loop. -/
def traverseStep (entry : Sigma fun _ : Key => Value)
    (made : EntryMap Key Other) : Run ε (EntryMap Key Other) := do
  let other ← step entry.1 entry.2
  return made.insert entry.1 other

/-- The new entries stand in the order of the old ones. -/
def traverse (map : EntryMap Key Value) : Run ε (EntryMap Key Other) :=
  map.entries.foldrM (traverseStep step) ∅

variable {step} {map : EntryMap Key Value} {made : EntryMap Key Other}

theorem foldrM_traverseStep_sound
    {entries : List (Sigma fun _ : Key => Value)}
    (distinct : (entries.map Sigma.fst).Nodup)
    (run : entries.foldrM (traverseStep step) ∅ = returns (.ok made)) :
    made.keys = entries.map Sigma.fst ∧
      ∀ entry ∈ entries, ∃ other,
        step entry.1 entry.2 = returns (.ok other) ∧
          made.lookup entry.1 = some other := by
  induction entries generalizing made with
  | nil =>
      cases run
      exact ⟨rfl, by simp⟩
  | cons entry rest ih =>
      rw [List.map_cons, List.nodup_cons] at distinct
      obtain ⟨fresh, distinct⟩ := distinct
      rw [List.foldrM_cons] at run
      obtain ⟨before, isBefore, stepped⟩ := bind_eq_returns_ok run
      obtain ⟨other, isOther, inserted⟩ := bind_eq_returns_ok stepped
      cases inserted
      obtain ⟨keys, lookups⟩ := ih distinct isBefore
      constructor
      · rw [AList.keys_insert, keys, List.erase_of_not_mem fresh,
          List.map_cons]
      · rw [List.forall_mem_cons]
        refine ⟨⟨other, isOther, AList.lookup_insert _⟩, ?_⟩
        intro later member
        obtain ⟨found, isFound, isThere⟩ := lookups later member
        refine ⟨found, isFound, ?_⟩
        rw [AList.lookup_insert_ne, isThere]
        intro same
        exact fresh (same ▸ List.mem_map_of_mem member)

/-- A loop that comes to its end has made an entry of every entry. -/
theorem traverse_sound (run : traverse step map = returns (.ok made)) :
    made.keys = map.keys ∧
      ∀ key value, map.lookup key = some value →
        ∃ other, step key value = returns (.ok other) ∧
          made.lookup key = some other := by
  obtain ⟨keys, lookups⟩ := foldrM_traverseStep_sound map.nodupKeys run
  refine ⟨keys, ?_⟩
  intro key value found
  exact lookups ⟨key, value⟩ (mem_entries_iff.mpr found)

theorem lookup_of_traverse (run : traverse step map = returns (.ok made))
    {key : Key} {other : Other} (isOther : made.lookup key = some other) :
    ∃ value, map.lookup key = some value ∧
      step key value = returns (.ok other) := by
  obtain ⟨keys, lookups⟩ := traverse_sound run
  have member : key ∈ map := by
    rw [AList.mem_keys, ← keys, ← AList.mem_keys]
    exact mem_iff.mpr ⟨other, isOther⟩
  obtain ⟨value, found⟩ := mem_iff.mp member
  obtain ⟨made, isMade, isThere⟩ := lookups key value found
  rw [isOther, Option.some.injEq] at isThere
  subst isThere
  exact ⟨value, found, isMade⟩

end EntryMap
