import RiskManagement.Library.MapTraversal

/-!
# What a run may end with

A run gives nothing, fails or gives a value, and each is for a reason.  The
reasons of a whole run are those of its steps.
-/

namespace Panics

variable {ε α β : Type}

/-- `Nothing` is the reason to give no result. -/
def Ends (Nothing : Prop) (Fails : ε → Prop) (Gives : α → Prop)
    (run : Run ε α) : Prop :=
  match run.run with
  | none => Nothing
  | some (.error failure) => Fails failure
  | some (.ok value) => Gives value

section Rules

variable {Nothing : Prop} {Fails : ε → Prop} {Gives : α → Prop}
  {Then : β → Prop} {run : Run ε α} {value : α}

theorem ends_ok (given : Gives value) :
    Ends Nothing Fails Gives (returns (.ok value)) := given

theorem Ends.gives (ended : Ends Nothing Fails Gives run)
    (isOk : run = returns (.ok value)) : Gives value := by
  rw [isOk] at ended
  exact ended

theorem Ends.fails (ended : Ends Nothing Fails Gives run) {failure : ε}
    (isError : run = returns (.error failure)) : Fails failure := by
  rw [isError] at ended
  exact ended

theorem Ends.nothing (ended : Ends Nothing Fails Gives run)
    (isNone : run.run = none) : Nothing := by
  rw [Ends, isNone] at ended
  exact ended

/-- Without any reason for another end, a run gives a value. -/
theorem Ends.exists_ok (ended : Ends Nothing Fails Gives run)
    (something : ¬Nothing) (never : ∀ failure, ¬Fails failure) :
    ∃ value, run = returns (.ok value) := by
  match run with
  | none => exact absurd ended something
  | some (.error failure) => exact absurd ended (never failure)
  | some (.ok value) => exact ⟨value, rfl⟩

theorem ends_of_eq_ok (given : run = returns (.ok value))
    (holds : Gives value) : Ends Nothing Fails Gives run := by
  rw [given]
  exact holds

theorem Ends.bind {next : α → Run ε β}
    (first : Ends Nothing Fails Gives run)
    (rest : ∀ value, Gives value → Ends Nothing Fails Then (next value)) :
    Ends Nothing Fails Then (run >>= next) := by
  match run with
  | none => exact first
  | some (.error failure) => exact first
  | some (.ok value) => exact rest value first

theorem ends_guard {stop : Prop} [Decidable stop] {failure : ε}
    {next : Unit → Run ε α} (stops : stop → Fails failure)
    (passes : ¬stop → Ends Nothing Fails Gives (next ())) :
    Ends Nothing Fails Gives
      (if stop then (throw failure : Run ε Unit) >>= next else next ()) := by
  by_cases isStop : stop
  · rw [if_pos isStop]
    exact stops isStop
  · rw [if_neg isStop]
    exact passes isStop

theorem Ends.imp {Other : α → Prop} (ended : Ends Nothing Fails Gives run)
    (weaken : ∀ value, Gives value → Other value) :
    Ends Nothing Fails Other run := by
  match run with
  | none => exact ended
  | some (.error failure) => exact ended
  | some (.ok value) => exact weaken value ended

theorem Ends.known (ended : Ends Nothing Fails Gives run) :
    Ends Nothing Fails
      (fun value => run = returns (.ok value) ∧ Gives value) run := by
  match run with
  | none => exact ended
  | some (.error failure) => exact ended
  | some (.ok value) => exact ⟨rfl, ended⟩

/-- A loop keeps its invariant, which speaks of the items that are left. -/
theorem ends_foldlM {step : β → α → Run ε β} {Inv : List α → β → Prop}
    (turn : ∀ item rest state, Inv (item :: rest) state →
      Ends Nothing Fails (Inv rest) (step state item))
    (items : List α) (state : β) (start : Inv items state) :
    Ends Nothing Fails (Inv []) (items.foldlM step state) := by
  induction items generalizing state with
  | nil => exact start
  | cons item rest ih =>
      rw [List.foldlM_cons]
      apply (turn item rest state start).bind
      intro next kept
      exact ih next kept

theorem ends_forM {check : α → Run ε Unit} {items : List α}
    {Holds : α → Prop}
    (checks : ∀ item ∈ items,
      Ends Nothing Fails (fun _ => Holds item) (check item)) :
    Ends Nothing Fails (fun _ => ∀ item ∈ items, Holds item)
      (items.forM check) := by
  induction items with
  | nil =>
      intro item member
      cases member
  | cons first rest ih =>
      rw [List.forall_mem_cons] at checks
      rw [List.forM]
      apply checks.1.bind
      intro _ holds
      apply (ih checks.2).imp
      intro _ others
      rw [List.forall_mem_cons]
      exact ⟨holds, others⟩

end Rules
end Panics

namespace EntryMap

open Panics

variable {ε Key Value Other : Type} [DecidableEq Key]
  {step : Key → Value → Run ε Other} {map : EntryMap Key Value}
  {Nothing : Prop} {Fails : ε → Prop} {Gives : Key → Value → Other → Prop}

theorem ends_foldrM_traverseStep
    {entries : List (Sigma fun _ : Key => Value)}
    (turns : ∀ entry ∈ entries, Ends Nothing Fails
      (Gives entry.1 entry.2) (step entry.1 entry.2)) :
    Ends Nothing Fails (fun _ => True)
      (entries.foldrM (traverseStep step) ∅) := by
  induction entries with
  | nil => exact trivial
  | cons entry rest ih =>
      rw [List.forall_mem_cons] at turns
      rw [List.foldrM_cons]
      apply (ih turns.2).bind
      intro before _
      rw [traverseStep]
      apply turns.1.bind
      intro other _
      exact ends_ok trivial

theorem ends_traverse
    (turns : ∀ key value, map.lookup key = some value →
      Ends Nothing Fails (Gives key value) (step key value)) :
    Ends Nothing Fails
      (fun made => made.keys = map.keys ∧
        ∀ key value, map.lookup key = some value →
          ∃ other, Gives key value other ∧ made.lookup key = some other)
      (traverse step map) := by
  apply (ends_foldrM_traverseStep fun entry member =>
    turns entry.1 entry.2 (mem_entries_iff.mp member)).known.imp
  intro made ⟨run, _⟩
  obtain ⟨keys, lookups⟩ := traverse_sound run
  refine ⟨keys, ?_⟩
  intro key value found
  obtain ⟨other, isOther, isThere⟩ := lookups key value found
  exact ⟨other, (turns key value found).gives isOther, isThere⟩

theorem ends_traverse_of_ok
    (turns : ∀ key value, map.lookup key = some value →
      ∃ other, step key value = returns (.ok other)) :
    Ends Nothing Fails (fun made => made.keys = map.keys)
      (traverse step map) := by
  have ended : ∀ key value, map.lookup key = some value →
      Ends Nothing Fails (fun _ => True) (step key value) := by
    intro key value found
    obtain ⟨other, isOther⟩ := turns key value found
    exact ends_of_eq_ok isOther trivial
  apply (ends_traverse ended).imp
  intro made ⟨keys, _⟩
  exact keys

end EntryMap
