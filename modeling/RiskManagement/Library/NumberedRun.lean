import Mathlib.Data.List.Forall2
import Mathlib.Data.List.TakeDrop

/-!
# Runs of consecutively numbered items

Items that carry consecutive numbers are found by their distance from the
first one.  Items may be added behind the last, and those up to a bound dropped
from the front.
-/

namespace NumberedRun

variable {α β : Type} {number : α → Nat} {first : Nat} {items : List α}

/-- The items carry the numbers from the first one on. -/
def Numbered (number : α → Nat) (first : Nat) (items : List α) : Prop :=
  items.map number = List.range' first items.length

theorem numbered_nil : Numbered number first [] := rfl

theorem numbered_cons {item : α} :
    Numbered number first (item :: items) ↔
      number item = first ∧ Numbered number (first + 1) items := by
  rw [Numbered, Numbered, List.map_cons, List.length_cons,
    List.range'_succ, List.cons.injEq]

theorem numbered_append_singleton {item : α} :
    Numbered number first (items ++ [item]) ↔
      Numbered number first items ∧ number item = first + items.length := by
  rw [Numbered, Numbered, List.map_append, List.length_append,
    List.length_singleton, List.range'_1_concat]
  constructor
  · intro same
    obtain ⟨front, back⟩ := List.append_inj' same rfl
    exact ⟨front, List.singleton_inj.mp back⟩
  · rintro ⟨front, back⟩
    rw [front, List.map_singleton, back]

theorem Numbered.number_getElem (numbered : Numbered number first items)
    {index : Nat} (bound : index < items.length) :
    number items[index] = first + index := by
  have same := congrArg (fun numbers => numbers[index]?) numbered
  simpa [bound] using same

/-- An item is found by its distance from the first number. -/
theorem Numbered.getElem?_eq_some_iff
    (numbered : Numbered number first items) {wanted : Nat}
    (atLeast : first ≤ wanted) {item : α} :
    items[wanted - first]? = some item ↔
      item ∈ items ∧ number item = wanted := by
  constructor
  · intro found
    obtain ⟨bound, same⟩ := List.getElem?_eq_some_iff.mp found
    have isNumber := numbered.number_getElem bound
    rw [same] at isNumber
    exact ⟨List.mem_of_getElem? found, by omega⟩
  · rintro ⟨member, isWanted⟩
    obtain ⟨index, bound, same⟩ := List.getElem_of_mem member
    have isNumber := numbered.number_getElem bound
    rw [same] at isNumber
    have isIndex : wanted - first = index := by omega
    rw [isIndex, List.getElem?_eq_getElem bound, same]

theorem Numbered.range_of_mem (numbered : Numbered number first items)
    {item : α} (member : item ∈ items) :
    first ≤ number item ∧ number item < first + items.length := by
  obtain ⟨index, bound, same⟩ := List.getElem_of_mem member
  have isNumber := numbered.number_getElem bound
  rw [same] at isNumber
  omega

theorem Numbered.pairwise_lt (numbered : Numbered number first items) :
    items.Pairwise fun earlier later => number earlier < number later := by
  rw [List.pairwise_iff_getElem]
  intro earlier later inEarlier inLater order
  rw [numbered.number_getElem inEarlier, numbered.number_getElem inLater]
  omega

/-! ### Dropping from the front -/

theorem Numbered.dropWhile (numbered : Numbered number first items)
    (bound : Nat) :
    Numbered number (max first (bound + 1))
        (items.dropWhile fun item => number item ≤ bound) ∨
      items.dropWhile (fun item => number item ≤ bound) = [] := by
  induction items generalizing first with
  | nil => exact .inr rfl
  | cons item items induction =>
      obtain ⟨isFirst, rest⟩ := numbered_cons.mp numbered
      by_cases dropped : number item ≤ bound
      · rw [List.dropWhile_cons_of_pos (by simpa using dropped)]
        rcases induction rest with later | empty
        · left
          have start : max (first + 1) (bound + 1) =
              max first (bound + 1) := by omega
          rw [← start]
          exact later
        · exact .inr empty
      · rw [List.dropWhile_cons_of_neg (by simpa using dropped)]
        left
        have start : max first (bound + 1) = first := by omega
        rw [start]
        exact numbered

theorem Numbered.mem_dropWhile_iff (numbered : Numbered number first items)
    {bound : Nat} {item : α} :
    item ∈ items.dropWhile (fun item => number item ≤ bound) ↔
      item ∈ items ∧ bound < number item := by
  induction items generalizing first with
  | nil => simp
  | cons head items induction =>
      obtain ⟨isFirst, rest⟩ := numbered_cons.mp numbered
      by_cases dropped : number head ≤ bound
      · rw [List.dropWhile_cons_of_pos (by simpa using dropped),
          induction rest, List.mem_cons]
        constructor
        · rintro ⟨member, above⟩
          exact ⟨.inr member, above⟩
        · rintro ⟨rfl | member, above⟩
          · omega
          · exact ⟨member, above⟩
      · rw [List.dropWhile_cons_of_neg (by simpa using dropped)]
        constructor
        · intro member
          refine ⟨member, ?_⟩
          have inRange := (numbered.range_of_mem member).1
          omega
        · exact And.left

/-! ### Slices -/

/-- The values of the items with consecutive wanted numbers are a slice. -/
theorem Numbered.values_iff (numbered : Numbered number first items)
    (value : α → β) {low high : Nat} (order : low ≤ high)
    {values : List β} :
    List.Forall₂ (fun wanted v => ∃ item ∈ items, number item = wanted ∧
        value item = v) (List.range' low (high - low + 1)) values ↔
      first ≤ low ∧ high - first < items.length ∧
        values = ((items.take (high - first + 1)).drop (low - first)).map
          value := by
  constructor
  · intro all
    have sameLength := all.length_eq
    rw [List.length_range'] at sameLength
    have found : ∀ index (bound : index < values.length),
        ∃ item ∈ items, number item = low + index ∧
          value item = values[index] := by
      intro index bound
      have one := all.get (by simpa [sameLength] using bound) bound
      simpa using one
    obtain ⟨lowest, lowestMember, isLow, _⟩ := found 0 (by omega)
    obtain ⟨highest, highestMember, isHigh, _⟩ :=
      found (high - low) (by omega)
    have lowInRange := numbered.range_of_mem lowestMember
    have highInRange := numbered.range_of_mem highestMember
    refine ⟨by omega, by omega, ?_⟩
    apply List.ext_getElem
    · simp only [List.length_map, List.length_drop, List.length_take]
      omega
    · intro index bound _
      obtain ⟨item, member, isNumber, isValue⟩ := found index bound
      have above : first ≤ low + index := by omega
      have atIndex := (numbered.getElem?_eq_some_iff above).mpr
        ⟨member, isNumber⟩
      obtain ⟨inItems, same⟩ := List.getElem?_eq_some_iff.mp atIndex
      rw [List.getElem_map, List.getElem_drop, List.getElem_take, ← isValue,
        ← same]
      congr 2
      omega
  · rintro ⟨atLeast, inside, rfl⟩
    rw [List.forall₂_iff_get]
    refine ⟨?_, ?_⟩
    · simp only [List.length_range', List.length_map, List.length_drop,
        List.length_take]
      omega
    · intro index inRange inSlice
      simp only [List.length_map, List.length_drop, List.length_take]
        at inSlice
      have bound : low - first + index < items.length := by omega
      refine ⟨items[low - first + index], List.getElem_mem bound, ?_, ?_⟩
      · rw [numbered.number_getElem bound]
        simp
        omega
      · simp

end NumberedRun
