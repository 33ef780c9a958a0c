import RiskManagement.Library.KeyedTable
import RiskManagement.Afn.AfnContract

/-!
# Roots in flight

A root stays in flight for `inflightTime` after it was last added.  Times are
natural numbers, the nanoseconds of an `Instant`; subtraction of an earlier
time saturates as `duration_since` does.
-/

namespace RiskManagement

/-- The roots with the times of their last additions. -/
structure InflightRootCache where
  inflightTime : Nat
  inflightRoots : List (TaggedRoot × Nat)
deriving DecidableEq

namespace InflightRootCache

/-- Nothing is in flight at first. -/
def new (inflightTime : Nat) : InflightRootCache :=
  { inflightTime := inflightTime, inflightRoots := [] }

/-- Drops what is older than `inflightTime`. -/
def prune (cache : InflightRootCache) (now : Nat) : InflightRootCache :=
  let retained := cache.inflightRoots.filter fun (_root, entryTime) =>
    now - entryTime ≤ cache.inflightTime
  { cache with inflightRoots := retained }

/-- A root that is in the cache gets the new time. -/
def add (cache : InflightRootCache) (now : Nat) (root : TaggedRoot) :
    InflightRootCache :=
  { cache with inflightRoots :=
      KeyedTable.insertOrReplace Prod.fst (root, now) cache.inflightRoots }

/-- Asking prunes the cache. -/
def contains (cache : InflightRootCache) (now : Nat)
    (taggedRoot : TaggedRoot) : Bool × InflightRootCache :=
  let cache := cache.prune now
  (cache.inflightRoots.any fun (root, _) => root = taggedRoot, cache)

@[simp] theorem prune_inflightTime (cache : InflightRootCache) (now : Nat) :
    (cache.prune now).inflightTime = cache.inflightTime :=
  rfl

theorem mem_prune {cache : InflightRootCache} {now entryTime : Nat}
    {root : TaggedRoot} :
    (root, entryTime) ∈ (cache.prune now).inflightRoots ↔
      (root, entryTime) ∈ cache.inflightRoots ∧
        now - entryTime ≤ cache.inflightTime := by
  simp [prune]

theorem mem_add {cache : InflightRootCache} {now entryTime : Nat}
    {added root : TaggedRoot} :
    (root, entryTime) ∈ (cache.add now added).inflightRoots ↔
      (root, entryTime) = (added, now) ∨
        (root, entryTime) ∈ cache.inflightRoots ∧ root ≠ added := by
  exact KeyedTable.mem_insertOrReplace

theorem contains_eq_false_iff {cache : InflightRootCache} {now : Nat}
    {taggedRoot : TaggedRoot} :
    (cache.contains now taggedRoot).1 = false ↔
      ∀ entryTime, (taggedRoot, entryTime) ∈ cache.inflightRoots →
        cache.inflightTime < now - entryTime := by
  rw [contains, List.any_eq_false]
  constructor
  · intro absent entryTime member
    by_contra recent
    refine absent (taggedRoot, entryTime) (mem_prune.mpr ⟨member, ?_⟩) ?_
    · omega
    · simp
  · intro expired entry member
    obtain ⟨root, entryTime⟩ := entry
    obtain ⟨listed, recent⟩ := mem_prune.mp member
    simp only [decide_eq_true_eq]
    intro same
    subst same
    have old := expired entryTime listed
    omega

/-! ### What the cache remembers of a root -/

/-- The cache still holds the root with a time no earlier than `markedAt`, or
`markedAt` is more than `inflightTime` before `now`. -/
def Remembers (cache : InflightRootCache) (now : Nat) (root : TaggedRoot)
    (markedAt : Nat) : Prop :=
  markedAt ≤ now ∧
    ((∃ entryTime, markedAt ≤ entryTime ∧
        (root, entryTime) ∈ cache.inflightRoots) ∨
      markedAt + cache.inflightTime < now)

section Remembering

variable {cache : InflightRootCache} {now afterwards markedAt : Nat}
  {root : TaggedRoot}

theorem Remembers.later (remembers : cache.Remembers now root markedAt)
    (notBefore : now ≤ afterwards) :
    cache.Remembers afterwards root markedAt := by
  obtain ⟨marked, held | expired⟩ := remembers
  · exact ⟨by omega, Or.inl held⟩
  · exact ⟨by omega, Or.inr (by omega)⟩

theorem Remembers.prune (remembers : cache.Remembers now root markedAt) :
    (cache.prune now).Remembers now root markedAt := by
  obtain ⟨marked, ⟨entryTime, notEarlier, held⟩ | expired⟩ := remembers
  · refine ⟨marked, ?_⟩
    by_cases recent : now - entryTime ≤ cache.inflightTime
    · left
      exact ⟨entryTime, notEarlier, mem_prune.mpr ⟨held, recent⟩⟩
    · right
      rw [prune_inflightTime]
      omega
  · exact ⟨marked, Or.inr expired⟩

theorem Remembers.add (remembers : cache.Remembers now root markedAt)
    (added : TaggedRoot) :
    (cache.add now added).Remembers now root markedAt := by
  obtain ⟨marked, ⟨entryTime, notEarlier, held⟩ | expired⟩ := remembers
  · refine ⟨marked, Or.inl ?_⟩
    by_cases same : root = added
    · exact ⟨now, marked, mem_add.mpr (Or.inl (by rw [same]))⟩
    · exact ⟨entryTime, notEarlier, mem_add.mpr (Or.inr ⟨held, same⟩)⟩
  · exact ⟨marked, Or.inr expired⟩

theorem remembers_added (cache : InflightRootCache) (now : Nat)
    (root : TaggedRoot) : (cache.add now root).Remembers now root now :=
  ⟨Nat.le_refl now, Or.inl
    ⟨now, Nat.le_refl now, mem_add.mpr (Or.inl rfl)⟩⟩

/-- A remembered root that is no longer in flight was marked long ago. -/
theorem Remembers.expired (remembers : cache.Remembers now root markedAt)
    (absent : (cache.contains now root).1 = false) :
    markedAt + cache.inflightTime < now := by
  obtain ⟨marked, ⟨entryTime, notEarlier, held⟩ | expired⟩ := remembers
  · have old := contains_eq_false_iff.mp absent entryTime held
    omega
  · exact expired

end Remembering

end InflightRootCache

end RiskManagement
