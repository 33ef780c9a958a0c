import RiskManagement.Library.SeparatedRanges
import RiskManagement.Afn.LogsDbCoverage

/-!
# The stored ranges after any saves

The two queries of a save each look at one side only and may pick up ranges
far away.  Since the stored ranges are separated, what the delete drops still
lies within the inserted range, and what it keeps stays apart from it.
-/

namespace RiskManagement

open SeparatedRanges

/-- Every range holds a block, and between two of them lies one that neither
holds. -/
abbrev SeparatedBlockRanges (ranges : List BlockRange) : Prop :=
  Separated BlockRange.fromBlock BlockRange.toBlock ranges

namespace LogsDb

/-- No range that ends behind the block before the saved ones starts below
the new lower end. -/
theorem minFromBlock_le {self : LogsDb} {fromBlock minFromBlock : UInt64}
    (read : readOr fromBlock (self.minFromBlock fromBlock.toNat) =
      .ok minFromBlock) {range : BlockRange}
    (member : range ∈ self.queriableBlockRanges)
    (touches : (fromBlock.toNat : Int) ≤ range.toBlock + 1) :
    (minFromBlock.toNat : Int) ≤ range.fromBlock := by
  have found : range.fromBlock ∈ ((self.queriableBlockRanges.filter
      fun range => range.toBlock + 1 ≥ (fromBlock.toNat : Int)).map
        BlockRange.fromBlock) := by
    apply List.mem_map_of_mem
    rw [List.mem_filter]
    exact ⟨member, decide_eq_true touches⟩
  rcases readOr_eq_ok read with ⟨none, _⟩ | isMin
  · rw [LogsDb.minFromBlock, List.min?_eq_none_iff] at none
    rw [none] at found
    exact absurd found List.not_mem_nil
  · exact (List.min?_eq_some_iff.mp isMin).2 _ found

/-- No range that starts before the block after the saved ones ends above the
new upper end. -/
theorem le_maxToBlock {self : LogsDb} {toBlock maxToBlock : UInt64}
    (read : readOr toBlock (self.maxToBlock toBlock.toNat) =
      .ok maxToBlock) {range : BlockRange}
    (member : range ∈ self.queriableBlockRanges)
    (touches : range.fromBlock - 1 ≤ (toBlock.toNat : Int)) :
    range.toBlock ≤ (maxToBlock.toNat : Int) := by
  have found : range.toBlock ∈ ((self.queriableBlockRanges.filter
      fun range => range.fromBlock - 1 ≤ (toBlock.toNat : Int)).map
        BlockRange.toBlock) := by
    apply List.mem_map_of_mem
    rw [List.mem_filter]
    exact ⟨member, decide_eq_true touches⟩
  rcases readOr_eq_ok read with ⟨none, _⟩ | isMax
  · rw [LogsDb.maxToBlock, List.max?_eq_none_iff] at none
    rw [none] at found
    exact absurd found List.not_mem_nil
  · exact (List.max?_eq_some_iff.mp isMax).2 _ found

/-- A range that ends before the saved blocks also ends before the new lower
end, which is that of a range further up. -/
theorem lt_minFromBlock {self : LogsDb} {fromBlock minFromBlock : UInt64}
    (separated : SeparatedBlockRanges self.queriableBlockRanges)
    (read : readOr fromBlock (self.minFromBlock fromBlock.toNat) =
      .ok minFromBlock) {range : BlockRange}
    (member : range ∈ self.queriableBlockRanges)
    (before : range.toBlock + 1 < (fromBlock.toNat : Int)) :
    range.toBlock + 1 < ((min fromBlock minFromBlock).toNat : Int) := by
  rw [Word64.toNat_min]
  rcases readOr_eq_ok read with ⟨_, same⟩ | found
  · subst same
    omega
  · obtain ⟨lowest, touching, isFrom⟩ :=
      List.mem_map.mp (List.min?_mem found)
    obtain ⟨lowestMember, touches⟩ := List.mem_filter.mp touching
    simp only [decide_eq_true_eq] at touches
    have nonempty := separated.nonempty range member
    rcases separated.eq_or_apart member lowestMember with same | below | above
    · rw [← same] at touches
      omega
    · omega
    · omega

/-- A range that starts after the saved blocks also starts after the new upper
end. -/
theorem maxToBlock_lt {self : LogsDb} {toBlock maxToBlock : UInt64}
    (separated : SeparatedBlockRanges self.queriableBlockRanges)
    (read : readOr toBlock (self.maxToBlock toBlock.toNat) =
      .ok maxToBlock) {range : BlockRange}
    (member : range ∈ self.queriableBlockRanges)
    (after : (toBlock.toNat : Int) + 1 < range.fromBlock) :
    ((max toBlock maxToBlock).toNat : Int) + 1 < range.fromBlock := by
  rw [Word64.toNat_max]
  rcases readOr_eq_ok read with ⟨_, same⟩ | found
  · subst same
    omega
  · obtain ⟨highest, touching, isTo⟩ :=
      List.mem_map.mp (List.max?_mem found)
    obtain ⟨highestMember, touches⟩ := List.mem_filter.mp touching
    simp only [decide_eq_true_eq] at touches
    have nonempty := separated.nonempty range member
    rcases separated.eq_or_apart member highestMember with same | below | above
    · rw [← same] at touches
      omega
    · omega
    · omega

/-- One save keeps the ranges apart and covers what it saves besides. -/
theorem saveRange_separated {self : LogsDb} {fromBlock toBlock : UInt64}
    (order : fromBlock ≤ toBlock)
    (separated : SeparatedBlockRanges self.queriableBlockRanges)
    {ranges : List BlockRange}
    (saved : self.saveRange fromBlock toBlock = .ok ranges) :
    SeparatedBlockRanges ranges ∧ ∀ number : Int,
      Covered ranges number ↔
        Covered self.queriableBlockRanges number ∨
          fromBlock.toNat ≤ number ∧ number ≤ toBlock.toNat := by
  have covered : ∀ number, Covered ranges number → _ :=
    fun _ => covered_of_saveRange saved
  obtain ⟨minFromBlock, maxToBlock, minRead, maxRead, rfl⟩ :=
    saveRange_cases saved
  have lowerEnd := Word64.toNat_min fromBlock minFromBlock
  have upperEnd := Word64.toNat_max toBlock maxToBlock
  have order := UInt64.le_iff_toNat_le.mp order
  constructor
  · apply separated.replace
    · dsimp only
      omega
    · intro range member keeps
      simp only [decide_eq_true_eq, not_and_or, not_le, ge_iff_le] at keeps
      by_cases before : range.toBlock + 1 < (fromBlock.toNat : Int)
      · exact .inl (lt_minFromBlock separated minRead member before)
      · -- Kept although it is not below: it starts above the saved blocks.
        have lower := minFromBlock_le minRead member (not_lt.mp before)
        have after : (toBlock.toNat : Int) + 1 < range.fromBlock := by
          by_contra notAfter
          have upper := le_maxToBlock maxRead member (by omega)
          omega
        exact .inr (maxToBlock_lt separated maxRead member after)
  · intro number
    refine ⟨covered number, ?_⟩
    rintro (before | ⟨atLeast, atMost⟩)
    · refine covers_subset_replace ?_ before
      intro range _ drops
      simp only [decide_eq_false_iff_not, not_not] at drops
      dsimp only
      omega
    · refine ⟨_, List.mem_append_right _ (List.mem_singleton_self _), ?_, ?_⟩
      · dsimp only
        omega
      · dsimp only
        omega

/-! ### Runs -/

/-- The arguments of a call of `save_logs`. -/
structure SaveCall where
  logs : List EVMLog
  fromBlock : UInt64
  toBlock : UInt64

/-- Committed calls, one after the other. -/
def saveAll (self : LogsDb) (calls : List SaveCall) : Except DbError LogsDb :=
  calls.foldlM (fun db call =>
    db.saveLogs call.logs call.fromBlock call.toBlock) self

theorem saveLogs_ranges {self next : LogsDb} {logs : List EVMLog}
    {fromBlock toBlock : UInt64}
    (saved : self.saveLogs logs fromBlock toBlock = .ok next) :
    self.saveRange fromBlock toBlock = .ok next.queriableBlockRanges := by
  rw [saveLogs] at saved
  obtain ⟨ranges, savedRange, saved⟩ := Checked.bind_eq_ok_iff.mp saved
  obtain ⟨rows, _, saved⟩ := Checked.bind_eq_ok_iff.mp saved
  cases saved
  exact savedRange

theorem saveAll_separated {self final : LogsDb} {calls : List SaveCall}
    (ordered : ∀ call ∈ calls, call.fromBlock ≤ call.toBlock)
    (separated : SeparatedBlockRanges self.queriableBlockRanges)
    (run : self.saveAll calls = .ok final) :
    SeparatedBlockRanges final.queriableBlockRanges ∧ ∀ number : Int,
      Covered final.queriableBlockRanges number ↔
        Covered self.queriableBlockRanges number ∨
          ∃ call ∈ calls, call.fromBlock.toNat ≤ number ∧
            number ≤ call.toBlock.toNat := by
  induction calls generalizing self with
  | nil =>
      cases run
      exact ⟨separated, fun number => by simp⟩
  | cons call calls induction =>
      rw [saveAll, List.foldlM_cons] at run
      obtain ⟨middle, saved, run⟩ := Checked.bind_eq_ok_iff.mp run
      obtain ⟨middleSeparated, middleCovers⟩ := saveRange_separated
        (ordered call List.mem_cons_self) separated (saveLogs_ranges saved)
      have laterOrdered : ∀ call ∈ calls, call.fromBlock ≤ call.toBlock :=
        fun call member => ordered call (List.mem_cons_of_mem _ member)
      obtain ⟨finalSeparated, finalCovers⟩ :=
        induction laterOrdered middleSeparated run
      refine ⟨finalSeparated, ?_⟩
      intro number
      rw [finalCovers, middleCovers, or_assoc, List.exists_mem_cons_iff]

/-- After any committed saves the stored ranges are apart from each other and
hold exactly the saved blocks. -/
theorem saved_ranges_exact {self final : LogsDb}
    (empty : self.queriableBlockRanges = []) {calls : List SaveCall}
    (ordered : ∀ call ∈ calls, call.fromBlock ≤ call.toBlock)
    (run : self.saveAll calls = .ok final) :
    (∀ range ∈ final.queriableBlockRanges,
        range.fromBlock ≤ range.toBlock) ∧
      (final.queriableBlockRanges.Pairwise fun left right =>
        left.toBlock + 1 < right.fromBlock ∨
          right.toBlock + 1 < left.fromBlock) ∧
      ∀ number : Int, Covered final.queriableBlockRanges number ↔
        ∃ call ∈ calls, call.fromBlock.toNat ≤ number ∧
          number ≤ call.toBlock.toNat := by
  have start : SeparatedBlockRanges self.queriableBlockRanges := by
    rw [empty]
    exact separated_nil
  obtain ⟨separated, covers⟩ := saveAll_separated ordered start run
  refine ⟨separated.nonempty, separated.apart, ?_⟩
  intro number
  rw [covers, empty]
  simp [Covered]

/-- Two ranges with one block between them, and then that block. -/
def fillingTheGap : List SaveCall :=
  [⟨[], 5, 6⟩, ⟨[], 8, 9⟩, ⟨[], 20, 20⟩, ⟨[], 7, 7⟩]

theorem saved_ranges_exact_fillingTheGap :
    let final : LogsDb := ⟨[], [⟨20, 20⟩, ⟨5, 9⟩]⟩
    (∀ range ∈ final.queriableBlockRanges,
        range.fromBlock ≤ range.toBlock) ∧
      (final.queriableBlockRanges.Pairwise fun left right =>
        left.toBlock + 1 < right.fromBlock ∨
          right.toBlock + 1 < left.fromBlock) ∧
      ∀ number : Int, Covered final.queriableBlockRanges number ↔
        ∃ call ∈ fillingTheGap, call.fromBlock.toNat ≤ number ∧
          number ≤ call.toBlock.toNat :=
  @saved_ranges_exact new _ rfl _ (by decide) (by decide +kernel)

end LogsDb

end RiskManagement
