import RiskManagement.Afn.LogsDb

/-!
# What a database covers

The row codec gives every stored log back, and a save covers the saved blocks
and those covered before, and no other ones.
-/

namespace RiskManagement

theorem toSql_eq_ok_iff {value : UInt64} {stored : Int} :
    toSql value = .ok stored ↔
      value.toNat ≤ maxSqlInt ∧ stored = value.toNat := by
  rw [toSql]
  split
  · rename_i fits
    simp [fits, eq_comm]
  · rename_i large
    simp [large]

theorem fromSql_eq_ok_iff {stored : Int} {value : UInt64} :
    fromSql stored = .ok value ↔
      value.toNat ≤ maxSqlInt ∧ stored = value.toNat := by
  rw [fromSql]
  split
  · rename_i range
    rw [Except.ok.injEq, ← UInt64.toNat_inj, UInt64.toNat_ofNat']
    rw [maxSqlInt] at range ⊢
    omega
  · rename_i outside
    simp only [reduceCtorEq, false_iff]
    intro value
    apply outside
    omega

/-! ### Rows -/

namespace LogRow

/-- The log that a row was made from. -/
def log (row : LogRow) : EVMLog where
  logIndex := .ofNat row.logIndex.toNat
  address := row.address
  data := row.data
  topics := [some row.topic0, row.topic1, row.topic2, row.topic3].filterMap id
  blockHash := row.blockHash
  blockNumber := .ofNat row.blockNumber.toNat

theorem optionalTopics {topics : List Bytes32} (atMost : topics.length ≤ 4) :
    [topics[0]?, topics[1]?, topics[2]?, topics[3]?].filterMap id =
      topics := by
  match topics, atMost with
  | [], _ => rfl
  | [_], _ => rfl
  | [_, _], _ => rfl
  | [_, _, _], _ => rfl
  | [_, _, _, _], _ => rfl

theorem ofLog_cases {log : EVMLog} {row : LogRow}
    (made : ofLog log = .ok row) :
    log.blockNumber.toNat ≤ maxSqlInt ∧ log.logIndex.toNat ≤ maxSqlInt ∧
      row.blockNumber = log.blockNumber.toNat ∧
      row.logIndex = log.logIndex.toNat ∧
      row.blockHash = log.blockHash ∧ row.address = log.address ∧
      row.data = log.data ∧
      [some row.topic0, row.topic1, row.topic2, row.topic3] =
        [log.topics[0]?, log.topics[1]?, log.topics[2]?, log.topics[3]?] := by
  rw [ofLog] at made
  obtain ⟨blockNumber, bindsNumber, made⟩ := Checked.bind_eq_ok_iff.mp made
  obtain ⟨logIndex, bindsIndex, made⟩ := Checked.bind_eq_ok_iff.mp made
  obtain ⟨numberFits, numberEq⟩ := toSql_eq_ok_iff.mp bindsNumber
  obtain ⟨indexFits, indexEq⟩ := toSql_eq_ok_iff.mp bindsIndex
  split at made
  · cases made
  · rename_i topic0 found
    cases made
    refine ⟨numberFits, indexFits, numberEq, indexEq, rfl, rfl, rfl, ?_⟩
    rw [found]

theorem log_ofLog {log : EVMLog} {row : LogRow} (made : ofLog log = .ok row)
    (atMost : log.topics.length ≤ 4) :
    row.log = log ∧ evmLogFromRow row = .ok log := by
  obtain ⟨numberFits, indexFits, number, index, blockHash, address, data,
    topics⟩ := ofLog_cases made
  have isLog : row.log = log := by
    rw [LogRow.log]
    rw [topics, optionalTopics atMost, number, index, blockHash, address,
      data]
    simp
  refine ⟨isLog, ?_⟩
  have readNumber : fromSql row.blockNumber = .ok log.blockNumber :=
    fromSql_eq_ok_iff.mpr ⟨numberFits, number⟩
  have readIndex : fromSql row.logIndex = .ok log.logIndex :=
    fromSql_eq_ok_iff.mpr ⟨indexFits, index⟩
  rw [evmLogFromRow]
  rw [readNumber, readIndex]
  simp only [bind, Except.bind, pure, Except.pure, Except.ok.injEq]
  rw [topics, optionalTopics atMost, blockHash, address, data]

theorem notAfter_trans (a b c : LogRow) (first : a.notAfter b)
    (second : b.notAfter c) : a.notAfter c := by
  simp only [notAfter, decide_eq_true_eq] at first second ⊢
  omega

theorem notAfter_total (a b : LogRow) : a.notAfter b || b.notAfter a := by
  simp only [notAfter, Bool.or_eq_true, decide_eq_true_eq]
  omega

end LogRow

/-! ### Ranges -/

/-- A block that lies in one of the ranges. -/
def Covered (ranges : List BlockRange) (number : Int) : Prop :=
  ∃ range ∈ ranges, range.fromBlock ≤ number ∧ number ≤ range.toBlock

namespace LogsDb

theorem dbToBlock_spec {self : LogsDb} {fromBlock toBlock : Int}
    (found : self.dbToBlock fromBlock = some toBlock) :
    fromBlock ≤ toBlock ∧ ∀ number, fromBlock ≤ number → number ≤ toBlock →
      Covered self.queriableBlockRanges number := by
  obtain ⟨range, inRanges, isTo⟩ := List.mem_map.mp (List.max?_mem found)
  obtain ⟨member, holds⟩ := List.mem_filter.mp inRanges
  simp only [decide_eq_true_eq] at holds
  subst isTo
  refine ⟨holds.2, ?_⟩
  intro number lower upper
  exact ⟨range, member, by omega, upper⟩

/-- A hit is a selection from the first block to a last one, all covered. -/
theorem getPartialLogs_hit {self : LogsDb} {fromBlock toBlock : UInt64}
    {page : PartialLogs}
    (answers : self.getPartialLogs fromBlock toBlock = .ok (some page)) :
    ∃ last, fromBlock ≤ last ∧ last ≤ toBlock ∧
      (∀ number : Int, fromBlock.toNat ≤ number → number ≤ last.toNat →
        Covered self.queriableBlockRanges number) ∧
      self.selectLogs fromBlock last = .ok page := by
  rw [getPartialLogs] at answers
  split at answers
  · cases answers
  · rename_i order
    obtain ⟨_, fromBinds, answers⟩ := Checked.bind_eq_ok_iff.mp answers
    obtain ⟨_, rfl⟩ := toSql_eq_ok_iff.mp fromBinds
    cases found : self.dbToBlock fromBlock.toNat with
    | none =>
        rw [found] at answers
        cases answers
    | some stored =>
        rw [found] at answers
        obtain ⟨dbToBlock, reads, answers⟩ :=
          Checked.bind_eq_ok_iff.mp answers
        obtain ⟨_, selects, answers⟩ := Checked.bind_eq_ok_iff.mp answers
        cases answers
        obtain ⟨_, rfl⟩ := fromSql_eq_ok_iff.mp reads
        obtain ⟨holds, covered⟩ := dbToBlock_spec found
        have upTo := Word64.toNat_min dbToBlock toBlock
        have inOrder := UInt64.le_iff_toNat_le.mp (not_not.mp order)
        refine ⟨min dbToBlock toBlock, ?_, ?_, ?_, selects⟩
        · rw [UInt64.le_iff_toNat_le]
          omega
        · rw [UInt64.le_iff_toNat_le]
          omega
        · intro number lower upper
          exact covered number lower (by omega)

theorem readOr_eq_ok {otherwise result : UInt64} {found : Option Int}
    (read : readOr otherwise found = .ok result) :
    found = none ∧ result = otherwise ∨ found = some (result.toNat : Int) := by
  cases found with
  | none =>
      cases read
      exact .inl ⟨rfl, rfl⟩
  | some value =>
      have equal := (fromSql_eq_ok_iff.mp read).2
      exact .inr (congrArg some equal)

theorem saveRange_cases {self : LogsDb} {fromBlock toBlock : UInt64}
    {ranges : List BlockRange}
    (saved : self.saveRange fromBlock toBlock = .ok ranges) :
    ∃ minFromBlock maxToBlock : UInt64,
      readOr fromBlock (self.minFromBlock fromBlock.toNat) =
          .ok minFromBlock ∧
        readOr toBlock (self.maxToBlock toBlock.toNat) = .ok maxToBlock ∧
        ranges = (self.queriableBlockRanges.filter fun range : BlockRange =>
            ¬(range.fromBlock ≥ (minFromBlock.toNat : Int) ∧
              range.toBlock ≤ (maxToBlock.toNat : Int))) ++
          [⟨(min fromBlock minFromBlock).toNat,
            (max toBlock maxToBlock).toNat⟩] := by
  simp only [saveRange, Checked.bind_eq_ok_iff, toSql_eq_ok_iff] at saved
  obtain ⟨_, ⟨_, rfl⟩, minFromBlock, minRead, _, ⟨_, rfl⟩, maxToBlock,
    maxRead, _, ⟨_, rfl⟩, _, ⟨_, rfl⟩, _, ⟨_, rfl⟩, _, ⟨_, rfl⟩,
    saved⟩ := saved
  cases saved
  exact ⟨minFromBlock, maxToBlock, minRead, maxRead, rfl⟩

/-- Blocks from the new lower end up to the saved ones were covered. -/
theorem covered_of_minFromBlock {self : LogsDb}
    {fromBlock minFromBlock : UInt64}
    (read : readOr fromBlock (self.minFromBlock fromBlock.toNat) =
      .ok minFromBlock) {number : Int}
    (lower : (min fromBlock minFromBlock).toNat ≤ number)
    (upper : number < fromBlock.toNat) :
    Covered self.queriableBlockRanges number := by
  rw [Word64.toNat_min] at lower
  rcases readOr_eq_ok read with ⟨_, same⟩ | found
  · subst same
    omega
  · obtain ⟨range, touching, isFrom⟩ :=
      List.mem_map.mp (List.min?_mem found)
    obtain ⟨member, touches⟩ := List.mem_filter.mp touching
    simp only [decide_eq_true_eq] at touches
    exact ⟨range, member, by omega, by omega⟩

/-- Blocks from the saved ones up to the new upper end were covered. -/
theorem covered_of_maxToBlock {self : LogsDb} {toBlock maxToBlock : UInt64}
    (read : readOr toBlock (self.maxToBlock toBlock.toNat) =
      .ok maxToBlock) {number : Int} (lower : toBlock.toNat < number)
    (upper : number ≤ (max toBlock maxToBlock).toNat) :
    Covered self.queriableBlockRanges number := by
  rw [Word64.toNat_max] at upper
  rcases readOr_eq_ok read with ⟨_, same⟩ | found
  · subst same
    omega
  · obtain ⟨range, touching, isTo⟩ := List.mem_map.mp (List.max?_mem found)
    obtain ⟨member, touches⟩ := List.mem_filter.mp touching
    simp only [decide_eq_true_eq] at touches
    exact ⟨range, member, by omega, by omega⟩

/-- A save covers nothing but what it saves and what was covered. -/
theorem covered_of_saveRange {self : LogsDb} {fromBlock toBlock : UInt64}
    {ranges : List BlockRange}
    (saved : self.saveRange fromBlock toBlock = .ok ranges) {number : Int}
    (covered : Covered ranges number) :
    Covered self.queriableBlockRanges number ∨
      fromBlock.toNat ≤ number ∧ number ≤ toBlock.toNat := by
  obtain ⟨minFromBlock, maxToBlock, minRead, maxRead, rfl⟩ :=
    saveRange_cases saved
  obtain ⟨range, member, lower, upper⟩ := covered
  rcases List.mem_append.mp member with kept | inserted
  · exact .inl ⟨range, (List.mem_filter.mp kept).1, lower, upper⟩
  · rw [List.mem_singleton.mp inserted] at lower upper
    by_cases before : number < fromBlock.toNat
    · exact .inl (covered_of_minFromBlock minRead lower before)
    · by_cases after : (toBlock.toNat : Int) < number
      · exact .inl (covered_of_maxToBlock maxRead after upper)
      · exact .inr ⟨by omega, by omega⟩

end LogsDb

end RiskManagement
