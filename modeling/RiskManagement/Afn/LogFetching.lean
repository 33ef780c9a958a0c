import Mathlib.Data.List.Chain
import Mathlib.Data.Nat.Log
import Mathlib.Logic.Relation
import RiskManagement.Afn.SmartGetLogs

/-!
# Adaptive log fetching makes progress

A range that may be asked for is never longer than the size it was chosen by,
so a retried failure at least halves the size.
-/

namespace RiskManagement

open Loops (Turn iterate)
open Relation (ReflTransGen)

namespace SmartGetLogs

variable {fromBlock toBlock : UInt64}

theorem rangeSize_toNat (order : fromBlock ≤ toBlock)
    (below : toBlock < Word64.maxValue) :
    (rangeSize fromBlock toBlock).toNat =
      toBlock.toNat - fromBlock.toNat + 1 := by
  have natBelow := UInt64.lt_iff_toNat_lt.mp below
  rw [Word64.toNat_maxValue] at natBelow
  rw [rangeSize, UInt64.toNat_add, UInt64.toNat_sub_of_le _ _ order,
    UInt64.toNat_one]
  omega

/-! ### The requests -/

/-- What is asked for lies in the range of the call and is not longer than the
size; a request for a single block is the only one of size one. -/
structure FitsCall (fromBlock toBlock size : UInt64)
    (request : GetLogsRequest) : Prop where
  fromBlock_eq : request.fromBlock = fromBlock
  order : fromBlock ≤ request.toBlock
  toBlock_le : request.toBlock ≤ toBlock
  short : (rangeSize fromBlock request.toBlock).toNat ≤ size.toNat
  single : size = 1 → request.toBlock = fromBlock

theorem request_fits (self : SmartGetLogs) {size : UInt64}
    (order : fromBlock ≤ toBlock) (below : toBlock < Word64.maxValue)
    (positive : 1 ≤ size.toNat) :
    FitsCall fromBlock toBlock size
      (self.request fromBlock toBlock size) := by
  have natOrder := UInt64.le_iff_toNat_le.mp order
  have natBelow := UInt64.lt_iff_toNat_lt.mp below
  rw [Word64.toNat_maxValue] at natBelow
  have toNat_toBlock :
      (self.request fromBlock toBlock size).toBlock.toNat =
        min toBlock.toNat
          (min (fromBlock.toNat + size.toNat) (2 ^ 64 - 1) - 1) := by
    rw [request, Word64.toNat_min, Word64.toNat_saturatingSub,
      Word64.toNat_saturatingAdd, UInt64.toNat_one]
  have ordered :
      fromBlock ≤ (self.request fromBlock toBlock size).toBlock := by
    rw [UInt64.le_iff_toNat_le]
    omega
  have atMost :
      (self.request fromBlock toBlock size).toBlock ≤ toBlock := by
    rw [UInt64.le_iff_toNat_le]
    omega
  refine ⟨rfl, ordered, atMost, ?_, ?_⟩
  · rw [rangeSize_toNat ordered (UInt64.lt_of_le_of_lt atMost below)]
    omega
  · intro isOne
    rw [isOne, UInt64.toNat_one] at toNat_toBlock
    rw [← UInt64.toNat_inj, isOne]
    omega

/-! ### The size -/

theorem BlockRange.onFailure_size (fromBlock toBlock : UInt64) :
    (BlockRange.onFailure fromBlock toBlock).size.toNat =
      max ((rangeSize fromBlock toBlock).toNat / 2) 1 := by
  rw [BlockRange.onFailure, Word64.toNat_max, UInt64.toNat_div]
  rfl

theorem BlockRange.onSuccess_positive {blockRange : BlockRange}
    (positive : 1 ≤ blockRange.size.toNat) :
    1 ≤ (blockRange.onSuccess fromBlock toBlock).size.toNat := by
  rw [BlockRange.onSuccess]
  split
  · cases blockRange.increase with
    | multiplicative =>
        rw [Word64.toNat_saturatingMul]
        simp
        omega
    | additive =>
        rw [Word64.toNat_saturatingAdd]
        simp
  · exact positive

/-! ### A call -/

/-- Every size is at most half of the one before. -/
def Halving (sizes : List UInt64) : Prop :=
  sizes.IsChain fun before after => 2 * after.toNat ≤ before.toNat

/-- What holds of the attempts of a call under way. -/
structure Fetching (fetcher : SmartGetLogs) (answer : Nat → GetLogsAnswer)
    (fromBlock toBlock : UInt64) (call : GetLogsCall) : Prop where
  positive : 1 ≤ call.blockRange.size.toNat
  fits : ∀ attempt ∈ call.attempts,
    1 ≤ attempt.size.toNat ∧
      FitsCall fromBlock toBlock attempt.size attempt.request
  asked : call.attempts.map GetLogsAttempt.answer =
    (List.range call.attempts.length).map answer
  halving : Halving
    (call.attempts.map GetLogsAttempt.size ++ [call.blockRange.size])
  few : call.attempts.length + Nat.log 2 call.blockRange.size.toNat ≤
    Nat.log 2 fetcher.blockRange.size.toNat

/-- What holds of the attempts and the result of a call that returned. -/
structure Fetched (fetcher : SmartGetLogs) (answer : Nat → GetLogsAnswer)
    (fromBlock toBlock : UInt64) (returned : GetLogsReturn) : Prop where
  positive : 1 ≤ returned.blockRange.size.toNat
  fits : ∀ attempt ∈ returned.attempts,
    1 ≤ attempt.size.toNat ∧
      FitsCall fromBlock toBlock attempt.size attempt.request
  asked : returned.attempts.map GetLogsAttempt.answer =
    (List.range returned.attempts.length).map answer
  halving : Halving (returned.attempts.map GetLogsAttempt.size)
  few : returned.attempts.length ≤
    Nat.log 2 fetcher.blockRange.size.toNat + 2
  retryable : ∀ error, returned.result = .error (.rpc error) →
    error.isRetryable = true →
      ∃ last, returned.attempts.getLast? = some last ∧
        last.answer.rpcLogs = .error error ∧
        last.request.fromBlock = last.request.toBlock
  ok : ∀ page, returned.result = .ok page →
    ∃ last, returned.attempts.getLast? = some last ∧
      last.answer.rpcLogs = .ok page.logs ∧
      last.request.toBlock = page.toBlock

variable {self : SmartGetLogs} {answer : Nat → GetLogsAnswer}
  {call : GetLogsCall}

/-- The call with the attempt that the next turn makes. -/
def attemptsAfter (self : SmartGetLogs) (answer : Nat → GetLogsAnswer)
    (fromBlock toBlock : UInt64) (call : GetLogsCall) :
    List GetLogsAttempt :=
  call.attempts ++
    [⟨call.blockRange.size,
      self.request fromBlock toBlock call.blockRange.size,
      answer call.attempts.length⟩]

theorem Fetching.fits_after (fetching : Fetching self answer fromBlock toBlock
      call)
    (order : fromBlock ≤ toBlock) (below : toBlock < Word64.maxValue) :
    ∀ attempt ∈ self.attemptsAfter answer fromBlock toBlock call,
      1 ≤ attempt.size.toNat ∧
        FitsCall fromBlock toBlock attempt.size attempt.request := by
  intro attempt member
  rw [attemptsAfter, List.mem_append, List.mem_singleton] at member
  rcases member with old | isLast
  · exact fetching.fits attempt old
  · subst isLast
    exact ⟨fetching.positive, request_fits self order below fetching.positive⟩

theorem Fetching.asked_after (fetching : Fetching self answer fromBlock toBlock
      call) :
    (self.attemptsAfter answer fromBlock toBlock call).map
        GetLogsAttempt.answer =
      (List.range (self.attemptsAfter answer fromBlock toBlock
        call).length).map answer := by
  rw [attemptsAfter, List.map_append, fetching.asked, List.length_append,
    List.length_singleton, List.range_succ, List.map_append,
    List.map_singleton, List.map_singleton]

theorem map_size_attemptsAfter :
    (self.attemptsAfter answer fromBlock toBlock call).map
        GetLogsAttempt.size =
      call.attempts.map GetLogsAttempt.size ++ [call.blockRange.size] := by
  rw [attemptsAfter, List.map_append, List.map_singleton]

theorem length_attemptsAfter :
    (self.attemptsAfter answer fromBlock toBlock call).length =
      call.attempts.length + 1 := by
  rw [attemptsAfter, List.length_append, List.length_singleton]

/-- The turn that retries: the size was not one, so half of it is not zero. -/
theorem Fetching.retry (fetching : Fetching self answer fromBlock toBlock call)
    (order : fromBlock ≤ toBlock) (below : toBlock < Word64.maxValue)
    (notOne : call.blockRange.size ≠ 1) :
    Fetching self answer fromBlock toBlock
        { blockRange := .onFailure fromBlock
            (self.request fromBlock toBlock call.blockRange.size).toBlock
          attempts := self.attemptsAfter answer fromBlock toBlock call } ∧
      Nat.log 2 (BlockRange.onFailure fromBlock
          (self.request fromBlock toBlock
            call.blockRange.size).toBlock).size.toNat <
        Nat.log 2 call.blockRange.size.toNat := by
  have positive := fetching.positive
  have large : 2 ≤ call.blockRange.size.toNat := by
    rw [Ne, ← UInt64.toNat_inj, UInt64.toNat_one] at notOne
    omega
  have short := (request_fits self order below positive).short
  have size := BlockRange.onFailure_size fromBlock
    (self.request fromBlock toBlock call.blockRange.size).toBlock
  generalize BlockRange.onFailure fromBlock
    (self.request fromBlock toBlock call.blockRange.size).toBlock = smaller
    at size ⊢
  have half : smaller.size.toNat ≤ call.blockRange.size.toNat / 2 := by
    omega
  have logHalf := Nat.log_mono_right (b := 2) half
  rw [Nat.log_div_base] at logHalf
  have logPositive : 0 < Nat.log 2 call.blockRange.size.toNat :=
    Nat.log_pos (by omega) large
  have few := fetching.few
  refine ⟨⟨?_, fetching.fits_after order below, fetching.asked_after, ?_, ?_⟩,
    ?_⟩
  · show 1 ≤ smaller.size.toNat
    omega
  · show Halving (_ ++ [smaller.size])
    rw [map_size_attemptsAfter, Halving, List.append_assoc]
    apply List.isChain_append_cons_cons.mpr
    refine ⟨fetching.halving, ?_, List.isChain_singleton _⟩
    omega
  · show _ + Nat.log 2 smaller.size.toNat ≤ _
    rw [length_attemptsAfter]
    omega
  · omega

/-- A turn that leaves the loop, whatever it leaves with. -/
theorem Fetching.fetched {returned : GetLogsReturn}
    (fetching : Fetching self answer fromBlock toBlock call)
    (order : fromBlock ≤ toBlock) (below : toBlock < Word64.maxValue)
    (attempts : returned.attempts =
      self.attemptsAfter answer fromBlock toBlock call)
    (positive : 1 ≤ returned.blockRange.size.toNat)
    (retryable : ∀ error, returned.result = .error (.rpc error) →
      error.isRetryable = true →
        (answer call.attempts.length).rpcLogs = .error error ∧
          call.blockRange.size = 1)
    (ok : ∀ page, returned.result = .ok page →
      (answer call.attempts.length).rpcLogs = .ok page.logs ∧
        (self.request fromBlock toBlock call.blockRange.size).toBlock =
          page.toBlock) :
    Fetched self answer fromBlock toBlock returned := by
  have last : returned.attempts.getLast? =
      some ⟨call.blockRange.size,
        self.request fromBlock toBlock call.blockRange.size,
        answer call.attempts.length⟩ := by
    rw [attempts, attemptsAfter, List.getLast?_concat]
  refine ⟨positive, ?_, ?_, ?_, ?_, ?_, ?_⟩
  · rw [attempts]
    exact fetching.fits_after order below
  · rw [attempts]
    exact fetching.asked_after
  · rw [attempts, map_size_attemptsAfter]
    exact fetching.halving
  · rw [attempts, length_attemptsAfter]
    have few := fetching.few
    omega
  · intro error isError isRetryable
    obtain ⟨answered, isOne⟩ := retryable error isError isRetryable
    refine ⟨_, last, answered, ?_⟩
    have fits := request_fits self order below fetching.positive
    exact fits.fromBlock_eq.trans (fits.single isOne).symm
  · intro page isOk
    obtain ⟨answered, isToBlock⟩ := ok page isOk
    exact ⟨_, last, answered, isToBlock⟩

theorem Fetching.turn (fetching : Fetching self answer fromBlock toBlock call)
    (order : fromBlock ≤ toBlock) (below : toBlock < Word64.maxValue) :
    (self.getLogsTurn answer fromBlock toBlock call).Meets
      (fun after => Fetching self answer fromBlock toBlock after ∧
        Nat.log 2 after.blockRange.size.toNat <
          Nat.log 2 call.blockRange.size.toNat)
      (Fetched self answer fromBlock toBlock) := by
  rw [getLogsTurn]
  cases answered : (answer call.attempts.length).rpcLogs with
  | ok rpcLogs =>
      apply fetching.fetched order below rfl
      · show 1 ≤ (ite _ _ _ : BlockRange).size.toNat
        split
        · rw [BlockRange.onFailure_size]
          omega
        · exact BlockRange.onSuccess_positive fetching.positive
      · intro error isError
        cases isError
      · intro page isOk
        cases isOk
        exact ⟨answered, rfl⟩
  | error error =>
      by_cases isRetryable : error.isRetryable = true
      · by_cases isOne : call.blockRange.size = 1
        · simp only [if_pos isRetryable, if_pos isOne]
          apply fetching.fetched order below rfl fetching.positive
          · intro left isError _
            cases isError
            exact ⟨answered, isOne⟩
          · intro page isOk
            cases isOk
        · simp only [if_pos isRetryable, if_neg isOne]
          exact fetching.retry order below isOne
      · simp only [if_neg isRetryable]
        apply fetching.fetched order below rfl fetching.positive
        · intro left isError leftRetryable
          cases isError
          exact absurd leftRetryable isRetryable
        · intro page isOk
          cases isOk

theorem start_fetching (positive : 1 ≤ self.blockRange.size.toNat) :
    Fetching self answer fromBlock toBlock
      { blockRange := self.blockRange, attempts := [] } where
  positive := positive
  fits := by simp
  asked := rfl
  halving := List.isChain_singleton _
  few := by simp

/-- Whatever a call returns is as it should be. -/
theorem getPartialLogs_fetched {fuel : Nat} {returned : GetLogsReturn}
    (positive : 1 ≤ self.blockRange.size.toNat)
    (order : fromBlock ≤ toBlock) (below : toBlock < Word64.maxValue)
    (returns : self.getPartialLogs answer fuel fromBlock toBlock =
      some returned) :
    Fetched self answer fromBlock toBlock returned := by
  rw [getPartialLogs, if_neg (not_not.mpr order)] at returns
  refine Loops.iterate_invariant
    (Fetching self answer fromBlock toBlock) _ ?_ (start_fetching positive)
    returns
  intro state turn fetching turned
  cases turned
  apply (fetching.turn order below).imp
  · intro after kept
    exact kept.1
  · intro result fetched
    exact fetched

/-- A call returns after as many turns as the size has binary digits. -/
theorem getPartialLogs_returns {fuel : Nat}
    (positive : 1 ≤ self.blockRange.size.toNat)
    (order : fromBlock ≤ toBlock) (below : toBlock < Word64.maxValue)
    (enough : Nat.log 2 self.blockRange.size.toNat < fuel) :
    ∃ returned,
      self.getPartialLogs answer fuel fromBlock toBlock = some returned := by
  rw [getPartialLogs, if_neg (not_not.mpr order)]
  refine Loops.iterate_returns
    (Fetching self answer fromBlock toBlock)
    (fun call => Nat.log 2 call.blockRange.size.toNat) ?_
    (start_fetching positive) enough
  intro state fetching
  refine ⟨_, rfl, (fetching.turn order below).imp ?_ ?_⟩
  · intro after kept
    exact kept
  · intro result _
    trivial

/-- The size is at least one after every run of calls. -/
theorem run_positive {addresses : List Address} {firstTopics : List Bytes32}
    (reached : ReflTransGen Calls (new addresses firstTopics) self) :
    1 ≤ self.blockRange.size.toNat := by
  induction reached with
  | refl => exact le_refl 1
  | tail _ called ih =>
      obtain ⟨answer, fuel, fromBlock, toBlock, returned, order, below,
        returns, rfl⟩ := called
      exact (getPartialLogs_fetched ih order below returns).positive

/-- After every run of calls a call returns, however the node answers, and its
requests, its result and the size it leaves are as they should be. -/
theorem log_fetching_progresses {addresses : List Address}
    {firstTopics : List Bytes32}
    (reached : ReflTransGen Calls (new addresses firstTopics) self)
    (order : fromBlock ≤ toBlock) (below : toBlock < Word64.maxValue)
    (answer : Nat → GetLogsAnswer) :
    1 ≤ self.blockRange.size.toNat ∧
      ∀ fuel, Nat.log 2 self.blockRange.size.toNat + 2 ≤ fuel →
        ∃ returned,
          self.getPartialLogs answer fuel fromBlock toBlock =
              some returned ∧
            Fetched self answer fromBlock toBlock returned := by
  have positive := run_positive reached
  refine ⟨positive, ?_⟩
  intro fuel enough
  have terminates : ∃ returned,
      self.getPartialLogs answer fuel fromBlock toBlock = some returned :=
    getPartialLogs_returns positive order below (by omega)
  obtain ⟨returned, returns⟩ := terminates
  exact ⟨returned, returns,
    getPartialLogs_fetched positive order below returns⟩

/-- A node that has no logs. -/
def noLogs (_ : Nat) : GetLogsAnswer where
  rpcLogs := .ok []
  elapsed := 0

/-- A node that gives up on every request. -/
def overloaded (_ : Nat) : GetLogsAnswer where
  rpcLogs := .error (.errorResponse "limit exceeded")
  elapsed := 0

/-- The state after one quick success. -/
def grownOnce : SmartGetLogs :=
  { new [] [] with blockRange := ⟨.multiplicative, 2⟩ }

theorem log_fetching_progresses_overloaded :
    ∃ returned, grownOnce.getPartialLogs overloaded 3 5 10 = some returned ∧
      returned.attempts.map (fun attempt => attempt.request.toBlock) =
        [6, 5] ∧
      Fetched grownOnce overloaded 5 10 returned := by
  have grown : Calls (new [] []) grownOnce :=
    ⟨noLogs, 1, 3, 4, _, by decide, by decide, rfl, rfl⟩
  obtain ⟨_, returns⟩ := log_fetching_progresses (.single grown)
    (show (5 : UInt64) ≤ 10 by decide) (by decide) overloaded
  obtain ⟨returned, isReturned, fetched⟩ := returns 3 (by decide)
  refine ⟨returned, isReturned, ?_, fetched⟩
  cases isReturned
  rfl

end SmartGetLogs
end RiskManagement
