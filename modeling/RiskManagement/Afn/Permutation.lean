import Mathlib.Algebra.Order.BigOperators.Group.List
import Mathlib.Algebra.Order.Group.Nat
import Mathlib.Data.List.Rotate
import RiskManagement.Afn.AfnContract
import RiskManagement.Afn.VoteToBlessWorker

/-!
# The staged voting delay

Every node permutes the voters with the same seed and looks up only its own
delay in the result.  The leading voters whose weights reach the threshold
vote at once, each later voter one stage after the voter before it.
-/

namespace RiskManagement

/-- `SliceRandom::shuffle` with a generator made from the seed. -/
abbrev Shuffle (T : Type) := (seed : UInt64) → List T → List T

/-- A seeded shuffle of a copy. -/
def permute {T : Type} (shuffle : Shuffle T) (things : List T)
    (seed : UInt64) : List T :=
  shuffle seed things

/-- The seed changes once in an hour. -/
def currentSeed (secondsSinceEpoch : UInt64) : UInt64 :=
  let minutes := secondsSinceEpoch / 60
  let hours := minutes / 60
  hours

/-- The loop over the permuted voters.  The stage is a `u32` and the weight a
`u16`, and both wrap as they do in a release build. -/
def delayLoop (blessVoteAddr : Address) (blessWeightThreshold : UInt16) :
    UInt32 → UInt16 → List Voter → Option Nat
  | _, _, [] => none
  | stage, accumulatedWeight, voter :: permutedVoters =>
      if voter.blessVoteAddr = blessVoteAddr then
        some (stage.toNat * deltaStage)
      else
        let accumulatedWeight :=
          accumulatedWeight + voter.blessWeight.toUInt16
        if (stage = 0 ∧ accumulatedWeight ≥ blessWeightThreshold) ∨
            stage > 0 then
          delayLoop blessVoteAddr blessWeightThreshold (stage + 1)
            accumulatedWeight permutedVoters
        else
          delayLoop blessVoteAddr blessWeightThreshold stage
            accumulatedWeight permutedVoters

/-- The delay of one voter under a given seed. -/
def delayWithSeed (shuffle : Shuffle Voter) (blessVoteAddr : Address)
    (config : OnchainConfig) (seed : UInt64) : Option Nat :=
  delayLoop blessVoteAddr config.blessWeightThreshold 0 0
    (permute shuffle config.voters.toList seed)

/-- A passive node does not wait. -/
def delay (shuffle : Shuffle Voter) (secondsSinceEpoch : UInt64)
    (blessVoteAddr : Address) (config : OnchainConfig) :
    VotingMode → Option Nat
  | .active | .unreliableRemote | .dryRun =>
      delayWithSeed shuffle blessVoteAddr config
        (currentSeed secondsSinceEpoch)
  | .passive => some 0

/-! ### Weights of leading voters -/

def blessWeight (voters : List Voter) : Nat :=
  (voters.map fun voter => voter.blessWeight.toNat).sum

/-- The least positive number of leading voters whose weights reach the
threshold, or all of them if none does. -/
def leadingVoters (threshold : UInt16) (voters : List Voter) : Nat :=
  ((List.range' 1 voters.length).find? fun count =>
    decide (threshold.toNat ≤ blessWeight (voters.take count))).getD
      voters.length

theorem blessWeight_append (left right : List Voter) :
    blessWeight (left ++ right) = blessWeight left + blessWeight right := by
  rw [blessWeight, List.map_append, List.sum_append]
  rfl

theorem blessWeight_take_le {voters : List Voter} {count more : Nat}
    (notLess : count ≤ more) :
    blessWeight (voters.take count) ≤ blessWeight (voters.take more) := by
  rw [← Nat.add_sub_cancel' notLess, List.take_add, blessWeight_append]
  exact Nat.le_add_right _ _

theorem blessWeight_sublist {left right : List Voter}
    (sublist : left.Sublist right) : blessWeight left ≤ blessWeight right :=
  (sublist.map _).sum_le_sum fun weight _ => Nat.zero_le weight

theorem blessWeight_perm {left right : List Voter}
    (permutation : left.Perm right) : blessWeight left = blessWeight right :=
  (permutation.map _).sum_eq

/-- Before the leading voters are complete the threshold is not reached; they
reach it, or are all there are. -/
structure Leads (threshold : UInt16) (voters : List Voter)
    (leading : Nat) : Prop where
  short_before : ∀ count, 0 < count → count < leading →
    blessWeight (voters.take count) < threshold.toNat
  reaches : threshold.toNat ≤ blessWeight (voters.take leading) ∨
    leading = voters.length
  le_length : leading ≤ voters.length
  positive : voters ≠ [] → 0 < leading

theorem leadingVoters_leads (threshold : UInt16) (voters : List Voter) :
    Leads threshold voters (leadingVoters threshold voters) := by
  rw [leadingVoters]
  cases found : (List.range' 1 voters.length).find? fun count =>
      decide (threshold.toNat ≤ blessWeight (voters.take count)) with
  | some leading =>
      obtain ⟨reached, member, least⟩ := List.find?_range'_eq_some.mp found
      rw [List.mem_range'_1] at member
      constructor
      · intro count positive less
        simpa using least count positive less
      · exact .inl (of_decide_eq_true reached)
      · rw [Option.getD_some]
        omega
      · intro _
        exact member.1
  | none =>
      rw [List.find?_range'_eq_none] at found
      constructor
      · intro count positive less
        rw [Option.getD_none] at less
        simpa using found count positive (by omega)
      · exact .inr rfl
      · exact Nat.le_refl _
      · intro nonempty
        exact List.length_pos_iff.mpr nonempty

/-! ### One run of the loop -/

theorem ofNat_blessWeight_append {voters before rest : List Voter}
    {voter : Voter} (fits : blessWeight voters < 2 ^ 16)
    (split : voters = before ++ voter :: rest) :
    UInt16.ofNat (blessWeight before) + voter.blessWeight.toUInt16 =
        .ofNat (blessWeight (before ++ [voter])) ∧
      (UInt16.ofNat (blessWeight (before ++ [voter]))).toNat =
        blessWeight (voters.take (before.length + 1)) := by
  have isTake : voters.take (before.length + 1) = before ++ [voter] := by
    rw [split, List.take_append, List.take_of_length_le (by omega)]
    simp
  have single : blessWeight [voter] = voter.blessWeight.toNat := by
    simp [blessWeight]
  have total : blessWeight voters = blessWeight (before ++ [voter]) +
      blessWeight rest := by
    rw [← blessWeight_append, List.append_assoc, List.singleton_append, split]
  rw [blessWeight_append, single] at total ⊢
  constructor
  · rw [← UInt16.toNat_inj, UInt16.toNat_add, UInt16.toNat_ofNat',
      UInt16.toNat_ofNat']
    have small := voter.blessWeight.toNat_lt
    rw [UInt8.toNat_toUInt16]
    omega
  · rw [isTake, blessWeight_append, single, UInt16.toNat_ofNat']
    omega

/-- From the last leading voter on, every voter starts a stage. -/
theorem startsNextStage_of_reached {threshold accumulatedWeight : UInt16}
    {stage : UInt32} (enough : threshold.toNat ≤ accumulatedWeight.toNat) :
    (stage = 0 ∧ accumulatedWeight ≥ threshold) ∨ stage > 0 := by
  by_cases zero : stage = 0
  · left
    exact ⟨zero, UInt16.le_iff_toNat_le.mpr enough⟩
  · right
    exact UInt32.pos_iff_ne_zero.mpr zero

/-- Before the threshold is reached no voter starts a stage. -/
theorem not_startsNextStage {threshold accumulatedWeight : UInt16}
    {stage : UInt32} (noStage : stage = 0)
    (short : accumulatedWeight.toNat < threshold.toNat) :
    ¬ ((stage = 0 ∧ accumulatedWeight ≥ threshold) ∨ stage > 0) := by
  subst noStage
  intro turn
  rcases turn with ⟨_, enough⟩ | positive
  · have natEnough := UInt16.le_iff_toNat_le.mp enough
    omega
  · exact UInt32.lt_irrefl _ positive

theorem Leads.reached_before_last {threshold : UInt16} {voters : List Voter}
    {leading : Nat} (leads : Leads threshold voters leading) {count : Nat}
    (reached : leading ≤ count) (notLast : count < voters.length) :
    threshold.toNat ≤ blessWeight (voters.take count) := by
  rcases leads.reaches with reaches | all
  · exact Nat.le_trans reaches (blessWeight_take_le reached)
  · omega

/-- The loop looks the address up; the stage it gives starts to count at the
last leading voter. -/
theorem delayLoop_eq {threshold : UInt16} {voters : List Voter}
    {leading : Nat} (leads : Leads threshold voters leading)
    (fits : blessWeight voters < 2 ^ 16) (blessVoteAddr : Address)
    {before rest : List Voter} (split : voters = before ++ rest) :
    delayLoop blessVoteAddr threshold
        (.ofNat (before.length + 1 - leading)) (.ofNat (blessWeight before))
        rest =
      (rest.findIdx? fun voter =>
        decide (voter.blessVoteAddr = blessVoteAddr)).map fun index =>
          (before.length + index + 1 - leading) % 2 ^ 32 * deltaStage := by
  induction rest generalizing before with
  | nil => rfl
  | cons voter rest ih =>
      rw [delayLoop, List.findIdx?_cons]
      by_cases isOwn : voter.blessVoteAddr = blessVoteAddr
      · simp [isOwn]
      · simp only [isOwn, decide_false, if_false, Bool.false_eq_true]
        cases rest with
        | nil => split <;> rfl
        | cons next rest =>
            have length := congrArg List.length split
            rw [List.length_append, List.length_cons, List.length_cons]
              at length
            obtain ⟨weight, weightNat⟩ :=
              ofNat_blessWeight_append fits split
            have later := @ih (before ++ [voter]) (by
              rw [split, List.append_assoc, List.singleton_append])
            have shifted (index : Nat) :
                before.length + 1 + index + 1 - leading =
                  before.length + (index + 1) + 1 - leading := by
              omega
            rw [List.length_append, List.length_singleton] at later
            simp only [shifted] at later
            rw [weight, Option.map_map]
            by_cases reached : leading ≤ before.length + 1
            · have enough := leads.reached_before_last reached (by omega)
              rw [← weightNat] at enough
              have nextStage : UInt32.ofNat (before.length + 1 - leading) +
                  1 = .ofNat (before.length + 1 + 1 - leading) := by
                rw [Nat.sub_add_comm reached, UInt32.ofNat_add]
                rfl
              rw [if_pos (startsNextStage_of_reached enough), nextStage]
              exact later
            · have short := leads.short_before (before.length + 1)
                (Nat.succ_pos _) (by omega)
              rw [← weightNat] at short
              have noStage : before.length + 1 - leading = 0 := by omega
              have noNextStage : before.length + 1 + 1 - leading = 0 := by
                omega
              rw [noNextStage] at later
              have isZero : UInt32.ofNat 0 = 0 := rfl
              rw [noStage, if_neg (not_startsNextStage isZero short)]
              exact later

theorem delayLoop_start {threshold : UInt16} {voters : List Voter}
    {leading : Nat} (leads : Leads threshold voters leading)
    (fits : blessWeight voters < 2 ^ 16) (blessVoteAddr : Address) :
    delayLoop blessVoteAddr threshold 0 0 voters =
      (voters.findIdx? fun voter =>
        decide (voter.blessVoteAddr = blessVoteAddr)).map fun index =>
          (index + 1 - leading) % 2 ^ 32 * deltaStage := by
  cases voters with
  | nil => rfl
  | cons voter rest =>
      have positive := leads.positive (List.cons_ne_nil voter rest)
      have looped :=
        delayLoop_eq leads fits blessVoteAddr (List.nil_append _).symm
      have noStage : 0 + 1 - leading = 0 := by omega
      simp only [List.length_nil, noStage, Nat.zero_add] at looped
      exact looped

/-! ### All voters -/

/-- Voters with pairwise distinct addresses are found at their own place. -/
theorem findIdx?_own {voters : List Voter}
    (distinct : (voters.map Voter.blessVoteAddr).Nodup) {index : Nat}
    (inside : index < voters.length) :
    (voters.findIdx? fun voter =>
      decide (voter.blessVoteAddr = voters[index].blessVoteAddr)) =
        some index := by
  rw [List.findIdx?_eq_some_iff_getElem]
  refine ⟨inside, by simp, ?_⟩
  intro earlier less same
  have sameAddr := of_decide_eq_true same
  rw [← List.getElem_map (Voter.blessVoteAddr)
      (h := by rw [List.length_map]; omega),
    ← List.getElem_map (Voter.blessVoteAddr)
      (h := by rw [List.length_map]; exact inside),
    distinct.getElem_inj_iff] at sameAddr
  omega

/-- What the delays of all nodes say together.  A stage is a `u32`. -/
structure StagedDelays (delayOf : Address → Option Nat)
    (threshold : UInt16) (voters permuted : List Voter) (leading : Nat) :
    Prop where
  leads : Leads threshold permuted leading
  leading_zero : ∀ index (inside : index < permuted.length),
    index < leading → delayOf permuted[index].blessVoteAddr = some 0
  later_staged : ∀ index (inside : index < permuted.length),
    leading ≤ index → delayOf permuted[index].blessVoteAddr =
      some ((index - leading + 1) % 2 ^ 32 * deltaStage)
  later_unwrapped : permuted.length ≤ 2 ^ 32 → ∀ index
    (inside : index < permuted.length), leading ≤ index →
      delayOf permuted[index].blessVoteAddr =
        some ((index - leading + 1) * deltaStage)
  none_iff : ∀ blessVoteAddr, delayOf blessVoteAddr = none ↔
    ∀ voter ∈ voters, voter.blessVoteAddr ≠ blessVoteAddr
  undelayed_reach : threshold.toNat ≤ blessWeight voters →
    threshold.toNat ≤ blessWeight
      (voters.filter fun voter => delayOf voter.blessVoteAddr = some 0)
  undelayed_iff : permuted.length ≤ 2 ^ 32 → ∀ index
    (inside : index < permuted.length),
      delayOf permuted[index].blessVoteAddr = some 0 ↔ index < leading

/-- Each delay is the stage of the voter's own place in the permutation. -/
theorem delayLoop_getElem {threshold : UInt16} {voters : List Voter}
    {leading : Nat} (leads : Leads threshold voters leading)
    (fits : blessWeight voters < 2 ^ 16)
    (distinct : (voters.map Voter.blessVoteAddr).Nodup) {index : Nat}
    (inside : index < voters.length) :
    delayLoop voters[index].blessVoteAddr threshold 0 0 voters =
      some ((index + 1 - leading) % 2 ^ 32 * deltaStage) := by
  rw [delayLoop_start leads fits, findIdx?_own distinct inside]
  rfl

theorem delayLoop_leading {threshold : UInt16} {voters : List Voter}
    {leading : Nat} (leads : Leads threshold voters leading)
    (fits : blessWeight voters < 2 ^ 16)
    (distinct : (voters.map Voter.blessVoteAddr).Nodup) {index : Nat}
    (inside : index < voters.length) (isLeading : index < leading) :
    delayLoop voters[index].blessVoteAddr threshold 0 0 voters = some 0 := by
  have noStage : index + 1 - leading = 0 := by omega
  rw [delayLoop_getElem leads fits distinct inside, noStage]
  rfl

theorem delayLoop_unwrapped {threshold : UInt16} {voters : List Voter}
    {leading : Nat} (leads : Leads threshold voters leading)
    (fits : blessWeight voters < 2 ^ 16)
    (distinct : (voters.map Voter.blessVoteAddr).Nodup)
    (few : voters.length ≤ 2 ^ 32) {index : Nat}
    (inside : index < voters.length) :
    delayLoop voters[index].blessVoteAddr threshold 0 0 voters =
      some ((index + 1 - leading) * deltaStage) := by
  have positive := leads.positive (List.ne_nil_of_length_pos (by omega))
  have noWrap : (index + 1 - leading) % 2 ^ 32 = index + 1 - leading :=
    Nat.mod_eq_of_lt (by omega)
  rw [delayLoop_getElem leads fits distinct inside, noWrap]

theorem delayLoop_eq_zero_iff {threshold : UInt16} {voters : List Voter}
    {leading : Nat} (leads : Leads threshold voters leading)
    (fits : blessWeight voters < 2 ^ 16)
    (distinct : (voters.map Voter.blessVoteAddr).Nodup)
    (few : voters.length ≤ 2 ^ 32) {index : Nat}
    (inside : index < voters.length) :
    delayLoop voters[index].blessVoteAddr threshold 0 0 voters = some 0 ↔
      index < leading := by
  rw [delayLoop_unwrapped leads fits distinct few inside,
    Option.some.injEq, Nat.mul_eq_zero]
  constructor
  · intro zero
    rcases zero with zero | zero
    · omega
    · cases zero
  · intro isLeading
    left
    omega

theorem delayLoop_eq_none_iff {threshold : UInt16} {voters : List Voter}
    {leading : Nat} (leads : Leads threshold voters leading)
    (fits : blessWeight voters < 2 ^ 16) {blessVoteAddr : Address} :
    delayLoop blessVoteAddr threshold 0 0 voters = none ↔
      ∀ voter ∈ voters, voter.blessVoteAddr ≠ blessVoteAddr := by
  rw [delayLoop_start leads fits, Option.map_eq_none_iff,
    List.findIdx?_eq_none_iff]
  simp

/-- The undelayed voters weigh at least as much as the leading ones. -/
theorem blessWeight_leading_le {threshold : UInt16} {voters : List Voter}
    {leading : Nat} (leads : Leads threshold voters leading)
    (fits : blessWeight voters < 2 ^ 16)
    (distinct : (voters.map Voter.blessVoteAddr).Nodup) :
    blessWeight (voters.take leading) ≤
      blessWeight (voters.filter fun voter =>
        delayLoop voter.blessVoteAddr threshold 0 0 voters = some 0) := by
  apply blessWeight_sublist
  have kept : (voters.take leading).filter (fun voter =>
      delayLoop voter.blessVoteAddr threshold 0 0 voters = some 0) =
        voters.take leading := by
    rw [List.filter_eq_self]
    intro voter member
    obtain ⟨index, inside, isVoter⟩ := List.getElem_of_mem member
    rw [List.length_take] at inside
    rw [List.getElem_take] at isVoter
    rw [← isVoter, decide_eq_true_eq]
    exact delayLoop_leading leads fits distinct (by omega) (by omega)
  rw [← kept]
  exact (List.take_sublist leading voters).filter _

/-- The delays of all voters, each computed by its own node. -/
theorem staged_delays (shuffle : Shuffle Voter)
    (shuffles : ∀ seed things, (shuffle seed things).Perm things)
    (config : OnchainConfig)
    (distinct : (config.voters.toList.map Voter.blessVoteAddr).Nodup)
    (fits : blessWeight config.voters.toList < 2 ^ 16) (seed : UInt64) :
    let permuted := permute shuffle config.voters.toList seed
    StagedDelays
      (fun blessVoteAddr => delayWithSeed shuffle blessVoteAddr config seed)
      config.blessWeightThreshold config.voters.toList permuted
      (leadingVoters config.blessWeightThreshold permuted) := by
  intro permuted
  have permutation : permuted.Perm config.voters.toList := shuffles _ _
  have leads := leadingVoters_leads config.blessWeightThreshold permuted
  have sameWeight := blessWeight_perm permutation
  have permutedFits : blessWeight permuted < 2 ^ 16 := by
    rw [sameWeight]
    exact fits
  have permutedDistinct : (permuted.map Voter.blessVoteAddr).Nodup :=
    (permutation.map _).nodup_iff.mpr distinct
  constructor
  · exact leads
  · intro index inside isLeading
    exact delayLoop_leading leads permutedFits permutedDistinct inside
      isLeading
  · intro index inside isLater
    rw [← Nat.sub_add_comm isLater]
    exact delayLoop_getElem leads permutedFits permutedDistinct inside
  · intro few index inside isLater
    rw [← Nat.sub_add_comm isLater]
    exact delayLoop_unwrapped leads permutedFits permutedDistinct few inside
  · intro blessVoteAddr
    rw [delayWithSeed]
    simp only [← permutation.mem_iff]
    exact delayLoop_eq_none_iff leads permutedFits
  · intro reached
    rw [← blessWeight_perm (permutation.filter _)]
    refine Nat.le_trans ?_
      (blessWeight_leading_le leads permutedFits permutedDistinct)
    rcases leads.reaches with reaches | all
    · exact reaches
    · rw [all, List.take_length, sameWeight]
      exact reached
  · intro few index inside
    exact delayLoop_eq_zero_iff leads permutedFits permutedDistinct few inside

/-- Four voters, two of which reach the threshold. -/
def fourVoters : OnchainConfig where
  voters := ⟨[1, 2, 3, 4].map fun number =>
      ⟨.replicate 20 number, .replicate 20 2, .replicate 20 3, 1, 1⟩,
    by decide⟩
  blessWeightThreshold := 2
  curseWeightThreshold := 1

/-- The voters are rotated by the seed. -/
def rotation : Shuffle Voter := fun seed things => things.rotate seed.toNat

/-- Rotated by one, the second and third voter vote at once, the fourth a
stage later and the first two stages later. -/
theorem staged_delays_fourVoters :
    StagedDelays
        (fun blessVoteAddr => delayWithSeed rotation blessVoteAddr fourVoters 1)
        2 fourVoters.voters.toList (fourVoters.voters.toList.rotate 1)
        (leadingVoters 2 (fourVoters.voters.toList.rotate 1)) ∧
      (fourVoters.voters.toList.map fun voter =>
        delayWithSeed rotation voter.blessVoteAddr fourVoters 1) =
          [some (2 * deltaStage), some 0, some 0, some deltaStage] :=
  ⟨staged_delays rotation (fun seed things => things.rotate_perm seed.toNat)
      fourVoters (by decide) (by decide) 1,
    by decide⟩

end RiskManagement
