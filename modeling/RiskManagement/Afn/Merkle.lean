import RiskManagement.Library.PairedLevels
import RiskManagement.Minieth.Keccak

/-!
# The Merkle root of a committed interval

`root_from_hashed_leafs` works on one deque: a level's nodes are popped from
the front and the next level's are pushed to the back.  The ghost field
`hashedPairs` keeps the sorted pairs that were hashed.
-/

namespace RiskManagement

def leafDomainSeparator : Bytes32 := .replicate 32 0

def internalNodeDomainSeparator : Bytes32 :=
  ⟨List.replicate 31 0 ++ [1], by decide⟩

def zeroHash : Bytes32 := .replicate 32 0xff

/-- An inner node is hashed behind its domain separator. -/
def hashNode (keccak : Keccak) (left right : Bytes32) : Bytes32 :=
  keccak (internalNodeDomainSeparator.data ++ left.data ++ right.data)

/-- The pair in the order in which it is hashed. -/
def sortPair (a b : Bytes32) : Bytes32 × Bytes32 :=
  if a < b then (a, b) else (b, a)

/-- The variables of the two loops. -/
structure MerkleState where
  level : List Bytes32
  pops : Nat
  hashedPairs : List (Bytes32 × Bytes32)
deriving DecidableEq

namespace MerkleState

/-- `level.pop_front().unwrap()` with its count; `none` is the panic. -/
def popFront (self : MerkleState) : Option (Bytes32 × MerkleState) :=
  match self.level with
  | [] => none
  | node :: level =>
      some (node, { self with level := level, pops := self.pops + 1 })

/-- The node above two nodes is pushed behind the level. -/
def pushHash (hash : Bytes32 × Bytes32 → Bytes32) (a b : Bytes32)
    (self : MerkleState) : MerkleState :=
  { self with
    level := self.level ++ [hash (sortPair a b)]
    hashedPairs := self.hashedPairs ++ [sortPair a b] }

/-- One turn of the inner loop. -/
def hashPair (hash : Bytes32 × Bytes32 → Bytes32) (len : Nat)
    (self : MerkleState) : Option MerkleState := do
  let (a, self) ← self.popFront
  if self.pops ≠ len then
    let (b, self) ← self.popFront
    return self.pushHash hash a b
  else
    return self.pushHash hash a zeroHash

theorem popFront_pops {self next : MerkleState} {node : Bytes32}
    (popped : self.popFront = some (node, next)) :
    next.pops = self.pops + 1 := by
  rw [popFront] at popped
  split at popped
  · cases popped
  · cases popped
    rfl

theorem hashPair_pops_lt {hash : Bytes32 × Bytes32 → Bytes32} {len : Nat}
    {self next : MerkleState} (turn : self.hashPair hash len = some next) :
    self.pops < next.pops := by
  simp only [hashPair, bind, pure, Option.bind_eq_some_iff] at turn
  obtain ⟨⟨a, afterA⟩, popA, turn⟩ := turn
  have one : afterA.pops = self.pops + 1 := popFront_pops popA
  split at turn
  · obtain ⟨⟨b, afterB⟩, popB, turn⟩ := Option.bind_eq_some_iff.mp turn
    have two : afterB.pops = afterA.pops + 1 := popFront_pops popB
    cases turn
    change self.pops < afterB.pops
    omega
  · cases turn
    change self.pops < afterA.pops
    omega

/-- The inner loop. -/
def hashLevel (hash : Bytes32 × Bytes32 → Bytes32) (len : Nat)
    (self : MerkleState) : Option MerkleState :=
  if self.pops < len then
    match _turn : self.hashPair hash len with
    | none => none
    | some next => next.hashLevel hash len
  else
    some self
termination_by len - self.pops
decreasing_by
  have := hashPair_pops_lt _turn
  omega

/-! ### One pass over a level -/

section Pass

variable (hash : Bytes32 × Bytes32 → Bytes32)

theorem hashPair_two (len pops : Nat) (a b : Bytes32)
    (rest : List Bytes32) (pairs : List (Bytes32 × Bytes32))
    (more : pops + 1 ≠ len) :
    hashPair hash len ⟨a :: b :: rest, pops, pairs⟩ =
      some ⟨rest ++ [hash (sortPair a b)], pops + 2,
        pairs ++ [sortPair a b]⟩ := by
  simp [hashPair, popFront, pushHash, more]

theorem hashPair_last (len pops : Nat) (a : Bytes32)
    (rest : List Bytes32) (pairs : List (Bytes32 × Bytes32))
    (last : pops + 1 = len) :
    hashPair hash len ⟨a :: rest, pops, pairs⟩ =
      some ⟨rest ++ [hash (sortPair a zeroHash)], pops + 1,
        pairs ++ [sortPair a zeroHash]⟩ := by
  simp [hashPair, popFront, pushHash, last]

theorem hashLevel_turn {len : Nat} {self next : MerkleState}
    (more : self.pops < len) (turn : self.hashPair hash len = some next) :
    self.hashLevel hash len = next.hashLevel hash len := by
  rw [hashLevel, if_pos more]
  split
  · rename_i failed
    rw [turn] at failed
    cases failed
  · rename_i other found
    rw [turn] at found
    cases found
    rfl

/-- The nodes still to pop are replaced by the next level, behind the nodes
pushed before. -/
theorem hashLevel_eq (old new : List Bytes32) (pops : Nat)
    (pairs : List (Bytes32 × Bytes32)) :
    hashLevel hash (pops + old.length) ⟨old ++ new, pops, pairs⟩ =
      some ⟨new ++ PairedLevels.levelUp sortPair zeroHash hash old,
        pops + old.length,
        pairs ++ PairedLevels.pairUp sortPair zeroHash old⟩ := by
  induction old using PairedLevels.pairUp.induct
    generalizing new pops pairs with
  | case1 =>
      rw [hashLevel]
      simp [PairedLevels.levelUp, PairedLevels.pairUp]
  | case2 last =>
      have turn := hashPair_last hash (pops + 1) pops last new pairs rfl
      rw [List.length_singleton, List.singleton_append,
        hashLevel_turn hash (by simp) turn, hashLevel]
      simp [PairedLevels.levelUp, PairedLevels.pairUp]
  | case3 first second rest induction =>
      have length : pops + (first :: second :: rest).length =
          pops + 2 + rest.length := by
        simp only [List.length_cons]
        omega
      have turn := hashPair_two hash (pops + 2 + rest.length) pops first
        second (rest ++ new) pairs (by omega)
      rw [length, List.cons_append, List.cons_append,
        hashLevel_turn hash (by simp; omega) turn, List.append_assoc,
        induction]
      simp [PairedLevels.levelUp, PairedLevels.pairUp]

/-- `pops = 0` and the inner loop over the current level. -/
def hashWholeLevel (self : MerkleState) : Option MerkleState :=
  { self with pops := 0 }.hashLevel hash self.level.length

theorem hashWholeLevel_eq (self : MerkleState) :
    self.hashWholeLevel hash = some
      ⟨PairedLevels.levelUp sortPair zeroHash hash self.level,
        self.level.length, self.hashedPairs ++
          PairedLevels.pairUp sortPair zeroHash self.level⟩ := by
  have pass := hashLevel_eq hash self.level [] 0 self.hashedPairs
  simpa [hashWholeLevel] using pass

end Pass

/-- The outer loop. -/
def hashLevels (hash : Bytes32 × Bytes32 → Bytes32) (self : MerkleState) :
    Option MerkleState :=
  if 1 < self.level.length then
    match _pass : self.hashWholeLevel hash with
    | none => none
    | some next => next.hashLevels hash
  else
    some self
termination_by self.level.length
decreasing_by
  rw [hashWholeLevel_eq] at _pass
  cases _pass
  rw [PairedLevels.length_levelUp]
  omega

theorem hashLevels_builds (hash : Bytes32 × Bytes32 → Bytes32)
    (self : MerkleState) (nonempty : self.level ≠ []) :
    ∃ final root pairs,
      self.hashLevels hash = some final ∧ final.level = [root] ∧
        final.hashedPairs = self.hashedPairs ++ pairs ∧
        PairedLevels.Builds sortPair zeroHash hash self.level pairs root := by
  induction length : self.level.length using Nat.strong_induction_on
    generalizing self with
  | _ _ induction =>
      subst length
      rw [hashLevels]
      by_cases long : 1 < self.level.length
      · rw [if_pos long]
        have pass := self.hashWholeLevel_eq hash
        split
        · rename_i failed
          rw [pass] at failed
          cases failed
        · rename_i next found
          rw [pass] at found
          cases found
          have halved := PairedLevels.length_levelUp sortPair zeroHash hash
            self.level
          have shorter : (PairedLevels.levelUp sortPair zeroHash hash
              self.level).length < self.level.length := by omega
          have stillNonempty : PairedLevels.levelUp sortPair zeroHash hash
              self.level ≠ [] := by
            apply List.ne_nil_of_length_pos
            omega
          obtain ⟨final, root, pairs, run, single, logged, builds⟩ :=
            induction _ shorter ⟨_, _, _⟩ stillNonempty rfl
          refine ⟨final, root, _, run, single, ?_, .level long builds⟩
          rw [logged, List.append_assoc]
      · rw [if_neg long]
        obtain ⟨root, single⟩ : ∃ root, self.level = [root] := by
          apply List.length_eq_one_iff.mp
          have := List.length_pos_iff.mpr nonempty
          omega
        refine ⟨self, root, [], rfl, single, by simp, ?_⟩
        rw [single]
        exact .root root

end MerkleState

/-- The whole run of the loops. -/
def hashLeafs (hash : Bytes32 × Bytes32 → Bytes32)
    (hashedLeafs : List Bytes32) : Option MerkleState :=
  MerkleState.hashLevels hash ⟨hashedLeafs, 0, []⟩

/-- `none` when there are no leafs. -/
def rootFromHashedLeafs (hash : Bytes32 × Bytes32 → Bytes32)
    (hashedLeafs : List Bytes32) : Option Bytes32 :=
  (hashLeafs hash hashedLeafs).bind fun final => final.level.head?

/-- The sorted pairs that the computation of the root hashes. -/
def hashedPairs (hash : Bytes32 × Bytes32 → Bytes32)
    (hashedLeafs : List Bytes32) : List (Bytes32 × Bytes32) :=
  (hashLeafs hash hashedLeafs).elim [] MerkleState.hashedPairs

theorem rootFromHashedLeafs_builds (hash : Bytes32 × Bytes32 → Bytes32)
    {hashedLeafs : List Bytes32} (nonempty : hashedLeafs ≠ []) :
    ∃ root, rootFromHashedLeafs hash hashedLeafs = some root ∧
      PairedLevels.Builds sortPair zeroHash hash hashedLeafs
        (hashedPairs hash hashedLeafs) root := by
  obtain ⟨final, root, pairs, run, single, logged, builds⟩ :=
    MerkleState.hashLevels_builds hash ⟨hashedLeafs, 0, []⟩ nonempty
  refine ⟨root, ?_, ?_⟩
  · simp [rootFromHashedLeafs, hashLeafs, run, single]
  · have all : hashedPairs hash hashedLeafs = pairs := by
      simpa [hashedPairs, hashLeafs, run] using logged
    rw [all]
    exact builds

theorem sortPair_keepsEntries : PairedLevels.KeepsEntries sortPair := by
  intro a b
  rw [sortPair]
  split
  · exact .refl _
  · exact .swap _ _ _

/-- The root commits to the leafs, up to their order: equal roots of equally
many leafs come from the same leafs, or two different sorted pairs were hashed
to the same value. -/
theorem rootFromHashedLeafs_commits (hash : Bytes32 × Bytes32 → Bytes32)
    {left right : List Bytes32} (sameLength : left.length = right.length)
    (sameRoot : rootFromHashedLeafs hash left =
      rootFromHashedLeafs hash right) :
    left.Perm right ∨
      ∃ first ∈ hashedPairs hash left ++ hashedPairs hash right,
        ∃ second ∈ hashedPairs hash left ++ hashedPairs hash right,
          first ≠ second ∧ hash first = hash second := by
  by_cases empty : left = []
  · subst empty
    rw [List.eq_nil_of_length_eq_zero sameLength.symm]
    exact .inl .nil
  · have rightNonempty : right ≠ [] := by
      intro rightEmpty
      subst rightEmpty
      exact empty (List.eq_nil_of_length_eq_zero sameLength)
    obtain ⟨leftRoot, leftRun, leftBuilds⟩ :=
      rootFromHashedLeafs_builds hash empty
    obtain ⟨rightRoot, rightRun, rightBuilds⟩ :=
      rootFromHashedLeafs_builds hash rightNonempty
    rw [leftRun, rightRun] at sameRoot
    cases sameRoot
    exact leftBuilds.perm_or_collision sortPair_keepsEntries rightBuilds
      sameLength

/-- Two orders of two leafs. -/
theorem rootFromHashedLeafs_commits_swapped :
    [SizedBytes.replicate 32 1, SizedBytes.replicate 32 2].Perm
        [SizedBytes.replicate 32 2, SizedBytes.replicate 32 1] ∨
      ∃ first ∈ hashedPairs Prod.fst
            [.replicate 32 1, .replicate 32 2] ++
          hashedPairs Prod.fst [.replicate 32 2, .replicate 32 1],
        ∃ second ∈ hashedPairs Prod.fst
              [.replicate 32 1, .replicate 32 2] ++
            hashedPairs Prod.fst [.replicate 32 2, .replicate 32 1],
          first ≠ second ∧ first.1 = second.1 :=
  rootFromHashedLeafs_commits Prod.fst rfl (by decide +kernel)

end RiskManagement
