import RiskManagement.Library.HashInputs

/-!
# Trees built level by level from paired nodes

A level is cut into adjacent pairs, an odd last node is paired with a padding
value, and every pair may be put in an order of its own before it is combined.
The combined values form the next level.
-/

namespace PairedLevels

variable {α : Type}

/-! ### Lists of pairs -/

/-- Both components of every pair. -/
def entries (pairs : List (α × α)) : List α :=
  pairs.flatMap fun pair => [pair.1, pair.2]

theorem entries_perm {left right : List (α × α)} (perm : left.Perm right) :
    (entries left).Perm (entries right) :=
  perm.flatMap_right _

/-! ### One level -/

section Level

variable (order : α → α → α × α) (padding : α)

/-- The ordered pairs of a level. -/
def pairUp : List α → List (α × α)
  | [] => []
  | [last] => [order last padding]
  | first :: second :: rest => order first second :: pairUp rest

/-- The next level. -/
def levelUp (combine : α × α → α) (level : List α) : List α :=
  (pairUp order padding level).map combine

theorem length_pairUp (level : List α) :
    (pairUp order padding level).length = (level.length + 1) / 2 := by
  induction level using pairUp.induct with
  | case1 => simp [pairUp]
  | case2 last => simp [pairUp]
  | case3 first second rest induction =>
      simp only [pairUp, List.length_cons, induction]
      omega

theorem length_levelUp (combine : α × α → α) (level : List α) :
    (levelUp order padding combine level).length =
      (level.length + 1) / 2 := by
  rw [levelUp]
  rw [List.length_map, length_pairUp]

theorem pairUp_append {front : List α} (even : front.length % 2 = 0)
    (back : List α) :
    pairUp order padding (front ++ back) =
      pairUp order padding front ++ pairUp order padding back := by
  induction front using pairUp.induct with
  | case1 => simp [pairUp]
  | case2 last => simp at even
  | case3 first second rest induction =>
      have restEven : rest.length % 2 = 0 := by
        rw [List.length_cons, List.length_cons] at even
        omega
      simp [pairUp, induction restEven]

theorem levelUp_append (combine : α × α → α) {front : List α}
    (even : front.length % 2 = 0) (back : List α) :
    levelUp order padding combine (front ++ back) =
      levelUp order padding combine front ++
        levelUp order padding combine back := by
  rw [levelUp, pairUp_append order padding even, List.map_append]
  rfl

/-- The padding a level of this length gets. -/
def paddingFor (length : Nat) : List α :=
  if length % 2 = 1 then [padding] else []

theorem paddingFor_add_two (length : Nat) :
    paddingFor padding (length + 2) = paddingFor padding length := by
  simp [paddingFor]

/-- Putting a pair in order keeps its two components. -/
def KeepsEntries : Prop :=
  ∀ first second,
    [(order first second).1, (order first second).2].Perm [first, second]

variable {order}

/-- The pairs of a level hold its nodes and its padding, in some order. -/
theorem entries_pairUp (keeps : KeepsEntries order) (level : List α) :
    (entries (pairUp order padding level)).Perm
      (level ++ paddingFor padding level.length) := by
  induction level using pairUp.induct with
  | case1 => exact .nil
  | case2 last =>
      simpa [pairUp, entries, paddingFor] using keeps last padding
  | case3 first second rest induction =>
      simp only [List.length_cons, paddingFor_add_two]
      exact (keeps first second).append induction

/-- Equal pairs come from equal levels, up to the order of the nodes. -/
theorem perm_of_pairUp_perm (keeps : KeepsEntries order)
    {left right : List α} (sameLength : left.length = right.length)
    (perm : (pairUp order padding left).Perm (pairUp order padding right)) :
    left.Perm right := by
  have padded : (left ++ paddingFor padding left.length).Perm
      (right ++ paddingFor padding right.length) :=
    ((entries_pairUp padding keeps left).symm.trans
      (entries_perm perm)).trans (entries_pairUp padding keeps right)
  rw [sameLength] at padded
  exact (List.perm_append_right_iff _).mp padded

end Level

/-! ### The whole tree -/

/-- The computation from a level to its single root, with the pairs that it
combines on the way. -/
inductive Builds (order : α → α → α × α) (padding : α)
    (combine : α × α → α) : List α → List (α × α) → α → Prop where
  | root (node : α) : Builds order padding combine [node] [] node
  | level {nodes : List α} {above : List (α × α)} {root : α} :
      1 < nodes.length →
      Builds order padding combine (levelUp order padding combine nodes)
        above root →
      Builds order padding combine nodes
        (pairUp order padding nodes ++ above) root

theorem Builds.root_unique {order : α → α → α × α} {padding : α}
    {combine : α × α → α} {nodes : List α} {left right : List (α × α)}
    {leftRoot rightRoot : α}
    (leftBuilds : Builds order padding combine nodes left leftRoot)
    (rightBuilds : Builds order padding combine nodes right rightRoot) :
    leftRoot = rightRoot := by
  induction leftBuilds generalizing right with
  | root node =>
      cases rightBuilds with
      | root => rfl
      | level long _ => simp at long
  | level long _ induction =>
      cases rightBuilds with
      | root node => simp at long
      | level _ rightAbove => exact induction rightAbove

/-- Equal roots of equally long levels have equal nodes below them, up to
order, or the two computations combine two different pairs to one value. -/
theorem Builds.perm_or_collision [DecidableEq α]
    {order : α → α → α × α} {padding : α} {combine : α × α → α}
    (keeps : KeepsEntries order) {left right : List α}
    {leftPairs rightPairs : List (α × α)} {root : α}
    (leftBuilds : Builds order padding combine left leftPairs root)
    (rightBuilds : Builds order padding combine right rightPairs root)
    (sameLength : left.length = right.length) :
    left.Perm right ∨
      HashInputs.Collision combine (leftPairs ++ rightPairs) := by
  induction leftBuilds generalizing right rightPairs with
  | root node =>
      cases rightBuilds with
      | root => exact .inl (.refl _)
      | level long => simp at sameLength; omega
  | @level nodes above root long leftAbove induction =>
      cases rightBuilds with
      | root => simp at sameLength; omega
      | @level _ rightPairsAbove _ _ rightAbove =>
          have sameAbove :
              (levelUp order padding combine nodes).length =
                (levelUp order padding combine right).length := by
            rw [length_levelUp, length_levelUp, sameLength]
          rcases induction rightAbove sameAbove with perm | collision
          · rcases HashInputs.perm_or_collision perm with
              pairs | collision
            · exact .inl (perm_of_pairUp_perm padding keeps sameLength pairs)
            · apply Or.inr
              apply collision.mono
              intro pair member
              simp only [List.mem_append] at member ⊢
              tauto
          · apply Or.inr
            apply collision.mono
            intro pair member
            simp only [List.mem_append] at member ⊢
            tauto

end PairedLevels
