import RiskManagement.Afn.ChainStatus

/-!
# The two chain status updaters

Both updaters walk back from a fresh block by parent hash until they meet the
old tail, extend the result with blocks of the old tail and trim it.  They
share the walk and the extension; each has its own starting block, its own
stopping rules and its own trimming loop.

A deque is a list whose head is the front.  The walk runs on fuel, since the
answers of a node need not make it terminate; `outOfFuel` is the loop that is
still running.
-/

namespace RiskManagement

/-- Every way in which an updater fails. -/
inductive UpdateError where
  | shutdown
  | rpc (error : RpcError)
  | wrongBlockCount (expected : Nat) (got : List Block)
  | tail (error : TailError)
  | unwrapNone
  | outOfFuel
deriving DecidableEq

/-- How the walk back ends, with the deque at that moment. -/
inductive WalkBack where
  | joined (head : Block) (rest : List Block)
  | finalityViolated (newTail : List Block)
  | rewound (newTail : List Block)
deriving DecidableEq

/-- The blocks that a walk has collected, whatever ended it. -/
def WalkBack.newTail : WalkBack → List Block
  | .joined head rest => head :: rest
  | .finalityViolated newTail => newTail
  | .rewound newTail => newTail

/-- The `loop` both updates share.  `parentOf` fetches a block by its hash,
`conflicts` is the extra exit of the finality tag update, and `isDone` answers
`ctx.is_done()` in the iteration that has already pushed that many blocks. -/
def walkBack (parentOf : Bytes32 → Except RpcError Block)
    (conflicts : Block → Bool) (isDone : Nat → Bool) (tail : Tail) :
    Nat → Block → List Block → Except UpdateError WalkBack
  | 0, _, _ => .error .outOfFuel
  | fuel + 1, newTailHead, rest =>
      if isDone rest.length then
        .error .shutdown
      else if tail.contains newTailHead then
        .ok (.joined newTailHead rest)
      else if newTailHead.number = tail.stableTip.number then
        .ok (.finalityViolated (newTailHead :: rest))
      else if conflicts newTailHead then
        .ok (.finalityViolated (newTailHead :: rest))
      else if newTailHead.number < tail.stableTip.number then
        .ok (.rewound (newTailHead :: rest))
      else
        match parentOf newTailHead.parentHash with
        | .error error => .error (.rpc error)
        | .ok parent =>
            walkBack parentOf conflicts isDone tail fuel parent
              (newTailHead :: rest)

/-- `front.number.checked_sub(1).and_then(|n| tail.block_by_number(n))`. -/
def Tail.predecessor (tail : Tail) (front : Block) : Option Block :=
  (Word64.checkedSub front.number 1).bind tail.blockByNumber

theorem Tail.predecessor_eq_some_iff {tail : Tail} {front predecessor : Block} :
    tail.predecessor front = some predecessor ↔
      predecessor ∈ tail.blocks ∧
        predecessor.number.toNat + 1 = front.number.toNat := by
  rw [Tail.predecessor]
  rw [Option.bind_eq_some_iff]
  constructor
  · rintro ⟨number, subtracted, found⟩
    obtain ⟨member, rfl⟩ := Tail.blockByNumber_eq_some_iff.mp found
    exact ⟨member, Word64.checkedSub_one_eq_some_iff.mp subtracted⟩
  · rintro ⟨member, consecutive⟩
    exact ⟨predecessor.number,
      Word64.checkedSub_one_eq_some_iff.mpr consecutive,
      Tail.blockByNumber_eq_some_iff.mpr ⟨member, rfl⟩⟩

/-- The loop that pushes predecessors of the old tail while `wanted` holds. -/
def extendFromTail (wanted : Block → List Block → Bool) (tail : Tail)
    (front : Block) (rest : List Block) : List Block :=
  if wanted front rest then
    match _found : tail.predecessor front with
    | some predecessor =>
        extendFromTail wanted tail predecessor (front :: rest)
    | none => front :: rest
  else
    front :: rest
termination_by front.number.toNat
decreasing_by
  have consecutive := (Tail.predecessor_eq_some_iff.mp _found).2
  omega

/-- `while new_tail.len() > len { new_tail.pop_front(); }`. -/
def popFrontLongerThan (len : Nat) : List Block → List Block
  | [] => []
  | front :: rest =>
      if (front :: rest).length > len then
        popFrontLongerThan len rest
      else
        front :: rest

/-- `while new_tail.front().unwrap().number < number { new_tail.pop_front(); }`;
`none` is the panic of `unwrap` on an emptied deque. -/
def popFrontBelow (number : UInt64) : List Block → Option (List Block)
  | [] => none
  | front :: rest =>
      if front.number < number then
        popFrontBelow number rest
      else
        some (front :: rest)

/-- What an update holds before its last `Tail::new`: a status it returns at
once, or the trimmed deque. -/
inductive Rebuilt where
  | returned (status : ChainStatus)
  | deque (newTail : List Block)
deriving DecidableEq

/-- The end of an update: the rebuilt deque must pass `Tail::new`. -/
def Rebuilt.finish : Rebuilt → Except UpdateError ChainStatus
  | .returned status => .ok status
  | .deque newTail =>
      match Tail.new newTail with
      | .error error => .error (.tail error)
      | .ok tail => .ok (.good tail)

/-- An update from its starting block on: walk back, then hand a joined deque
to the updater's own loops.  `none` from these is the panic of `unwrap`. -/
def rebuildFrom (parentOf : Bytes32 → Except RpcError Block)
    (conflicts : Block → Bool)
    (afterJoin : Tail → Block → List Block → Option (List Block))
    (isDone : Nat → Bool) (fuel : Nat) (tail : Tail) (start : Block) :
    Except UpdateError Rebuilt := do
  match ← walkBack parentOf conflicts isDone tail fuel start [] with
  | .finalityViolated _ => return .returned .finalityViolated
  | .rewound _ => return .returned (.good tail)
  | .joined front rest =>
      match afterJoin tail front rest with
      | none => .error .unwrapNone
      | some newTail => return .deque newTail

def liftRpc {α : Type} : Except RpcError α → Except UpdateError α
  | .error error => .error (.rpc error)
  | .ok value => .ok value

/-- The counts are `usize` values read from integers of a TOML file, so below
`2 ^ 63`: adding them or adding one does not overflow. -/
structure ConfirmationDepthChainStatusUpdater where
  softConfirmations : Nat
  hardConfirmations : Nat
deriving DecidableEq

namespace ConfirmationDepthChainStatusUpdater

/-- The height is `latest.number.saturating_sub(confirmations)`. -/
def getBlockWithConfirmations (rpc : BlockRpc) (confirmations : Nat) :
    Except RpcError Block :=
  match rpc.getBlock .latest with
  | .error error => .error error
  | .ok latest =>
      rpc.getBlock (.height (.ofNat (latest.number.toNat - confirmations)))

/-- A tail of one block that is buried deep enough. -/
def initial (self : ConfirmationDepthChainStatusUpdater) (rpc : BlockRpc) :
    Except UpdateError ChainStatus := do
  let block ← liftRpc (getBlockWithConfirmations rpc
    (self.hardConfirmations + self.softConfirmations))
  Rebuilt.finish (.deque [block])

/-- The two loops after the walk: extend to, then trim to, the full depth. -/
def afterJoin (self : ConfirmationDepthChainStatusUpdater)
    (tail : Tail) (front : Block) (rest : List Block) : Option (List Block) :=
  some (popFrontLongerThan (self.hardConfirmations + 1)
    (extendFromTail
      (fun front rest =>
        decide ((front :: rest).length < self.hardConfirmations + 1))
      tail front rest))

/-- The walk starts `softConfirmations` below the latest block. -/
def rebuild (self : ConfirmationDepthChainStatusUpdater) (rpc : BlockRpc)
    (isDone : Nat → Bool) (fuel : Nat) (tail : Tail) :
    Except UpdateError Rebuilt := do
  let start ← liftRpc (getBlockWithConfirmations rpc self.softConfirmations)
  rebuildFrom (fun hash => rpc.getBlock (.hash hash)) (fun _ => false)
    self.afterJoin isDone fuel tail start

/-- A violation stays a violation. -/
def update (self : ConfirmationDepthChainStatusUpdater) (rpc : BlockRpc)
    (isDone : Nat → Bool) (fuel : Nat) :
    ChainStatus → Except UpdateError ChainStatus
  | .finalityViolated => .ok .finalityViolated
  | .good tail => self.rebuild rpc isDone fuel tail >>= Rebuilt.finish

end ConfirmationDepthChainStatusUpdater

namespace FinalityTagChainStatusUpdater

/-- The by-height block cache: the blocks of a range that exist, in order. -/
def blockCache (rpc : BlockRpc) (first last : UInt64) :
    Except RpcError (List Block) :=
  if last < first then
    .ok []
  else
    match rpc.getBlocks
        ((List.range' first.toNat (last.toNat - first.toNat + 1)).map
          fun number => .height (.ofNat number)) with
    | .error error => .error error
    | .ok blks => .ok (blks.filterMap Except.toOption)

/-- The cache is collected into a map from hash to block, where a later block
replaces an earlier one of the same hash. -/
def cacheGet (cache : List Block) (hash : Bytes32) : Option Block :=
  cache.reverse.find? fun block => block.hash = hash

/-- `get_blocks_that_must_exist` at `N = 2`: the first error of the two wins,
and a node that answers with another number of blocks is an error too. -/
def getBlocksThatMustExist (rpc : BlockRpc)
    (first second : BlockIdentifier) : Except UpdateError (Block × Block) := do
  let results ← liftRpc (rpc.getBlocks [first, second])
  match ← liftRpc (results.mapM id) with
  | [firstBlock, secondBlock] => return (firstBlock, secondBlock)
  | blocks => .error (.wrongBlockCount 2 blocks)

/-- A finalized block above the latest one replaces it. -/
def finalizedAndLatest (rpc : BlockRpc) :
    Except UpdateError (Block × Block) := do
  let (rpcFinalized, rpcLatest) ←
    getBlocksThatMustExist rpc .finalized .latest
  if rpcFinalized.number ≤ rpcLatest.number then
    return (rpcFinalized, rpcLatest)
  else
    return (rpcFinalized, rpcFinalized)

/-- A tail of the finalized block alone. -/
def initial (rpc : BlockRpc) : Except UpdateError ChainStatus := do
  let finalized ← liftRpc (rpc.getBlock .finalized)
  Rebuilt.finish (.deque [finalized])

/-- Another block at the height of the finalized one. -/
def conflictsWith (finalized head : Block) : Bool :=
  head.number = finalized.number ∧ head.hash ≠ finalized.hash

/-- A cached block is used before the node is asked. -/
def parentFromCache (cache : List Block) (rpc : BlockRpc) (hash : Bytes32) :
    Except RpcError Block :=
  match cacheGet cache hash with
  | some block => .ok block
  | none => rpc.getBlock (.hash hash)

/-- The two loops after the walk: extend down to, then trim up to, the number
of the finalized block. -/
def afterJoin (finalized : Block) (tail : Tail) (front : Block)
    (rest : List Block) : Option (List Block) :=
  popFrontBelow finalized.number
    (extendFromTail
      (fun front _ => decide (finalized.number < front.number))
      tail front rest)

/-- A cache that could not be built is replaced by an empty one. -/
def cacheOrEmpty (rpc : BlockRpc) (first last : UInt64) : List Block :=
  match blockCache rpc first last with
  | .ok cache => cache
  | .error _ => []

/-- The walk starts at the latest block and may find its parents in the cache.
-/
def rebuild (rpc : BlockRpc) (isDone : Nat → Bool) (fuel : Nat)
    (tail : Tail) : Except UpdateError Rebuilt := do
  let (finalized, latest) ← finalizedAndLatest rpc
  let cache := cacheOrEmpty rpc tail.tip.number latest.number
  rebuildFrom (parentFromCache cache rpc) (conflictsWith finalized)
    (afterJoin finalized) isDone fuel tail latest

/-- A violation stays a violation. -/
def update (rpc : BlockRpc) (isDone : Nat → Bool) (fuel : Nat) :
    ChainStatus → Except UpdateError ChainStatus
  | .finalityViolated => .ok .finalityViolated
  | .good tail => rebuild rpc isDone fuel tail >>= Rebuilt.finish

end FinalityTagChainStatusUpdater

/-- The two implementations of the `ChainStatusUpdater` trait. -/
inductive ChainStatusUpdater where
  | confirmationDepth (updater : ConfirmationDepthChainStatusUpdater)
  | finalityTag
deriving DecidableEq

namespace ChainStatusUpdater

def initial (rpc : BlockRpc) :
    ChainStatusUpdater → Except UpdateError ChainStatus
  | .confirmationDepth updater => updater.initial rpc
  | .finalityTag => FinalityTagChainStatusUpdater.initial rpc

def rebuild (rpc : BlockRpc) (isDone : Nat → Bool) (fuel : Nat)
    (tail : Tail) : ChainStatusUpdater → Except UpdateError Rebuilt
  | .confirmationDepth updater => updater.rebuild rpc isDone fuel tail
  | .finalityTag =>
      FinalityTagChainStatusUpdater.rebuild rpc isDone fuel tail

def update (rpc : BlockRpc) (isDone : Nat → Bool) (fuel : Nat)
    (status : ChainStatus) :
    ChainStatusUpdater → Except UpdateError ChainStatus
  | .confirmationDepth updater => updater.update rpc isDone fuel status
  | .finalityTag =>
      FinalityTagChainStatusUpdater.update rpc isDone fuel status

theorem update_finalityViolated (updater : ChainStatusUpdater)
    (rpc : BlockRpc) (isDone : Nat → Bool) (fuel : Nat) :
    updater.update rpc isDone fuel .finalityViolated =
      .ok .finalityViolated := by
  cases updater <;> rfl

theorem update_good (updater : ChainStatusUpdater)
    (rpc : BlockRpc) (isDone : Nat → Bool) (fuel : Nat) (tail : Tail) :
    updater.update rpc isDone fuel (.good tail) =
      updater.rebuild rpc isDone fuel tail >>= Rebuilt.finish := by
  cases updater <;> rfl

end ChainStatusUpdater

end RiskManagement
