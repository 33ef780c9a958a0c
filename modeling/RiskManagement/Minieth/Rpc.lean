import RiskManagement.Library.LinkedChain
import RiskManagement.Minieth.Bytes

/-!
# Blocks, logs and the block RPC

The data an Ethereum node answers with, and the interface the chain status
updaters ask it through.
-/

namespace RiskManagement

/-- What the node keeps of a block. -/
structure Block where
  number : UInt64
  hash : Bytes32
  parentHash : Bytes32
  timestamp : UInt64
deriving DecidableEq

/-- Blocks read as nodes linked by parent hash, `number` being the height. -/
def Block.view : NodeView Block Bytes32 where
  hash := Block.hash
  parentHash := Block.parentHash
  height := fun block => block.number.toNat

/-- What the node keeps of a log. -/
structure EVMLog where
  logIndex : UInt64
  address : Address
  data : Bytes
  topics : List Bytes32
  blockHash : Bytes32
  blockNumber : UInt64
deriving DecidableEq

/-- How a block is asked for. -/
inductive BlockIdentifier where
  | height (number : UInt64)
  | hash (hash : Bytes32)
  | latest
  | earliest
  | safe
  | finalized
  | pending
deriving DecidableEq

/-- The wrapped JSON-RPC, serde and node errors are kept as their text. -/
inductive RpcError where
  | internalError (detail : String)
  | serdeJsonError (detail : String)
  | invalidInput (detail : String)
  | errorResponse (detail : String)
  | notFound
  | unexpectedChainId (expected actual : UInt64)
deriving DecidableEq

/-- The answers a node gives to one update.  An identifier that an update asks
for again gets the same answer; when the blocks form a tree, none is. -/
structure BlockRpc where
  getBlock : BlockIdentifier → Except RpcError Block
  getBlocks : List BlockIdentifier →
    Except RpcError (List (Except RpcError Block))

/-- Every block the node answers with is in `served`, and a block fetched by
hash has that hash. -/
structure BlockRpc.Serves (rpc : BlockRpc) (served : Block → Prop) : Prop where
  getBlock_served : ∀ identifier block,
    rpc.getBlock identifier = .ok block → served block
  getBlock_hash : ∀ hash block,
    rpc.getBlock (.hash hash) = .ok block → block.hash = hash
  getBlocks_served : ∀ identifiers blocks block,
    rpc.getBlocks identifiers = .ok blocks → .ok block ∈ blocks → served block

end RiskManagement
