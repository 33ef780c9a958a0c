import RiskManagement.Minieth.Hex
import RiskManagement.Minieth.JsonRpc
import RiskManagement.Minieth.Rpc

/-!
# The Ethereum client

Every request is a batch of calls that ends with one for the chain id.  What
`serde_json` reads out of a value and what `thiserror` makes of an error are
parameters.
-/

namespace RiskManagement

namespace BlockIdentifier

def toText : BlockIdentifier → String
  | .height number => hexNumber number
  | .hash blockHash => Hex.encode blockHash.data
  | .latest => "latest"
  | .earliest => "earliest"
  | .safe => "safe"
  | .finalized => "finalized"
  | .pending => "pending"

def toJson (identifier : BlockIdentifier) : JsonValue :=
  .string identifier.toText

end BlockIdentifier

/-! ### Calls -/

/-- Whole transactions are not asked for. -/
def getBlockCall (identifier : BlockIdentifier) : Call where
  method :=
    match identifier with
    | .hash _ => "eth_getBlockByHash"
    | _ => "eth_getBlockByNumber"
  params := [identifier.toJson, .bool false]

/-- Any of the first topics will do. -/
def getLogsCall (fromBlock toBlock : UInt64) (addresses : List Address)
    (firstTopics : List Bytes32) : Call where
  method := "eth_getLogs"
  params := [.object
    [("fromBlock", BlockIdentifier.toJson (.height fromBlock)),
      ("toBlock", BlockIdentifier.toJson (.height toBlock)),
      ("address", .array (addresses.map fun address =>
        .string (Hex.encode address.data))),
      ("topics", .array [.array (firstTopics.map fun topic =>
        .string (Hex.encode topic.data))])]]

def chainIdCall : Call where
  method := "eth_chainId"
  params := []

/-! ### The client -/

/-- `call` of the `JsonRpcCall` trait, at the moment it is used. -/
abbrev JsonRpcCall :=
  List Call → Except JsonRpcError (List CallResponse)

/-- How values are read and errors are shown. -/
structure RpcSerde where
  block : JsonValue → Except String Block
  logs : JsonValue → Except String (List EVMLog)
  hexU64 : JsonValue → Except String UInt64
  errorText : JsonRpcError → String
  responseText : JsonRpcResponseError → String

/-- A client that only accepts answers of its own chain. -/
structure Rpc where
  chainId : UInt64

namespace Rpc

variable (serde : RpcSerde) (jsonRpc : JsonRpcCall)

def internalError (error : JsonRpcError) : RpcError :=
  .internalError (serde.errorText error)

def errorResponse (error : JsonRpcResponseError) : RpcError :=
  .errorResponse (serde.responseText error)

/-- `parse_get_block_response` and `parse_get_logs_response` up to what they
read. -/
def parseResponse {α : Type} (read : JsonValue → Except String α) :
    CallResponse → Except RpcError α
  | .ok .null => .error .notFound
  | .error error => .error (errorResponse serde error)
  | .ok value =>
      match read value with
      | .error detail => .error (.serdeJsonError detail)
      | .ok result => .ok result

/-- A block that a node does not have is an error. -/
def parseGetBlockResponse : CallResponse → Except RpcError Block :=
  parseResponse serde serde.block

def logOrder (left right : EVMLog) : Bool :=
  left.blockNumber < right.blockNumber ∨
    left.blockNumber = right.blockNumber ∧ left.logIndex ≤ right.logIndex

/-- Logs are sorted by their place in the chain. -/
def parseGetLogsResponse (response : CallResponse) :
    Except RpcError (List EVMLog) :=
  (parseResponse serde serde.logs response).map fun logs =>
    logs.mergeSort logOrder

/-- The chain id is asked for last and taken off the responses again. -/
def batchCall (self : Rpc) (calls : List Call) :
    Except RpcError (List CallResponse) :=
  match jsonRpc (calls ++ [chainIdCall]) with
  | .error error => .error (internalError serde error)
  | .ok batchResponses =>
      match batchResponses.getLast? with
      | none => .error (internalError serde .incompleteBatch)
      | some (.error error) =>
          .error (internalError serde (.errorResponse error))
      | some (.ok chainId) =>
          match serde.hexU64 chainId with
          | .error detail => .error (.serdeJsonError detail)
          | .ok actualChainId =>
              if self.chainId = actualChainId then
                .ok batchResponses.dropLast
              else
                .error (.unexpectedChainId self.chainId actualChainId)

/-- One batch for all blocks. -/
def getBlocks (self : Rpc) (identifiers : List BlockIdentifier) :
    Except RpcError (List (Except RpcError Block)) :=
  (self.batchCall serde jsonRpc (identifiers.map getBlockCall)).map
    (List.map (parseGetBlockResponse serde))

def getBlock (self : Rpc) (identifier : BlockIdentifier) :
    Except RpcError Block :=
  match self.getBlocks serde jsonRpc [identifier] with
  | .error error => .error error
  | .ok blocks =>
      match blocks.getLast? with
      | none => .error (internalError serde .incompleteBatch)
      | some block => block

/-- `none` is the panic of `unwrap` on a batch without responses. -/
def callOne (self : Rpc) (call : Call) : Option (Except RpcError JsonValue) :=
  match self.batchCall serde jsonRpc [call] with
  | .error error => some (.error error)
  | .ok responses =>
      match responses.head? with
      | none => none
      | some (.error error) => some (.error (errorResponse serde error))
      | some (.ok .null) => some (.error .notFound)
      | some (.ok value) => some (.ok value)

/-- Refuses an empty range without asking the node. -/
def getLogs (self : Rpc) (fromBlock toBlock : UInt64)
    (addresses : List Address) (firstTopics : List Bytes32) :
    Except RpcError (List EVMLog) :=
  if fromBlock > toBlock then
    .error (.invalidInput ("got from_block " ++ toString fromBlock ++
      " and to_block " ++ toString toBlock))
  else
    match self.batchCall serde jsonRpc
        [getBlockCall (.height fromBlock), getBlockCall (.height toBlock),
          getLogsCall fromBlock toBlock addresses firstTopics] with
    | .error error => .error error
    | .ok [fromBlockResponse, toBlockResponse, getLogsResponse] =>
        match parseGetBlockResponse serde fromBlockResponse,
            parseGetBlockResponse serde toBlockResponse,
            parseGetLogsResponse serde getLogsResponse with
        | _, _, .error error => .error error
        | .error error, _, _ => .error error
        | _, .error error, _ => .error error
        | .ok _, .ok _, .ok logs => .ok logs
    | .ok _ => .error (internalError serde .incompleteBatch)

end Rpc

end RiskManagement
