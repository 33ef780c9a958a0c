import RiskManagement.Library.Loops
import RiskManagement.Minieth.Bytes

/-!
# JSON-RPC batches

One batch of calls is sent to one server after the other until an answer is
good enough.  The HTTP client, the JSON decoder and the clock are the
environment: an `Attempt` holds what they gave in one turn of the loop.
-/

namespace RiskManagement

/-- A `serde_json::Value`; a number is kept as its text. -/
inductive JsonValue where
  | null
  | bool (value : Bool)
  | number (text : String)
  | string (text : String)
  | array (items : List JsonValue)
  | object (fields : List (String × JsonValue))

/-- The error object of a response. -/
structure JsonRpcResponseError where
  code : Int64
  message : String
  data : Option JsonValue

/-- A response has a result or an error. -/
inductive JsonRpcResponse where
  | success (jsonrpc : String) (id : UInt64) (result : JsonValue)
  | failure (jsonrpc : String) (id : UInt64) (error : JsonRpcResponseError)

abbrev CallResponse := Except JsonRpcResponseError JsonValue

namespace JsonRpcResponse

def id : JsonRpcResponse → UInt64
  | success _ id _ => id
  | failure _ id _ => id

def jsonrpc : JsonRpcResponse → String
  | success jsonrpc _ _ => jsonrpc
  | failure jsonrpc _ _ => jsonrpc

def toCallResponse : JsonRpcResponse → CallResponse
  | success _ _ result => .ok result
  | failure _ _ error => .error error

end JsonRpcResponse

/-- Why no answer came. -/
inductive NetError where
  | transport (detail : String)
  | io (detail : String)

/-- The body of an undecodable response is kept as its bytes. -/
inductive JsonRpcError where
  | netError (error : NetError)
  | httpStatus (code : UInt32) (body : List UInt8)
  | serdeJsonError (detail : String)
  | errorResponse (error : JsonRpcResponseError)
  | unexpectedId (expected actual : UInt64)
  | unexpectedVersion (version : String)
  | incompleteBatch

/-- A call before it gets its identifier. -/
structure Call where
  method : String
  params : List JsonValue

/-- A call as it is sent. -/
structure JsonRpcRequest where
  jsonrpc : String
  method : String
  params : JsonValue
  id : UInt64

def jsonrpcVersion : String := "2.0"

/-! ### Servers and their ids -/

/-- The identifier that a server's next request starts with. -/
structure ServerState where
  nextId : UInt64

namespace ServerState

def new : ServerState := ⟨0⟩

/-- Both run under the lock of `next_id`. -/
def newBaseId (self : ServerState) (numCalls : Nat) :
    UInt64 × ServerState :=
  (self.nextId, ⟨self.nextId + .ofNat numCalls⟩)

/-- The call at this place of a batch. -/
def request (baseId : UInt64) (index : Nat) (call : Call) : JsonRpcRequest where
  jsonrpc := jsonrpcVersion
  method := call.method
  params := .array call.params
  id := baseId + .ofNat index

/-- A batch takes consecutive identifiers. -/
def producePayloadJson (self : ServerState) (calls : List Call) :
    (UInt64 × List JsonRpcRequest) × ServerState :=
  let (baseId, next) := self.newBaseId calls.length
  ((baseId, calls.mapIdx (request baseId)), next)

end ServerState

/-! ### One attempt -/

abbrev BatchResult := Except JsonRpcError (List JsonRpcResponse)

/-- An error, or a result that says nothing. -/
def potentiallyFaultyResponse : JsonRpcResponse → Bool
  | .failure _ _ _ => true
  | .success _ _ .null => true
  | .success _ _ _ => false

def countPotentiallyFaultyResponses (responses : List JsonRpcResponse) :
    Nat :=
  (responses.filter potentiallyFaultyResponse).length

/-- What is kept of a body for the log. -/
def capUndecodableResponse (body : List UInt8) : List UInt8 :=
  body.take 1000

/-- The older result wins where both are equally good. -/
def betterJsonrpcBatchResult : BatchResult → BatchResult → BatchResult
  | .ok older, .ok newer =>
      if countPotentiallyFaultyResponses older ≤
          countPotentiallyFaultyResponses newer then
        .ok older
      else
        .ok newer
  | .error _, .ok newer => .ok newer
  | .ok older, .error _ => .ok older
  | .error _, .error newer => .error newer

/-- The numbers of `first..last`. -/
def idRange (first last : UInt64) : List UInt64 :=
  (List.range' first.toNat (last.toNat - first.toNat)).map .ofNat

/-- What a response body must hold. -/
def checkResponses (baseId : UInt64) (calls : List Call)
    (decoded : List JsonRpcResponse) : BatchResult :=
  let responses := decoded.mergeSort fun left right =>
    decide (left.id ≤ right.id)
  if idRange baseId (baseId + .ofNat calls.length) ≠
      responses.map JsonRpcResponse.id then
    .error .incompleteBatch
  else
    match responses.find? fun response =>
        decide (response.jsonrpc ≠ jsonrpcVersion) with
    | some response => .error (.unexpectedVersion response.jsonrpc)
    | none => .ok responses

/-- `serde_json::from_slice` at the type of a response list. -/
abbrev FromSlice := List UInt8 → Except String (List JsonRpcResponse)

/-- One turn of the loop: the ids it was given, a payload that could not be
encoded, the answer of `send`, and the time since the loop began. -/
structure Attempt where
  baseId : UInt64
  encodingError : Option String
  httpResult : Except NetError (UInt32 × List UInt8)
  elapsed : Nat

/-- What is read out of an answer. -/
def Attempt.batchResult (fromSlice : FromSlice) (calls : List Call)
    (attempt : Attempt) : BatchResult :=
  match attempt.httpResult with
  | .ok (code, body) =>
      if code = 200 then
        match fromSlice body with
        | .error _ => .error (.httpStatus 200 (capUndecodableResponse body))
        | .ok decoded => checkResponses attempt.baseId calls decoded
      else
        .error (.httpStatus code (capUndecodableResponse body))
  | .error error => .error (.netError error)

/-! ### The loop -/

def minRetries : Nat := 2

/-- Thirty seconds, in nanoseconds. -/
def minWait : Nat := 30 * 1000000000

/-- The variables of the loop over the attempts. -/
structure CallState where
  best : BatchResult
  i : Nat
  serverId : Nat

/-- The loop before its first attempt. -/
def CallState.start (serverId : Nat) : CallState where
  best := .error .incompleteBatch
  i := 1
  serverId := serverId

/-- The responses that leave the loop, with the server that gave the last
answer. -/
abbrev LoopResult := Except JsonRpcError (List JsonRpcResponse × Nat)

namespace JsonRpc

open Loops

def triedAllServers (servers : Nat) (state : CallState) : Bool :=
  state.i ≥ servers

/-- There were enough attempts, and they took long enough. -/
def exhaustedRetries (servers : Nat) (state : CallState)
    (attempt : Attempt) : Bool :=
  triedAllServers servers state && decide (state.i ≥ minRetries) &&
    decide (attempt.elapsed ≥ minWait)

/-- What stops the loop once the best result is updated. -/
def stops (servers : Nat) (state : CallState) (attempt : Attempt)
    (best : BatchResult) : Bool :=
  exhaustedRetries servers state attempt ||
    match best with
    | .ok responses =>
        decide (countPotentiallyFaultyResponses responses = 0) ||
          triedAllServers servers state
    | .error _ => false

/-- One turn of `loop`.  The sleep before the next turn changes nothing. -/
def turn (fromSlice : FromSlice) (servers : Nat) (calls : List Call)
    (state : CallState) (attempt : Attempt) : Turn CallState LoopResult :=
  match attempt.encodingError with
  | some detail => .exit (.error (.serdeJsonError detail))
  | none =>
      let best := betterJsonrpcBatchResult state.best
        (attempt.batchResult fromSlice calls)
      if stops servers state attempt best then
        .exit (best.map fun responses => (responses, state.serverId))
      else
        .next ⟨best, state.i + 1, (state.serverId + 1) % servers⟩

/-- The loop over the attempts that the environment lets it make; it is still
running when they end. -/
def callLoop (fromSlice : FromSlice) (servers : Nat) (calls : List Call) :
    CallState → List Attempt → Turn CallState LoopResult
  | state, [] => .next state
  | state, attempt :: attempts =>
      match turn fromSlice servers calls state attempt with
      | .exit result => .exit result
      | .next state => callLoop fromSlice servers calls state attempts

/-- The end of `call`: a success gives up its ids. -/
def finish (result : LoopResult) : Except JsonRpcError (List CallResponse) :=
  result.map fun responses =>
    responses.1.map JsonRpcResponse.toCallResponse

end JsonRpc

end RiskManagement
