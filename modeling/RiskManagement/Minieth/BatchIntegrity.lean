import RiskManagement.Minieth.JsonRpcCallers
import RiskManagement.Minieth.RpcClient

/-!
# Batch integrity

Each result of a batch is the response with the id of its own call, and what
the client reads out of a batch is read from the right place.
-/

namespace RiskManagement

open JsonRpcSystem

/-- The results were returned to a caller with these calls, in some
interleaving of callers whose ids stayed small. -/
def Delivered (fromSlice : FromSlice) (calls : List Call)
    (results : List CallResponse) : Prop :=
  ∃ (servers : Nat) (system : JsonRpcSystem) (index : Nat)
    (caller : Caller), Reachable fromSlice servers system ∧ system.IdsSmall ∧
      system.callers[index]? = some caller ∧ caller.calls = calls ∧
      caller.phase = .returned (.ok results)

/-- The results answer the calls in one reply. -/
def AnsweredInOneReply (calls : List Call) (results : List CallResponse) :
    Prop :=
  ∃ baseId decoded, Answers baseId calls decoded results

theorem Delivered.answered {fromSlice : FromSlice} {calls : List Call}
    {results : List CallResponse}
    (delivered : Delivered fromSlice calls results) :
    AnsweredInOneReply calls results := by
  obtain ⟨servers, system, index, caller, reachable, small, isCaller, rfl,
    isReturned⟩ := delivered
  obtain ⟨attempt, _, server, body, decoded, _, _, _, answers⟩ :=
    reachable.answered small isCaller isReturned
  exact ⟨attempt.baseId, decoded, answers⟩

/-- The client's calls are made in such a system. -/
def Delivers (fromSlice : FromSlice) (jsonRpc : JsonRpcCall) : Prop :=
  ∀ calls results, jsonRpc calls = .ok results →
    Delivered fromSlice calls results

namespace Rpc

variable {serde : RpcSerde} {jsonRpc : JsonRpcCall} {self : Rpc}

theorem batchCall_eq_ok {calls : List Call} {responses : List CallResponse}
    (success : self.batchCall serde jsonRpc calls = .ok responses) :
    ∃ chainId, jsonRpc (calls ++ [chainIdCall]) =
        .ok (responses ++ [.ok chainId]) ∧
      serde.hexU64 chainId = .ok self.chainId := by
  rw [batchCall] at success
  split at success
  · cases success
  · rename_i batchResponses answered
    split at success
    · cases success
    · cases success
    · rename_i chainId isLast
      split at success
      · cases success
      · rename_i actualChainId isActual
        split at success
        · rename_i sameChain
          cases success
          obtain ⟨earlier, isEarlier⟩ := List.getLast?_eq_some_iff.mp isLast
          refine ⟨chainId, ?_, sameChain ▸ isActual⟩
          rw [answered, isEarlier, List.dropLast_concat]
        · cases success

/-- A batch gives its results and the chain id from one reply. -/
structure BatchAnswered (rpc : Rpc) (serde : RpcSerde)
    (calls : List Call) (responses : List CallResponse) : Prop where
  length_eq : responses.length = calls.length
  sameReply : ∃ chainId, serde.hexU64 chainId = .ok rpc.chainId ∧
    AnsweredInOneReply (calls ++ [chainIdCall]) (responses ++ [.ok chainId])

theorem batchAnswered {fromSlice : FromSlice}
    (delivers : Delivers fromSlice jsonRpc) {calls : List Call}
    {responses : List CallResponse}
    (success : self.batchCall serde jsonRpc calls = .ok responses) :
    self.BatchAnswered serde calls responses := by
  obtain ⟨chainId, answered, sameChain⟩ := batchCall_eq_ok success
  obtain ⟨baseId, decoded, answers⟩ := (delivers _ _ answered).answered
  refine ⟨?_, chainId, sameChain, baseId, decoded, answers⟩
  have length := answers.length_eq
  rw [List.length_append, List.length_append] at length
  exact Nat.add_right_cancel length

theorem getBlocks_eq_ok {identifiers : List BlockIdentifier}
    {blocks : List (Except RpcError Block)}
    (success : self.getBlocks serde jsonRpc identifiers = .ok blocks) :
    ∃ responses, self.batchCall serde jsonRpc
        (identifiers.map getBlockCall) = .ok responses ∧
      blocks = responses.map (parseGetBlockResponse serde) := by
  rw [getBlocks] at success
  cases batch : self.batchCall serde jsonRpc
      (identifiers.map getBlockCall) with
  | error error =>
      rw [batch] at success
      cases success
  | ok responses =>
      rw [batch] at success
      cases success
      exact ⟨responses, rfl, rfl⟩

theorem callOne_ne_none {fromSlice : FromSlice}
    (delivers : Delivers fromSlice jsonRpc) (call : Call) :
    self.callOne serde jsonRpc call ≠ none := by
  rw [callOne]
  cases batch : self.batchCall serde jsonRpc [call] with
  | error error => simp
  | ok responses =>
      have length := (batchAnswered delivers batch).length_eq
      cases responses with
      | nil => cases length
      | cons response rest =>
          simp only [List.head?_cons]
          split <;> simp_all

theorem getLogs_eq_ok {fromBlock toBlock : UInt64}
    {addresses : List Address} {firstTopics : List Bytes32}
    {logs : List EVMLog}
    (success : self.getLogs serde jsonRpc fromBlock toBlock addresses
      firstTopics = .ok logs) :
    ∃ fromBlockResponse toBlockResponse getLogsResponse,
      self.batchCall serde jsonRpc
          [getBlockCall (.height fromBlock), getBlockCall (.height toBlock),
            getLogsCall fromBlock toBlock addresses firstTopics] =
          .ok [fromBlockResponse, toBlockResponse, getLogsResponse] ∧
        (∃ block, parseGetBlockResponse serde fromBlockResponse =
          .ok block) ∧
        (∃ block, parseGetBlockResponse serde toBlockResponse =
          .ok block) ∧
        parseGetLogsResponse serde getLogsResponse = .ok logs := by
  rw [getLogs] at success
  split at success
  · cases success
  · split at success
    · cases success
    · rename_i fromBlockResponse toBlockResponse getLogsResponse answered
      refine ⟨fromBlockResponse, toBlockResponse, getLogsResponse, answered,
        ?_⟩
      split at success
      · cases success
      · cases success
      · cases success
      · rename_i isFrom isTo isLogs
        cases success
        exact ⟨⟨_, isFrom⟩, ⟨_, isTo⟩, isLogs⟩
    · cases success

/-- What the client's methods may rely on. -/
structure ClientIntegrity (rpc : Rpc) (serde : RpcSerde)
    (jsonRpc : JsonRpcCall) : Prop where
  batchCall : ∀ calls responses,
    rpc.batchCall serde jsonRpc calls = .ok responses →
      rpc.BatchAnswered serde calls responses
  getBlocks : ∀ identifiers blocks,
    rpc.getBlocks serde jsonRpc identifiers = .ok blocks →
      ∃ responses, blocks = responses.map (parseGetBlockResponse serde) ∧
        rpc.BatchAnswered serde (identifiers.map getBlockCall) responses
  callOne : ∀ call, rpc.callOne serde jsonRpc call ≠ none
  getLogs : ∀ fromBlock toBlock addresses firstTopics logs,
    rpc.getLogs serde jsonRpc fromBlock toBlock addresses firstTopics =
        .ok logs →
      ∃ fromBlockResponse toBlockResponse getLogsResponse,
        rpc.BatchAnswered serde
            [getBlockCall (.height fromBlock),
              getBlockCall (.height toBlock),
              getLogsCall fromBlock toBlock addresses firstTopics]
            [fromBlockResponse, toBlockResponse, getLogsResponse] ∧
          (∃ block, parseGetBlockResponse serde fromBlockResponse =
            .ok block) ∧
          (∃ block, parseGetBlockResponse serde toBlockResponse =
            .ok block) ∧
          parseGetLogsResponse serde getLogsResponse = .ok logs

theorem clientIntegrity {fromSlice : FromSlice}
    (delivers : Delivers fromSlice jsonRpc) :
    self.ClientIntegrity serde jsonRpc := by
  constructor
  · intro calls responses success
    exact batchAnswered delivers success
  · intro identifiers blocks success
    obtain ⟨responses, batch, isBlocks⟩ := getBlocks_eq_ok success
    exact ⟨responses, isBlocks, batchAnswered delivers batch⟩
  · intro call
    exact callOne_ne_none delivers call
  · intro fromBlock toBlock addresses firstTopics logs success
    obtain ⟨first, last, logsResponse, batch, parsed⟩ :=
      getLogs_eq_ok success
    exact ⟨first, last, logsResponse, batchAnswered delivers batch, parsed⟩

end Rpc

/-- Batches keep their integrity whatever the servers reply and however the
callers interleave. -/
theorem batch_integrity (fromSlice : FromSlice) :
    (∀ servers system, Reachable fromSlice servers system →
      system.IdsSmall →
        (∀ server state, system.servers[server]? = some state →
          (system.idsOf server).Nodup) ∧
        ∀ index caller results, system.callers[index]? = some caller →
          caller.phase = .returned (.ok results) →
            Answered fromSlice system index caller results) ∧
      ∀ serde jsonRpc, Delivers fromSlice jsonRpc →
        ∀ self : Rpc, self.ClientIntegrity serde jsonRpc := by
  constructor
  · intro servers system reachable small
    constructor
    · intro server state isServer
      exact reachable.ids_nodup small isServer
    · intro index caller results isCaller isReturned
      exact reachable.answered small isCaller isReturned
  · intro serde jsonRpc delivers self
    exact Rpc.clientIntegrity delivers

/-! ### One caller of one server -/

theorem receive_of_exit {fromSlice : FromSlice} {system : JsonRpcSystem}
    {index : Nat} {caller : Caller} {state : CallState} {attempt : Attempt}
    {result : LoopResult}
    (turned : JsonRpc.turn fromSlice system.servers.length caller.calls state
      attempt = .exit result) :
    (system.receive fromSlice index caller state attempt).callers =
      system.callers.set index
        { caller with
          phase := .returned (JsonRpc.finish result)
          attempts := caller.attempts ++ [attempt] } := by
  rw [receive, turned]

section OneCaller

open JsonRpc

/-- The answers to two calls and the chain id, the last one first. -/
def outOfOrderBody : List UInt8 :=
  ("[\x7b\"jsonrpc\":\"2.0\",\"id\":2,\"result\":\"0x1\"\x7d," ++
    "\x7b\"jsonrpc\":\"2.0\",\"id\":0,\"result\":\"0x10\"\x7d," ++
    "\x7b\"jsonrpc\":\"2.0\",\"id\":1,\"result\":\"0x5\"\x7d]").toUTF8.toList

def outOfOrderFromSlice : FromSlice := fun body =>
  if body = outOfOrderBody then
    .ok [.success jsonrpcVersion 2 (.string "0x1"),
      .success jsonrpcVersion 0 (.string "0x10"),
      .success jsonrpcVersion 1 (.string "0x5")]
  else
    .error "expected value"

def outOfOrderAnswer : Attempt :=
  ⟨0, none, .ok (200, outOfOrderBody), 400000000⟩

def inOrderResults : List CallResponse :=
  [.ok (.string "0x10"), .ok (.string "0x5"), .ok (.string "0x1")]

variable {calls : List Call}

theorem outOfOrderAnswer_accepted (three : calls.length = 3) :
    outOfOrderAnswer.batchResult outOfOrderFromSlice calls =
      .ok [.success jsonrpcVersion 0 (.string "0x10"),
        .success jsonrpcVersion 1 (.string "0x5"),
        .success jsonrpcVersion 2 (.string "0x1")] := by
  have ids : idRange 0 3 = [0, 1, 2] := by decide
  simp [Attempt.batchResult, outOfOrderAnswer, outOfOrderFromSlice,
    checkResponses, List.mergeSort, JsonRpcResponse.id,
    JsonRpcResponse.jsonrpc, three, ids]

def askedOnce (calls : List Call) : JsonRpcSystem :=
  (((new 1).begin calls).send 0 ⟨calls, 0, .ready (.start 0), []⟩
    (.start 0) .new).receive outOfOrderFromSlice 0
      ⟨calls, 0, .waiting (.start 0) 0, []⟩ (.start 0) outOfOrderAnswer

theorem askedOnce_reachable (calls : List Call) :
    Reachable outOfOrderFromSlice 1 (askedOnce calls) :=
  .step (.step (.step .new (.begin _ _)) (.send rfl rfl rfl))
    (.receive outOfOrderAnswer rfl rfl)

theorem askedOnce_small (three : calls.length = 3) :
    (askedOnce calls).IdsSmall := by
  intro server
  rw [askedOnce, idsOf, (assigned_receive _ _ _ _).1, ← idsOf, idsOf_send]
  split <;> simp [idsOf, begin, new, three]

theorem askedOnce_returned (three : calls.length = 3) :
    (askedOnce calls).callers[0]? = some ⟨calls, 0,
      .returned (.ok inOrderResults), [outOfOrderAnswer]⟩ := by
  have turned : turn outOfOrderFromSlice 1 calls (.start 0)
      outOfOrderAnswer =
        .exit (.ok ([.success jsonrpcVersion 0 (.string "0x10"),
          .success jsonrpcVersion 1 (.string "0x5"),
          .success jsonrpcVersion 2 (.string "0x1")], 0)) := by
    rw [turn, outOfOrderAnswer_accepted three]
    rfl
  rw [askedOnce, receive_of_exit turned]
  rfl

/-- A client of that server, which asks for three things at a time. -/
def threeAtOnce : JsonRpcCall := fun calls =>
  if calls.length = 3 then .ok inOrderResults else .error .incompleteBatch

theorem threeAtOnce_delivers : Delivers outOfOrderFromSlice threeAtOnce := by
  intro calls results answered
  rw [threeAtOnce] at answered
  split at answered
  · rename_i three
    cases answered
    exact ⟨1, askedOnce calls, 0, _, askedOnce_reachable calls,
      askedOnce_small three, askedOnce_returned three, rfl, rfl⟩
  · cases answered

/-- Reads the chain id of the exchange. -/
def chainIdSerde : RpcSerde where
  block := fun _ => .error "invalid type"
  logs := fun _ => .error "invalid type"
  hexU64
    | .string "0x1" => .ok 1
    | _ => .error "invalid type"
  errorText := fun _ => "not all requests in the batch were responded to"
  responseText := fun _ => "execution reverted"

def twoCalls : List Call := [⟨"eth_blockNumber", []⟩, ⟨"eth_gasPrice", []⟩]

/-- Two calls and the chain id are answered out of order. -/
theorem batch_integrity_outOfOrder :
    ((askedOnce (twoCalls ++ [chainIdCall])).idsOf 0).Nodup ∧
      Answered outOfOrderFromSlice (askedOnce (twoCalls ++ [chainIdCall])) 0
        ⟨twoCalls ++ [chainIdCall], 0, .returned (.ok inOrderResults),
          [outOfOrderAnswer]⟩ inOrderResults ∧
      Rpc.BatchAnswered ⟨1⟩ chainIdSerde twoCalls
        [.ok (.string "0x10"), .ok (.string "0x5")] := by
  obtain ⟨callers, clients⟩ := batch_integrity outOfOrderFromSlice
  obtain ⟨nodup, answered⟩ := callers 1 (askedOnce (twoCalls ++ [chainIdCall]))
    (askedOnce_reachable _) (askedOnce_small rfl)
  refine ⟨nodup 0 ⟨3⟩ ?_, answered 0 _ _ (askedOnce_returned rfl) rfl, ?_⟩
  · rw [askedOnce, (assigned_receive _ _ _ _).2]
    rfl
  · exact (clients chainIdSerde threeAtOnce threeAtOnce_delivers
      ⟨1⟩).batchCall twoCalls _ rfl

end OneCaller

end RiskManagement
