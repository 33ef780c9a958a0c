import RiskManagement.Library.EntryMap
import RiskManagement.Afn.ContractCalls
import RiskManagement.Afn.EventRoundTrip

/-!
# The contract reads the calls that the node sends

A contract finds its function by the selector and decodes the arguments.  The
AFN contract reads every vote back from the data of the transaction.
-/

namespace RiskManagement

open Panics

/-! ### The side of the contract -/

/-- The functions of the AFN contract that the node knows, and what they are
called with. -/
inductive AfnCall where
  | voteToBless (taggedRoots : RustVec TaggedRoot)
  | voteToCurse (curseId : Bytes32)
  | getConfigDetails
  | isCursed
deriving DecidableEq

namespace AfnCall

/-- The arguments of a function, when they are well formed. -/
def readArguments (α : Type) [CheckedAbiDecode α] (arguments : List UInt8) :
    Option α :=
  match checkedAbiDecode α arguments with
  | some (.ok decoded) => some decoded
  | _ => none

/-- The functions by their selectors. -/
def functions (keccak : Keccak) :
    List (List UInt8 × (List UInt8 → Option AfnCall)) :=
  [(contractCallSelector keccak VoteToBlessCall, fun arguments =>
      (readArguments (AbiTuple (RustVec TaggedRoot × Unit)) arguments).map
        fun decoded => voteToBless decoded.fields.1),
    (contractCallSelector keccak VoteToCurseCall, fun arguments =>
      (readArguments (AbiTuple (Bytes32 × Unit)) arguments).map
        fun decoded => voteToCurse decoded.fields.1),
    (contractCallSelector keccak GetConfigDetailsCall,
      fun _ => some getConfigDetails),
    (contractCallSelector keccak IsCursedCall, fun _ => some isCursed)]

/-- What the contract takes the data of a call for. -/
def read (keccak : Keccak) (data : List UInt8) : Option AfnCall := do
  let function ← (EntryMap.collect (functions keccak)).lookup (data.take 4)
  function (data.drop 4)

/-- The data that the node makes of a call. -/
def data (keccak : Keccak) : AfnCall → List UInt8
  | voteToBless taggedRoots =>
      encodeContractCall keccak (VoteToBlessCall.mk taggedRoots)
  | voteToCurse curseId =>
      encodeContractCall keccak (VoteToCurseCall.mk curseId)
  | getConfigDetails => encodeContractCall keccak GetConfigDetailsCall.mk
  | isCursed => encodeContractCall keccak IsCursedCall.mk

/-- No two functions have one selector. -/
def DistinctSelectors (keccak : Keccak) : Prop :=
  ((functions keccak).map Prod.fst).Nodup

instance (keccak : Keccak) : Decidable (DistinctSelectors keccak) :=
  inferInstanceAs (Decidable (List.Nodup _))

variable {keccak : Keccak}

theorem readArguments_abiEncoding {α : Type} [CheckedAbiDecode α]
    [AbiRoundTrip α] (value : α)
    (fits : (abiEncoding value).length < 2 ^ 63) :
    readArguments α (abiEncoding value) = some value := by
  rw [readArguments, checkedAbiDecode_abiEncoding value fits]
  rfl

theorem length_contractCallSelector (keccak : Keccak) (Call : Type)
    [ContractCall Call] :
    (contractCallSelector keccak Call).length = 4 := by
  rw [contractCallSelector, List.length_take, SizedBytes.size_eq]
  rfl

/-- The function of a call is given its arguments. -/
theorem read_encodeContractCall {Call : Type} [ContractCall Call]
    {function : List UInt8 → Option AfnCall}
    (distinct : DistinctSelectors keccak) (call : Call)
    (member :
      (contractCallSelector keccak Call, function) ∈ functions keccak) :
    read keccak (encodeContractCall keccak call) =
      function (ContractCall.contractCallParameters call).encode := by
  have sized := length_contractCallSelector keccak Call
  rw [read, encodeContractCall, List.take_left' sized,
    List.drop_left' sized,
    (EntryMap.lookup_collect_eq_some_iff distinct).mpr member]
  rfl

theorem length_arguments_lt {Call : Type} [ContractCall Call] {call : Call}
    (fits : (encodeContractCall keccak call).length < 2 ^ 63) :
    (ContractCall.contractCallParameters call).encode.length < 2 ^ 63 := by
  rw [encodeContractCall, List.length_append] at fits
  omega

theorem read_data (distinct : DistinctSelectors keccak) (call : AfnCall)
    (fits : (data keccak call).length < 2 ^ 63) :
    read keccak (data keccak call) = some call := by
  cases call with
  | voteToBless taggedRoots =>
      have isArguments := readArguments_abiEncoding
        (AbiTuple.mk (taggedRoots, ())) (length_arguments_lt fits)
      apply (read_encodeContractCall distinct _ (List.mem_cons_self ..)).trans
      exact congrArg (Option.map _) isArguments
  | voteToCurse curseId =>
      have isArguments := readArguments_abiEncoding
        (AbiTuple.mk (curseId, ())) (length_arguments_lt fits)
      apply (read_encodeContractCall distinct _
        (List.mem_cons_of_mem _ (List.mem_cons_self ..))).trans
      exact congrArg (Option.map _) isArguments
  | getConfigDetails =>
      apply (read_encodeContractCall distinct GetConfigDetailsCall.mk
        (List.mem_of_getElem? (i := 2) rfl)).trans
      rfl
  | isCursed =>
      apply (read_encodeContractCall distinct IsCursedCall.mk
        (List.mem_of_getElem? (i := 3) rfl)).trans
      rfl

end AfnCall

/-! ### The transactions of the node -/

section Transactions

variable (keccak : Keccak)

theorem length_encode_taggedRoot (taggedRoot : TaggedRoot) :
    (into taggedRoot).encodeActualData.length = 64 := by
  change (encodeTuple [(true, encodeAddress taggedRoot.commitStore),
    (true, taggedRoot.root.data)]).length = 64
  simp [length_encodeTuple, headsLength, tailsLength, headLength, tailLength,
    encodeAddress, SizedBytes.size_eq]

theorem encodeItems_taggedRoots (taggedRoots : List TaggedRoot) :
    headsLength (Value.encodeItems (taggedRoots.map into)) =
        64 * taggedRoots.length ∧
      tailsLength (Value.encodeItems (taggedRoots.map into)) = 0 := by
  induction taggedRoots with
  | nil => exact ⟨rfl, rfl⟩
  | cons taggedRoot rest ih =>
      obtain ⟨heads, tails⟩ := ih
      have isStatic : (into taggedRoot : Value).isStatic = true := rfl
      rw [headsLength] at heads
      rw [tailsLength] at tails
      rw [List.map_cons, Value.encodeItems, isStatic, headsLength,
        tailsLength, List.map_cons, List.map_cons, List.sum_cons,
        List.sum_cons, heads, tails, headLength, tailLength,
        length_encode_taggedRoot, List.length_cons]
      omega

theorem length_data_voteToBless (taggedRoots : RustVec TaggedRoot) :
    (AfnCall.data keccak (.voteToBless taggedRoots)).length =
      68 + 64 * taggedRoots.toList.length := by
  let items := taggedRoots.toList.map (into : TaggedRoot → Value)
  obtain ⟨heads, tails⟩ := encodeItems_taggedRoots taggedRoots.toList
  have isArray : (encodeTuple (Value.encodeItems items)).length =
      64 * taggedRoots.toList.length := by
    rw [length_encodeTuple, heads, tails, Nat.add_zero]
  change (contractCallSelector keccak VoteToBlessCall ++ encodeTuple [(false,
    encodeUsize (.ofNat items.length) ++
      encodeTuple (Value.encodeItems items))]).length = _
  rw [List.length_append, AfnCall.length_contractCallSelector,
    length_encodeTuple]
  simp only [headsLength, tailsLength, headLength, tailLength, List.map_cons,
    List.map_nil, List.sum_cons, List.sum_nil, List.length_append,
    encodeUsize_length, isArray]
  omega

theorem length_data_voteToCurse (curseId : Bytes32) :
    (AfnCall.data keccak (.voteToCurse curseId)).length = 36 := by
  change (contractCallSelector keccak VoteToCurseCall ++
    encodeTuple [(true, curseId.data)]).length = _
  rw [List.length_append, AfnCall.length_contractCallSelector,
    length_encodeTuple]
  simp [headsLength, tailsLength, headLength, tailLength, SizedBytes.size_eq]

/-- A transaction that carries a call to the contract, and nothing else. -/
structure TransactionRequest.Carries (request : TransactionRequest)
    (afn : AFNInterface) (call : AfnCall) (gas : Nat) : Prop where
  toContract : request.toAddress = afn.address
  valueless : request.value = U256.ofUint 0
  gas : request.gas.toNat = gas
  isCall : AfnCall.read keccak request.data.data = some call

variable {keccak}

theorem sendTransaction_carries (afn : AFNInterface) {call : AfnCall}
    (distinct : AfnCall.DistinctSelectors keccak) (gas : UInt64)
    (fits : (AfnCall.data keccak call).length < 2 ^ 63) :
    ∃ data, AFNInterface.toBytes (AfnCall.data keccak call) = some data ∧
      (afn.sendTransaction data gas).Carries keccak afn call gas.toNat := by
  have inMemory : (AfnCall.data keccak call).length < 2 ^ 64 := by omega
  refine ⟨⟨⟨AfnCall.data keccak call, inMemory⟩⟩, dif_pos inMemory, ?_⟩
  exact { toContract := rfl
          valueless := rfl
          gas := rfl
          isCall := AfnCall.read_data distinct call fits }

/-- Every vote that the node sends is a transaction from which the contract
reads that vote.  The gas for the roots must not wrap. -/
theorem transactions_are_read_as_votes (afn : AFNInterface)
    (distinct : AfnCall.DistinctSelectors keccak) :
    (∀ votes : RustVec TaggedRoot, 70000 * votes.toList.length < 2 ^ 64 →
      ∃ request, afn.sendVoteToBless keccak votes = some request ∧
        request.Carries keccak afn (.voteToBless votes)
          (70000 * votes.toList.length)) ∧
      ∀ curseId : Bytes32,
        ∃ request, afn.sendVoteToCurse keccak curseId = some request ∧
          request.Carries keccak afn (.voteToCurse curseId) 200000 := by
  constructor
  · intro votes affordable
    have fits : (AfnCall.data keccak (.voteToBless votes)).length < 2 ^ 63 := by
      rw [length_data_voteToBless]
      omega
    obtain ⟨data, isData, carries⟩ := sendTransaction_carries afn distinct
      (70000 * .ofNat votes.toList.length) fits
    have isGas : (70000 * UInt64.ofNat votes.toList.length).toNat =
        70000 * votes.toList.length := by
      have isFactor : (70000 : UInt64).toNat = 70000 := rfl
      rw [UInt64.toNat_mul, UInt64.toNat_ofNat', isFactor,
        Nat.mod_eq_of_lt votes.length_lt, Nat.mod_eq_of_lt affordable]
    rw [isGas] at carries
    refine ⟨_, ?_, carries⟩
    change (AFNInterface.toBytes (AfnCall.data keccak (.voteToBless votes))
      >>= _) = _
    rw [isData]
    rfl
  · intro curseId
    have fits : (AfnCall.data keccak (.voteToCurse curseId)).length <
        2 ^ 63 := by
      rw [length_data_voteToCurse]
      omega
    obtain ⟨data, isData, carries⟩ :=
      sendTransaction_carries afn distinct 200000 fits
    refine ⟨_, ?_, carries⟩
    change (AFNInterface.toBytes (AfnCall.data keccak (.voteToCurse curseId))
      >>= _) = _
    rw [isData]
    rfl

end Transactions

theorem transactions_are_read_as_votes_lengthHash :
    ∃ request,
      (AFNInterface.mk (.replicate 20 7)).sendVoteToBless lengthHash
          ⟨[⟨.replicate 20 1, .replicate 32 2⟩], by decide⟩ = some request ∧
        AfnCall.read lengthHash request.data.data =
          some (.voteToBless ⟨[⟨.replicate 20 1, .replicate 32 2⟩],
            by decide⟩) := by
  have distinct : AfnCall.DistinctSelectors lengthHash := by decide +kernel
  obtain ⟨request, isRequest, carries⟩ :=
    (transactions_are_read_as_votes (AFNInterface.mk (.replicate 20 7))
      distinct).1 ⟨[⟨.replicate 20 1, .replicate 32 2⟩], by decide⟩ (by decide)
  exact ⟨request, isRequest, carries.isCall⟩

end RiskManagement
