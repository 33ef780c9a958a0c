import RiskManagement.Minieth.Tx

/-!
# The bytes of a transaction

Each request pushes its fields onto a stream, so the signed and the serialized
bytes encode the list of the fields.  A reader of that list gets them back,
which is why no two requests have the same bytes.
-/

namespace RiskManagement

/-! ### The fields -/

/-- The items a request, a record or a signature consists of. -/
def AccessListRecord.fields (self : AccessListRecord) : List Rlp.Item :=
  [.bytes self.address.data,
    .list (self.storageKeys.map fun key => .bytes key.data)]

def EthereumSignature.fields (self : EthereumSignature) : List Rlp.Item :=
  [.number self.v.toNat, .number self.r.toNat, .number self.s.toNat]

def Eip1559TransactionRequest.fields (self : Eip1559TransactionRequest) :
    List Rlp.Item :=
  [.number self.chainId.toNat, .number self.nonce.toNat,
    .number self.maxPriorityFeePerGas.toNat, .number self.maxFeePerGas.toNat,
    .number self.gas.toNat, .bytes self.toAddress.data,
    .number self.value.toNat, .bytes self.data.data,
    .list (self.accessList.map fun item => .list item.fields)]

def LegacyTransactionRequest.fields (self : LegacyTransactionRequest) :
    List Rlp.Item :=
  [.number self.nonce.toNat, .number self.gasPrice.toNat,
    .number self.gas.toNat, .bytes self.toAddress.data,
    .number self.value.toNat, .bytes self.data.data]

/-! ### What is encoded -/

instance : RlpItems AccessListRecord where
  rlpItems self := [.list self.fields]
  encodes self := by
    have holds := (RlpStream.new_holds.push self.address).push
      self.storageKeys
    have items : rlpItems self.storageKeys =
        [.list (self.storageKeys.map fun key => .bytes key.data)] :=
      congrArg (fun keys => [Rlp.Item.list keys])
        List.map_eq_flatMap.symm
    rw [items] at holds
    rw [rlpEncodeItems_singleton]
    exact holds.finalizeWithLengthPrefix

instance : RlpItems EthereumSignature where
  rlpItems self := self.fields
  encodes self := ((RlpStream.new_holds.push self.v).push self.r).push self.s

theorem Eip1559TransactionRequest.rlp_holds
    (self : Eip1559TransactionRequest) : self.rlp.Holds self.fields := by
  have items : rlpItems self.accessList =
      [.list (self.accessList.map fun item => .list item.fields)] :=
    congrArg (fun records => [Rlp.Item.list records])
      List.map_eq_flatMap.symm
  rw [fields, ← items]
  exact ((((((((RlpStream.new_holds.push self.chainId).push
    self.nonce).push self.maxPriorityFeePerGas).push
      self.maxFeePerGas).push self.gas).push self.toAddress).push
        self.value).push self.data).push self.accessList

instance : RlpItems Eip1559TransactionRequest where
  rlpItems self := self.fields
  encodes self := self.rlp_holds

theorem LegacyTransactionRequest.rlp_holds
    (self : LegacyTransactionRequest) : self.rlp.Holds self.fields :=
  (((((RlpStream.new_holds.push self.nonce).push self.gasPrice).push
    self.gas).push self.toAddress).push self.value).push self.data

instance : RlpItems LegacyTransactionRequest where
  rlpItems self := self.fields
  encodes self := self.rlp_holds

/-! ### The fields determine the request -/

theorem number_toNat_injective {left right : U256}
    (same : Rlp.Item.number left.toNat = Rlp.Item.number right.toNat) :
    left = right :=
  U256.toNat_injective (Rlp.Item.number_injective same)

theorem number_toNat_injective_word {left right : UInt64}
    (same : Rlp.Item.number left.toNat = Rlp.Item.number right.toNat) :
    left = right :=
  UInt64.toNat_inj.mp (Rlp.Item.number_injective same)

theorem item_data_injective {size : Nat} {left right : SizedBytes size}
    (same : Rlp.Item.bytes left.data = Rlp.Item.bytes right.data) :
    left = right :=
  SizedBytes.ext (Rlp.Item.bytes.inj same)

theorem AccessListRecord.fields_injective {left right : AccessListRecord}
    (same : left.fields = right.fields) : left = right := by
  cases left
  cases right
  simp only [fields, List.cons.injEq, Rlp.Item.list.injEq] at same
  obtain ⟨address, storageKeys, _⟩ := same
  have keys := List.map_injective_iff.mpr
    (fun _ _ sameKey => item_data_injective sameKey) storageKeys
  rw [item_data_injective address, keys]

theorem Eip1559TransactionRequest.fields_injective
    {left right : Eip1559TransactionRequest}
    (same : left.fields = right.fields) : left = right := by
  cases left
  cases right
  simp only [fields, List.cons.injEq, Rlp.Item.list.injEq] at same
  obtain ⟨chainId, nonce, maxPriorityFeePerGas, maxFeePerGas, gas, toAddress,
    value, data, accessList, _⟩ := same
  have records := List.map_injective_iff.mpr (fun _ _ sameRecord =>
    AccessListRecord.fields_injective (Rlp.Item.list.inj sameRecord))
    accessList
  rw [number_toNat_injective_word chainId, number_toNat_injective nonce,
    number_toNat_injective maxPriorityFeePerGas,
    number_toNat_injective maxFeePerGas, number_toNat_injective gas,
    item_data_injective toAddress, number_toNat_injective value,
    Bytes.ext (Rlp.Item.bytes.inj data), records]

theorem LegacyTransactionRequest.fields_injective
    {left right : LegacyTransactionRequest}
    (sameChain : left.chainId = right.chainId)
    (same : left.fields = right.fields) : left = right := by
  cases left
  cases right
  simp only [fields, List.cons.injEq] at same
  obtain ⟨nonce, gasPrice, gas, toAddress, value, data, _⟩ := same
  cases sameChain
  rw [number_toNat_injective nonce, number_toNat_injective gasPrice,
    number_toNat_injective gas, item_data_injective toAddress,
    number_toNat_injective value, Bytes.ext (Rlp.Item.bytes.inj data)]

/-! ### The bytes -/

/-- The bytes are the list of the items, and split back into them when they fit
a vector. -/
structure SplitsInto (bytes : List UInt8) (items : List Rlp.Item) : Prop where
  isList : bytes = rlpEncodeItem (.list items)
  splits : bytes.length < 2 ^ 64 → Rlp.decode bytes = some (.list items)

theorem RlpStream.Holds.splitsInto {stream : RlpStream}
    {items : List Rlp.Item} (holds : stream.Holds items) :
    SplitsInto stream.finalizeWithLengthPrefix items := by
  constructor
  · exact holds.finalizeWithLengthPrefix
  · intro fits
    rw [holds.finalizeWithLengthPrefix] at fits ⊢
    exact decode_rlpEncodeItem fits

theorem SplitsInto.items_unique {bytes : List UInt8}
    {left right : List Rlp.Item} (splitsLeft : SplitsInto bytes left)
    (splitsRight : SplitsInto bytes right) (fits : bytes.length < 2 ^ 64) :
    left = right := by
  have decoded := splitsLeft.splits fits
  rw [splitsRight.splits fits, Option.some.injEq, Rlp.Item.list.injEq]
    at decoded
  exact decoded.symm

theorem Eip1559TransactionRequest.toSigningHash_splits (keccak : Keccak)
    (self : Eip1559TransactionRequest) :
    ∃ list, self.toSigningHash keccak = keccak256 keccak (2 :: list) ∧
      SplitsInto list self.fields :=
  ⟨_, rfl, (RlpStream.new_holds.extend (RlpItems.encodes self)).splitsInto⟩

theorem Eip1559Transaction.toRlpBytes_splits (self : Eip1559Transaction) :
    ∃ list, self.toRlpBytes = 2 :: list ∧
      SplitsInto list (self.req.fields ++ self.sig.fields) :=
  ⟨_, rfl, ((RlpStream.new_holds.push self.req).push self.sig).splitsInto⟩

/-- The items of the bytes that are hashed for signing. -/
def LegacyTransactionRequest.signedFields (self : LegacyTransactionRequest) :
    List Rlp.Item :=
  self.fields ++ [.number self.chainId.toNat, .number 0, .number 0]

theorem LegacyTransactionRequest.toSigningHash_splits (keccak : Keccak)
    (self : LegacyTransactionRequest) :
    ∃ list, self.toSigningHash keccak = keccak256 keccak list ∧
      SplitsInto list self.signedFields := by
  have holds := (((RlpStream.new_holds.extend (RlpItems.encodes self)).push
    self.chainId).push (U256.ofUint 0)).push (U256.ofUint 0)
  refine ⟨_, rfl, ?_⟩
  rw [List.nil_append, List.append_assoc, List.append_assoc] at holds
  exact holds.splitsInto

theorem LegacyTransaction.toRlpBytes_splits (self : LegacyTransaction) :
    SplitsInto self.toRlpBytes (self.req.fields ++
      (self.sig.toLegacy self.req.chainId).fields) :=
  ((RlpStream.new_holds.push self.req).push
    (self.sig.toLegacy self.req.chainId)).splitsInto

theorem Eip1559TransactionRequest.signed_injective {keccak : Keccak}
    {left right : Eip1559TransactionRequest} {bytes : Bytes}
    (leftSigned : (left.toSigningHash keccak).inputs = [bytes.data])
    (rightSigned : (right.toSigningHash keccak).inputs = [bytes.data]) :
    left = right := by
  have fits := bytes.data_length_lt
  obtain ⟨leftList, leftHash, leftSplits⟩ := left.toSigningHash_splits keccak
  obtain ⟨rightList, rightHash, rightSplits⟩ :=
    right.toSigningHash_splits keccak
  rw [leftHash, keccak256_inputs, List.cons.injEq] at leftSigned
  rw [rightHash, keccak256_inputs, List.cons.injEq] at rightSigned
  have sameList : leftList = rightList :=
    (List.cons.inj (leftSigned.1.trans rightSigned.1.symm)).2
  subst sameList
  rw [← leftSigned.1, List.length_cons] at fits
  exact fields_injective (leftSplits.items_unique rightSplits (by omega))

theorem LegacyTransactionRequest.signed_injective {keccak : Keccak}
    {left right : LegacyTransactionRequest} {bytes : Bytes}
    (leftSigned : (left.toSigningHash keccak).inputs = [bytes.data])
    (rightSigned : (right.toSigningHash keccak).inputs = [bytes.data]) :
    left = right := by
  have fits := bytes.data_length_lt
  obtain ⟨leftList, leftHash, leftSplits⟩ := left.toSigningHash_splits keccak
  obtain ⟨rightList, rightHash, rightSplits⟩ :=
    right.toSigningHash_splits keccak
  rw [leftHash, keccak256_inputs, List.cons.injEq] at leftSigned
  rw [rightHash, keccak256_inputs, List.cons.injEq] at rightSigned
  have sameList : leftList = rightList :=
    leftSigned.1.trans rightSigned.1.symm
  subst sameList
  rw [← leftSigned.1] at fits
  have sameSigned := leftSplits.items_unique rightSplits fits
  have sameLength : left.fields.length = right.fields.length := by
    simp [fields]
  obtain ⟨sameFields, sameTail⟩ := List.append_inj sameSigned sameLength
  have sameChain := number_toNat_injective_word (List.cons.inj sameTail).1
  exact fields_injective sameChain sameFields

/-- The hashed and the serialized bytes are one list of the request's fields
behind the type byte, they determine the request, and no item's encoding is the
front of another one. -/
theorem transaction_bytes_unambiguous (keccak : Keccak) :
    (∀ request : Eip1559TransactionRequest, ∃ list,
        request.toSigningHash keccak = keccak256 keccak (2 :: list) ∧
          SplitsInto list request.fields) ∧
      (∀ transaction : Eip1559Transaction, ∃ list,
        transaction.toRlpBytes = 2 :: list ∧
          SplitsInto list
            (transaction.req.fields ++ transaction.sig.fields)) ∧
      (∀ request : LegacyTransactionRequest, ∃ list,
        request.toSigningHash keccak = keccak256 keccak list ∧
          SplitsInto list (request.fields ++
            [.number request.chainId.toNat, .number 0, .number 0])) ∧
      (∀ transaction : LegacyTransaction,
        SplitsInto transaction.toRlpBytes (transaction.req.fields ++
          (transaction.sig.toLegacy transaction.req.chainId).fields)) ∧
      (∀ (left right : Eip1559TransactionRequest) (bytes : Bytes),
        (left.toSigningHash keccak).inputs = [bytes.data] →
          (right.toSigningHash keccak).inputs = [bytes.data] →
            left = right) ∧
      (∀ (left right : LegacyTransactionRequest) (bytes : Bytes),
        (left.toSigningHash keccak).inputs = [bytes.data] →
          (right.toSigningHash keccak).inputs = [bytes.data] →
            left = right) ∧
      PrefixCode.PrefixFree
        (fun item => (rlpEncodeItem item).length < 2 ^ 64) rlpEncodeItem ∧
      (∀ len, (len ≤ 55 → 0x80 + len < 256 ∧ 0xc0 + len < 256) ∧
        0xb7 + (trimBytes (BigEndian.digits 8 len)).length < 256 ∧
        0xf7 + (trimBytes (BigEndian.digits 8 len)).length < 256) ∧
      ∀ number, BigEndian.value (BigEndian.minimal number) = number ∧
        (BigEndian.minimal number).head? ≠ some 0 := by
  refine ⟨?_, ?_, ?_, ?_, ?_, ?_, rlpEncodeItem_prefixFree,
    rlpLengthHeader_fits, ?_⟩
  · intro request
    exact request.toSigningHash_splits keccak
  · intro transaction
    exact transaction.toRlpBytes_splits
  · intro request
    exact request.toSigningHash_splits keccak
  · intro transaction
    exact transaction.toRlpBytes_splits
  · intro left right bytes leftSigned rightSigned
    exact Eip1559TransactionRequest.signed_injective leftSigned rightSigned
  · intro left right bytes leftSigned rightSigned
    exact LegacyTransactionRequest.signed_injective leftSigned rightSigned
  · intro number
    exact ⟨BigEndian.value_minimal number, BigEndian.head?_minimal number⟩

/-- A transfer of 1024 wei with data longer than 55 bytes. -/
def sampleTransfer : Eip1559TransactionRequest where
  chainId := 1
  nonce := .ofUint 0
  maxPriorityFeePerGas := .ofUint 127
  maxFeePerGas := .ofUint 128
  gas := .ofUint 21000
  toAddress := SizedBytes.replicate 20 7
  value := .ofUint 1024
  data := ⟨⟨List.replicate 56 1, by decide⟩⟩
  accessList := [⟨SizedBytes.replicate 20 8, []⟩]

def sampleTransferBytes : List UInt8 :=
  prepend eip1559TxType
    (RlpStream.new.extend (toRlpBytes sampleTransfer)).finalizeWithLengthPrefix

/-- What is hashed for the transfer reads back as its fields. -/
theorem transaction_bytes_unambiguous_sampleTransfer :
    sampleTransfer.toSigningHash lengthHash =
        keccak256 lengthHash sampleTransferBytes ∧
      sampleTransferBytes.length = 117 ∧
      ∃ list, sampleTransferBytes = 2 :: list ∧
        Rlp.decode list = some (.list sampleTransfer.fields) := by
  have isLength : sampleTransferBytes.length = 117 := by decide +kernel
  obtain ⟨signed, _⟩ := transaction_bytes_unambiguous lengthHash
  obtain ⟨list, hashed, splits⟩ := signed sampleTransfer
  have isBytes : sampleTransferBytes = 2 :: list :=
    List.singleton_inj.mp (congrArg Hashed.inputs hashed)
  have length := congrArg List.length isBytes
  rw [isLength, List.length_cons] at length
  exact ⟨rfl, isLength, list, isBytes, splits.splits (by omega)⟩

end RiskManagement
