import RiskManagement.Minieth.LegacyChain
import RiskManagement.Minieth.SizedHex

/-!
# The command that signs a manual transaction

The options are texts of the command line.  The keystore file is the
environment: `keystore` is the list of its values, or why it was not read.
-/

namespace RiskManagement

/-! ### Options -/

/-- `T::from_str(s).map_err(|e| e.to_string())`. -/
def withMessage {α : Type} (parsed : Option (Except BytesDecodeError α)) :
    Option (Except String α) :=
  parsed.map fun result => result.mapError BytesDecodeError.message

/-- The parser of the options that are addresses. -/
def addressFromHexWith0xPrefix (s : String) : Option (Except String Address) :=
  match Hex.stripPrefix s.toList with
  | some without0x =>
      withMessage (SizedBytes.fromStr 20 (String.ofList without0x))
  | none => some (.error "missing 0x prefix")

/-- The parser of the option for the data. -/
def bytesFromEvenLengthHexWith0xPrefix (s : String) :
    Option (Except String Bytes) :=
  match Hex.stripPrefix s.toList with
  | some without0x =>
      if (String.ofList without0x).utf8ByteSize % 2 = 0 then
        withMessage (Bytes.fromStr (String.ofList without0x))
      else
        some (.error "invalid odd-length hex string")
  | none => some (.error "missing 0x prefix")

/-! ### The command -/

/-- The two keys of a node for one chain. -/
structure BlessCurseKeys where
  bless : EthereumSigner
  curse : EthereumSigner

/-- `fromAddress` and `toAddress` are the options `from` and `to`. -/
structure SignManualTransaction where
  keystore : String
  chainId : UInt64
  nonce : UInt64
  gasPriceInWei : BitVec 128
  gas : BitVec 128
  fromAddress : Address
  toAddress : Address
  valueInWei : BitVec 128
  dataHex : Bytes
  iReallyKnowWhatIAmDoing : Bool

namespace SignManualTransaction

/-- Where the command ends without a signed transaction. -/
inductive Failure where
  | notConfirmed
  | unreadable (detail : String)
  | noMatch (fromAddress : Address) (file : String)
deriving DecidableEq

/-- What is printed. -/
def Failure.message : Failure → String
  | notConfirmed => "Please provide flag '--i-really-know-what-i-am-doing' " ++
      "and make sure you understand the risk of signing an arbirary " ++
      "manual transaction"
  | unreadable detail => detail
  | noMatch fromAddress file => "no matching found for " ++
      fromAddress.toString ++ " in keystore " ++ file

/-- The loop over the keys of the chains. -/
def findKey (fromAddress : Address) :
    List BlessCurseKeys → Option EthereumSigner
  | [] => none
  | keys :: rest =>
      if keys.bless.address = fromAddress then
        some keys.bless
      else if keys.curse.address = fromAddress then
        some keys.curse
      else
        findKey fromAddress rest

/-- The transaction that is signed. -/
def txRequest (self : SignManualTransaction) : LegacyTransactionRequest where
  chainId := self.chainId
  nonce := .ofUint self.nonce.toNat
  gasPrice := .new self.gasPriceInWei
  gas := .new self.gas
  toAddress := self.toAddress
  value := .new self.valueInWei
  data := self.dataHex

/-- The text of the signed transaction, which the command prints. -/
def executeCmd (keccak : Keccak)
    (keystore : Except String (List BlessCurseKeys))
    (self : SignManualTransaction) : Except Failure (Hashed String) :=
  if !self.iReallyKnowWhatIAmDoing then
    .error .notConfirmed
  else
    match keystore with
    | .error detail => .error (.unreadable detail)
    | .ok chains =>
        match findKey self.fromAddress chains with
        | none => .error (.noMatch self.fromAddress self.keystore)
        | some key => .ok do
            let transaction ← self.txRequest.sign keccak key
            return Hex.encode transaction.toRlpBytes

theorem findKey_address {fromAddress : Address} {chains : List BlessCurseKeys}
    {key : EthereumSigner} (found : findKey fromAddress chains = some key) :
    key.address = fromAddress := by
  induction chains with
  | nil => cases found
  | cons keys rest ih =>
      rw [findKey] at found
      split at found
      · rename_i isBless
        cases found
        exact isBless
      · split at found
        · rename_i isCurse
          cases found
          exact isCurse
        · exact ih found

/-- What is printed is the request of the options, hashed once and signed with
a key of the sender. -/
theorem executeCmd_prints {keccak : Keccak}
    {keystore : Except String (List BlessCurseKeys)}
    {self : SignManualTransaction} {printed : Hashed String}
    (executed : self.executeCmd keccak keystore = .ok printed) :
    ∃ (key : EthereumSigner) (transaction : LegacyTransaction),
      key.address = self.fromAddress ∧ transaction.req = self.txRequest ∧
        transaction.sig = key.signHashed
          (self.txRequest.toSigningHash keccak).value ∧
        printed.inputs = (self.txRequest.toSigningHash keccak).inputs ∧
        Hex.decode printed.value = some (some transaction.toRlpBytes) := by
  rw [executeCmd.eq_def] at executed
  split at executed
  · cases executed
  · split at executed
    · cases executed
    · rename_i chains
      split at executed
      · cases executed
      · rename_i key found
        cases executed
        refine ⟨key, (self.txRequest.sign keccak key).value,
          findKey_address found, rfl, rfl, ?_, ?_⟩
        · simp [LegacyTransactionRequest.sign]
        · exact Hex.decode_of_encode _

end SignManualTransaction

/-! ### Odd numbers of digits -/

/-- The options for addresses take a text that is one digit short. -/
theorem addressFromHexWith0xPrefix_short {text : List Char}
    (short : SizedBytes.OneDigitShort 20 (String.ofList text)) :
    ∃ address, addressFromHexWith0xPrefix ("0x" ++ String.ofList text) =
      some (.ok address) := by
  obtain ⟨areDigits, length⟩ := SizedBytes.oneDigitShort_iff.mp short
  obtain ⟨address, parsed, _⟩ :=
    SizedBytes.fromStr_size 20 areDigits (by omega)
  refine ⟨address, ?_⟩
  rw [addressFromHexWith0xPrefix, Hex.stripPrefix_prefixed]
  simp only [parsed]
  rfl

/-- The option for data refuses every odd number of digits. -/
theorem bytesFromEvenLengthHexWith0xPrefix_odd {text : List Char}
    (odd : (String.ofList text).utf8ByteSize % 2 = 1) :
    bytesFromEvenLengthHexWith0xPrefix ("0x" ++ String.ofList text) =
      some (.error "invalid odd-length hex string") := by
  rw [bytesFromEvenLengthHexWith0xPrefix, Hex.stripPrefix_prefixed]
  simp only
  rw [if_neg (by omega)]

end RiskManagement
