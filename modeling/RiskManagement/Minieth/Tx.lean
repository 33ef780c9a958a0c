import RiskManagement.Minieth.Keccak
import RiskManagement.Minieth.Rlp

/-!
# Transactions

A request is signed over the hash of its encoding and serialized together with
the signature.  The signature scheme is a third-party function behind
`EthereumSigner`.
-/

namespace RiskManagement

def eip1559TxType : UInt8 := 2

/-- An address and the storage that a transaction reads of it. -/
structure AccessListRecord where
  address : Address
  storageKeys : List Bytes32
deriving DecidableEq

namespace AccessListRecord

/-- The stream that `to_rlp_bytes` builds. -/
def rlp (self : AccessListRecord) : RlpStream :=
  (RlpStream.new.push self.address).push self.storageKeys

instance : RlpEncodable AccessListRecord where
  toRlpBytes self := self.rlp.finalizeWithLengthPrefix

end AccessListRecord

/-- The three numbers of a recoverable signature. -/
structure EthereumSignature where
  v : U256
  r : U256
  s : U256
deriving DecidableEq

namespace EthereumSignature

/-- The stream that the three numbers are pushed onto. -/
def rlp (self : EthereumSignature) : RlpStream :=
  ((RlpStream.new.push self.v).push self.r).push self.s

instance : RlpEncodable EthereumSignature where
  toRlpBytes self := self.rlp.finalizeWithoutLengthPrefix

/-- The arithmetic on `u64` wraps. -/
def toLegacy (self : EthereumSignature) (chainId : UInt64) :
    EthereumSignature :=
  if self.v.toNat = 0 ∨ self.v.toNat = 1 then
    { self with
      v := .ofUint (chainId * 2 + 35 + .ofNat self.v.toNat).toNat }
  else
    self

end EthereumSignature

/-- A key of which only the signatures and the address are known. -/
structure EthereumSigner where
  signHashed : Bytes32 → EthereumSignature
  address : Address

/-- `toAddress` is the field `to`. -/
structure Eip1559TransactionRequest where
  chainId : UInt64
  nonce : U256
  maxPriorityFeePerGas : U256
  maxFeePerGas : U256
  gas : U256
  toAddress : Address
  value : U256
  data : Bytes
  accessList : List AccessListRecord
deriving DecidableEq

/-- A signed request. -/
structure Eip1559Transaction where
  req : Eip1559TransactionRequest
  sig : EthereumSignature
deriving DecidableEq

/-- `bytes::prepend`. -/
def prepend (first : UInt8) (bytes : List UInt8) : List UInt8 :=
  first :: bytes

namespace Eip1559TransactionRequest

def rlp (self : Eip1559TransactionRequest) : RlpStream :=
  ((((((((RlpStream.new.push self.chainId).push self.nonce).push
    self.maxPriorityFeePerGas).push self.maxFeePerGas).push self.gas).push
      self.toAddress).push self.value).push self.data).push self.accessList

instance : RlpEncodable Eip1559TransactionRequest where
  toRlpBytes self := self.rlp.finalizeWithoutLengthPrefix

/-- The hash of the type and the list of the fields. -/
def toSigningHash (keccak : Keccak) (self : Eip1559TransactionRequest) :
    Hashed Bytes32 :=
  let rlp := RlpStream.new.extend (toRlpBytes self)
  keccak256 keccak (prepend eip1559TxType rlp.finalizeWithLengthPrefix)

def sign (keccak : Keccak) (self : Eip1559TransactionRequest)
    (signer : EthereumSigner) : Hashed Eip1559Transaction := do
  let hashed ← self.toSigningHash keccak
  return { req := self, sig := signer.signHashed hashed }

end Eip1559TransactionRequest

/-- The type, then the fields and the signature in one list. -/
def Eip1559Transaction.toRlpBytes (self : Eip1559Transaction) : List UInt8 :=
  let rlp := (RlpStream.new.push self.req).push self.sig
  prepend eip1559TxType rlp.finalizeWithLengthPrefix

/-- What is signed, from before EIP-1559. -/
structure LegacyTransactionRequest where
  chainId : UInt64
  nonce : U256
  gasPrice : U256
  gas : U256
  toAddress : Address
  value : U256
  data : Bytes
deriving DecidableEq

/-- A signed request. -/
structure LegacyTransaction where
  req : LegacyTransactionRequest
  sig : EthereumSignature
deriving DecidableEq

namespace LegacyTransactionRequest

def rlp (self : LegacyTransactionRequest) : RlpStream :=
  (((((RlpStream.new.push self.nonce).push self.gasPrice).push self.gas).push
    self.toAddress).push self.value).push self.data

instance : RlpEncodable LegacyTransactionRequest where
  toRlpBytes self := self.rlp.finalizeWithoutLengthPrefix

/-- The list ends with the chain's id and two zeros. -/
def toSigningHash (keccak : Keccak) (self : LegacyTransactionRequest) :
    Hashed Bytes32 :=
  let rlp := (((RlpStream.new.extend (toRlpBytes self)).push
    self.chainId).push (U256.ofUint 0)).push (U256.ofUint 0)
  keccak256 keccak rlp.finalizeWithLengthPrefix

def sign (keccak : Keccak) (self : LegacyTransactionRequest)
    (signer : EthereumSigner) : Hashed LegacyTransaction := do
  let hashed ← self.toSigningHash keccak
  return { req := self, sig := signer.signHashed hashed }

end LegacyTransactionRequest

/-- The fields and the signature in one list, without a type. -/
def LegacyTransaction.toRlpBytes (self : LegacyTransaction) : List UInt8 :=
  let rlp := (RlpStream.new.push self.req).push
    (self.sig.toLegacy self.req.chainId)
  rlp.finalizeWithLengthPrefix

end RiskManagement
