import RiskManagement.Library.BigEndian
import RiskManagement.Minieth.Bytes

/-!
# 256-bit unsigned integers

Two 128-bit halves, written as 32 big-endian bytes.
-/

namespace RiskManagement

/-- Two halves, the high one first. -/
structure U256 where
  hi : BitVec 128
  lo : BitVec 128
deriving DecidableEq

/-- Why a number does not fit a smaller type. -/
inductive TryFromU256Error where
  | overflow
deriving DecidableEq

def TryFromU256Error.message : TryFromU256Error → String
  | overflow => "overflow"

namespace U256

def new (value : BitVec 128) : U256 := ⟨0, value⟩

/-- The number the two halves stand for. -/
def toNat (value : U256) : Nat := value.hi.toNat * 2 ^ 128 + value.lo.toNat

/-- `U256::from` of an unsigned integer of at most 128 bits. -/
def ofUint (value : Nat) : U256 := .new (.ofNat 128 value)

/-- The high half first. -/
def toBeBytes (value : U256) : Bytes32 :=
  ⟨BigEndian.digits 16 value.hi.toNat ++ BigEndian.digits 16 value.lo.toNat,
    by simp⟩

def fromBeBytes (bytes : Bytes32) : U256 where
  hi := .ofNat 128 (BigEndian.value (bytes.data.take 16))
  lo := .ofNat 128 (BigEndian.value (bytes.data.drop 16))

/-- Fails unless the number fits. -/
def tryIntoU64 (value : U256) : Except TryFromU256Error UInt64 :=
  if value.hi ≠ 0 then
    .error .overflow
  else if value.lo.toNat < 2 ^ 64 then
    .ok (.ofNat value.lo.toNat)
  else
    .error .overflow

theorem toNat_lt (value : U256) : value.toNat < 2 ^ 256 := by
  have high := value.hi.isLt
  have low := value.lo.isLt
  rw [toNat]
  omega

theorem ofUint_toNat {value : Nat} (fits : value < 2 ^ 128) :
    (ofUint value).toNat = value := by
  simpa [ofUint, new, toNat] using fits

theorem ofUint_injective {left right : Nat} (leftFits : left < 2 ^ 128)
    (rightFits : right < 2 ^ 128) (same : ofUint left = ofUint right) :
    left = right := by
  rw [← ofUint_toNat leftFits, same, ofUint_toNat rightFits]

private theorem word_fits (word : BitVec 128) : word.toNat < 256 ^ 16 := by
  have width : (256 : Nat) ^ 16 = 2 ^ 128 := by decide
  rw [width]
  exact word.isLt

private theorem ofNat_value_digits (word : BitVec 128) :
    BitVec.ofNat 128 (BigEndian.value (BigEndian.digits 16 word.toNat)) =
      word := by
  rw [BigEndian.value_digits_of_lt (word_fits word), BitVec.ofNat_toNat,
    BitVec.setWidth_eq]

theorem fromBeBytes_toBeBytes (value : U256) :
    fromBeBytes value.toBeBytes = value := by
  obtain ⟨hi, lo⟩ := value
  rw [fromBeBytes, toBeBytes]
  rw [List.take_left' (BigEndian.length_digits 16 hi.toNat),
    List.drop_left' (BigEndian.length_digits 16 hi.toNat),
    ofNat_value_digits, ofNat_value_digits]

/-- Sixteen bytes are read back from the half they spell. -/
private theorem digits_ofNat_value {bytes : List UInt8}
    (sixteen : bytes.length = 16) :
    BigEndian.digits 16 (BitVec.ofNat 128 (BigEndian.value bytes)).toNat =
      bytes := by
  have bound : BigEndian.value bytes < 2 ^ 128 := by
    have below := BigEndian.value_lt bytes
    rw [sixteen] at below
    exact below
  have digits := BigEndian.digits_value bytes
  rw [sixteen] at digits
  rw [BitVec.toNat_ofNat, Nat.mod_eq_of_lt bound]
  exact digits

theorem toBeBytes_fromBeBytes (bytes : Bytes32) :
    (fromBeBytes bytes).toBeBytes = bytes := by
  apply SizedBytes.ext
  have high : (bytes.data.take 16).length = 16 := by
    rw [List.length_take, bytes.size_eq]
    rfl
  have low : (bytes.data.drop 16).length = 16 := by
    rw [List.length_drop, bytes.size_eq]
  rw [toBeBytes, fromBeBytes]
  simp only [digits_ofNat_value high, digits_ofNat_value low]
  exact List.take_append_drop 16 bytes.data

theorem toBeBytes_data (value : U256) :
    value.toBeBytes.data = BigEndian.digits 32 value.toNat := by
  have width : (256 : Nat) ^ 16 = 2 ^ 128 := by decide
  have low := value.lo.isLt
  have high : value.toNat / 256 ^ 16 = value.hi.toNat := by
    rw [width, toNat, Nat.mul_comm, Nat.mul_add_div (Nat.two_pow_pos 128),
      Nat.div_eq_of_lt low, Nat.add_zero]
  have lower : value.toNat % 256 ^ 16 = value.lo.toNat := by
    rw [width, toNat, Nat.mul_comm, Nat.mul_add_mod, Nat.mod_eq_of_lt low]
  have halves := BigEndian.digits_add 16 16 value.toNat
  rw [high, ← BigEndian.digits_mod 16 value.toNat, lower] at halves
  exact halves.symm

theorem toNat_injective {left right : U256}
    (same : left.toNat = right.toNat) : left = right := by
  have leftLow := left.lo.isLt
  have rightLow := right.lo.isLt
  rw [toNat, toNat] at same
  have high : left.hi = right.hi := BitVec.eq_of_toNat_eq (by omega)
  have low : left.lo = right.lo := BitVec.eq_of_toNat_eq (by omega)
  cases left
  cases right
  cases high
  cases low
  rfl

theorem toBeBytes_injective {left right : U256}
    (same : left.toBeBytes = right.toBeBytes) : left = right := by
  rw [← fromBeBytes_toBeBytes left, same, fromBeBytes_toBeBytes]

end U256

end RiskManagement
