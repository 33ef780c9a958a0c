import RiskManagement.Library.PrefixCode
import RiskManagement.Miniabi.EncoderImpl

/-!
# The encoding of each ABI type is prefix free

The offsets in the heads are not needed for this: equal types have equal head
widths, every tail ends where it ends, and the tails follow each other in the
order of the entries.
-/

namespace RiskManagement

open PrefixCode

/-! ### Words and byte strings -/

theorem encodeUint_injective {left right : Nat} (leftFits : left < 2 ^ 128)
    (rightFits : right < 2 ^ 128) (same : encodeUint left = encodeUint right) :
    left = right := by
  apply U256.ofUint_injective leftFits rightFits
  apply U256.toBeBytes_injective
  exact SizedBytes.ext same

theorem encodeUsize_length_injective {left right : Nat}
    (leftFits : left < 2 ^ 64) (rightFits : right < 2 ^ 64)
    (same : encodeUsize (.ofNat left) = encodeUsize (.ofNat right)) :
    left = right := by
  have sameWord := encodeUint_injective
    (by have := (UInt64.ofNat left).toNat_lt; omega)
    (by have := (UInt64.ofNat right).toNat_lt; omega) same
  simp only [UInt64.toNat_ofNat'] at sameWord
  rwa [Nat.mod_eq_of_lt leftFits, Nat.mod_eq_of_lt rightFits] at sameWord

theorem encodeAddress_length (value : Address) :
    (encodeAddress value).length = 32 := by
  simp [encodeAddress, value.size_eq]

theorem encodeAddress_injective {left right : Address}
    (same : encodeAddress left = encodeAddress right) : left = right :=
  SizedBytes.ext (List.append_cancel_left same)

theorem encodeByteString_prefixFree :
    PrefixFree (fun data => data.length < 2 ^ 64) encodeByteString := by
  intro left right leftRest rightRest leftFits rightFits same
  unfold encodeByteString padRightToMultipleOf32Bytes at same
  simp only [List.append_assoc] at same
  obtain ⟨sameWord, sameData⟩ := List.append_inj same (by simp)
  have sameLength :=
    encodeUsize_length_injective leftFits rightFits sameWord
  obtain ⟨sameBytes, samePadding⟩ := List.append_inj sameData sameLength
  rw [sameLength] at samePadding
  exact ⟨sameBytes, List.append_cancel_left samePadding⟩

/-! ### Heads and tails -/

/-- The heads of the remaining entries behind tails of `written` bytes. -/
def headsFrom (totalHeadSize : UInt64) :
    (written : Nat) → List (Bool × List UInt8) → List UInt8
  | _, [] => []
  | written, (true, enc) :: rest =>
      enc ++ headsFrom totalHeadSize written rest
  | written, (false, enc) :: rest =>
      encodeUsize (totalHeadSize + .ofNat written) ++
        headsFrom totalHeadSize (written + enc.length) rest

def tailsOf : List (Bool × List UInt8) → List UInt8
  | [] => []
  | (true, _) :: rest => tailsOf rest
  | (false, enc) :: rest => enc ++ tailsOf rest

theorem foldl_push (totalHeadSize : UInt64)
    (encodings : List (Bool × List UInt8)) (before : HeadsAndTails) :
    encodings.foldl (HeadsAndTails.push totalHeadSize) before =
      { heads := before.heads ++
          headsFrom totalHeadSize before.tails.length encodings
        tails := before.tails ++ tailsOf encodings } := by
  induction encodings generalizing before with
  | nil => simp [headsFrom, tailsOf]
  | cons entry rest induction =>
      obtain ⟨isStatic, enc⟩ := entry
      rw [List.foldl_cons, induction]
      cases isStatic <;>
        simp [HeadsAndTails.push, headsFrom, tailsOf]

theorem encodeTuple_eq (encodings : List (Bool × List UInt8)) :
    encodeTuple encodings =
      headsFrom (totalHeadSizeInBytes encodings) 0 encodings ++
        tailsOf encodings := by
  simp [encodeTuple, foldl_push]

/-! ### Entries -/

/-- The type's encodings end where they end. -/
abbrev AbiType.EncodesPrefixFree (type : AbiType) : Prop :=
  PrefixFree type.HasValue Value.encodeActualData

/-- Heads of equal types are equally wide; the values agree once the tails
agree too. -/
theorem heads_then_tails {types : List AbiType}
    (free : ∀ type ∈ types, type.EncodesPrefixFree)
    {left right : List Value} (leftTyped : AbiType.HasValues types left)
    (rightTyped : AbiType.HasValues types right)
    {leftSize rightSize : UInt64} {leftWritten rightWritten : Nat}
    {leftRest rightRest : List UInt8}
    (sameHeads :
      headsFrom leftSize leftWritten (Value.encodeItems left) ++ leftRest =
        headsFrom rightSize rightWritten (Value.encodeItems right) ++
          rightRest) :
    leftRest = rightRest ∧ ∀ leftEnd rightEnd,
      tailsOf (Value.encodeItems left) ++ leftEnd =
          tailsOf (Value.encodeItems right) ++ rightEnd →
        left = right ∧ leftEnd = rightEnd := by
  induction types generalizing left right leftWritten rightWritten with
  | nil =>
      cases leftTyped
      cases rightTyped
      refine ⟨sameHeads, ?_⟩
      intro leftEnd rightEnd sameTails
      exact ⟨rfl, sameTails⟩
  | cons type types induction =>
      obtain ⟨leftFirst, leftOthers, rfl, leftFirstTyped, leftTyped⟩ :=
        leftTyped
      obtain ⟨rightFirst, rightOthers, rfl, rightFirstTyped, rightTyped⟩ :=
        rightTyped
      have typeFree := free type List.mem_cons_self
      have othersFree : ∀ other ∈ types, other.EncodesPrefixFree := by
        intro other member
        exact free other (List.mem_cons_of_mem _ member)
      rw [Value.encodeItems, Value.encodeItems, leftFirstTyped.isStatic,
        rightFirstTyped.isStatic] at sameHeads ⊢
      cases static : type.isStatic with
      | true =>
          simp only [static, headsFrom, tailsOf, List.append_assoc]
            at sameHeads ⊢
          obtain ⟨sameFirst, sameHeads⟩ :=
            typeFree leftFirstTyped rightFirstTyped sameHeads
          obtain ⟨sameRest, sameTails⟩ :=
            induction othersFree leftTyped rightTyped sameHeads
          refine ⟨sameRest, ?_⟩
          intro leftEnd rightEnd tails
          obtain ⟨sameOthers, sameEnd⟩ := sameTails leftEnd rightEnd tails
          exact ⟨by rw [sameFirst, sameOthers], sameEnd⟩
      | false =>
          -- The two offsets may differ, but not in their width.
          simp only [static, headsFrom, tailsOf, List.append_assoc]
            at sameHeads ⊢
          have sameHeads := (List.append_inj sameHeads (by simp)).2
          obtain ⟨sameRest, sameTails⟩ :=
            induction othersFree leftTyped rightTyped sameHeads
          refine ⟨sameRest, ?_⟩
          intro leftEnd rightEnd tails
          obtain ⟨sameFirst, tails⟩ :=
            typeFree leftFirstTyped rightFirstTyped tails
          obtain ⟨sameOthers, sameEnd⟩ := sameTails leftEnd rightEnd tails
          exact ⟨by rw [sameFirst, sameOthers], sameEnd⟩

theorem encodeTuple_prefixFree {types : List AbiType}
    (free : ∀ type ∈ types, type.EncodesPrefixFree) :
    PrefixFree (AbiType.HasValues types)
      fun items => encodeTuple (Value.encodeItems items) := by
  intro left right leftRest rightRest leftTyped rightTyped same
  simp only [encodeTuple_eq, List.append_assoc] at same
  obtain ⟨sameTails, agree⟩ :=
    heads_then_tails free leftTyped rightTyped same
  exact agree leftRest rightRest sameTails

theorem dynamicArray_prefixFree {item : AbiType}
    (free : item.EncodesPrefixFree) :
    (AbiType.dynamicArray item).EncodesPrefixFree := by
  intro left right leftRest rightRest leftTyped rightTyped same
  obtain ⟨leftItems, rfl, leftFits, leftTyped⟩ := leftTyped
  obtain ⟨rightItems, rfl, rightFits, rightTyped⟩ := rightTyped
  simp only [Value.encodeActualData, List.append_assoc] at same
  obtain ⟨sameWord, sameItems⟩ := List.append_inj same (by simp)
  have sameLength :=
    encodeUsize_length_injective leftFits rightFits sameWord
  have leftValues := AbiType.hasValues_replicate item leftItems leftTyped
  have rightValues := AbiType.hasValues_replicate item rightItems rightTyped
  rw [← sameLength] at rightValues
  have itemsFree : ∀ type ∈ List.replicate leftItems.length item,
      type.EncodesPrefixFree := by
    intro type member
    rw [List.eq_of_mem_replicate member]
    exact free
  obtain ⟨sameEntries, sameRest⟩ :=
    encodeTuple_prefixFree itemsFree leftValues rightValues sameItems
  exact ⟨by rw [sameEntries], sameRest⟩

/-! ### All types -/

theorem uint_prefixFree {α : Type} {constructor : α → Value}
    (number : α → Nat) (fits : ∀ value, number value < 2 ^ 128)
    (injective : ∀ left right, number left = number right → left = right)
    (encodes : ∀ value,
      (constructor value).encodeActualData = encodeUint (number value)) :
    PrefixFree (fun value => ∃ v, value = constructor v)
      Value.encodeActualData := by
  apply prefixFree_of_width 32
  · intro value typed
    obtain ⟨v, rfl⟩ := typed
    rw [encodes, encodeUint_length]
  · intro left right leftTyped rightTyped same
    obtain ⟨leftValue, rfl⟩ := leftTyped
    obtain ⟨rightValue, rfl⟩ := rightTyped
    rw [encodes, encodes] at same
    rw [injective _ _ (encodeUint_injective (fits _) (fits _) same)]

theorem u256_prefixFree : AbiType.u256.EncodesPrefixFree := by
  apply prefixFree_of_width 32
  · intro value typed
    obtain ⟨v, rfl⟩ := typed
    exact v.toBeBytes.size_eq
  · intro left right leftTyped rightTyped same
    obtain ⟨leftValue, rfl⟩ := leftTyped
    obtain ⟨rightValue, rfl⟩ := rightTyped
    rw [U256.toBeBytes_injective (SizedBytes.ext same)]

theorem address_prefixFree : AbiType.address.EncodesPrefixFree := by
  apply prefixFree_of_width 32
  · intro value typed
    obtain ⟨v, rfl⟩ := typed
    exact encodeAddress_length v
  · intro left right leftTyped rightTyped same
    obtain ⟨leftValue, rfl⟩ := leftTyped
    obtain ⟨rightValue, rfl⟩ := rightTyped
    rw [encodeAddress_injective same]

theorem bytes32_prefixFree : AbiType.bytes32.EncodesPrefixFree := by
  apply prefixFree_of_width 32
  · intro value typed
    obtain ⟨v, rfl⟩ := typed
    exact v.size_eq
  · intro left right leftTyped rightTyped same
    obtain ⟨leftValue, rfl⟩ := leftTyped
    obtain ⟨rightValue, rfl⟩ := rightTyped
    exact congrArg Value.bytes32 (SizedBytes.ext same)

theorem bytes_prefixFree : AbiType.bytes.EncodesPrefixFree := by
  intro left right leftRest rightRest leftTyped rightTyped same
  obtain ⟨leftValue, rfl⟩ := leftTyped
  obtain ⟨rightValue, rfl⟩ := rightTyped
  obtain ⟨sameData, sameRest⟩ := encodeByteString_prefixFree
    leftValue.data_length_lt rightValue.data_length_lt same
  exact ⟨congrArg Value.bytes (Bytes.ext sameData), sameRest⟩

theorem string_prefixFree : AbiType.string.EncodesPrefixFree := by
  intro left right leftRest rightRest leftTyped rightTyped same
  obtain ⟨leftValue, rfl, leftFits⟩ := leftTyped
  obtain ⟨rightValue, rfl, rightFits⟩ := rightTyped
  obtain ⟨sameData, sameRest⟩ :=
    encodeByteString_prefixFree leftFits rightFits same
  have sameString : leftValue = rightValue := by
    apply String.toByteArray_inj.mp
    apply ByteArray.ext
    exact Array.toList_inj.mp sameData
  exact ⟨by rw [sameString], sameRest⟩

mutual

theorem AbiType.encodesPrefixFree :
    ∀ type : AbiType, type.EncodesPrefixFree
  | .bool => uint_prefixFree Bool.toNat
      (fun value => by cases value <;> decide)
      (fun left right => by cases left <;> cases right <;> decide)
      fun _ => by rw [Value.encodeActualData]
  | .u256 => u256_prefixFree
  | .u128 => uint_prefixFree BitVec.toNat (fun value => value.isLt)
      (fun _ _ => BitVec.eq_of_toNat_eq) fun _ => by
        rw [Value.encodeActualData]
  | .u64 => uint_prefixFree UInt64.toNat
      (fun value => value.toNat_lt.trans (by decide))
      (fun _ _ => UInt64.toNat_inj.mp) fun _ => by rw [Value.encodeActualData]
  | .u32 => uint_prefixFree UInt32.toNat
      (fun value => value.toNat_lt.trans (by decide))
      (fun _ _ => UInt32.toNat_inj.mp) fun _ => by rw [Value.encodeActualData]
  | .u16 => uint_prefixFree UInt16.toNat
      (fun value => value.toNat_lt.trans (by decide))
      (fun _ _ => UInt16.toNat_inj.mp) fun _ => by rw [Value.encodeActualData]
  | .u8 => uint_prefixFree UInt8.toNat
      (fun value => value.toNat_lt.trans (by decide))
      (fun _ _ => UInt8.toNat_inj.mp) fun _ => by rw [Value.encodeActualData]
  | .address => address_prefixFree
  | .bytes32 => bytes32_prefixFree
  | .bytes => bytes_prefixFree
  | .string => string_prefixFree
  | .dynamicArray item => dynamicArray_prefixFree item.encodesPrefixFree
  | .tuple types => by
      intro left right leftRest rightRest leftTyped rightTyped same
      obtain ⟨leftItems, rfl, leftTyped⟩ := leftTyped
      obtain ⟨rightItems, rfl, rightTyped⟩ := rightTyped
      obtain ⟨sameItems, sameRest⟩ := encodeTuple_prefixFree
        (AbiType.allEncodePrefixFree types) leftTyped rightTyped same
      exact ⟨by rw [sameItems], sameRest⟩

theorem AbiType.allEncodePrefixFree :
    ∀ types : List AbiType, ∀ type ∈ types, type.EncodesPrefixFree
  | [], _, member => absurd member List.not_mem_nil
  | first :: rest, type, member => by
      rcases List.mem_cons.mp member with same | member
      · rw [same]
        exact first.encodesPrefixFree
      · exact AbiType.allEncodePrefixFree rest type member

end

/-! ### Whole encodings -/

theorem Value.encode_of_ne_tuple {value : Value}
    (noTuple : ∀ items, value ≠ .tuple items) :
    value.encode = (Value.tuple [value]).encodeActualData := by
  unfold Value.encode
  split
  · exact absurd rfl (noTuple _)
  · rfl

theorem AbiType.HasValue.ne_tuple {type : AbiType} {value : Value}
    (typed : type.HasValue value) (noTuple : ∀ types, type ≠ .tuple types)
    (items : List Value) : value ≠ .tuple items := by
  intro same
  subst same
  cases type with
  | tuple types => exact noTuple types rfl
  | _ =>
      obtain ⟨_, same⟩ := typed
      simp at same

/-- Two values of one type are equal when their encodings are. -/
theorem Value.encode_injective {type : AbiType} {left right : Value}
    (leftTyped : type.HasValue left) (rightTyped : type.HasValue right)
    (same : left.encode = right.encode) : left = right := by
  by_cases isTuple : ∃ types, type = .tuple types
  · obtain ⟨types, rfl⟩ := isTuple
    have prefixFree := AbiType.encodesPrefixFree (.tuple types)
    obtain ⟨leftItems, rfl, leftItemsTyped⟩ := leftTyped
    obtain ⟨rightItems, rfl, rightItemsTyped⟩ := rightTyped
    exact prefixFree.injective ⟨_, rfl, leftItemsTyped⟩
      ⟨_, rfl, rightItemsTyped⟩ same
  · -- Every other value is the one entry of a tuple.
    push Not at isTuple
    rw [Value.encode_of_ne_tuple (leftTyped.ne_tuple isTuple),
      Value.encode_of_ne_tuple (rightTyped.ne_tuple isTuple)] at same
    have prefixFree := AbiType.encodesPrefixFree (.tuple [type])
    have wrapped := prefixFree.injective
      ⟨_, rfl, left, [], rfl, leftTyped, rfl⟩
      ⟨_, rfl, right, [], rfl, rightTyped, rfl⟩ same
    simpa using wrapped

end RiskManagement
