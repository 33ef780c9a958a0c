import RiskManagement.Library.BigEndian
import RiskManagement.Library.PrefixCode

/-!
# Recursive length prefixes

An item is a byte string or a list of items.  Its encoding is read from the
front: the first byte tells a single byte, a string or a list, and together
with the bytes of a long length how many bytes belong to it.  The decoder takes
shortest forms only.
-/

namespace Rlp

/-- What is encoded: a byte string or a list of items. -/
inductive Item where
  | bytes (data : List UInt8)
  | list (items : List Item)

/-- A number is the shortest string of its big-endian digits. -/
def Item.number (value : Nat) : Item :=
  .bytes (BigEndian.minimal value)

theorem Item.number_injective {left right : Nat}
    (same : Item.number left = Item.number right) : left = right := by
  rw [Item.number, Item.number, Item.bytes.injEq] at same
  rw [← BigEndian.value_minimal left, same, BigEndian.value_minimal]

/-! ### Encoding -/

/-- The bytes in front of a payload; `base` is 128 for strings and 192 for
lists. -/
def header (base length : Nat) : List UInt8 :=
  if length ≤ 55 then
    [.ofNat (base + length)]
  else
    .ofNat (base + 55 + (BigEndian.minimal length).length) ::
      BigEndian.minimal length

/-- A byte below 128 stands for itself. -/
def encodeBytes (data : List UInt8) : List UInt8 :=
  match data with
  | [byte] => if byte < 0x80 then [byte] else header 128 1 ++ [byte]
  | _ => header 128 data.length ++ data

def encodeList (payload : List UInt8) : List UInt8 :=
  header 192 payload.length ++ payload

mutual

/-- The encoding of an item. -/
def encode : Item → List UInt8
  | .bytes data => encodeBytes data
  | .list items => encodeList (encodeAll items)

def encodeAll : List Item → List UInt8
  | [] => []
  | item :: items => encode item ++ encodeAll items

end

/-! ### Decoding -/

/-- Splits off as many bytes as are asked for. -/
def takeExactly (count : Nat) (input : List UInt8) :
    Option (List UInt8 × List UInt8) :=
  if count ≤ input.length then some (input.splitAt count) else none

/-- A length that does not fit the first byte, without leading zeros. -/
def readLength (width : Nat) (input : List UInt8) :
    Option (Nat × List UInt8) := do
  let digits ← takeExactly width input
  if digits.1.head? = some 0 ∨ BigEndian.value digits.1 ≤ 55 then
    none
  else
    some (BigEndian.value digits.1, digits.2)

/-- The payload behind a first byte that is `tag` above its base. -/
def readPayload (tag : Nat) (input : List UInt8) :
    Option (List UInt8 × List UInt8) :=
  if tag ≤ 55 then
    takeExactly tag input
  else do
    let length ← readLength (tag - 55) input
    takeExactly length.1 length.2

/-- A string of one byte below 128 needs no header. -/
def isSelfEncoded (data : List UInt8) : Bool :=
  match data with
  | [byte] => byte < 0x80
  | _ => false

mutual

/-- Reads one item from the front and leaves the rest. -/
def decodeItem : Nat → List UInt8 → Option (Item × List UInt8)
  | 0, _ => none
  | _ + 1, [] => none
  | fuel + 1, first :: rest =>
      if first.toNat < 128 then
        some (.bytes [first], rest)
      else if first.toNat < 192 then do
        let payload ← readPayload (first.toNat - 128) rest
        if isSelfEncoded payload.1 then
          none
        else
          some (.bytes payload.1, payload.2)
      else do
        let payload ← readPayload (first.toNat - 192) rest
        let items ← decodeItems fuel payload.1
        some (.list items, payload.2)

/-- Reads items until nothing is left. -/
def decodeItems : Nat → List UInt8 → Option (List Item)
  | _, [] => some []
  | 0, _ :: _ => none
  | fuel + 1, first :: rest => do
      let item ← decodeItem fuel (first :: rest)
      let items ← decodeItems fuel item.2
      some (item.1 :: items)

end

/-- The item that all of the input encodes. -/
def decode (input : List UInt8) : Option Item :=
  match decodeItem (2 * input.length) input with
  | some (item, []) => some item
  | _ => none

/-! ### Headers -/

/-- Both bases leave room for the length of a length. -/
def IsBase (base : Nat) : Prop := base = 128 ∨ base = 192

theorem length_minimal_word {length : Nat} (fits : length < 2 ^ 64) :
    (BigEndian.minimal length).length ≤ 8 := by
  apply BigEndian.length_minimal_le
  have width : (256 : Nat) ^ 8 = 2 ^ 64 := by decide
  rw [width]
  exact fits

theorem header_fits {base length : Nat} (isBase : IsBase base)
    (fits : length < 2 ^ 64) :
    (length ≤ 55 → base + length < 256) ∧
      base + 55 + (BigEndian.minimal length).length < 256 := by
  have short := length_minimal_word fits
  rcases isBase with isString | isList
  · omega
  · omega

theorem takeExactly_append (data rest : List UInt8) :
    takeExactly data.length (data ++ rest) = some (data, rest) := by
  rw [takeExactly, if_pos (by simp), List.splitAt_eq, List.take_left,
    List.drop_left]

theorem readLength_append {length : Nat} (long : 55 < length)
    (rest : List UInt8) :
    readLength (BigEndian.minimal length).length
        (BigEndian.minimal length ++ rest) = some (length, rest) := by
  have notShort : ¬ length ≤ 55 := by omega
  rw [readLength, takeExactly_append]
  simp [BigEndian.head?_minimal, BigEndian.value_minimal, notShort]

theorem readPayload_short {payload : List UInt8}
    (short : payload.length ≤ 55) (rest : List UInt8) :
    readPayload payload.length (payload ++ rest) = some (payload, rest) := by
  rw [readPayload, if_pos short, takeExactly_append]

theorem readPayload_long {payload : List UInt8}
    (long : 55 < payload.length) (rest : List UInt8) :
    readPayload (55 + (BigEndian.minimal payload.length).length)
        (BigEndian.minimal payload.length ++ (payload ++ rest)) =
      some (payload, rest) := by
  have positive : 0 < (BigEndian.minimal payload.length).length := by
    apply List.length_pos_of_ne_nil
    intro none
    have zero := BigEndian.value_minimal payload.length
    rw [none] at zero
    have isZero : 0 = payload.length := zero
    omega
  rw [readPayload, if_neg (by omega), Nat.add_sub_cancel_left,
    readLength_append long]
  exact takeExactly_append payload rest

/-- The header is a byte at or above its base, and with what follows it the
payload is found again. -/
theorem readPayload_header {base : Nat} (isBase : IsBase base)
    {payload : List UInt8} (fits : payload.length < 2 ^ 64)
    (rest : List UInt8) :
    ∃ first digits, header base payload.length = first :: digits ∧
      base ≤ first.toNat ∧ first.toNat < base + 64 ∧
      readPayload (first.toNat - base) (digits ++ (payload ++ rest)) =
        some (payload, rest) := by
  have bounds := header_fits isBase fits
  have few := length_minimal_word fits
  by_cases short : payload.length ≤ 55
  · refine ⟨.ofNat (base + payload.length), [], ?_, ?_⟩
    · rw [header, if_pos short]
    · have toNat_first :
          (UInt8.ofNat (base + payload.length)).toNat =
            base + payload.length :=
        Nat.mod_eq_of_lt (bounds.1 short)
      rw [toNat_first]
      refine ⟨by omega, by omega, ?_⟩
      rw [Nat.add_sub_cancel_left]
      exact readPayload_short short rest
  · refine ⟨.ofNat (base + 55 + (BigEndian.minimal payload.length).length),
      BigEndian.minimal payload.length, ?_, ?_⟩
    · rw [header, if_neg short]
    · have toNat_first :
          (UInt8.ofNat (base + 55 +
            (BigEndian.minimal payload.length).length)).toNat =
            base + 55 + (BigEndian.minimal payload.length).length :=
        Nat.mod_eq_of_lt bounds.2
      rw [toNat_first]
      refine ⟨by omega, by omega, ?_⟩
      rw [Nat.add_assoc, Nat.add_sub_cancel_left]
      exact readPayload_long (Nat.lt_of_not_le short) rest

/-! ### Round trip -/

theorem encodeBytes_of_selfEncoded {data : List UInt8}
    (selfEncoded : isSelfEncoded data = true) : encodeBytes data = data := by
  match data with
  | [] => cases selfEncoded
  | [byte] =>
      have small : byte < 0x80 := of_decide_eq_true selfEncoded
      exact if_pos small
  | first :: second :: rest => cases selfEncoded

theorem encodeBytes_of_not_selfEncoded {data : List UInt8}
    (notSelf : isSelfEncoded data = false) :
    encodeBytes data = header 128 data.length ++ data := by
  match data with
  | [] => rfl
  | [byte] =>
      have large : ¬ byte < 0x80 := of_decide_eq_false notSelf
      exact if_neg large
  | first :: second :: rest => rfl

theorem length_header_pos (base length : Nat) :
    0 < (header base length).length := by
  rw [header]
  split
  · simp
  · simp

theorem length_encodeList (payload : List UInt8) :
    payload.length < (encodeList payload).length := by
  have positive := length_header_pos 192 payload.length
  rw [encodeList, List.length_append]
  omega

theorem length_le_encodeBytes (data : List UInt8) :
    data.length ≤ (encodeBytes data).length := by
  cases selfEncoded : isSelfEncoded data with
  | true => rw [encodeBytes_of_selfEncoded selfEncoded]
  | false =>
      rw [encodeBytes_of_not_selfEncoded selfEncoded, List.length_append]
      omega

theorem length_encodeBytes_pos (data : List UInt8) :
    0 < (encodeBytes data).length := by
  cases selfEncoded : isSelfEncoded data with
  | true =>
      rw [encodeBytes_of_selfEncoded selfEncoded]
      cases data with
      | nil => cases selfEncoded
      | cons first rest => simp
  | false =>
      have positive := length_header_pos 128 data.length
      rw [encodeBytes_of_not_selfEncoded selfEncoded, List.length_append]
      omega

theorem length_encode_pos (item : Item) : 0 < (encode item).length := by
  cases item with
  | bytes data => exact length_encodeBytes_pos data
  | list items =>
      have longer := length_encodeList (encodeAll items)
      rw [encode]
      omega

theorem decodeItem_encodeBytes {data : List UInt8}
    (fits : data.length < 2 ^ 64) (fuel : Nat) (rest : List UInt8) :
    decodeItem (fuel + 1) (encodeBytes data ++ rest) =
      some (.bytes data, rest) := by
  cases selfEncoded : isSelfEncoded data with
  | true =>
      rw [encodeBytes_of_selfEncoded selfEncoded]
      match data with
      | [] => cases selfEncoded
      | [byte] =>
          have small : byte < 0x80 := of_decide_eq_true selfEncoded
          have natSmall : byte.toNat < 128 := small
          rw [List.singleton_append, decodeItem, if_pos natSmall]
      | first :: second :: rest => cases selfEncoded
  | false =>
      obtain ⟨first, digits, isHeader, low, high, reads⟩ :=
        readPayload_header (.inl rfl) fits rest
      rw [encodeBytes_of_not_selfEncoded selfEncoded, isHeader,
        List.append_assoc, List.cons_append, decodeItem,
        if_neg (by omega), if_pos (by omega), reads]
      simp [selfEncoded]

theorem decodeItem_encodeList {items : List Item} {payload : List UInt8}
    (fits : payload.length < 2 ^ 64) {fuel : Nat}
    (readBack : decodeItems fuel payload = some items)
    (rest : List UInt8) :
    decodeItem (fuel + 1) (encodeList payload ++ rest) =
      some (.list items, rest) := by
  obtain ⟨first, digits, isHeader, low, high, reads⟩ :=
    readPayload_header (.inr rfl) fits rest
  rw [encodeList, isHeader, List.append_assoc, List.cons_append, decodeItem,
    if_neg (by omega), if_neg (by omega), reads]
  simp [readBack]

mutual

theorem decodeItem_encode (item : Item) {fuel : Nat} (rest : List UInt8)
    (fits : (encode item).length < 2 ^ 64)
    (enough : 2 * (encode item).length ≤ fuel + 1) :
    decodeItem fuel (encode item ++ rest) = some (item, rest) := by
  have positive := length_encode_pos item
  cases fuel with
  | zero => omega
  | succ fuel =>
      cases item with
      | bytes data =>
          have shorter := length_le_encodeBytes data
          rw [encode] at fits ⊢
          exact decodeItem_encodeBytes (by omega) fuel rest
      | list items =>
          have shorter := length_encodeList (encodeAll items)
          rw [encode] at fits enough ⊢
          apply decodeItem_encodeList (by omega)
          exact decodeItems_encodeAll items (by omega) (by omega)

theorem decodeItems_encodeAll (items : List Item) {fuel : Nat}
    (fits : (encodeAll items).length < 2 ^ 64)
    (enough : 2 * (encodeAll items).length ≤ fuel) :
    decodeItems fuel (encodeAll items) = some items := by
  cases items with
  | nil =>
      cases fuel with
      | zero => rfl
      | succ fuel => rfl
  | cons item items =>
      have positive := length_encode_pos item
      rw [encodeAll, List.length_append] at fits enough
      cases fuel with
      | zero => omega
      | succ fuel =>
          have first := decodeItem_encode item (encodeAll items)
            (show _ < 2 ^ 64 by omega) (show _ ≤ fuel + 1 by omega)
          have others := decodeItems_encodeAll items
            (show _ < 2 ^ 64 by omega) (show _ ≤ fuel by omega)
          rw [encodeAll]
          cases front : encode item with
          | nil =>
              rw [front] at positive
              cases positive
          | cons byte bytes =>
              rw [front] at first
              rw [List.cons_append] at first ⊢
              rw [decodeItems, first]
              simp [others]

end

/-- Whoever reads an encoding gets the item it is of. -/
theorem decode_encoded {item : Item} (fits : (encode item).length < 2 ^ 64) :
    decode (encode item) = some item := by
  have back : decodeItem (2 * (encode item).length) (encode item ++ []) =
      some (item, []) :=
    decodeItem_encode item [] fits (by omega)
  rw [List.append_nil] at back
  rw [decode, back]

theorem encode_prefixFree :
    PrefixCode.PrefixFree (fun item => (encode item).length < 2 ^ 64)
      encode := by
  intro left right leftRest rightRest leftFits rightFits same
  have leftBack := decodeItem_encode left leftRest leftFits
    (show _ ≤ 2 * (encode left).length + 2 * (encode right).length + 1 by
      omega)
  have rightBack := decodeItem_encode right rightRest rightFits
    (show _ ≤ 2 * (encode left).length + 2 * (encode right).length + 1 by
      omega)
  rw [same, rightBack, Option.some.injEq, Prod.mk.injEq] at leftBack
  exact ⟨leftBack.1.symm, leftBack.2.symm⟩

end Rlp
