import RiskManagement.Library.Rlp
import RiskManagement.Minieth.U256

/-!
# RLP encoding

`Vec<u8>` and `&[u8]` are lists here.  A list that is handed to the world is
the data of a `Bytes`, whose length is a machine word.
-/

namespace RiskManagement

/-- A number is written without leading zeros. -/
def trimBytes (us : List UInt8) : List UInt8 :=
  us.drop ((us.findIdx? fun b => b != 0).getD us.length)

/-- The bytes in front of a payload of `len` bytes. -/
def rlpLengthHeader (short long : UInt8) (len : Nat) : List UInt8 :=
  if len ≤ 55 then
    [short + .ofNat len]
  else
    let lenBytes := trimBytes (BigEndian.digits 8 len)
    (long + .ofNat lenBytes.length) :: lenBytes

/-- A small single byte is its own encoding. -/
def rlpEncodeBytes (bytes : List UInt8) : List UInt8 :=
  if bytes.length = 1 ∧ bytes.headD 0 < 0x80 then
    bytes
  else
    rlpLengthHeader 0x80 0xb7 bytes.length ++ bytes

/-- Zero is the empty string. -/
def rlpEncodeNumerical (us : List UInt8) : List UInt8 :=
  rlpEncodeBytes (trimBytes us)

/-- The length counts the encodings of the items. -/
def rlpEncodeList (us : List UInt8) : List UInt8 :=
  rlpLengthHeader 0xc0 0xf7 us.length ++ us

/-- Types with an encoding. -/
class RlpEncodable (α : Type) where
  toRlpBytes : α → List UInt8

export RlpEncodable (toRlpBytes)

instance : RlpEncodable UInt64 where
  toRlpBytes value := rlpEncodeNumerical (BigEndian.digits 8 value.toNat)

instance : RlpEncodable U256 where
  toRlpBytes value := rlpEncodeNumerical value.toBeBytes.data

instance {size : Nat} : RlpEncodable (SizedBytes size) where
  toRlpBytes bytes := rlpEncodeBytes bytes.data

instance : RlpEncodable Bytes where
  toRlpBytes bytes := rlpEncodeBytes bytes.data

instance {α : Type} [RlpEncodable α] : RlpEncodable (List α) where
  toRlpBytes items := rlpEncodeList (items.map toRlpBytes).flatten

/-- The encodings that have been pushed so far. -/
structure RlpStream where
  buf : List UInt8

namespace RlpStream

def new : RlpStream where
  buf := []

def push {α : Type} [RlpEncodable α] (self : RlpStream) (item : α) :
    RlpStream where
  buf := self.buf ++ toRlpBytes item

def extend (self : RlpStream) (slice : List UInt8) : RlpStream where
  buf := self.buf ++ slice

def finalizeWithoutLengthPrefix (self : RlpStream) : List UInt8 := self.buf

def finalizeWithLengthPrefix (self : RlpStream) : List UInt8 :=
  rlpEncodeList self.buf

end RlpStream

/-! ### The items that are encoded -/

theorem trimBytes_eq_dropWhile (us : List UInt8) :
    trimBytes us = us.dropWhile (· == 0) := by
  rw [trimBytes]
  induction us with
  | nil => rfl
  | cons first rest ih =>
      by_cases isZero : first = 0
      · subst isZero
        rw [List.dropWhile_cons_of_pos (by decide), ← ih,
          List.findIdx?_cons, if_neg (by decide)]
        cases rest.findIdx? fun b => b != 0 with
        | none => simp
        | some index => simp
      · rw [List.dropWhile_cons_of_neg (by simpa using isZero),
          List.findIdx?_cons, if_pos (by simpa using isZero)]
        rfl

theorem trimBytes_digits {width number : Nat} (fits : number < 256 ^ width) :
    trimBytes (BigEndian.digits width number) =
      BigEndian.minimal number := by
  rw [trimBytes_eq_dropWhile, BigEndian.dropWhile_zero_digits fits]

theorem rlpLengthHeader_eq_header {base : Nat} {short long : UInt8} {len : Nat}
    (isShort : short = .ofNat base) (isLong : long = .ofNat (base + 55))
    (fits : len < 2 ^ 64) :
    rlpLengthHeader short long len = Rlp.header base len := by
  have width : (2 : Nat) ^ 64 = 256 ^ 8 := by decide
  rw [width] at fits
  rw [rlpLengthHeader, Rlp.header, trimBytes_digits fits, isShort, isLong]
  split
  · rw [UInt8.ofNat_add]
  · rw [UInt8.ofNat_add (base + 55)]

theorem rlpLengthHeader_string {len : Nat} (fits : len < 2 ^ 64) :
    rlpLengthHeader 0x80 0xb7 len = Rlp.header 128 len :=
  rlpLengthHeader_eq_header rfl rfl fits

theorem rlpLengthHeader_list {len : Nat} (fits : len < 2 ^ 64) :
    rlpLengthHeader 0xc0 0xf7 len = Rlp.header 192 len :=
  rlpLengthHeader_eq_header rfl rfl fits

/-- No header byte overflows: the sums are taken of numbers here. -/
theorem rlpLengthHeader_fits (len : Nat) :
    (len ≤ 55 → 0x80 + len < 256 ∧ 0xc0 + len < 256) ∧
      0xb7 + (trimBytes (BigEndian.digits 8 len)).length < 256 ∧
      0xf7 + (trimBytes (BigEndian.digits 8 len)).length < 256 := by
  have short : (trimBytes (BigEndian.digits 8 len)).length ≤ 8 := by
    rw [trimBytes_eq_dropWhile]
    calc
      _ ≤ (BigEndian.digits 8 len).length :=
        (List.dropWhile_sublist _).length_le
      _ = 8 := BigEndian.length_digits 8 len
  omega

theorem rlpEncodeBytes_eq {bytes : List UInt8}
    (fits : bytes.length < 2 ^ 64) :
    rlpEncodeBytes bytes = Rlp.encodeBytes bytes := by
  rw [rlpEncodeBytes, rlpLengthHeader_string fits]
  match bytes with
  | [] => rfl
  | [byte] =>
      rw [Rlp.encodeBytes]
      by_cases small : byte < 0x80
      · rw [if_pos ⟨rfl, small⟩, if_pos small]
      · rw [if_neg (fun both => small both.2), if_neg small]
        rfl
  | first :: second :: rest => rfl

theorem rlpEncodeList_eq {us : List UInt8} (fits : us.length < 2 ^ 64) :
    rlpEncodeList us = Rlp.encodeList us := by
  rw [rlpEncodeList, Rlp.encodeList, rlpLengthHeader_list fits]

theorem length_le_rlpEncodeBytes (bytes : List UInt8) :
    bytes.length ≤ (rlpEncodeBytes bytes).length := by
  rw [rlpEncodeBytes]
  split
  · exact le_refl _
  · rw [List.length_append]
    omega

theorem length_le_rlpEncodeList (us : List UInt8) :
    us.length ≤ (rlpEncodeList us).length := by
  rw [rlpEncodeList, List.length_append]
  omega

mutual

/-- The two encoders applied to every string and list of an item. -/
def rlpEncodeItem : Rlp.Item → List UInt8
  | .bytes data => rlpEncodeBytes data
  | .list items => rlpEncodeList (rlpEncodeItems items)

def rlpEncodeItems : List Rlp.Item → List UInt8
  | [] => []
  | item :: items => rlpEncodeItem item ++ rlpEncodeItems items

end

mutual

theorem rlpEncodeItem_eq (item : Rlp.Item)
    (fits : (rlpEncodeItem item).length < 2 ^ 64) :
    rlpEncodeItem item = Rlp.encode item := by
  cases item with
  | bytes data =>
      have shorter := length_le_rlpEncodeBytes data
      rw [rlpEncodeItem] at fits ⊢
      exact rlpEncodeBytes_eq (by omega)
  | list items =>
      have shorter := length_le_rlpEncodeList (rlpEncodeItems items)
      rw [rlpEncodeItem] at fits ⊢
      rw [rlpEncodeList_eq (by omega), rlpEncodeItems_eq items (by omega),
        Rlp.encode]

theorem rlpEncodeItems_eq (items : List Rlp.Item)
    (fits : (rlpEncodeItems items).length < 2 ^ 64) :
    rlpEncodeItems items = Rlp.encodeAll items := by
  cases items with
  | nil => rfl
  | cons item items =>
      rw [rlpEncodeItems, List.length_append] at fits
      rw [rlpEncodeItems, rlpEncodeItem_eq item (by omega),
        rlpEncodeItems_eq items (by omega), Rlp.encodeAll]

end

theorem rlpEncodeItem_prefixFree :
    PrefixCode.PrefixFree (fun item => (rlpEncodeItem item).length < 2 ^ 64)
      rlpEncodeItem := by
  intro left right leftRest rightRest leftFits rightFits same
  have leftItem := rlpEncodeItem_eq left leftFits
  have rightItem := rlpEncodeItem_eq right rightFits
  rw [leftItem] at leftFits same
  rw [rightItem] at rightFits same
  exact Rlp.encode_prefixFree leftFits rightFits same

/-- Whoever reads the encoding of an item that fits a vector gets it back. -/
theorem decode_rlpEncodeItem {item : Rlp.Item}
    (fits : (rlpEncodeItem item).length < 2 ^ 64) :
    Rlp.decode (rlpEncodeItem item) = some item := by
  have encoded := rlpEncodeItem_eq item fits
  rw [encoded] at fits ⊢
  exact Rlp.decode_encoded fits

theorem rlpEncodeItems_append (front back : List Rlp.Item) :
    rlpEncodeItems (front ++ back) =
      rlpEncodeItems front ++ rlpEncodeItems back := by
  induction front with
  | nil => rfl
  | cons item front ih =>
      rw [List.cons_append, rlpEncodeItems, rlpEncodeItems, ih,
        List.append_assoc]

theorem rlpEncodeItems_singleton (item : Rlp.Item) :
    rlpEncodeItems [item] = rlpEncodeItem item := by
  rw [rlpEncodeItems, rlpEncodeItems, List.append_nil]

/-- The items that a value is encoded as, one after the other. -/
class RlpItems (α : Type) [RlpEncodable α] where
  rlpItems : α → List Rlp.Item
  encodes : ∀ value : α, toRlpBytes value = rlpEncodeItems (rlpItems value)

export RlpItems (rlpItems)

theorem rlpEncodeBytes_encodes (bytes : List UInt8) :
    rlpEncodeBytes bytes = rlpEncodeItems [.bytes bytes] := by
  rw [rlpEncodeItems_singleton, rlpEncodeItem]

theorem rlpEncodeList_encodes {us : List UInt8} {items : List Rlp.Item}
    (encodes : us = rlpEncodeItems items) :
    rlpEncodeList us = rlpEncodeItem (.list items) := by
  rw [rlpEncodeItem, encodes]

theorem rlpEncodeNumerical_encodes {width number : Nat}
    (below : number < 256 ^ width) :
    rlpEncodeNumerical (BigEndian.digits width number) =
      rlpEncodeItems [.number number] := by
  rw [rlpEncodeNumerical, trimBytes_digits below, Rlp.Item.number]
  exact rlpEncodeBytes_encodes _

instance : RlpItems UInt64 where
  rlpItems value := [.number value.toNat]
  encodes value := by
    have width : (256 : Nat) ^ 8 = 2 ^ 64 := by decide
    apply rlpEncodeNumerical_encodes
    rw [width]
    exact value.toNat_lt

instance : RlpItems U256 where
  rlpItems value := [.number value.toNat]
  encodes value := by
    have width : (256 : Nat) ^ 32 = 2 ^ 256 := by decide
    change rlpEncodeNumerical value.toBeBytes.data = _
    rw [value.toBeBytes_data]
    apply rlpEncodeNumerical_encodes
    rw [width]
    exact value.toNat_lt

instance {size : Nat} : RlpItems (SizedBytes size) where
  rlpItems bytes := [.bytes bytes.data]
  encodes bytes := rlpEncodeBytes_encodes bytes.data

instance : RlpItems Bytes where
  rlpItems bytes := [.bytes bytes.data]
  encodes bytes := rlpEncodeBytes_encodes bytes.data

theorem flatten_toRlpBytes_encodes {α : Type} [RlpEncodable α] [RlpItems α]
    (values : List α) :
    (values.map toRlpBytes).flatten =
      rlpEncodeItems (values.flatMap rlpItems) := by
  induction values with
  | nil => rfl
  | cons value values ih =>
      rw [List.map_cons, List.flatten_cons, List.flatMap_cons,
        rlpEncodeItems_append, ih, RlpItems.encodes value]

instance {α : Type} [RlpEncodable α] [RlpItems α] : RlpItems (List α) where
  rlpItems values := [.list (values.flatMap rlpItems)]
  encodes values := by
    rw [rlpEncodeItems_singleton]
    exact rlpEncodeList_encodes (flatten_toRlpBytes_encodes values)

namespace RlpStream

/-- The stream has the items, one after the other. -/
def Holds (self : RlpStream) (items : List Rlp.Item) : Prop :=
  self.buf = rlpEncodeItems items

variable {self : RlpStream} {items : List Rlp.Item}

theorem new_holds : new.Holds [] := rfl

theorem Holds.extend {slice : List UInt8} {more : List Rlp.Item}
    (holds : self.Holds items) (encodes : slice = rlpEncodeItems more) :
    (self.extend slice).Holds (items ++ more) := by
  rw [Holds] at holds
  rw [Holds, RlpStream.extend, rlpEncodeItems_append, holds, encodes]

theorem Holds.push {α : Type} [RlpEncodable α] [RlpItems α]
    (holds : self.Holds items) (value : α) :
    (self.push value).Holds (items ++ rlpItems value) :=
  holds.extend (RlpItems.encodes value)

theorem Holds.finalizeWithLengthPrefix (holds : self.Holds items) :
    self.finalizeWithLengthPrefix = rlpEncodeItem (.list items) :=
  rlpEncodeList_encodes holds

end RlpStream

end RiskManagement
