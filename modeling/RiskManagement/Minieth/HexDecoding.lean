import RiskManagement.Minieth.HexText

/-!
# What hexadecimal text is decoded to

The loop takes the digits two at a time, after a first digit of its own when
their number is odd.  What it has pushed is what the digits before its position
spell, so at the end the bytes have the value of the digits.
-/

namespace RiskManagement

namespace Hex

/-- The text after one optional prefix. -/
def unprefixed (s : String) : List Char :=
  (stripPrefix s.toList).getD s.toList

theorem stripPrefix_eq_none {text : List Char}
    (noPrefix : ¬ ['0', 'x'] <+: text) : stripPrefix text = none := by
  rw [stripPrefix.eq_def]
  split
  · rename_i rest
    exact absurd (List.prefix_append ['0', 'x'] rest) noPrefix
  · rfl

theorem eq_of_stripPrefix {text rest : List Char}
    (stripped : stripPrefix text = some rest) : text = '0' :: 'x' :: rest := by
  rw [stripPrefix.eq_def] at stripped
  split at stripped
  · cases stripped
    rfl
  · cases stripped

theorem toList_prefixed (text : List Char) :
    ("0x" ++ String.ofList text).toList = '0' :: 'x' :: text := by
  rw [String.toList_append, String.toList_ofList]
  simp

theorem stripPrefix_prefixed (text : List Char) :
    stripPrefix ("0x" ++ String.ofList text).toList = some text := by
  rw [toList_prefixed]
  rfl

/-! ### One chunk -/

theorem u8FromStrRadix_digits {text : List Char} (notEmpty : text ≠ [])
    (areDigits : text.all Char.isHexDigit = true) (short : text.length ≤ 2) :
    u8FromStrRadix text = some (.ofNat (HexDigits.value text)) := by
  have noSign : ¬ (text.head? = some '+' ∧ 1 < text.length) := by
    intro ⟨isSign, _⟩
    rw [List.all_eq_true] at areDigits
    have digit := areDigits '+' (List.mem_of_head? isSign)
    exact absurd digit (by decide)
  have bound := HexDigits.value_lt areDigits
  have power : 16 ^ text.length ≤ 16 ^ 2 :=
    Nat.pow_le_pow_right (by decide) short
  have fits : HexDigits.value text < 2 ^ 8 := Nat.lt_of_lt_of_le bound power
  simp only [u8FromStrRadix, if_neg noSign, areDigits, List.isEmpty_iff,
    notEmpty, Bool.not_true, Bool.false_eq_true, or_self, if_false, if_pos fits]

theorem chunkTurn_chunk (consumed : List Char) {text : List Char}
    (rest : List Char) (res : List UInt8) (notEmpty : text ≠ [])
    (areDigits : text.all Char.isHexDigit = true) (short : text.length ≤ 2) :
    chunkTurn (consumed ++ (text ++ rest))
        ⟨consumed.length, consumed.length + text.length, res⟩ =
      some (.next ⟨(consumed ++ text).length, (consumed ++ text).length + 2,
        res ++ [.ofNat (HexDigits.value text)]⟩) := by
  have positive := List.length_pos_of_ne_nil notEmpty
  have before :
      consumed.length < consumed.length + (text.length + rest.length) := by
    omega
  simp only [chunkTurn, Panics.slice_middle, List.length_append,
    u8FromStrRadix_digits notEmpty areDigits short, if_pos before]

theorem chunkTurn_end (text : List Char) (stop : Nat) (res : List UInt8) :
    chunkTurn text ⟨text.length, stop, res⟩ = some (.exit (some res)) := by
  simp only [chunkTurn, if_neg (Nat.lt_irrefl text.length)]

/-! ### The loop -/

/-- From an even number of digits on, every turn takes a pair. -/
theorem iterate_pairs (consumed : List Char) {rest : List Char}
    (res : List UInt8) {fuel : Nat} (areDigits : rest.all Char.isHexDigit)
    (even : rest.length % 2 = 0) (enough : rest.length < fuel) :
    Loops.iterate (chunkTurn (consumed ++ rest)) fuel
        ⟨consumed.length, consumed.length + 2, res⟩ =
      some (some (res ++ HexDigits.pairs rest)) := by
  induction rest using HexDigits.pairs.induct
    generalizing consumed res fuel with
  | case1 high low rest ih =>
      simp only [List.all_cons, Bool.and_eq_true] at areDigits
      obtain ⟨highDigit, lowDigit, restDigits⟩ := areDigits
      rw [List.length_cons, List.length_cons] at even enough
      obtain ⟨less, rfl⟩ : ∃ less, fuel = less + 1 := ⟨fuel - 1, by omega⟩
      have turn := chunkTurn_chunk consumed rest res
        (List.cons_ne_nil high [low]) (by simp [highDigit, lowDigit])
        (Nat.le_refl 2)
      have byte : HexDigits.value [high, low] =
          HexDigits.digit high * 16 + HexDigits.digit low := by
        simp [HexDigits.value]
      have later := ih (consumed ++ [high, low])
        (res ++ [.ofNat (HexDigits.value [high, low])]) restDigits
        (by omega) (show rest.length < less by omega)
      rw [List.append_assoc] at later
      rw [Loops.iterate]
      simp only [List.length_cons, List.length_nil, Nat.zero_add,
        Nat.reduceAdd, List.cons_append, List.nil_append, byte] at turn later
      rw [turn]
      simp only [later]
      rw [HexDigits.pairs, List.append_assoc, List.singleton_append]
  | case2 rest notPair =>
      obtain ⟨less, rfl⟩ : ∃ less, fuel = less + 1 := ⟨fuel - 1, by omega⟩
      rcases HexDigits.short_of_notPair notPair with rfl | ⟨c, rfl⟩
      · rw [List.append_nil, Loops.iterate, chunkTurn_end]
        simp [HexDigits.pairs]
      · simp at even

theorem decode_digits {s : String}
    (areDigits : (unprefixed s).all Char.isHexDigit = true) :
    decode s = some (some (HexDigits.spelled (unprefixed s))) := by
  have decoded : decode s = Loops.iterate (chunkTurn (unprefixed s))
      ((unprefixed s).length + 1)
      ⟨0, if (unprefixed s).length % 2 = 1 then 1 else 2, []⟩ := by
    rw [unprefixed] at areDigits ⊢
    simp only [decode, areDigits, Bool.not_true, Bool.false_eq_true, if_false]
  rw [decoded, HexDigits.spelled]
  split
  · rename_i odd
    cases text : unprefixed s with
    | nil => simp [text] at odd
    | cons first rest =>
        rw [text, List.length_cons] at odd
        rw [text, List.all_cons, Bool.and_eq_true] at areDigits
        have turn := chunkTurn_chunk [] rest [] (List.cons_ne_nil first [])
          (by simp [areDigits.1]) (Nat.le_succ 1)
        have later := iterate_pairs [first] [.ofNat (HexDigits.value [first])]
          areDigits.2 (by omega) (Nat.lt_succ_self rest.length)
        simp only [List.nil_append, List.cons_append, List.length_nil,
          List.length_cons, Nat.zero_add, HexDigits.value_singleton]
          at turn later
        rw [Loops.iterate]
        simp only [turn, later, List.length_cons, List.headD_cons,
          List.tail_cons]
  · rename_i notOdd
    have run := iterate_pairs [] [] areDigits (by omega)
      (Nat.lt_succ_self (unprefixed s).length)
    simpa using run

theorem decode_notDigits {s : String}
    (notDigits : ¬ (unprefixed s).all Char.isHexDigit = true) :
    decode s = some none := by
  rw [unprefixed, Bool.not_eq_true] at notDigits
  simp only [decode, notDigits, Bool.not_false, if_true]

/-! ### Printed bytes -/

theorem unprefixed_prefixed (text : List Char) :
    unprefixed ("0x" ++ String.ofList text) = text := by
  rw [unprefixed, stripPrefix_prefixed]
  rfl

theorem unprefixed_ofList {text : List Char}
    (noPrefix : stripPrefix text = none) :
    unprefixed (String.ofList text) = text := by
  rw [unprefixed, String.toList_ofList, noPrefix]
  rfl

theorem encodeByte_eq : encodeByte = HexDigits.byteDigits := rfl

theorem unprefixed_encode (bytes : List UInt8) :
    unprefixed (encode bytes) = bytes.flatMap HexDigits.byteDigits := by
  rw [encode, unprefixed_prefixed, encodeByte_eq]

theorem decode_of_encode (bytes : List UInt8) :
    decode (encode bytes) = some (some bytes) := by
  have digits := HexDigits.byteDigits_areDigits bytes
  rw [← unprefixed_encode] at digits
  rw [decode_digits digits, unprefixed_encode, HexDigits.spelled_byteDigits]

end Hex

/-! ### Numbers -/

theorem U256.fromBeBytes_toNat (bytes : Bytes32) :
    (U256.fromBeBytes bytes).toNat = BigEndian.value bytes.data := by
  have fits : (U256.fromBeBytes bytes).toNat < 256 ^ 32 :=
    U256.toNat_lt (U256.fromBeBytes bytes)
  have digits := U256.toBeBytes_data (U256.fromBeBytes bytes)
  rw [U256.toBeBytes_fromBeBytes] at digits
  rw [digits, BigEndian.value_digits_of_lt fits]

theorem U256.fromBeBytes_padded {bytes : List UInt8}
    (short : bytes.length ≤ 32) :
    (U256.fromBeBytes (U256.padded bytes short)).toNat =
      BigEndian.value bytes := by
  rw [U256.fromBeBytes_toNat, U256.padded]
  simp only [BigEndian.value_append, BigEndian.value_replicate_zero]
  omega

theorem U256.fromStr_digits {s : String}
    (areDigits : (Hex.unprefixed s).all Char.isHexDigit = true)
    (short : (Hex.unprefixed s).length ≤ 64) :
    ∃ value : U256, U256.fromStr s = some (.ok value) ∧
      value.toNat = HexDigits.value (Hex.unprefixed s) := by
  have length := HexDigits.length_spelled (Hex.unprefixed s)
  have fits : (HexDigits.spelled (Hex.unprefixed s)).length < 2 ^ 64 := by
    omega
  have notLong :
      ¬ (HexDigits.spelled (Hex.unprefixed s)).length > 32 := by
    omega
  have parsed : Bytes.fromStr s = some (.ok
      ⟨⟨HexDigits.spelled (Hex.unprefixed s), fits⟩⟩) := by
    rw [Bytes.fromStr, Hex.decode_digits areDigits]
    simp only [dif_pos fits]
  refine ⟨.fromBeBytes (padded _ (Nat.le_of_not_gt notLong)), ?_, ?_⟩
  · rw [U256.fromStr, parsed]
    exact dif_neg notLong
  · rw [U256.fromBeBytes_padded, HexDigits.value_spelled areDigits]

theorem U256.tryIntoU64_of_lt {value : U256} {num : UInt64}
    (isNum : value.toNat = num.toNat) : value.tryIntoU64 = .ok num := by
  have bound := num.toNat_lt
  have low := value.lo.isLt
  rw [U256.toNat] at isNum
  have noHigh : value.hi = 0 := BitVec.eq_of_toNat_eq (by simp; omega)
  have isLow : value.lo.toNat = num.toNat := by
    rw [noHigh] at isNum
    simpa using isNum
  rw [U256.tryIntoU64, if_neg (fun high => high noHigh), isLow, if_pos bound,
    UInt64.ofNat_toNat]

theorem unprefixed_hexNumber (num : UInt64) :
    Hex.unprefixed (hexNumber num) = Nat.toDigits 16 num.toNat := by
  rw [hexNumber, Hex.unprefixed_prefixed]

theorem deserializeHexU64_hexNumber (num : UInt64) :
    deserializeHexU64 (.string (hexNumber num)) = some (.ok num) := by
  have areDigits := HexDigits.toDigits_areDigits num.toNat
  have short : (Nat.toDigits 16 num.toNat).length ≤ 16 :=
    (Nat.length_toDigits_le_iff (by decide) (by decide)).mpr num.toNat_lt
  rw [← unprefixed_hexNumber] at areDigits short
  obtain ⟨value, parsed, isValue⟩ :=
    U256.fromStr_digits areDigits (by omega)
  rw [unprefixed_hexNumber, HexDigits.value_toDigits] at isValue
  have read : U256.deserialize (.string (hexNumber num)) =
      some (.ok value) := by
    rw [U256.deserialize]
    exact deserializeFromStr_string parsed
  rw [deserializeHexU64, read, Option.map_some]
  simp only [U256.tryIntoU64_of_lt isValue]
  rfl

/-- A text is decoded when it is digits, and then to as many bytes as they
need, of the value they have; printed bytes and printed numbers are read
back. -/
theorem hex_text_computes_value :
    (∀ s : String, ∃ result, Hex.decode s = some result ∧
        (result.isSome ↔ (Hex.unprefixed s).all Char.isHexDigit) ∧
        ∀ bytes, result = some bytes →
          bytes.length = ((Hex.unprefixed s).length + 1) / 2 ∧
            BigEndian.value bytes = HexDigits.value (Hex.unprefixed s)) ∧
      (∀ text : List Char,
        Hex.unprefixed ("0x" ++ String.ofList text) = text ∧
          (¬ ['0', 'x'] <+: text →
            Hex.unprefixed (String.ofList text) = text)) ∧
      (∀ bytes, Hex.decode (Hex.encode bytes) = some (some bytes)) ∧
      ∀ num, deserializeHexU64 (serializeHexU64 num) = some (.ok num) := by
  refine ⟨?_, ?_, Hex.decode_of_encode, deserializeHexU64_hexNumber⟩
  · intro s
    by_cases areDigits : (Hex.unprefixed s).all Char.isHexDigit = true
    · refine ⟨_, Hex.decode_digits areDigits, by simp [areDigits], ?_⟩
      intro bytes spelled
      cases spelled
      exact ⟨HexDigits.length_spelled _, HexDigits.value_spelled areDigits⟩
    · refine ⟨none, Hex.decode_notDigits areDigits, by simp [areDigits], ?_⟩
      intro bytes spelled
      cases spelled
  · intro text
    refine ⟨Hex.unprefixed_prefixed text, ?_⟩
    intro noPrefix
    exact Hex.unprefixed_ofList (Hex.stripPrefix_eq_none noPrefix)

theorem hex_text_computes_value_oddLength :
    ∃ bytes, Hex.decode "0xaBc" = some (some bytes) ∧ bytes.length = 2 ∧
      BigEndian.value bytes = 0xabc := by
  obtain ⟨decodes, _⟩ := hex_text_computes_value
  obtain ⟨result, decoded, isSome, spelled⟩ := decodes "0xaBc"
  obtain ⟨bytes, isBytes⟩ := Option.isSome_iff_exists.mp
    (isSome.mpr (by decide))
  obtain ⟨length, value⟩ := spelled bytes isBytes
  rw [isBytes] at decoded
  exact ⟨bytes, decoded, length, value⟩

end RiskManagement
