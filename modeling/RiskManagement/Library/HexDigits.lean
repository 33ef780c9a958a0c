import RiskManagement.Library.BigEndian

/-!
# Hexadecimal text

The number that a string of hexadecimal digits stands for, and the bytes that
its pairs of digits spell.
-/

namespace HexDigits

/-- The value of one digit, in either case. -/
def digit (c : Char) : Nat :=
  if c.isDigit then c.toNat - 48
  else if 97 ≤ c.toNat then c.toNat - 87
  else c.toNat - 55

/-- The number a text of digits stands for. -/
def value : List Char → Nat
  | [] => 0
  | c :: rest => digit c * 16 ^ rest.length + value rest

/-- One byte for each pair of digits. -/
def pairs : List Char → List UInt8
  | high :: low :: rest =>
      .ofNat (digit high * 16 + digit low) :: pairs rest
  | _ => []

/-- The bytes of a text; an odd number of digits begins with a byte of one
digit. -/
def spelled (text : List Char) : List UInt8 :=
  if text.length % 2 = 1 then
    .ofNat (digit (text.headD '0')) :: pairs text.tail
  else
    pairs text

/-! ### Digits -/

theorem digit_lt {c : Char} (isDigit : c.isHexDigit = true) :
    digit c < 16 := by
  simp only [Char.isHexDigit, Char.isDigit, Bool.or_eq_true, Bool.and_eq_true,
    decide_eq_true_eq, UInt32.le_iff_toNat_le, ge_iff_le] at isDigit
  have codes : ('0' : Char).val.toNat = 48 ∧ ('9' : Char).val.toNat = 57 ∧
      ('a' : Char).val.toNat = 97 ∧ ('f' : Char).val.toNat = 102 ∧
      ('A' : Char).val.toNat = 65 ∧ ('F' : Char).val.toNat = 70 := by
    decide
  obtain ⟨zero, nine, a, f, upperA, upperF⟩ := codes
  rw [zero, nine, a, f, upperA, upperF] at isDigit
  change ((48 ≤ c.toNat ∧ c.toNat ≤ 57) ∨ (97 ≤ c.toNat ∧ c.toNat ≤ 102)) ∨
    (65 ≤ c.toNat ∧ c.toNat ≤ 70) at isDigit
  simp only [digit, Char.isDigit, Bool.and_eq_true, decide_eq_true_eq,
    UInt32.le_iff_toNat_le, ge_iff_le]
  rw [zero, nine]
  change (if 48 ≤ c.toNat ∧ c.toNat ≤ 57 then _ else _) < 16
  split
  · omega
  · split
    · omega
    · omega

theorem digit_digitChar {number : Nat} (small : number < 16) :
    (Nat.digitChar number).isHexDigit = true ∧
      digit (Nat.digitChar number) = number := by
  have all : ∀ index : Fin 16,
      (Nat.digitChar index.val).isHexDigit = true ∧
        digit (Nat.digitChar index.val) = index.val := by
    decide
  exact all ⟨number, small⟩

/-! ### Values -/

theorem value_append (left right : List Char) :
    value (left ++ right) = value left * 16 ^ right.length + value right := by
  induction left with
  | nil => simp [value]
  | cons c rest ih =>
      rw [List.cons_append, value, value, ih, List.length_append,
        Nat.pow_add, Nat.add_mul, Nat.mul_assoc, Nat.add_assoc]

theorem value_singleton (c : Char) : value [c] = digit c := by
  simp [value]

theorem value_lt {text : List Char} (areDigits : text.all Char.isHexDigit) :
    value text < 16 ^ text.length := by
  induction text with
  | nil => simp [value]
  | cons c rest ih =>
      rw [List.all_cons, Bool.and_eq_true] at areDigits
      have small := digit_lt areDigits.1
      have lower := ih areDigits.2
      have upper : digit c * 16 ^ rest.length ≤ 15 * 16 ^ rest.length :=
        Nat.mul_le_mul_right _ (by omega)
      rw [value, List.length_cons, Nat.pow_succ]
      omega

/-! ### Printed numbers -/

theorem toDigits_areDigits (number : Nat) :
    (Nat.toDigits 16 number).all Char.isHexDigit = true := by
  induction number using Nat.strong_induction_on with
  | _ number ih =>
      rw [Nat.toDigits_eq_if (by decide)]
      split
      · rename_i small
        simp [digit_digitChar small]
      · rename_i large
        have last := digit_digitChar (Nat.mod_lt number (by decide : 16 > 0))
        rw [List.all_append, ih (number / 16) (by omega)]
        simp [last]

theorem value_toDigits (number : Nat) :
    value (Nat.toDigits 16 number) = number := by
  induction number using Nat.strong_induction_on with
  | _ number ih =>
      rw [Nat.toDigits_eq_if (by decide)]
      split
      · rename_i small
        rw [value_singleton, (digit_digitChar small).2]
      · rename_i large
        have last := digit_digitChar (Nat.mod_lt number (by decide : 16 > 0))
        rw [value_append, ih (number / 16) (by omega), value_singleton,
          last.2, List.length_singleton]
        omega

theorem toDigits_injective {left right : Nat}
    (same : Nat.toDigits 16 left = Nat.toDigits 16 right) : left = right := by
  rw [← value_toDigits left, same, value_toDigits]

/-- Two printed numbers, one behind the other, read as one printed number. -/
theorem toDigits_append {high : Nat} (positive : 0 < high) (low : Nat) :
    Nat.toDigits 16 high ++ Nat.toDigits 16 low =
      Nat.toDigits 16
        (high * 16 ^ (Nat.toDigits 16 low).length + low) := by
  induction low using Nat.strong_induction_on with
  | _ low ih =>
      by_cases small : low < 16
      · rw [Nat.toDigits_append_toDigits (by decide) positive small,
          Nat.toDigits_of_lt_base small, List.length_singleton]
        congr 1
        omega
      · have base : 16 ≤ low := by omega
        have lastSmall : low % 16 < 16 := Nat.mod_lt low (by decide)
        have earlier := ih (low / 16) (by omega)
        have power : 0 < 16 ^ (Nat.toDigits 16 (low / 16)).length :=
          Nat.pow_pos (by decide)
        have frontPositive :=
          Nat.add_pos_left (Nat.mul_pos positive power) (low / 16)
        rw [Nat.toDigits_of_base_le (by decide) base, ← List.append_assoc,
          earlier, ← Nat.toDigits_of_lt_base lastSmall,
          Nat.toDigits_append_toDigits (by decide) frontPositive lastSmall,
          Nat.toDigits_of_lt_base lastSmall, List.length_append,
          List.length_singleton, Nat.pow_succ]
        congr 1
        rw [Nat.mul_add, Nat.mul_comm 16 (high * _), Nat.mul_assoc]
        omega

/-! ### Spelled bytes -/

theorem short_of_notPair {text : List Char}
    (notPair : ∀ high low rest, text = high :: low :: rest → False) :
    text = [] ∨ ∃ c, text = [c] := by
  rcases text with _ | ⟨high, _ | ⟨low, rest⟩⟩
  · exact .inl rfl
  · exact .inr ⟨high, rfl⟩
  · exact absurd rfl (notPair high low rest)

theorem length_pairs (text : List Char) :
    (pairs text).length = text.length / 2 := by
  induction text using pairs.induct with
  | case1 high low rest ih =>
      rw [pairs, List.length_cons, ih, List.length_cons, List.length_cons]
      omega
  | case2 text notPair =>
      rcases short_of_notPair notPair with rfl | ⟨c, rfl⟩
      · simp [pairs]
      · simp [pairs]

theorem pow_length_pairs {text : List Char} (even : text.length % 2 = 0) :
    256 ^ (pairs text).length = 16 ^ text.length := by
  have base : (256 : Nat) = 16 ^ 2 := by decide
  rw [base, ← Nat.pow_mul, length_pairs]
  congr 1
  omega

theorem length_spelled (text : List Char) :
    (spelled text).length = (text.length + 1) / 2 := by
  rw [spelled]
  split
  · rw [List.length_cons, length_pairs, List.length_tail]
    omega
  · rw [length_pairs]
    omega

theorem value_pairs {text : List Char}
    (areDigits : text.all Char.isHexDigit) (even : text.length % 2 = 0) :
    BigEndian.value (pairs text) = value text := by
  induction text using pairs.induct with
  | case1 high low rest ih =>
      simp only [List.all_cons, Bool.and_eq_true] at areDigits
      obtain ⟨highDigit, lowDigit, restDigits⟩ := areDigits
      have highSmall := digit_lt highDigit
      have lowSmall := digit_lt lowDigit
      have restEven : rest.length % 2 = 0 := by
        rw [List.length_cons, List.length_cons] at even
        omega
      have byte : (UInt8.ofNat (digit high * 16 + digit low)).toNat =
          digit high * 16 + digit low := by
        apply Nat.mod_eq_of_lt
        omega
      rw [pairs, BigEndian.value, byte, ih restDigits restEven,
        pow_length_pairs restEven,
        value, value, List.length_cons, Nat.pow_succ, Nat.add_mul,
        Nat.mul_assoc, Nat.mul_comm 16, Nat.add_assoc]
  | case2 text notPair =>
      rcases short_of_notPair notPair with rfl | ⟨c, rfl⟩
      · rfl
      · simp at even

theorem value_spelled {text : List Char}
    (areDigits : text.all Char.isHexDigit) :
    BigEndian.value (spelled text) = value text := by
  rw [spelled]
  split
  · rename_i odd
    cases text with
    | nil => simp at odd
    | cons c rest =>
        rw [List.all_cons, Bool.and_eq_true] at areDigits
        have small := digit_lt areDigits.1
        have even : rest.length % 2 = 0 := by
          rw [List.length_cons] at odd
          omega
        have byte : (UInt8.ofNat (digit c)).toNat = digit c := by
          apply Nat.mod_eq_of_lt
          omega
        rw [List.headD_cons, List.tail_cons, BigEndian.value, byte,
          value_pairs areDigits.2 even, pow_length_pairs even, value]
  · rename_i notOdd
    apply value_pairs areDigits
    omega

/-- The two digits that a byte is printed with. -/
def byteDigits (byte : UInt8) : List Char :=
  [Nat.digitChar (byte.toNat / 16), Nat.digitChar (byte.toNat % 16)]

theorem pairs_byteDigits (bytes : List UInt8) :
    pairs (bytes.flatMap byteDigits) = bytes := by
  induction bytes with
  | nil => rfl
  | cons byte rest ih =>
      have bound : byte.toNat < 256 := byte.toNat_lt
      have high := digit_digitChar (show byte.toNat / 16 < 16 by omega)
      have low := digit_digitChar (show byte.toNat % 16 < 16 by omega)
      have whole : byte.toNat / 16 * 16 + byte.toNat % 16 = byte.toNat := by
        omega
      rw [List.flatMap_cons, byteDigits, List.cons_append, List.cons_append,
        List.nil_append, pairs, ih, high.2, low.2, whole, UInt8.ofNat_toNat]

theorem length_byteDigits (bytes : List UInt8) :
    (bytes.flatMap byteDigits).length = 2 * bytes.length := by
  induction bytes with
  | nil => rfl
  | cons byte rest ih =>
      rw [List.flatMap_cons, List.length_append, ih, List.length_cons]
      simp [byteDigits]
      omega

theorem byteDigits_areDigits (bytes : List UInt8) :
    (bytes.flatMap byteDigits).all Char.isHexDigit = true := by
  rw [List.all_flatMap, List.all_eq_true]
  intro byte _
  have bound : byte.toNat < 256 := byte.toNat_lt
  have high := digit_digitChar (show byte.toNat / 16 < 16 by omega)
  have low := digit_digitChar (show byte.toNat % 16 < 16 by omega)
  simp [byteDigits, high.1, low.1]

theorem spelled_byteDigits (bytes : List UInt8) :
    spelled (bytes.flatMap byteDigits) = bytes := by
  have even : ¬ (bytes.flatMap byteDigits).length % 2 = 1 := by
    rw [length_byteDigits]
    omega
  rw [spelled, if_neg even, pairs_byteDigits]

end HexDigits
