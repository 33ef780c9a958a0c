import Mathlib.Data.List.Induction
import Mathlib.Data.Nat.Basic
import Mathlib.Data.Nat.Digits.Defs
import Mathlib.Data.UInt

/-!
# Big-endian byte strings

The digits of a number to base 256, most significant first.  A number below
the width is recovered from its digits, and digits of one width are recovered
from their number.  A number also has a shortest digit string, which is what is
left of a wider one without its leading zeros.
-/

namespace BigEndian

/-- The lowest `width` base-256 digits, most significant first. -/
def digits : (width : Nat) → (value : Nat) → List UInt8
  | 0, _ => []
  | width + 1, value => .ofNat (value / 256 ^ width) :: digits width value

/-- The number a digit string stands for. -/
def value : List UInt8 → Nat
  | [] => 0
  | digit :: rest => digit.toNat * 256 ^ rest.length + value rest

@[simp] theorem length_digits (width number : Nat) :
    (digits width number).length = width := by
  induction width with
  | zero => rfl
  | succ width induction => simp [digits, induction]

theorem value_lt (bytes : List UInt8) : value bytes < 256 ^ bytes.length := by
  induction bytes with
  | nil => simp [value]
  | cons digit rest induction =>
      have digitBound : digit.toNat < 256 := digit.toNat_lt
      have top : digit.toNat * 256 ^ rest.length ≤
          255 * 256 ^ rest.length :=
        Nat.mul_le_mul_right _ (by omega)
      rw [value, List.length_cons, Nat.pow_succ]
      omega

theorem value_digits (width number : Nat) :
    value (digits width number) = number % 256 ^ width := by
  induction width with
  | zero => simp [digits, value, Nat.mod_one]
  | succ width induction =>
      have digit : (UInt8.ofNat (number / 256 ^ width)).toNat =
          number / 256 ^ width % 256 := by simp
      rw [digits, value, digit, length_digits, induction, Nat.pow_succ,
        Nat.mod_mul, Nat.mul_comm, Nat.add_comm]

theorem value_digits_of_lt {width number : Nat}
    (fits : number < 256 ^ width) : value (digits width number) = number := by
  rw [value_digits, Nat.mod_eq_of_lt fits]

theorem digits_mod (width number : Nat) :
    digits width (number % 256 ^ width) = digits width number := by
  suffices general : ∀ extra, digits width (number % 256 ^ (width + extra)) =
      digits width number from general 0
  induction width with
  | zero =>
      intro extra
      rfl
  | succ width induction =>
      intro extra
      have low := induction (extra + 1)
      have exponent : width + (extra + 1) = width + 1 + extra := by omega
      rw [exponent] at low
      rw [digits, digits, low]
      congr 1
      have power : 256 ^ (width + 1 + extra) =
          256 ^ width * (256 * 256 ^ extra) := by
        rw [Nat.pow_add, Nat.pow_succ, Nat.mul_assoc]
      rw [power, Nat.mod_mul_right_div_self, ← UInt8.toNat_inj]
      simp

theorem digits_value (bytes : List UInt8) :
    digits bytes.length (value bytes) = bytes := by
  induction bytes with
  | nil => rfl
  | cons digit rest induction =>
      have below := value_lt rest
      have positive : 0 < 256 ^ rest.length := Nat.pow_pos (by decide)
      have leading : value (digit :: rest) / 256 ^ rest.length =
          digit.toNat := by
        rw [value, Nat.mul_comm, Nat.mul_add_div positive,
          Nat.div_eq_of_lt below, Nat.add_zero]
      have trailing : value (digit :: rest) % 256 ^ rest.length =
          value rest := by
        rw [value, Nat.mul_comm, Nat.mul_add_mod, Nat.mod_eq_of_lt below]
      rw [List.length_cons, digits, leading, ← digits_mod, trailing, induction]
      simp

theorem digits_add (high low number : Nat) :
    digits (high + low) number =
      digits high (number / 256 ^ low) ++ digits low number := by
  induction high with
  | zero => simp [digits]
  | succ high induction =>
      rw [Nat.succ_add, digits, digits, induction, List.cons_append,
        Nat.div_div_eq_div_mul, ← Nat.pow_add, Nat.add_comm low high]

theorem digits_zero (width : Nat) :
    digits width 0 = List.replicate width 0 := by
  induction width with
  | zero => rfl
  | succ width induction =>
      rw [digits, induction, Nat.zero_div, List.replicate_succ]
      rfl

theorem value_append (left right : List UInt8) :
    value (left ++ right) =
      value left * 256 ^ right.length + value right := by
  induction left with
  | nil => simp [value]
  | cons digit rest induction =>
      rw [List.cons_append, value, value, induction, List.length_append,
        Nat.pow_add, Nat.add_mul, Nat.mul_assoc, Nat.add_assoc]

theorem value_replicate_zero (width : Nat) :
    value (List.replicate width 0) = 0 := by
  rw [← digits_zero, value_digits, Nat.zero_mod]

theorem value_append_lt_iff (left right : List UInt8) :
    value (left ++ right) < 256 ^ right.length ↔
      left = List.replicate left.length 0 := by
  have low := value_lt right
  rw [value_append]
  constructor
  · intro small
    have noHigh : value left = 0 := by
      by_contra positive
      have atLeast : 256 ^ right.length ≤
          value left * 256 ^ right.length :=
        Nat.le_mul_of_pos_left _ (Nat.pos_of_ne_zero positive)
      omega
    rw [← digits_zero, ← noHigh, digits_value]
  · intro zeros
    rw [zeros, value_replicate_zero, Nat.zero_mul, Nat.zero_add]
    exact low

/-! ### Shortest digit strings -/

/-- The digits without leading zeros; zero has none. -/
def minimal (number : Nat) : List UInt8 :=
  (Nat.digits 256 number).reverse.map UInt8.ofNat

theorem value_append_singleton (bytes : List UInt8) (last : UInt8) :
    value (bytes ++ [last]) = last.toNat + 256 * value bytes := by
  rw [value_append, List.length_singleton, Nat.pow_one, value, value,
    List.length_nil, Nat.pow_zero]
  omega

theorem value_ne_zero {first : UInt8} {rest : List UInt8}
    (nonzero : first ≠ 0) : value (first :: rest) ≠ 0 := by
  have positive : 0 < first.toNat := by
    rw [Ne, ← UInt8.toNat_inj] at nonzero
    exact Nat.pos_of_ne_zero nonzero
  have power : 0 < 256 ^ rest.length := Nat.pow_pos (by decide)
  have product := Nat.mul_pos positive power
  rw [value]
  omega

/-- A string without leading zeros is the shortest one of its number. -/
theorem minimal_value {bytes : List UInt8} (noZero : bytes.head? ≠ some 0) :
    minimal (value bytes) = bytes := by
  induction bytes using List.reverseRecOn with
  | nil => simp [minimal, value]
  | append_singleton bytes last ih =>
      have lastBound : last.toNat < 256 := last.toNat_lt
      cases bytes with
      | nil =>
          have nonzero : last.toNat ≠ 0 := by
            intro isZero
            apply noZero
            rw [List.nil_append, List.head?_cons, Option.some.injEq,
              ← UInt8.toNat_inj]
            exact isZero
          simp [minimal, value, Nat.digits_of_lt, nonzero, lastBound]
      | cons first rest =>
          have firstNonzero : first ≠ 0 := by
            simpa using noZero
          have shorter := ih (by simpa using firstNonzero)
          rw [value_append_singleton, minimal,
            Nat.digits_add 256 (by decide) _ _ lastBound
              (.inr (value_ne_zero firstNonzero)),
            List.reverse_cons, List.map_append]
          rw [minimal] at shorter
          rw [shorter]
          simp

theorem value_dropWhile_zero (bytes : List UInt8) :
    value (bytes.dropWhile (· == 0)) = value bytes := by
  induction bytes with
  | nil => rfl
  | cons first rest ih =>
      by_cases isZero : first = 0
      · subst isZero
        rw [List.dropWhile_cons_of_pos (by decide), ih, value]
        simp
      · rw [List.dropWhile_cons_of_neg (by simpa using isZero)]

theorem head?_dropWhile_zero (bytes : List UInt8) :
    (bytes.dropWhile (· == 0)).head? ≠ some 0 := by
  induction bytes with
  | nil => simp
  | cons first rest ih =>
      by_cases isZero : first = 0
      · subst isZero
        rw [List.dropWhile_cons_of_pos (by decide)]
        exact ih
      · rw [List.dropWhile_cons_of_neg (by simpa using isZero)]
        simpa using isZero

/-- Trimming the zeros in front leaves the shortest string. -/
theorem dropWhile_zero_eq_minimal (bytes : List UInt8) :
    bytes.dropWhile (· == 0) = minimal (value bytes) := by
  rw [← value_dropWhile_zero, minimal_value (head?_dropWhile_zero bytes)]

theorem dropWhile_zero_digits {width number : Nat}
    (fits : number < 256 ^ width) :
    (digits width number).dropWhile (· == 0) = minimal number := by
  rw [dropWhile_zero_eq_minimal, value_digits_of_lt fits]

theorem length_minimal_le {width number : Nat} (fits : number < 256 ^ width) :
    (minimal number).length ≤ width := by
  rw [← dropWhile_zero_digits fits]
  calc
    ((digits width number).dropWhile (· == 0)).length ≤
        (digits width number).length :=
      (List.dropWhile_sublist _).length_le
    _ = width := length_digits width number

theorem value_minimal (number : Nat) : value (minimal number) = number := by
  have fits : number < 256 ^ number := Nat.lt_pow_self (by decide)
  rw [← dropWhile_zero_digits fits, value_dropWhile_zero,
    value_digits_of_lt fits]

theorem head?_minimal (number : Nat) : (minimal number).head? ≠ some 0 := by
  have fits : number < 256 ^ number := Nat.lt_pow_self (by decide)
  rw [← dropWhile_zero_digits fits]
  exact head?_dropWhile_zero _

end BigEndian
