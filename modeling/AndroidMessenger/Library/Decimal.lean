import Mathlib.Algebra.GroupWithZero.Nat

namespace AndroidMessenger.Library.Decimal

/-! Decimal numbers with a fixed number of digits. -/

/-- The last digits of a number, as many as are asked for. -/
def fixed : Nat → Nat → List Char
  | 0, _ => []
  | width + 1, value => fixed width (value / 10) ++ [Nat.digitChar (value % 10)]

@[simp] theorem length_fixed (width value : Nat) : (fixed width value).length = width := by
  induction width generalizing value with
  | zero => rfl
  | succ width ih => rw [fixed, List.length_append, ih, List.length_singleton]

theorem fixed_zero (width : Nat) : fixed width 0 = List.replicate width '0' := by
  induction width with
  | zero => rfl
  | succ width ih =>
      rw [fixed, Nat.zero_div, ih, List.replicate_succ']
      rfl

theorem div_ten_lt {width value : Nat} (fits : value < 10 ^ (width + 1)) :
    value / 10 < 10 ^ width := by
  rw [Nat.div_lt_iff_lt_mul (by decide)]
  exact fits

theorem replicate_append_toDigits {width value : Nat} (fits : value < 10 ^ (width + 1)) :
    List.replicate (width + 1 - (Nat.toDigits 10 value).length) '0' ++ Nat.toDigits 10 value =
      fixed (width + 1) value := by
  induction width generalizing value with
  | zero =>
      have digit : value < 10 := fits
      rw [Nat.toDigits_of_lt_base digit, fixed, Nat.mod_eq_of_lt digit]
      rfl
  | succ width ih =>
      by_cases digit : value < 10
      · rw [Nat.toDigits_of_lt_base digit, fixed, Nat.div_eq_of_lt digit, fixed_zero,
          Nat.mod_eq_of_lt digit]
        rfl
      · rw [Nat.toDigits_of_base_le (by decide) (Nat.le_of_not_lt digit), fixed,
          ← ih (div_ten_lt fits), List.length_append, List.length_singleton,
          ← List.append_assoc, Nat.add_sub_add_right]

theorem fixed_eq_digits {value : Nat} (fits : value < 100) :
    fixed 2 value = [Nat.digitChar (value / 10), Nat.digitChar (value % 10)] := by
  change [Nat.digitChar (value / 10 % 10), Nat.digitChar (value % 10)] = _
  rw [Nat.mod_eq_of_lt (by omega)]

end AndroidMessenger.Library.Decimal
