import AdExchange.Decimal.Basic
import Mathlib.Algebra.Order.Field.Rat
import Mathlib.Tactic.Positivity

/-!
# The number that a decimal stands for

Decimals of different scales may stand for the same number, and they are compared as numbers.
-/

namespace AdExchange

namespace Decimal

def value (d : Decimal) : ℚ := d.signed / 10 ^ d.scale

variable {a b c : Decimal}

theorem le_iff_value_le : a ≤ b ↔ a.value ≤ b.value := by
  have ha : (0 : ℚ) < 10 ^ a.scale := by positivity
  have hb : (0 : ℚ) < 10 ^ b.scale := by positivity
  rw [le_def, value, value, div_le_div_iff₀ ha hb]
  exact_mod_cast Iff.rfl

theorem lt_iff_value_lt : a < b ↔ a.value < b.value := by
  rw [← not_le, ← le_iff_value_le, le_def, lt_def]
  exact Int.not_le.symm

protected theorem not_lt : ¬ a < b ↔ b ≤ a := by
  rw [lt_iff_value_lt, le_iff_value_le, not_lt]

protected theorem not_le : ¬ a ≤ b ↔ b < a := by
  rw [lt_iff_value_lt, le_iff_value_le, not_le]

protected theorem le_refl (a : Decimal) : a ≤ a := le_iff_value_le.2 le_rfl

protected theorem le_trans (hab : a ≤ b) (hbc : b ≤ c) : a ≤ c := by
  rw [le_iff_value_le] at *
  exact hab.trans hbc

protected theorem le_of_lt (h : a < b) : a ≤ b := le_iff_value_le.2 (lt_iff_value_lt.1 h).le

end Decimal

end AdExchange
