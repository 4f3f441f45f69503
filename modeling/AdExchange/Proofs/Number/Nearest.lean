import AdExchange.Number.Rounding
import Mathlib.Algebra.Order.Field.Rat
import Mathlib.Algebra.Order.Floor.Ring
import Mathlib.Data.Rat.Floor
import Mathlib.Tactic.FieldSimp
import Mathlib.Tactic.Linarith
import Mathlib.Tactic.Positivity

/-!
# The nearest integer

A number lies between the halves to both sides of its nearest integer; of two equally near integers
the even one counts.  So the nearest integer of a larger number is not smaller, and numbers of
opposite signs have nearest integers of opposite signs.
-/

namespace AdExchange

/-- An integer is the nearest one to a number; of two equally near ones it is the even one. -/
structure IsNearest (x : ℚ) (n : ℤ) : Prop where
  lower : n - 1 / 2 ≤ x
  upper : x ≤ n + 1 / 2
  even : x = n - 1 / 2 ∨ x = n + 1 / 2 → Even n

namespace IsNearest

variable {x y : ℚ} {m n : ℤ}

theorem neg (h : IsNearest x n) : IsNearest (-x) (-n) where
  lower := by
    have hupper := h.upper
    push_cast
    linarith
  upper := by
    have hlower := h.lower
    push_cast
    linarith
  even := by
    intro hhalf
    push_cast at hhalf
    refine (h.even ?_).neg
    rcases hhalf with hhalf | hhalf
    · right
      linarith
    · left
      linarith

/-- A larger number has no smaller nearest integer. -/
theorem mono (hx : IsNearest x m) (hy : IsNearest y n) (h : x ≤ y) : m ≤ n := by
  by_contra hlt
  have hle : n + 1 ≤ m := by omega
  have hle' : (n : ℚ) + 1 ≤ m := by exact_mod_cast hle
  have hlower := hx.lower
  have hupper := hy.upper
  -- Both numbers are the half between the two integers, which only one of them can be nearest to.
  have hm : (m : ℚ) = n + 1 := by linarith
  have hm' : m = n + 1 := by exact_mod_cast hm
  have heven := hx.even (.inl (by linarith))
  have heven' := hy.even (.inr (by linarith))
  rw [hm', Int.even_add_one] at heven
  exact heven heven'

theorem intCast (n : ℤ) : IsNearest n n where
  lower := by linarith
  upper := by linarith
  even := by
    rintro (h | h)
    · linarith
    · linarith

/-- An integer is nearest to itself only. -/
theorem eq_of_intCast (h : IsNearest (m : ℚ) n) : n = m :=
  le_antisymm (h.mono (intCast m) le_rfl) ((intCast m).mono h le_rfl)

/-- Below an even integer are exactly the numbers that are nearest to one below it. -/
theorem lt_iff (h : IsNearest x n) {bound : ℤ} (hbound : Even bound) :
    n < bound ↔ x < bound - 1 / 2 := by
  constructor
  · intro hlt
    have hle : (n : ℚ) + 1 ≤ bound := by exact_mod_cast hlt
    have hupper := h.upper
    by_contra hnot
    have hn : (n : ℚ) = bound - 1 := by linarith
    have hn' : n = bound - 1 := by
      have : (n : ℚ) = (bound - 1 : ℤ) := by
        push_cast
        exact hn
      exact_mod_cast this
    have heven := h.even (.inr (by linarith))
    rw [hn', Int.even_sub_one] at heven
    exact heven hbound
  · intro hlt
    have hlower := h.lower
    have : (n : ℚ) < bound := by linarith
    exact_mod_cast this

end IsNearest

/-- The integer that a quotient is rounded to is the nearest one. -/
theorem isNearest_divHalfEven (num : ℕ) {den : ℕ} (h : 0 < den) :
    IsNearest ((num : ℚ) / den) (divHalfEven num den : ℕ) := by
  have hden : (0 : ℚ) < den := by exact_mod_cast h
  have hnum : (num : ℚ) = den * (num / den : ℕ) + (num % den : ℕ) := by
    exact_mod_cast (Nat.div_add_mod num den).symm
  have hrest : (num % den : ℕ) < (den : ℚ) := by exact_mod_cast Nat.mod_lt num h
  have hrest0 : (0 : ℚ) ≤ (num % den : ℕ) := by positivity
  -- With the denominator multiplied out, everything is linear in the quotient and the rest.
  have key : ∀ n : ℤ, (n - 1 / 2) * (den : ℚ) ≤ num → num ≤ (n + 1 / 2) * (den : ℚ) →
      ((num : ℚ) = (n - 1 / 2) * den ∨ (num : ℚ) = (n + 1 / 2) * den → Even n) →
      IsNearest ((num : ℚ) / den) n := by
    intro n hlower hupper heven
    refine ⟨(le_div_iff₀ hden).2 hlower, (div_le_iff₀ hden).2 hupper, fun hhalf => heven ?_⟩
    rwa [div_eq_iff hden.ne', div_eq_iff hden.ne'] at hhalf
  unfold divHalfEven
  generalize num / den = q at *
  generalize num % den = r at *
  dsimp only
  split_ifs with hlow hhigh
  · have hlow' : 2 * (r : ℚ) < den := by exact_mod_cast hlow
    refine key _ ?_ ?_ ?_
    · push_cast
      linarith
    · push_cast
      linarith
    · push_cast
      rintro (h | h)
      · linarith
      · linarith
  · have hhigh' : (den : ℚ) < 2 * r := by exact_mod_cast hhigh
    refine key _ ?_ ?_ ?_
    · push_cast
      linarith
    · push_cast
      linarith
    · push_cast
      rintro (h | h)
      · linarith
      · linarith
  · have hhalf : 2 * (r : ℚ) = den := by
      exact_mod_cast (show 2 * r = den by omega)
    rcases Nat.even_or_odd q with hq | hq
    · rw [Nat.even_iff.1 hq, Nat.add_zero]
      refine key _ ?_ ?_ fun _ => by exact_mod_cast hq
      · push_cast
        linarith
      · push_cast
        linarith
    · rw [Nat.odd_iff.1 hq]
      refine key _ ?_ ?_ fun _ => by exact_mod_cast hq.add_one
      · push_cast
        linarith
      · push_cast
        linarith

end AdExchange
