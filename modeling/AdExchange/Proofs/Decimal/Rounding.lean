import AdExchange.Proofs.Decimal.Value
import AdExchange.Proofs.Number.Nearest
import Mathlib.Data.Nat.Find
import Mathlib.Tactic.Ring

/-!
# Rounding to a decimal

A number is rounded to a decimal with as many places as leave room for the mantissa.  Larger
numbers have fewer places, so the decimals that are rounded to lie less densely there.  Rounding
still keeps the order: a number that has no room for one more place is rounded to no less than what
any smaller one is rounded to.

This rests on the last digit of `2 ^ 96`, which is a 6.  The least number without room for a
further place is half a unit below a tenth of `2 ^ 96`, and the nearest integer lies above that
tenth.

## Main definitions

* `Decimal.Fits` — there is room for a number of places.
* `Decimal.IsRounding` — a decimal is what a number is rounded to.
* `Decimal.Rounded` — what a computation gives that rounds its exact result.
* `Decimal.Holds` — some decimal stands for a number.

## Main statements

* `Decimal.divHalfEven_lt_iff` — when a rounded mantissa is in range.
* `Decimal.IsRounding.mono` — rounding keeps the order.
* `Decimal.IsRounding.value_eq` — numbers of decimals are not changed.
-/

namespace AdExchange

namespace Decimal

variable {x y lo hi : ℚ} {d e : Decimal} {negative : Bool} {m num den s places : ℕ}

/-! ## The number of a decimal by sign and magnitude -/

def signOf (negative : Bool) : ℚ := if negative then -1 else 1

theorem abs_signOf (negative : Bool) : |signOf negative| = 1 := by
  cases negative <;> simp [signOf]

theorem signOf_bne (a b : Bool) : signOf (a != b) = signOf a * signOf b := by
  cases a <;> cases b <;> simp [signOf]

theorem signed_eq (d : Decimal) : (d.signed : ℚ) = signOf d.negative * d.mantissa := by
  cases h : d.negative <;> simp [signed, signOf, h]

theorem value_eq_signOf (d : Decimal) :
    d.value = signOf d.negative * (d.mantissa / 10 ^ d.scale) := by
  rw [value, signed_eq, mul_div_assoc]

theorem abs_value (d : Decimal) : |d.value| = d.mantissa / 10 ^ d.scale := by
  have hnonneg : (0 : ℚ) ≤ d.mantissa / 10 ^ d.scale := by positivity
  rw [value_eq_signOf, abs_mul, abs_signOf, one_mul, abs_of_nonneg hnonneg]

theorem value_mul_pow (d : Decimal) : d.value * 10 ^ d.scale = d.signed := by
  rw [value, div_mul_cancel₀]
  positivity

@[simp] theorem value_zero : zero.value = 0 := by
  simp [value, zero, signed, ofNat]

@[simp] theorem value_neg (d : Decimal) : d.neg.value = -d.value := by
  rw [value_eq_signOf, value_eq_signOf, ← neg_mul]
  congr 1
  cases h : d.negative <;> simp [neg, signOf, h]

theorem value_eq_zero (h : d.isZero = true) : d.value = 0 := by
  have hm : d.mantissa = 0 := by simpa [isZero] using h
  simp [value_eq_signOf, hm]

/-- The sign of a zero does not matter. -/
theorem value_withoutZeroSign (d : Decimal) : d.withoutZeroSign.value = d.value := by
  cases h : d.isZero with
  | true => rw [value_eq_zero h, value_eq_zero (d := d.withoutZeroSign) h]
  | false => simp [withoutZeroSign, h]

theorem value_ofSignedParts? (h : ofSignedParts? negative m s = some d) :
    d.value = signOf negative * (m / 10 ^ s) := by
  rw [ofSignedParts?] at h
  split at h
  · cases h
    exact value_eq_signOf _
  · cases h

theorem value_ofParts? (h : ofParts? negative m s = some d) :
    d.value = signOf negative * (m / 10 ^ s) := by
  rw [ofParts?] at h
  rw [value_ofSignedParts? h]
  by_cases hm : m = 0
  · simp [hm]
  · have hne : (m != 0) = true := by simpa using hm
    rw [hne, Bool.and_true]

theorem ofSignedParts?_eq_none_iff :
    ofSignedParts? negative m s = none ↔ ¬(m < 2 ^ 96 ∧ s ≤ 28) := by
  by_cases h : m < 2 ^ 96 ∧ s ≤ 28
  · rw [ofSignedParts?, dif_pos h]
    exact iff_of_false (Option.some_ne_none _) (not_not_intro h)
  · rw [ofSignedParts?, dif_neg h]
    exact iff_of_true rfl h

/-! ## Room for places -/

/-- There is room for so many places: the mantissa stays below its bound once it is rounded. -/
def Fits (x : ℚ) (places : ℕ) : Prop := |x| * 10 ^ places < 2 ^ 96 - 1 / 2

namespace Fits

theorem of_abs_le (hy : Fits y s) (h : |x| ≤ |y|) : Fits x s := by
  refine lt_of_le_of_lt ?_ hy
  gcongr

theorem of_le {t : ℕ} (h : Fits x t) (hst : s ≤ t) : Fits x s := by
  refine lt_of_le_of_lt ?_ h
  gcongr
  norm_num

/-- There is room for what lies between two numbers for which there is room. -/
theorem between (hlo : Fits lo s) (hhi : Fits hi s) (h₁ : lo ≤ x) (h₂ : x ≤ hi) : Fits x s := by
  rcases le_max_iff.1 (abs_le_max_abs_abs h₁ h₂) with h | h
  · exact hlo.of_abs_le h
  · exact hhi.of_abs_le h

end Fits

theorem fits_value (d : Decimal) : Fits d.value d.scale := by
  have hpow : (0 : ℚ) < 10 ^ d.scale := by positivity
  have hm : (d.mantissa : ℚ) + 1 ≤ 2 ^ 96 := by exact_mod_cast d.mantissa_lt
  rw [Fits, abs_value, div_mul_cancel₀ _ hpow.ne']
  linarith

/-- Rounded to so many places, a quotient has a mantissa that is in range exactly if it fits. -/
theorem divHalfEven_lt_iff (hden : 0 < den) :
    divHalfEven (num * 10 ^ s) den < 2 ^ 96 ↔ Fits ((num : ℚ) / den) s := by
  have hnearest := isNearest_divHalfEven (num * 10 ^ s) hden
  have hbound : Even (2 ^ 96 : ℤ) := by decide
  have hlt := hnearest.lt_iff hbound
  have hnonneg : (0 : ℚ) ≤ (num : ℚ) / den := by positivity
  have hscaled : ((num * 10 ^ s : ℕ) : ℚ) / den = (num : ℚ) / den * 10 ^ s := by
    push_cast
    ring
  rw [hscaled] at hlt
  rw [Fits, abs_of_nonneg hnonneg]
  refine Iff.trans ?_ (hlt.trans ?_)
  · exact_mod_cast Iff.rfl
  · push_cast
    exact Iff.rfl

/-- If a number has room at all, there is a greatest number of places that it has room for. -/
theorem exists_greatest_fit (h : Fits x 0) (places : ℕ) :
    ∃ s ≤ places, Fits x s ∧ ∀ t ≤ places, Fits x t → t ≤ s := by
  classical
  refine ⟨Nat.findGreatest (Fits x) places, Nat.findGreatest_le _, ?_, ?_⟩
  · exact Nat.findGreatest_spec (P := Fits x) (Nat.zero_le _) h
  · intro t ht hfits
    exact Nat.le_findGreatest ht hfits

/-! ## Rounding -/

/-- A decimal stands for the number that `x` is rounded to with at most so many places: as many of
them as there is room for. -/
def IsRounding (places : ℕ) (x : ℚ) (d : Decimal) : Prop :=
  ∃ s ≤ places, Fits x s ∧ (∀ t ≤ places, Fits x t → t ≤ s) ∧
    ∃ n : ℤ, IsNearest (x * 10 ^ s) n ∧ d.value = n / 10 ^ s

/-- What a computation gives whose exact result is `x`: the number that `x` is rounded to, or
nothing if there is no room for it. -/
def Rounded (places : ℕ) (x : ℚ) : Option Decimal → Prop
  | none => ¬ Fits x 0
  | some d => IsRounding places x d

theorem Rounded.eq_none_iff {o : Option Decimal} (h : Rounded places x o) :
    o = none ↔ ¬ Fits x 0 := by
  cases o with
  | none => exact iff_of_true rfl h
  | some d =>
    obtain ⟨s, -, hfits, -, -⟩ := h
    exact iff_of_false (Option.some_ne_none d) (not_not_intro (hfits.of_le (Nat.zero_le s)))

theorem Rounded.isRounding {o : Option Decimal} (h : Rounded places x o) (ho : o = some d) :
    IsRounding places x d := by
  rw [ho] at h
  exact h

/-- There is a result if there is room for it. -/
theorem Rounded.exists_of_fits {o : Option Decimal} (h : Rounded places x o) (hfits : Fits x 0) :
    ∃ d, o = some d ∧ IsRounding places x d := by
  cases o with
  | none => exact absurd hfits h
  | some d => exact ⟨d, rfl, h⟩

/-- Some decimal stands for the number. -/
def Holds (x : ℚ) : Prop := ∃ d : Decimal, d.value = x

namespace IsRounding

theorem fits (h : IsRounding places x d) : Fits x 0 := by
  obtain ⟨s, -, hfits, -, -⟩ := h
  exact hfits.of_le (Nat.zero_le s)

/-- Only the number that the decimal stands for matters. -/
theorem congr (h : IsRounding places x d) (hvalue : e.value = d.value) :
    IsRounding places x e := by
  obtain ⟨s, hs, hfits, hgreatest, n, hnearest, hd⟩ := h
  exact ⟨s, hs, hfits, hgreatest, n, hnearest, hvalue.trans hd⟩

/-- What has no more than so many places is not changed, however many places are allowed. -/
theorem widen (h : IsRounding places x d) (hplaces : places ≤ 28) {m : ℤ}
    (hexact : x * 10 ^ places = m) : IsRounding 28 x d := by
  obtain ⟨s, hs, hfits, hgreatest, n, hnearest, hd⟩ := h
  rcases Nat.lt_or_eq_of_le hs with hlt | rfl
  · -- A place was missing before, so no more than the same number of places fits.
    refine ⟨s, by omega, hfits, ?_, n, hnearest, hd⟩
    intro t _ ht
    by_contra hst
    have := hgreatest (s + 1) (by omega) (ht.of_le (by omega))
    omega
  · obtain ⟨t, ht, htfits, htgreatest⟩ := exists_greatest_fit (hfits.of_le (Nat.zero_le s)) 28
    have hst : s ≤ t := htgreatest s hplaces hfits
    have hpow : (10 : ℚ) ^ t = 10 ^ s * 10 ^ (t - s) := by
      rw [← pow_add, Nat.add_sub_cancel' hst]
    have hscaled : x * 10 ^ t = (m * 10 ^ (t - s) : ℤ) := by
      rw [hpow, ← mul_assoc, hexact]
      push_cast
      rfl
    refine ⟨t, ht, htfits, htgreatest, m * 10 ^ (t - s), ?_, ?_⟩
    · rw [hscaled]
      exact .intCast _
    · rw [hexact] at hnearest
      rw [hd, hnearest.eq_of_intCast, hpow]
      push_cast
      rw [mul_div_mul_right]
      positivity

/-- The number of a decimal is not changed. -/
theorem self (d : Decimal) : IsRounding 28 d.value d := by
  have hfits := fits_value d
  have h : IsRounding d.scale d.value d := by
    refine ⟨d.scale, le_rfl, hfits, fun t ht _ => ht, d.signed, ?_, rfl⟩
    rw [value_mul_pow]
    exact .intCast _
  exact h.widen d.scale_le (value_mul_pow d)

end IsRounding

/-! ## Rounding keeps the order -/

/-- A number without room for one more place is rounded to no less than a tenth of the bound: the
bound ends in a 6, so half a unit below its tenth the nearest integer is the one above. -/
theorem bound_le_of_not_fits {t : ℕ} {m : ℤ} (hy : 0 ≤ y) (hfull : ¬ Fits y (t + 1))
    (hm : IsNearest (y * 10 ^ t) m) : (2 : ℚ) ^ 96 / 10 ^ (t + 1) ≤ m / 10 ^ t := by
  have hlarge : (2 : ℚ) ^ 96 - 1 / 2 ≤ y * 10 ^ t * 10 := by
    rw [Fits, abs_of_nonneg hy, not_lt] at hfull
    rwa [mul_assoc, ← pow_succ]
  have hupper := hm.upper
  have hm' : (7922816251426433759354395033 : ℚ) < m := by
    norm_num at hlarge
    linarith
  have hm'' : (7922816251426433759354395034 : ℤ) ≤ m := by
    have : (7922816251426433759354395033 : ℤ) < m := by exact_mod_cast hm'
    omega
  have hbound : (2 : ℚ) ^ 96 ≤ m * 10 := by
    have : (7922816251426433759354395034 : ℚ) ≤ m := by exact_mod_cast hm''
    norm_num
    linarith
  rw [div_le_div_iff₀ (by positivity) (by positivity)]
  calc (2 : ℚ) ^ 96 * 10 ^ t ≤ m * 10 * 10 ^ t := by gcongr
    _ = m * 10 ^ (t + 1) := by ring

/-- Where the larger number has fewer places, it is rounded to no less than the smaller one. -/
theorem le_of_fewer_places {t : ℕ} {n m : ℤ} (hs : s ≤ 28) (hx : Fits x s)
    (hn : IsNearest (x * 10 ^ s) n) (hy : ∀ u ≤ 28, Fits y u → u ≤ t)
    (hm : IsNearest (y * 10 ^ t) m) (hts : t < s) (h : x ≤ y) :
    (n : ℚ) / 10 ^ s ≤ m / 10 ^ t := by
  have hnonneg : 0 ≤ y := by
    by_contra hneg
    have habs : |y| ≤ |x| := by
      rw [abs_of_neg (not_le.1 hneg), abs_of_neg (lt_of_le_of_lt h (not_le.1 hneg))]
      linarith
    have := hy s hs (hx.of_abs_le habs)
    omega
  have hfull : ¬ Fits y (t + 1) := by
    intro hfits
    have := hy (t + 1) (by omega) hfits
    omega
  have hbound : Even (2 ^ 96 : ℤ) := by decide
  have hlt : n < 2 ^ 96 := by
    rw [hn.lt_iff hbound]
    refine lt_of_le_of_lt ?_ ((show Fits x s from hx).trans_eq (by push_cast; ring))
    gcongr
    exact le_abs_self x
  have hlt' : (n : ℚ) ≤ 2 ^ 96 := by exact_mod_cast hlt.le
  calc (n : ℚ) / 10 ^ s ≤ 2 ^ 96 / 10 ^ s := by gcongr
    _ ≤ 2 ^ 96 / 10 ^ (t + 1) := by
      gcongr
      · norm_num
      · omega
    _ ≤ m / 10 ^ t := bound_le_of_not_fits hnonneg hfull hm

namespace IsRounding

/-- Rounding keeps the order. -/
theorem mono (hx : IsRounding 28 x d) (hy : IsRounding 28 y e) (h : x ≤ y) :
    d.value ≤ e.value := by
  obtain ⟨s, hs, hxfits, hxgreatest, n, hn, hd⟩ := hx
  obtain ⟨t, ht, hyfits, hygreatest, m, hm, he⟩ := hy
  rw [hd, he]
  rcases Nat.lt_trichotomy t s with hts | rfl | hst
  · exact le_of_fewer_places hs hxfits hn hygreatest hm hts h
  · have hnm : n ≤ m := by
      refine hn.mono hm ?_
      gcongr
    gcongr
  · -- The numbers with their signs changed are in the opposite order.
    have hneg : ∀ u ≤ 28, Fits (-x) u → u ≤ s := by
      intro u hu hfits
      rw [Fits, abs_neg] at hfits
      exact hxgreatest u hu hfits
    have hyneg : Fits (-y) t := by rwa [Fits, abs_neg]
    have hn' : IsNearest (-x * 10 ^ s) (-n) := by
      rw [neg_mul]
      exact hn.neg
    have hm' : IsNearest (-y * 10 ^ t) (-m) := by
      rw [neg_mul]
      exact hm.neg
    have hle := le_of_fewer_places ht hyneg hm' hneg hn' hst (neg_le_neg h)
    push_cast at hle
    rw [neg_div, neg_div] at hle
    exact neg_le_neg_iff.1 hle

/-- A number that some decimal stands for is not changed. -/
theorem value_eq (h : IsRounding 28 x d) (hx : Holds x) : d.value = x := by
  obtain ⟨e, rfl⟩ := hx
  exact le_antisymm (h.mono (.self e) le_rfl) ((IsRounding.self e).mono h le_rfl)

/-- Rounding does not go below a number that some decimal stands for. -/
theorem ge_of_ge (h : IsRounding 28 x d) (hy : Holds y) (hxy : y ≤ x) : y ≤ d.value := by
  obtain ⟨e, rfl⟩ := hy
  exact (IsRounding.self e).mono h hxy

theorem nonneg (h : IsRounding 28 x d) (hx : 0 ≤ x) : 0 ≤ d.value :=
  h.ge_of_ge ⟨zero, value_zero⟩ hx

/-- A quotient of integers with at most 28 digits is not rounded up to the next integer: it is below
that by no less than one part in the divisor, and rounding takes away less. -/
theorem lt_succ_of_digits {a b k : ℤ} (h : IsRounding 28 ((a : ℚ) / b) d) (ha : 0 ≤ a)
    (ha' : a < 10 ^ 28) (hb : 0 < b) (hb' : b < 10 ^ 28) (hk : a < (k + 1) * b) :
    d.value < k + 1 := by
  obtain ⟨s, -, -, hgreatest, n, hnearest, hd⟩ := h
  have hbpos : (0 : ℚ) < b := by exact_mod_cast hb
  have hpow : (0 : ℚ) < 10 ^ s := by positivity
  have haq : (a : ℚ) < 10 ^ 28 := by exact_mod_cast ha'
  have hbq : (b : ℚ) < 10 ^ 28 := by exact_mod_cast hb'
  have hanonneg : (0 : ℚ) ≤ a := by exact_mod_cast ha
  have hplaces : (b : ℚ) < 2 * 10 ^ s := by
    by_cases hfull : Fits ((a : ℚ) / b) (s + 1)
    · -- All places are there.
      have hs : 28 ≤ s := by
        by_contra hlt
        have := hgreatest (s + 1) (by omega) hfull
        omega
      have hmono : (10 : ℚ) ^ 28 ≤ 10 ^ s := by
        gcongr
        norm_num
      linarith
    · have hsucc : (10 : ℚ) ^ (s + 1) = 10 ^ s * 10 := pow_succ 10 s
      rw [Fits, abs_of_nonneg (by positivity), not_lt, div_mul_eq_mul_div, le_div_iff₀ hbpos,
        hsucc] at hfull
      have hlt : (a : ℚ) * (10 ^ s * 10) < 10 ^ 28 * (10 ^ s * 10) := by gcongr
      linarith
  have hupper := hnearest.lower
  have hle : (a : ℚ) + 1 ≤ (k + 1) * b := by exact_mod_cast hk
  have hquot : (a : ℚ) / b * 10 ^ s < (k + 1) * 10 ^ s - 1 / 2 := by
    rw [div_mul_eq_mul_div, div_lt_iff₀ hbpos]
    have hmul : ((a : ℚ) + 1) * 10 ^ s ≤ (k + 1) * b * 10 ^ s := by gcongr
    linarith
  rw [hd, div_lt_iff₀ hpow]
  linarith

end IsRounding

namespace Holds

theorem value (d : Decimal) : Holds d.value := ⟨d, rfl⟩

theorem fits (h : Holds x) : Fits x 0 := by
  obtain ⟨d, rfl⟩ := h
  exact (IsRounding.self d).fits

/-- An integer over a power of ten is the number of a decimal if both are in range. -/
theorem of_int {n : ℤ} (hn : |n| < 2 ^ 96) (hs : s ≤ 28) : Holds ((n : ℚ) / 10 ^ s) := by
  have hm : n.natAbs < 2 ^ 96 := by
    rw [Int.abs_eq_natAbs] at hn
    exact_mod_cast hn
  refine ⟨⟨decide (n < 0), n.natAbs, s, hm, hs⟩, ?_⟩
  have hsigned : Decimal.signed ⟨decide (n < 0), n.natAbs, s, hm, hs⟩ = n := by
    unfold signed
    by_cases hneg : n < 0
    · simp only [hneg, decide_true, if_true]
      omega
    · simp only [hneg, decide_false, Bool.false_eq_true, if_false]
      omega
  rw [Decimal.value, hsigned]

end Holds

end Decimal

end AdExchange
