import AdExchange.Decimal.Basic

/-!
# The sign of a product and of a quotient

Rounding never changes the sign of a number, unless it makes the number a zero.  So a product or a
quotient is below zero exactly if it is no zero and one of the two numbers is below zero, but not
the other.
-/

namespace AdExchange

namespace Decimal

/-- The sign is the given one, unless the number is a zero. -/
def HasSign (negative : Bool) (d : Decimal) : Prop := d.isZero = false → d.negative = negative

variable {a b d : Decimal} {negative : Bool} {m num den scale places : Nat}

theorem isZero_eq_false_iff : d.isZero = false ↔ d.mantissa ≠ 0 := by simp [isZero]

theorem lt_zero_iff : d < zero ↔ d.isZero = false ∧ d.negative = true := by
  rw [lt_def, isZero_eq_false_iff]
  have hzero : zero.signed = 0 := rfl
  have hscale : zero.scale = 0 := rfl
  rw [hzero, hscale, signed]
  cases d.negative with
  | false => simp
  | true =>
    simp only [if_true, Int.pow_zero, Int.mul_one, Int.zero_mul, and_true]
    omega

theorem zero_le_iff : zero ≤ d ↔ ¬ d < zero := by
  rw [le_def, lt_def]
  exact Int.not_lt.symm

/-- A number with a known sign is below zero exactly if the sign is a minus and it is no zero. -/
theorem HasSign.lt_zero_iff (h : d.HasSign negative) :
    d < zero ↔ d.isZero = false ∧ negative = true := by
  rw [Decimal.lt_zero_iff]
  constructor
  · rintro ⟨hd, hneg⟩
    exact ⟨hd, by rw [← h hd, hneg]⟩
  · rintro ⟨hd, hneg⟩
    exact ⟨hd, by rw [h hd, hneg]⟩

/-! ## Steps of the arithmetic -/

theorem hasSign_ofSignedParts? (h : ofSignedParts? negative m scale = some d) :
    d.HasSign negative := by
  rw [ofSignedParts?] at h
  split at h
  · cases h
    exact fun _ => rfl
  · cases h

theorem hasSign_ofParts? (h : ofParts? negative m scale = some d) : d.HasSign negative := by
  rw [ofParts?, ofSignedParts?] at h
  split at h
  · cases h
    intro hd
    simp [isZero_eq_false_iff.1 hd]
  · cases h

theorem hasSign_withoutZeroSign (h : d.HasSign negative) :
    d.withoutZeroSign.HasSign negative := by
  intro hd
  have hd' : d.isZero = false := hd
  simp [withoutZeroSign, hd', h hd']

/-- Rounding keeps the sign. -/
theorem hasSign_roundSigned? (h : roundSigned? negative num den places = some d) :
    d.HasSign negative := by
  induction places with
  | zero => exact hasSign_ofSignedParts? h
  | succ s ih =>
    rw [roundSigned?] at h
    split at h
    · next hfits =>
      cases h
      exact hasSign_ofSignedParts? hfits
    · exact ih h

theorem hasSign_round? (h : round? negative num den places = some d) : d.HasSign negative := by
  obtain ⟨rounded, hrounded, rfl⟩ := Option.map_eq_some_iff.1 h
  exact hasSign_withoutZeroSign (hasSign_roundSigned? hrounded)

theorem HasSign.dropZeros (h : d.HasSign negative) (n : Nat) :
    (d.dropZeros n).HasSign negative := by
  rw [Decimal.dropZeros]
  split
  · intro hd
    refine h (isZero_eq_false_iff.2 ?_)
    intro hm
    simp [isZero, hm] at hd
  · exact h

theorem HasSign.stripped (h : d.HasSign negative) : d.stripped.HasSign negative := by
  have height : ∀ {d : Decimal}, d.HasSign negative → d.dropEightZeros.HasSign negative := by
    intro d h
    rw [dropEightZeros]
    split
    · exact h.dropZeros 8
    · exact h
  exact (((height (height (height h))).dropZeros 4).dropZeros 2).dropZeros 1

/-! ## Products and quotients -/

theorem isZero_of_mul? (h : a.mul? b = some d) (hz : a.isZero = true ∨ b.isZero = true) :
    d.isZero = true := by
  rw [mul?] at h
  rcases hz with hz | hz
  · simp only [hz, Bool.true_or, if_true] at h
    cases h
    rfl
  · simp only [hz, Bool.or_true, if_true] at h
    cases h
    rfl

theorem hasSign_mul? (h : a.mul? b = some d) : d.HasSign (a.negative != b.negative) := by
  rw [mul?] at h
  split at h
  · cases h
    intro hd
    cases hd
  · split at h
    · obtain ⟨product, hproduct, rfl⟩ := Option.map_eq_some_iff.1 h
      exact hasSign_withoutZeroSign (hasSign_roundSigned? hproduct)
    · exact hasSign_roundSigned? h

theorem isZero_of_div? (h : a.div? b = some d) (hz : a.isZero = true ∨ b.isZero = true) :
    d.isZero = true := by
  rw [div?] at h
  split at h
  · cases h
  · next hb =>
    rw [if_pos (hz.resolve_right hb)] at h
    cases h
    rfl

theorem hasSign_div? (h : a.div? b = some d) : d.HasSign (a.negative != b.negative) := by
  rw [div?] at h
  split at h
  · cases h
  · split at h
    · cases h
      intro hd
      cases hd
    · split at h
      · exact hasSign_ofParts? h
      · obtain ⟨full, hfull, h⟩ := Option.bind_eq_some_iff.1 h
        split at h
        · cases h
          exact (hasSign_round? hfull).stripped
        · obtain ⟨quotient, hquotient, rfl⟩ := Option.map_eq_some_iff.1 h
          exact (hasSign_ofParts? hquotient).stripped

/-- What is a zero if one of two numbers is, and else has the sign of their product, is below zero
exactly if it is no zero and one of the two is below zero but not the other. -/
theorem lt_zero_iff_of_signs (hsign : d.HasSign (a.negative != b.negative))
    (hzero : a.isZero = true ∨ b.isZero = true → d.isZero = true) :
    d < zero ↔ d.isZero = false ∧ ¬ (a < zero ↔ b < zero) := by
  rw [hsign.lt_zero_iff, and_congr_right_iff]
  intro hd
  have hnone : a.isZero = false ∧ b.isZero = false := by
    rw [← Bool.not_eq_true, ← Bool.not_eq_true, ← not_or]
    intro hz
    rw [hzero hz] at hd
    cases hd
  rw [lt_zero_iff, lt_zero_iff]
  cases ha : a.negative <;> cases hb : b.negative <;> simp [hnone]

theorem mul?_lt_zero_iff (h : a.mul? b = some d) :
    d < zero ↔ d.isZero = false ∧ ¬ (a < zero ↔ b < zero) :=
  lt_zero_iff_of_signs (hasSign_mul? h) (isZero_of_mul? h)

theorem div?_lt_zero_iff (h : a.div? b = some d) :
    d < zero ↔ d.isZero = false ∧ ¬ (a < zero ↔ b < zero) :=
  lt_zero_iff_of_signs (hasSign_div? h) (isZero_of_div? h)

end Decimal

end AdExchange
