import AdExchange.Proofs.Decimal.Rounding

/-!
# The arithmetic of decimals is one rounding

Every operation gives the number that its exact result is rounded to, and no result exactly if
there is no room for that.  So what is known of rounding holds of all of them: the operations keep
the order, and a result that some decimal stands for is exact.
-/

namespace AdExchange

namespace Decimal

variable {a b d : Decimal} {negative : Bool} {x : ℚ} {num den places s : ℕ}

/-! ## Rounding a quotient -/

theorem fits_signOf_mul : Fits (signOf negative * x) s ↔ Fits x s := by
  rw [Fits, Fits, abs_mul, abs_signOf, one_mul]

/-- A rounded mantissa that is in range makes a decimal with just as many places. -/
theorem isRounding_of_ofSignedParts? (hden : 0 < den)
    (h : ofSignedParts? negative (divHalfEven (num * 10 ^ s) den) s = some d) :
    IsRounding s (signOf negative * (num / den)) d := by
  have hrange : divHalfEven (num * 10 ^ s) den < 2 ^ 96 ∧ s ≤ 28 := by
    by_contra hnot
    rw [ofSignedParts?_eq_none_iff.2 hnot] at h
    cases h
  have hnearest := isNearest_divHalfEven (num * 10 ^ s) hden
  have hscaled : ((num * 10 ^ s : ℕ) : ℚ) / den = (num : ℚ) / den * 10 ^ s := by
    push_cast
    ring
  rw [hscaled] at hnearest
  refine ⟨s, le_rfl, fits_signOf_mul.2 ((divHalfEven_lt_iff hden).1 hrange.1), fun t ht _ => ht,
    if negative then -(divHalfEven (num * 10 ^ s) den : ℕ)
      else (divHalfEven (num * 10 ^ s) den : ℕ), ?_, ?_⟩
  · rw [mul_assoc]
    cases negative with
    | false => simpa [signOf] using hnearest
    | true => simpa [signOf] using hnearest.neg
  · rw [value_ofSignedParts? h]
    cases negative with
    | false => simp [signOf]
    | true =>
      simp only [signOf, if_true]
      push_cast
      ring

theorem IsRounding.of_not_fits (h : IsRounding s x d) (hfull : ¬ Fits x (s + 1)) :
    IsRounding (s + 1) x d := by
  obtain ⟨t, ht, hfits, hgreatest, hn⟩ := h
  refine ⟨t, by omega, hfits, ?_, hn⟩
  intro u hu hufits
  have hne : u ≠ s + 1 := by
    rintro rfl
    exact hfull hufits
  exact hgreatest u (by omega) hufits

/-- The decimal that a quotient is rounded to. -/
theorem rounded_roundSigned? (negative : Bool) (num : ℕ) (hden : 0 < den) (hplaces : places ≤ 28) :
    Rounded places (signOf negative * (num / den)) (roundSigned? negative num den places) := by
  induction places with
  | zero =>
    rw [roundSigned?]
    cases h : ofSignedParts? negative (divHalfEven num den) 0 with
    | some d =>
      refine isRounding_of_ofSignedParts? hden ?_
      rwa [Nat.pow_zero, Nat.mul_one]
    | none =>
      rw [ofSignedParts?_eq_none_iff] at h
      refine fun hfits => h ⟨?_, by omega⟩
      have hlt := (divHalfEven_lt_iff (s := 0) hden).2 (fits_signOf_mul.1 hfits)
      rwa [Nat.pow_zero, Nat.mul_one] at hlt
  | succ s ih =>
    rw [roundSigned?]
    split
    · next h => exact isRounding_of_ofSignedParts? hden h
    · next h =>
      have hfull : ¬ Fits (signOf negative * ((num : ℚ) / den)) (s + 1) := by
        intro hfits
        rw [ofSignedParts?_eq_none_iff] at h
        exact h ⟨(divHalfEven_lt_iff hden).2 (fits_signOf_mul.1 hfits), hplaces⟩
      have hrest := ih (by omega)
      cases hr : roundSigned? negative num den s with
      | none =>
        rw [hr] at hrest
        exact hrest
      | some d =>
        rw [hr] at hrest
        exact hrest.of_not_fits hfull

theorem fits_scale_of_roundSigned? (hden : 0 < den)
    (h : roundSigned? negative num den places = some d) : Fits ((num : ℚ) / den) d.scale := by
  have hparts : ∀ {m t : ℕ}, ofSignedParts? negative m t = some d → d.scale = t ∧ m < 2 ^ 96 := by
    intro m t ht
    rw [ofSignedParts?] at ht
    split at ht
    · next hrange =>
      cases ht
      exact ⟨rfl, hrange.1⟩
    · cases ht
  induction places with
  | zero =>
    obtain ⟨hscale, hlt⟩ := hparts h
    rw [hscale, ← divHalfEven_lt_iff hden, Nat.pow_zero, Nat.mul_one]
    exact hlt
  | succ s ih =>
    rw [roundSigned?] at h
    split at h
    · next hfits =>
      cases h
      obtain ⟨hscale, hlt⟩ := hparts hfits
      rw [hscale, ← divHalfEven_lt_iff hden]
      exact hlt
    · exact ih h

theorem Rounded.map {o : Option Decimal} {f : Decimal → Decimal} (h : Rounded places x o)
    (hf : ∀ d, (f d).value = d.value) : Rounded places x (o.map f) := by
  cases o with
  | none => exact h
  | some d => exact IsRounding.congr h (hf d)

theorem Rounded.widen {o : Option Decimal} (h : Rounded places x o) (hplaces : places ≤ 28)
    {m : ℤ} (hexact : x * 10 ^ places = m) : Rounded 28 x o := by
  cases o with
  | none => exact h
  | some d => exact IsRounding.widen h hplaces hexact

theorem rounded_round? (negative : Bool) (num : ℕ) (hden : 0 < den) (hplaces : places ≤ 28) :
    Rounded places (signOf negative * (num / den)) (round? negative num den places) :=
  (rounded_roundSigned? negative num hden hplaces).map value_withoutZeroSign

/-! ## Sums and differences -/

theorem rounded_some_of_value_eq (h : d.value = x) : Rounded 28 x (some d) := by
  rw [← h]
  exact .self d

theorem rounded_roundInt? (n : ℤ) (hs : s ≤ 28) :
    Rounded 28 ((n : ℚ) / 10 ^ s) (roundInt? n s) := by
  have hsign : signOf (decide (n < 0)) * ((n.natAbs : ℚ) / (10 ^ s : ℕ)) = n / 10 ^ s := by
    have habs : signOf (decide (n < 0)) * (n.natAbs : ℚ) = n := by
      rw [Nat.cast_natAbs]
      by_cases hneg : n < 0
      · simp [signOf, hneg, abs_of_neg hneg]
      · simp [signOf, hneg, abs_of_nonneg (not_lt.1 hneg)]
    rw [← mul_div_assoc, habs]
    push_cast
    rfl
  have hpow : 0 < 10 ^ s := by positivity
  have h := rounded_round? (decide (n < 0)) n.natAbs hpow (Nat.min_le_right s 28)
  rw [hsign, Nat.min_eq_left hs] at h
  rw [roundInt?, Nat.min_eq_left hs]
  refine h.widen hs (m := n) ?_
  field_simp

/-- What adding gives. -/
theorem rounded_add? (a b : Decimal) : Rounded 28 (a.value + b.value) (a.add? b) := by
  rw [add?]
  split
  · next ha => exact rounded_some_of_value_eq (by rw [value_eq_zero ha, zero_add])
  · split
    · next hb => exact rounded_some_of_value_eq (by rw [value_eq_zero hb, add_zero])
    · have hscaled : ∀ c : Decimal, c.scale ≤ max a.scale b.scale →
          ((c.signed * 10 ^ (max a.scale b.scale - c.scale) : ℤ) : ℚ) =
            c.value * 10 ^ max a.scale b.scale := by
        intro c hc
        have hpow : (10 : ℚ) ^ max a.scale b.scale =
            10 ^ c.scale * 10 ^ (max a.scale b.scale - c.scale) := by
          rw [← pow_add, Nat.add_sub_cancel' hc]
        rw [hpow, ← mul_assoc, value_mul_pow]
        push_cast
        rfl
      have h := rounded_roundInt?
        (a.signed * 10 ^ (max a.scale b.scale - a.scale) +
          b.signed * 10 ^ (max a.scale b.scale - b.scale)) (Nat.max_le.2 ⟨a.scale_le, b.scale_le⟩)
      rw [Int.cast_add, hscaled a (Nat.le_max_left _ _), hscaled b (Nat.le_max_right _ _),
        ← add_mul, mul_div_cancel_right₀ _ (by positivity)] at h
      exact h

/-- What subtracting gives. -/
theorem rounded_sub? (a b : Decimal) : Rounded 28 (a.value - b.value) (a.sub? b) := by
  rw [sub?]
  split
  · next hb =>
    refine rounded_some_of_value_eq ?_
    split
    · next ha => rw [value_eq_zero ha, value_eq_zero hb, sub_zero]
    · rw [value_eq_zero hb, sub_zero]
  · rw [sub_eq_add_neg, ← value_neg]
    exact rounded_add? a b.neg

/-! ## Products and quotients -/

/-- What multiplying gives. -/
theorem rounded_mul? (a b : Decimal) : Rounded 28 (a.value * b.value) (a.mul? b) := by
  have hexact : signOf (a.negative != b.negative) *
      ((a.mantissa * b.mantissa : ℕ) / (10 ^ (a.scale + b.scale) : ℕ)) = a.value * b.value := by
    rw [value_eq_signOf a, value_eq_signOf b, signOf_bne]
    push_cast
    rw [pow_add, mul_mul_mul_comm, div_mul_div_comm]
  have hpow : 0 < 10 ^ (a.scale + b.scale) := by positivity
  have hround := rounded_roundSigned? (a.negative != b.negative) (a.mantissa * b.mantissa) hpow
    (Nat.min_le_right (a.scale + b.scale) 28)
  rw [hexact] at hround
  have hproduct : Rounded 28 (a.value * b.value) (roundSigned? (a.negative != b.negative)
      (a.mantissa * b.mantissa) (10 ^ (a.scale + b.scale)) (min (a.scale + b.scale) 28)) := by
    rcases Nat.le_total (a.scale + b.scale) 28 with hle | hge
    · refine hround.widen (Nat.min_le_right _ _) (m := a.signed * b.signed) ?_
      rw [Nat.min_eq_left hle, pow_add, mul_mul_mul_comm, value_mul_pow, value_mul_pow]
      push_cast
      rfl
    · rwa [Nat.min_eq_right hge] at hround ⊢
  rw [mul?]
  split
  · next hzero =>
    refine rounded_some_of_value_eq ?_
    rcases Bool.or_eq_true_iff.1 hzero with ha | hb
    · rw [value_zero, value_eq_zero ha, zero_mul]
    · rw [value_zero, value_eq_zero hb, mul_zero]
  · split
    · exact hproduct.map value_withoutZeroSign
    · exact hproduct

/-- Multiplying with a number that is not below zero keeps the order. -/
theorem mul?_mono {c e : Decimal} (ha : a.mul? c = some d) (hb : b.mul? c = some e)
    (hc : 0 ≤ c.value) (h : a.value ≤ b.value) : d.value ≤ e.value := by
  have hd := (rounded_mul? a c).isRounding ha
  have he := (rounded_mul? b c).isRounding hb
  exact hd.mono he (mul_le_mul_of_nonneg_right h hc)

theorem value_dropZeros (n : ℕ) (d : Decimal) : (d.dropZeros n).value = d.value := by
  rw [dropZeros]
  split
  · next h =>
    obtain ⟨hn, hzeros⟩ := h
    have hm : (d.mantissa : ℚ) = 10 ^ n * (d.mantissa / 10 ^ n : ℕ) := by
      exact_mod_cast (Nat.mul_div_cancel' (Nat.dvd_of_mod_eq_zero hzeros)).symm
    have hpow : (10 : ℚ) ^ d.scale = 10 ^ n * 10 ^ (d.scale - n) := by
      rw [← pow_add, Nat.add_sub_cancel' hn]
    rw [value_eq_signOf, value_eq_signOf d, hm, hpow, mul_div_mul_left _ _ (by positivity)]
  · rfl

theorem value_stripped (d : Decimal) : d.stripped.value = d.value := by
  have height : ∀ d : Decimal, d.dropEightZeros.value = d.value := by
    intro d
    rw [dropEightZeros]
    split
    · exact value_dropZeros 8 d
    · rfl
  simp only [stripped, value_dropZeros, height]

/-- The exact quotient by signs and magnitudes. -/
theorem value_div_value (a b : Decimal) :
    a.value / b.value = signOf (a.negative != b.negative) *
      ((a.mantissa * 10 ^ b.scale : ℕ) / (b.mantissa * 10 ^ a.scale : ℕ)) := by
  have hsign : ∀ c : Bool, (signOf c)⁻¹ = signOf c := by
    intro c
    cases c <;> norm_num [signOf]
  rw [value_eq_signOf a, value_eq_signOf b, signOf_bne, mul_div_mul_comm, div_eq_mul_inv (signOf _),
    hsign, div_div_div_eq]
  push_cast
  rw [mul_comm (10 ^ a.scale : ℚ)]

/-- Where the mantissas divide without a rest once `k` places are added, the quotient is exact. -/
theorem value_div_value_of_dvd (a : Decimal) (hb : b.isZero = false) {k : ℕ}
    (h : a.mantissa * 10 ^ k % b.mantissa = 0) :
    signOf (a.negative != b.negative) *
        ((a.mantissa * 10 ^ k / b.mantissa * 10 ^ (b.scale - (a.scale + k)) : ℕ) /
          10 ^ (a.scale + k - b.scale)) = a.value / b.value := by
  have hm : (b.mantissa : ℚ) ≠ 0 := by
    have : b.mantissa ≠ 0 := by simpa [isZero] using hb
    exact_mod_cast this
  have hquot : (a.mantissa : ℚ) * 10 ^ k =
      b.mantissa * (a.mantissa * 10 ^ k / b.mantissa : ℕ) := by
    exact_mod_cast (Nat.mul_div_cancel' (Nat.dvd_of_mod_eq_zero h)).symm
  rw [value_div_value]
  generalize a.mantissa * 10 ^ k / b.mantissa = q at hquot
  congr 1
  push_cast
  have hpow : (10 : ℚ) ^ (b.scale - (a.scale + k)) * 10 ^ (a.scale + k) =
      10 ^ (a.scale + k - b.scale) * 10 ^ b.scale := by
    rw [← pow_add, ← pow_add]
    congr 1
    omega
  rw [div_eq_div_iff (by positivity) (by positivity)]
  have hk : (10 : ℚ) ^ k ≠ 0 := by positivity
  refine mul_right_cancel₀ hk ?_
  calc (q : ℚ) * 10 ^ (b.scale - (a.scale + k)) * (b.mantissa * 10 ^ a.scale) * 10 ^ k
      = b.mantissa * q * (10 ^ (b.scale - (a.scale + k)) * 10 ^ (a.scale + k)) := by ring
    _ = a.mantissa * 10 ^ b.scale * 10 ^ (a.scale + k - b.scale) * 10 ^ k := by
      rw [hpow, ← hquot]
      ring

/-- An exact result is given if there is room for it. -/
theorem rounded_ofParts? (hx : signOf negative * ((num : ℚ) / 10 ^ s) = x) (hs : s ≤ 28)
    (hlarge : 2 ^ 96 ≤ num → s = 0) : Rounded 28 x (ofParts? negative num s) := by
  cases h : ofParts? negative num s with
  | some d => exact rounded_some_of_value_eq ((value_ofParts? h).trans hx)
  | none =>
    rw [ofParts?, ofSignedParts?_eq_none_iff] at h
    have hnum : 2 ^ 96 ≤ num := by
      by_contra hlt
      exact h ⟨not_le.1 hlt, hs⟩
    have hnum' : (2 : ℚ) ^ 96 ≤ num := by exact_mod_cast hnum
    intro hfits
    rw [← hx, fits_signOf_mul, hlarge hnum, Fits, abs_of_nonneg (by positivity)] at hfits
    simp only [pow_zero, div_one, mul_one] at hfits
    linarith

/-- Where the mantissas divide without a rest, the quotient is exact. -/
theorem rounded_div?_of_dvd (hb : b.isZero = false) (hdvd : a.mantissa % b.mantissa = 0) :
    Rounded 28 (a.value / b.value) (ofParts? (a.negative != b.negative)
      (a.mantissa / b.mantissa * 10 ^ (b.scale - a.scale)) (a.scale - b.scale)) := by
  have hexact := value_div_value_of_dvd a hb (k := 0) (by rwa [Nat.pow_zero, Nat.mul_one])
  rw [Nat.pow_zero, Nat.mul_one, Nat.add_zero] at hexact
  have hscale := a.scale_le
  refine rounded_ofParts? hexact (by omega) ?_
  intro hlarge
  by_contra hplaces
  have hnone : b.scale - a.scale = 0 := by omega
  rw [hnone, Nat.pow_zero, Nat.mul_one] at hlarge
  exact absurd a.mantissa_lt (not_lt.2 (hlarge.trans (Nat.div_le_self _ _)))

/-- Where the division leaves nothing after some steps, the quotient is exact, and it has no more
places than there is room for. -/
theorem rounded_div?_of_steps {full : Decimal} {steps : ℕ} (hb : b.isZero = false)
    (hfull : round? (a.negative != b.negative) (a.mantissa * 10 ^ b.scale)
      (b.mantissa * 10 ^ a.scale) 28 = some full)
    (hsteps : exactSteps? a b full.scale = some steps) :
    Rounded 28 (a.value / b.value) (ofParts? (a.negative != b.negative)
      (a.mantissa * 10 ^ (9 * steps) / b.mantissa * 10 ^ (-steppedScale a b steps).toNat)
      (steppedScale a b steps).toNat) := by
  have hm : 0 < b.mantissa := Nat.pos_of_ne_zero (by simpa [isZero] using hb)
  rw [exactSteps?] at hsteps
  have hfound := List.find?_some hsteps
  obtain ⟨hdvd, hplaces⟩ := of_decide_eq_true hfound
  have hexact := value_div_value_of_dvd a hb hdvd
  have hscale : (steppedScale a b steps).toNat = a.scale + 9 * steps - b.scale := by
    rw [steppedScale]
    omega
  have hmissing : (-steppedScale a b steps).toNat = b.scale - (a.scale + 9 * steps) := by
    rw [steppedScale]
    omega
  have hfullScale := full.scale_le
  obtain ⟨rounded, hrounded, rfl⟩ := Option.map_eq_some_iff.1 hfull
  have hfits := fits_scale_of_roundSigned? (by positivity) hrounded
  rw [← @fits_signOf_mul (a.negative != b.negative), ← value_div_value, ← hexact,
    fits_signOf_mul] at hfits
  have hroom := hfits.of_le (s := a.scale + 9 * steps - b.scale) (by
    have : rounded.withoutZeroSign.scale = rounded.scale := rfl
    omega)
  rw [hscale, hmissing]
  refine rounded_ofParts? hexact (by omega) ?_
  intro hlarge
  have hlarge' : (2 : ℚ) ^ 96 ≤ (a.mantissa * 10 ^ (9 * steps) / b.mantissa *
      10 ^ (b.scale - (a.scale + 9 * steps)) : ℕ) := by exact_mod_cast hlarge
  rw [Fits, abs_of_nonneg (by positivity), div_mul_cancel₀ _ (by positivity)] at hroom
  linarith

/-- What dividing gives. -/
theorem rounded_div? (a : Decimal) (hb : b.isZero = false) :
    Rounded 28 (a.value / b.value) (a.div? b) := by
  have hm : 0 < b.mantissa := Nat.pos_of_ne_zero (by simpa [isZero] using hb)
  rw [div?, if_neg (by simp [hb])]
  split
  · next ha => exact rounded_some_of_value_eq (by rw [value_zero, value_eq_zero ha, zero_div])
  · split
    · next hdvd => exact rounded_div?_of_dvd hb hdvd
    · have hden : 0 < b.mantissa * 10 ^ a.scale := by positivity
      have hround := rounded_round? (a.negative != b.negative) (a.mantissa * 10 ^ b.scale) hden
        (le_refl 28)
      rw [← value_div_value] at hround
      generalize hfull : round? (a.negative != b.negative) (a.mantissa * 10 ^ b.scale)
        (b.mantissa * 10 ^ a.scale) 28 = result at hround ⊢
      cases result with
      | none => exact hround
      | some full =>
        rw [Option.bind_eq_bind, Option.bind_some]
        split
        · exact IsRounding.congr hround (value_stripped full)
        · next steps hsteps =>
          exact (rounded_div?_of_steps hb hfull hsteps).map value_stripped

/-! ## The integer below -/

/-- The integer below a decimal is the one below its number. -/
theorem value_floor (d : Decimal) : d.floor.value = ⌊d.value⌋ := by
  have hpow : (0 : ℚ) < 10 ^ d.scale := by positivity
  have hfloor : d.floor.value = signOf d.negative * d.floorMagnitude := by
    rw [value_eq_signOf]
    simp only [floor, pow_zero, div_one]
    by_cases hm : d.floorMagnitude = 0
    · simp [hm]
    · have hne : (d.floorMagnitude != 0) = true := by simpa using hm
      rw [hne, Bool.and_true]
  rw [hfloor, value_eq_signOf, floorMagnitude]
  cases d.negative with
  | false =>
    simp only [signOf, Bool.false_eq_true, if_false, one_mul]
    have hdiv := Rat.floor_natCast_div_natCast d.mantissa (10 ^ d.scale)
    push_cast at hdiv
    rw [hdiv]
    norm_cast
  | true =>
    simp only [signOf, if_true, neg_mul, one_mul]
    -- The magnitude is rounded up: it is the least integer that is not below the quotient.
    have hp : 0 < 10 ^ d.scale := by positivity
    have hdiv := Nat.div_add_mod (d.mantissa + (10 ^ d.scale - 1)) (10 ^ d.scale)
    have hmod := Nat.mod_lt (d.mantissa + (10 ^ d.scale - 1)) hp
    generalize (d.mantissa + (10 ^ d.scale - 1)) / 10 ^ d.scale = c at hdiv
    have hlower : d.mantissa ≤ 10 ^ d.scale * c := by omega
    have hupper : 10 ^ d.scale * c < d.mantissa + 10 ^ d.scale := by omega
    have hlower' : (d.mantissa : ℚ) ≤ 10 ^ d.scale * c := by exact_mod_cast hlower
    have hupper' : (10 : ℚ) ^ d.scale * c < d.mantissa + 10 ^ d.scale := by exact_mod_cast hupper
    have hfloor : ⌊-((d.mantissa : ℚ) / 10 ^ d.scale)⌋ = -(c : ℤ) := by
      rw [Int.floor_eq_iff, ← neg_div, le_div_iff₀ hpow, div_lt_iff₀ hpow]
      push_cast
      constructor
      · linarith
      · linarith
    rw [hfloor]
    push_cast
    rfl

theorem floor_mono (h : a.value ≤ b.value) : a.floor.value ≤ b.floor.value := by
  rw [value_floor, value_floor]
  exact_mod_cast Int.floor_mono h

theorem floor_nonneg (h : 0 ≤ d.value) : 0 ≤ d.floor.value := by
  rw [value_floor]
  exact_mod_cast Int.floor_nonneg.2 h

end Decimal

end AdExchange
