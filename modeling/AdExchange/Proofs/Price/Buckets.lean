import AdExchange.Proofs.Price.Ranges

/-!
# Prices are rounded down to a bucket

The bucket of a price in a range is `min` and as many whole increments as there are between `min`
and the price.  That is so as far as decimals go: the difference, the offset and the bucket must be
numbers of decimals, and the quotient, which is rounded, must not be rounded up to the next integer.
None of this can go wrong where the price and the range have at most 28 digits.

A price above the upper end of the last range is in no bucket of its range, even if an earlier range
holds it: its bucket is that end.
-/

namespace AdExchange

open Decimal (IsRounding Fits Holds zero)

namespace GranularityRange

variable {r : GranularityRange} {p q b c above steps : Decimal}

/-! ## The computation of a bucket -/

/-- The bucket of a price, if all of it can be computed. -/
def computed? (r : GranularityRange) (price : Decimal) : Option Decimal := do
  let above ← price.sub? r.min
  let steps ← above.div? r.increment
  let offset ← steps.floor.mul? r.increment
  offset.add? r.min

theorem computed?_eq_some_iff :
    r.computed? p = some b ↔ ∃ above steps offset, p.sub? r.min = some above ∧
      above.div? r.increment = some steps ∧ steps.floor.mul? r.increment = some offset ∧
      offset.add? r.min = some b := by
  simp only [computed?, Option.bind_eq_bind, Option.bind_eq_some_iff]
  constructor
  · rintro ⟨above, habove, steps, hsteps, offset, hoffset, hb⟩
    exact ⟨above, steps, offset, habove, hsteps, hoffset, hb⟩
  · rintro ⟨above, steps, offset, habove, hsteps, hoffset, hb⟩
    exact ⟨above, habove, steps, hsteps, offset, hoffset, hb⟩

namespace Sound

theorem increment_value_pos (h : r.Sound) : 0 < r.increment.value := by
  rw [← Decimal.value_zero]
  exact Decimal.lt_iff_value_lt.1 h.increment_pos

theorem isZero_increment (h : r.Sound) : r.increment.isZero = false := by
  rw [← Bool.not_eq_true]
  intro hzero
  exact h.increment_value_pos.ne' (Decimal.value_eq_zero hzero)

theorem min_value_lt (h : r.Sound) : r.min.value < r.max.value :=
  Decimal.lt_iff_value_lt.1 h.nonempty

/-- What is counted when a range is accepted. -/
theorem exists_width (h : r.Sound) :
    ∃ width, IsRounding 28 (r.max.value - r.min.value) width ∧
      Fits (width.value / r.increment.value) 0 := by
  obtain ⟨steps, hsteps⟩ := Option.isSome_iff_exists.1 h.counted
  obtain ⟨width, hwidth, hsteps⟩ := Option.bind_eq_some_iff.1 hsteps
  exact ⟨width, (Decimal.rounded_sub? _ _).isRounding hwidth,
    ((Decimal.rounded_div? width h.isZero_increment).isRounding hsteps).fits⟩

/-- A price in a range has a difference from `min`. -/
theorem exists_above (h : r.Sound) (hmin : r.min ≤ p) (hmax : p ≤ r.max) :
    ∃ above, p.sub? r.min = some above ∧ IsRounding 28 (p.value - r.min.value) above := by
  rw [Decimal.le_iff_value_le] at hmin hmax
  obtain ⟨width, hwidth, -⟩ := h.exists_width
  refine (Decimal.rounded_sub? p r.min).exists_of_fits (hwidth.fits.of_abs_le ?_)
  rw [abs_of_nonneg (by linarith), abs_of_nonneg (by linarith)]
  linarith

/-- The whole increments in that difference can be counted, since those of the whole range can. -/
theorem exists_steps (h : r.Sound) (hmin : r.min ≤ p) (hmax : p ≤ r.max)
    (habove : IsRounding 28 (p.value - r.min.value) above) :
    0 ≤ above.value ∧ ∃ steps, above.div? r.increment = some steps ∧
      IsRounding 28 (above.value / r.increment.value) steps := by
  rw [Decimal.le_iff_value_le] at hmin hmax
  have hinc := h.increment_value_pos
  obtain ⟨width, hwidth, hcounted⟩ := h.exists_width
  have hnonneg : 0 ≤ above.value := habove.nonneg (by linarith)
  have hle : above.value ≤ width.value := habove.mono hwidth (by linarith)
  refine ⟨hnonneg, (Decimal.rounded_div? above h.isZero_increment).exists_of_fits ?_⟩
  refine hcounted.of_abs_le ?_
  rw [abs_of_nonneg (by positivity), abs_of_nonneg (div_nonneg (hnonneg.trans hle) hinc.le)]
  gcongr

end Sound

/-! ## Rounding down -/

/-- How many whole increments a price is above `min`. -/
def index (r : GranularityRange) (price : Decimal) : ℤ :=
  ⌊(price.value - r.min.value) / r.increment.value⌋

/-- A price is rounded down to a bucket: the bucket is `min` and so many increments that one more
would be above the price. -/
def Floors (r : GranularityRange) (price bucket : Decimal) : Prop :=
  ∃ k : ℤ, bucket.value = r.min.value + k * r.increment.value ∧
    r.min.value + k * r.increment.value ≤ price.value ∧
    price.value < r.min.value + (k + 1) * r.increment.value

/-- Decimals are fine enough for a price: there are decimals for its difference from `min`, for the
offset of its bucket and for the bucket, and the number of increments is not rounded up to the next
integer. -/
structure Resolves (r : GranularityRange) (price : Decimal) : Prop where
  above : Holds (price.value - r.min.value)
  offset : Holds (r.index price * r.increment.value)
  bucket : Holds (r.min.value + r.index price * r.increment.value)
  steps : ∀ d, IsRounding 28 ((price.value - r.min.value) / r.increment.value) d →
    d.value < r.index price + 1

theorem index_mul_le (hinc : 0 < r.increment.value) :
    r.min.value + r.index p * r.increment.value ≤ p.value := by
  have h := Int.floor_le ((p.value - r.min.value) / r.increment.value)
  rw [le_div_iff₀ hinc] at h
  rw [index]
  linarith

theorem lt_index_succ_mul (hinc : 0 < r.increment.value) :
    p.value < r.min.value + (r.index p + 1) * r.increment.value := by
  have h := Int.lt_floor_add_one ((p.value - r.min.value) / r.increment.value)
  rw [div_lt_iff₀ hinc] at h
  rw [index]
  linarith

/-- Where decimals are fine enough, the bucket of a price can be computed, and the price is rounded
down to it. -/
theorem exists_floors (h : r.Sound) (hmin : r.min ≤ p) (hmax : p ≤ r.max) (hres : r.Resolves p) :
    ∃ b, r.computed? p = some b ∧ r.Floors p b := by
  have hinc := h.increment_value_pos
  obtain ⟨above, habove, haboveRounding⟩ := h.exists_above hmin hmax
  obtain ⟨hnonneg, steps, hsteps, hstepsRounding⟩ := h.exists_steps hmin hmax haboveRounding
  rw [haboveRounding.value_eq hres.above] at hnonneg hstepsRounding
  -- The number of increments is an integer in range, so it is not rounded below it.
  have hindex : (0 : ℤ) ≤ r.index p := Int.floor_nonneg.2 (by positivity)
  have hindexHolds : Holds (r.index p : ℚ) := by
    have hfits := hstepsRounding.fits
    rw [Fits, pow_zero, mul_one, abs_of_nonneg (by positivity)] at hfits
    have hle := Int.floor_le ((p.value - r.min.value) / r.increment.value)
    have hlt : (r.index p : ℚ) < (2 ^ 96 : ℤ) := by
      push_cast
      rw [index]
      linarith
    have hbound : |r.index p| < 2 ^ 96 := by
      rw [abs_of_nonneg hindex]
      exact_mod_cast hlt
    have hholds := Holds.of_int (s := 0) hbound (by omega)
    rwa [pow_zero, div_one] at hholds
  have hfloor : steps.floor.value = r.index p := by
    rw [Decimal.value_floor]
    congr 1
    rw [Int.floor_eq_iff]
    exact ⟨hstepsRounding.ge_of_ge hindexHolds (Int.floor_le _), hres.steps _ hstepsRounding⟩
  have hmul := Decimal.rounded_mul? steps.floor r.increment
  rw [hfloor] at hmul
  obtain ⟨offset, hoffset, hoffsetRounding⟩ := hmul.exists_of_fits hres.offset.fits
  have hadd := Decimal.rounded_add? offset r.min
  rw [hoffsetRounding.value_eq hres.offset, add_comm] at hadd
  obtain ⟨b, hb, hbRounding⟩ := hadd.exists_of_fits hres.bucket.fits
  exact ⟨b, computed?_eq_some_iff.2 ⟨_, _, _, habove, hsteps, hoffset, hb⟩, r.index p,
    hbRounding.value_eq hres.bucket, index_mul_le hinc, lt_index_succ_mul hinc⟩

/-! ## Twenty-eight digits -/

/-- The number has at most 28 digits if it is written with so many places. -/
def HasDigits (places : ℕ) (x : ℚ) : Prop := ∃ n : ℤ, |n| < 10 ^ 28 ∧ x = n / 10 ^ places

/-- With some common number of places the price, the lower end and the increment of a range and the
difference of the price from the lower end have at most 28 digits. -/
def Short (r : GranularityRange) (price : Decimal) : Prop :=
  ∃ places ≤ 28, HasDigits places price.value ∧ HasDigits places r.min.value ∧
    HasDigits places r.increment.value ∧ HasDigits places (price.value - r.min.value)

/-- In units of the last place the number of whole increments is a quotient of integers. -/
theorem index_eq_ediv {a i : ℤ} {s : ℕ} (hi : 0 < i) (hincr : r.increment.value = i / 10 ^ s)
    (habove : p.value - r.min.value = a / 10 ^ s) : r.index p = a / i := by
  have hpow : (10 : ℚ) ^ s ≠ 0 := by positivity
  rw [index, habove, hincr, div_div_div_cancel_right₀ hpow]
  lift i to ℕ using hi.le
  exact_mod_cast Rat.floor_intCast_div_natCast a i

/-- Decimals are fine enough for 28 digits. -/
theorem resolves_of_short (hinc : 0 < r.increment.value) (hmin : r.min ≤ p) (h : r.Short p) :
    r.Resolves p := by
  obtain ⟨s, hs, ⟨m, hm, hp⟩, ⟨n, hn, hlow⟩, ⟨i, hi, hincr⟩, ⟨a, ha, habove⟩⟩ := h
  rw [Decimal.le_iff_value_le] at hmin
  have hpow : (0 : ℚ) < 10 ^ s := by positivity
  have hipos : 0 < i := by
    rw [hincr, lt_div_iff₀ hpow, zero_mul] at hinc
    exact_mod_cast hinc
  have hanonneg : 0 ≤ a := by
    have hle : (0 : ℚ) ≤ a / 10 ^ s := by
      rw [← habove]
      linarith
    rw [le_div_iff₀ hpow, zero_mul] at hle
    exact_mod_cast hle
  have hsum : m = n + a := by
    have heq : (m : ℚ) / 10 ^ s = (n + a) / 10 ^ s := by
      rw [← hp, add_div, ← habove, ← hlow]
      ring
    rw [div_left_inj' hpow.ne'] at heq
    exact_mod_cast heq
  have hindex := index_eq_ediv hipos hincr habove
  -- In units of the last place: the offset is not above the difference, one more increment is.
  have hlower : r.index p * i ≤ a := by
    rw [hindex]
    exact Int.ediv_mul_le a hipos.ne'
  have hupper : a < (r.index p + 1) * i := by
    rw [hindex]
    exact Int.lt_ediv_add_one_mul_self a hipos
  have hoffset : 0 ≤ r.index p * i := by
    rw [hindex]
    exact mul_nonneg (Int.ediv_nonneg hanonneg hipos.le) hipos.le
  have hrange : ∀ x : ℤ, |x| < 10 ^ 28 → Holds ((x : ℚ) / 10 ^ s) :=
    fun x hx => .of_int (hx.trans (by norm_num)) hs
  refine ⟨?_, ?_, ?_, ?_⟩
  · rw [habove]
    exact hrange a ha
  · have hholds := hrange (r.index p * i) ((abs_le_abs_of_nonneg hoffset hlower).trans_lt ha)
    rwa [Int.cast_mul, mul_div_assoc, ← hincr] at hholds
  · -- The bucket lies between the lower end and the price.
    have hbetween : |n + r.index p * i| < 10 ^ 28 := by
      have hn' := (abs_lt.1 hn).1
      have hm' := (abs_lt.1 hm).2
      exact abs_lt.2 ⟨by linarith, by linarith⟩
    have hholds := hrange (n + r.index p * i) hbetween
    rwa [Int.cast_add, Int.cast_mul, add_div, mul_div_assoc, ← hincr, ← hlow] at hholds
  · intro d hd
    rw [habove, hincr, div_div_div_cancel_right₀ hpow.ne'] at hd
    exact hd.lt_succ_of_digits hanonneg ((le_abs_self a).trans_lt ha) hipos
      ((le_abs_self i).trans_lt hi) hupper

end GranularityRange

namespace PriceGranularity

variable {v : Json} {g : PriceGranularity} {r : GranularityRange} {price above : Decimal}

theorem bucketValue?_eq_computed? (h : price.sub? r.min = some above) :
    GranularityRange.bucketValue? r price = some ((r.computed? price).getD r.min) := by
  simp only [GranularityRange.bucketValue?, GranularityRange.computed?, h,
    Option.bind_eq_bind, Option.bind_some]

/-- The bucket of a price that is not above the last range is the one in the first range that holds
the price. -/
theorem bucketValue?_of_find? {top : GranularityRange} (hlast : g.ranges.getLast? = some top)
    (htop : price ≤ top.max) :
    g.bucketValue? price =
      match g.ranges.find? (fun r => r.min ≤ price ∧ price ≤ r.max) with
      | some r => GranularityRange.bucketValue? r price
      | none => some zero := by
  rw [bucketValue?, hlast]
  exact if_neg (Decimal.not_lt.2 htop)

theorem bucketValue?_of_lt {top : GranularityRange} (hlast : g.ranges.getLast? = some top)
    (htop : top.max < price) : g.bucketValue? price = some top.max := by
  rw [bucketValue?, hlast]
  exact if_pos htop

/-- The bucket of a price in the first range that holds it.  It is always there.  A price above the
last range is cut down to the upper end of that range; any other one is rounded down in the range
that holds it, wherever decimals are fine enough.  They are for prices and ranges with at most 28
digits. -/
theorem bucketValue?_floors (hg : ofJson v = .ok g)
    (hfirst : g.ranges.find? (fun r => r.min ≤ price ∧ price ≤ r.max) = some r) :
    ∃ top bucket, g.ranges.getLast? = some top ∧ g.bucketValue? price = some bucket ∧
      (top.max < price → bucket = top.max) ∧
      (price ≤ top.max → r.Resolves price ∨ r.Short price → r.Floors price bucket) := by
  obtain ⟨hnonempty, hsound⟩ := sound_of_ofJson hg
  have hr := hsound r (List.mem_of_find?_eq_some hfirst)
  have hin := List.find?_some hfirst
  obtain ⟨hmin, hmax⟩ : r.min ≤ price ∧ price ≤ r.max := of_decide_eq_true hin
  have hlast := List.getLast?_eq_some_getLast hnonempty
  generalize g.ranges.getLast hnonempty = top at hlast
  by_cases htop : top.max < price
  · refine ⟨top, top.max, hlast, bucketValue?_of_lt hlast htop, fun _ => rfl, ?_⟩
    exact fun hle => absurd htop (Decimal.not_lt.2 hle)
  · have hle : price ≤ top.max := Decimal.not_lt.1 htop
    obtain ⟨above, habove, -⟩ := hr.exists_above hmin hmax
    refine ⟨top, (r.computed? price).getD r.min, hlast, ?_, fun h => absurd h htop, ?_⟩
    · rw [bucketValue?_of_find? hlast hle, hfirst]
      exact bucketValue?_eq_computed? habove
    · intro _ hfine
      have hres : r.Resolves price :=
        hfine.elim id (GranularityRange.resolves_of_short hr.increment_value_pos hmin)
      obtain ⟨bucket, hbucket, hfloors⟩ := GranularityRange.exists_floors hr hmin hmax hres
      rwa [hbucket]

/-- A price in the second of three ranges. -/
theorem bucketValue?_floors_auto :
    ∃ bucket, ofJson (.string "auto") = .ok ⟨2, [⟨.ofNat 0, .ofNat 5, .ofNat 5 2⟩,
        ⟨.ofNat 5, .ofNat 10, .ofNat 1 1⟩, ⟨.ofNat 10, .ofNat 20, .ofNat 5 1⟩]⟩ ∧
      PriceGranularity.bucketValue? ⟨2, [⟨.ofNat 0, .ofNat 5, .ofNat 5 2⟩,
        ⟨.ofNat 5, .ofNat 10, .ofNat 1 1⟩, ⟨.ofNat 10, .ofNat 20, .ofNat 5 1⟩]⟩
        (.ofNat 777 2) = some bucket ∧
      GranularityRange.Floors ⟨.ofNat 5, .ofNat 10, .ofNat 1 1⟩ (.ofNat 777 2) bucket := by
  have hshort : GranularityRange.Short ⟨.ofNat 5, .ofNat 10, .ofNat 1 1⟩ (.ofNat 777 2) := by
    refine ⟨2, by decide, ⟨777, by decide, ?_⟩, ⟨500, by decide, ?_⟩, ⟨10, by decide, ?_⟩,
      ⟨277, by decide, ?_⟩⟩ <;>
    norm_num [Decimal.value, Decimal.signed, Decimal.ofNat]
  obtain ⟨top, bucket, hlast, hbucket, -, hfloors⟩ :=
    @bucketValue?_floors (.string "auto") _ ⟨.ofNat 5, .ofNat 10, .ofNat 1 1⟩ (.ofNat 777 2) rfl
      (by rw [List.find?_cons_of_neg (by decide), List.find?_cons_of_pos (by decide)])
  refine ⟨bucket, rfl, hbucket, hfloors ?_ (.inr hshort)⟩
  cases hlast
  decide

/-! ## Where a price is not rounded down in its range -/

/-- Asks for ranges given as upper end, increment and, if there is one, lower end. -/
def rangesJson (ranges : List (Nat × Nat × Option Nat)) : Json :=
  .object [("ranges", .array (ranges.map fun r => .object
    ((("increment", .nat r.2.1) :: ("max", .nat r.1) ::
      (r.2.2.map fun min => ("min", .nat min)).toList))))]

/-- A price of 15 lies in the first of two ranges, from 0 to 20, but it is cut down to the upper end
of the second one, which ends at 5.  And where nothing is cut down, a price just below 3 is rounded
up to 3, since a third of it is rounded to 1. -/
theorem not_floors_of_cut_or_rounded :
    (∃ g, ofJson (rangesJson [(20, 1, none), (5, 1, some 0)]) = .ok g ∧
      g.ranges.find? (fun r => r.min ≤ .ofNat 15 ∧ .ofNat 15 ≤ r.max) =
        some ⟨.ofNat 0, .ofNat 20, .ofNat 1⟩ ∧
      g.bucketValue? (.ofNat 15) = some (.ofNat 5) ∧
      ¬ GranularityRange.Floors ⟨.ofNat 0, .ofNat 20, .ofNat 1⟩ (.ofNat 15) (.ofNat 5)) ∧
    (∃ g bucket, ofJson (rangesJson [(20, 3, none)]) = .ok g ∧
      g.bucketValue? (.ofNat 29999999999999999999999999999 28) = some bucket ∧
      .ofNat 29999999999999999999999999999 28 < bucket) := by
  refine ⟨⟨_, rfl, rfl, rfl, ?_⟩, ⟨_, _, rfl, rfl, by decide⟩⟩
  rintro ⟨k, hk, -, hlt⟩
  norm_num [Decimal.value, Decimal.signed, Decimal.ofNat] at hk hlt
  rw [← hk] at hlt
  norm_num at hlt

end PriceGranularity

end AdExchange
