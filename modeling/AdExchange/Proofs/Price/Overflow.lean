import AdExchange.Proofs.Category.Outcome
import AdExchange.Proofs.Decimal.Text
import AdExchange.Proofs.Price.BucketOrder

/-!
# Granularities and prices without an answer

A granularity that is asked for is accepted or refused, and every price has a bucket in one that is
accepted.  There are two exceptions, and they give no answer at all.  The width of a range is
computed before its buckets are counted, and it may not fit a decimal.  And the text of a bucket is
limited in width, while the precision of a granularity is not, so a large bucket with many places
cannot be written.
-/

namespace AdExchange

open Decimal (zero)

/-! ## The width of a text -/

namespace Decimal

variable {d : Decimal} {n k : ℕ}

theorem lt_length_whole_iff_value (hk : 0 < k) :
    k < d.wholeAndPlaces.1.length ↔ (10 : ℚ) ^ k ≤ |d.value| := by
  have hpow : (0 : ℚ) < 10 ^ d.scale := by positivity
  rw [lt_length_whole_iff hk, abs_value, le_div_iff₀ hpow, ← pow_add]
  exact_mod_cast Iff.rfl

theorem abs_value_lt (d : Decimal) : |d.value| < 10 ^ 29 := by
  have hm : (d.mantissa : ℚ) < 2 ^ 96 := by exact_mod_cast d.mantissa_lt
  have hscale : (1 : ℚ) ≤ 10 ^ d.scale := one_le_pow₀ (by norm_num)
  rw [abs_value]
  calc (d.mantissa : ℚ) / 10 ^ d.scale ≤ d.mantissa := div_le_self (by positivity) hscale
    _ < 10 ^ 29 := hm.trans (by norm_num)

/-- How many characters a decimal with `n` places has, as far as they count. -/
def textWidth (d : Decimal) (n : ℕ) : ℕ :=
  if n = 0 then d.wholeAndPlaces.1.length else d.wholeAndPlaces.1.length + 1 + min n 28

theorem widthLimit_lt_textWidth_iff :
    widthLimit < d.textWidth n ↔ (10 : ℚ) ^ (31 - min n 28) ≤ |d.value| := by
  rw [textWidth]
  split
  · next hn =>
    -- No decimal has that many digits before the point.
    have hfew : ¬ 31 < d.wholeAndPlaces.1.length := by
      rw [lt_length_whole_iff_value (by decide), not_le]
      exact d.abs_value_lt.trans (by norm_num)
    rw [hn, Nat.zero_min, Nat.sub_zero, ← lt_length_whole_iff_value (by decide), widthLimit]
    omega
  · rw [← lt_length_whole_iff_value (by omega), widthLimit]
    omega

/-- A decimal with `n` places cannot be written if `n` is too large, or if too many digits stand
before the point to leave room for them. -/
theorem truncatedText?_eq_none_iff :
    d.truncatedText? n = none ↔ 2 ^ 16 ≤ n ∨ (10 : ℚ) ^ (31 - min n 28) ≤ |d.value| := by
  rw [← widthLimit_lt_textWidth_iff]
  by_cases h : 2 ^ 16 ≤ n ∨ widthLimit < d.textWidth n
  · exact iff_of_true (if_pos h) h
  · refine iff_of_false ?_ h
    rw [show d.truncatedText? n = some _ from if_neg h]
    exact Option.some_ne_none _

end Decimal

namespace PriceGranularity

variable {v : Json} {g : PriceGranularity} {price b : Decimal}

/-! ## Ranges that are too wide -/

/-- A granularity is neither accepted nor refused exactly if ranges are given, those before one of
them are accepted, and the width of that one does not fit a decimal. -/
theorem ofJson_eq_overflow_iff :
    ofJson v = .error .overflow ↔
      v.asString? = none ∧ ∃ precision before r after checked,
        readCustom? v.raw = some (precision, before ++ r :: after) ∧
        checkRanges zero before = .ok checked ∧ r.TooWide (endOf zero before) := by
  rw [ofJson]
  split
  · next name hname =>
    rw [hname]
    cases ofName? name <;> simp
  · next hname =>
    rw [hname]
    split
    · next hread => simp [hread]
    · next hread => simp [hread]
    · next precision ranges hne hread =>
      have hchecked : (checkRanges zero ranges >>= fun checked =>
          .ok ⟨precision.getD 2, checked⟩ : Except (Fault GranularityError) PriceGranularity) =
            .error .overflow ↔ checkRanges zero ranges = .error .overflow := by
        cases checkRanges zero ranges with
        | error fault => simp
        | ok checked => simp
      refine hchecked.trans (checkRanges_eq_overflow_iff.trans ?_)
      constructor
      · rintro ⟨before, r, after, rfl, ⟨checked, hok⟩, hwide⟩
        exact ⟨rfl, precision, before, r, after, checked, hread, hok, hwide⟩
      · rintro ⟨-, precision', before, r, after, checked, hread', hok, hwide⟩
        rw [hread] at hread'
        cases hread'
        exact ⟨before, r, after, rfl, ⟨checked, hok⟩, hwide⟩

/-! ## Buckets that are too wide -/

theorem bucket?_eq_none_iff (hb : g.bucketValue? price = some b) :
    g.bucket? price = none ↔
      2 ^ 16 ≤ g.precision.toNat ∨ (10 : ℚ) ^ (31 - min g.precision.toNat 28) ≤ |b.value| := by
  rw [bucket?, hb, Option.bind_some, Decimal.truncatedText?_eq_none_iff]

/-- With at most two places every bucket can be written. -/
theorem exists_bucket_of_precision_le (hprecision : g.precision ≤ 2)
    (hb : g.bucketValue? price = some b) : ∃ text, g.bucket? price = some text := by
  rw [← Option.isSome_iff_exists, Option.isSome_iff_ne_none, ne_eq, bucket?_eq_none_iff hb]
  have hle : g.precision.toNat ≤ 2 := hprecision
  rintro (hlarge | hwide)
  · omega
  · have hpow : (10 : ℚ) ^ 29 ≤ 10 ^ (31 - min g.precision.toNat 28) := by
      gcongr
      · norm_num
      · omega
    exact absurd b.abs_value_lt (not_lt.2 (hpow.trans hwide))

theorem exists_ofJson_of_forVideo {t : Targeting} (h : forVideo t = .ok g) :
    ∃ v, ofJson v = .ok g := by
  rw [forVideo] at h
  split at h
  · next v _ => exact ⟨v, h⟩
  · cases h
    exact ⟨.string "medium", rfl⟩

/-- What is answered, and what is not.  A granularity is neither accepted nor refused exactly if
ranges are given of which those before some one are accepted, and the width of that one does not fit
a decimal.  Every price has a bucket in a granularity that is accepted; there is no text of it
exactly if the precision is too large, or if the bucket has too many digits before the point for it.
With at most two places there always is a text. -/
theorem answers_iff (v : Json) :
    (ofJson v = .error .overflow ↔
      v.asString? = none ∧ ∃ precision before r after checked,
        readCustom? v.raw = some (precision, before ++ r :: after) ∧
        checkRanges zero before = .ok checked ∧ r.TooWide (endOf zero before)) ∧
    ∀ g, ofJson v = .ok g → ∀ price, ∃ b, g.bucketValue? price = some b ∧
      (g.bucket? price = none ↔
        2 ^ 16 ≤ g.precision.toNat ∨
          (10 : ℚ) ^ (31 - min g.precision.toNat 28) ≤ |b.value|) ∧
      (g.precision ≤ 2 → ∃ text, g.bucket? price = some text) := by
  refine ⟨ofJson_eq_overflow_iff, ?_⟩
  intro g hg price
  obtain ⟨b, hb⟩ := exists_bucketValue? hg price
  exact ⟨b, hb, bucket?_eq_none_iff hb, fun hprecision =>
    exists_bucket_of_precision_le hprecision hb⟩

/-- A range from the least decimal to the greatest one is too wide, and a bucket of 1500 cannot be
written with 28 places. -/
theorem answers_iff_at_bounds :
    (∃ before r, ofJson (.object [("ranges", .array [.object [("increment", .nat 1),
        ("max", .string "79228162514264337593543950335"),
        ("min", .string "-79228162514264337593543950335")]])]) = .error .overflow ∧
      CustomRange.TooWide r (endOf zero before)) ∧
    ∃ g, ofJson (.object [("precision", .nat 28),
        ("ranges", .array [.object [("increment", .nat 1), ("max", .nat 2000)]])]) = .ok g ∧
      g.bucketValue? (.ofNat 1500) = some (.ofNat 1500) ∧ g.bucket? (.ofNat 1500) = none := by
  constructor
  · obtain ⟨-, -, before, r, -, -, -, -, hwide⟩ := (answers_iff (.object [("ranges",
      .array [.object [("increment", .nat 1), ("max", .string "79228162514264337593543950335"),
        ("min", .string "-79228162514264337593543950335")]])])).1.1 rfl
    exact ⟨before, r, rfl, hwide⟩
  · have hg : ofJson (.object [("precision", .nat 28),
        ("ranges", .array [.object [("increment", .nat 1), ("max", .nat 2000)]])]) =
        .ok ⟨28, [⟨zero, .ofNat 2000, .ofNat 1⟩]⟩ := rfl
    obtain ⟨b, hb, hnone, -⟩ := (answers_iff _).2 _ hg (.ofNat 1500)
    have hbucket : b = .ofNat 1500 := Option.some.inj (hb.symm.trans rfl)
    refine ⟨_, hg, rfl, hnone.2 (.inr ?_)⟩
    rw [hbucket]
    change (10 : ℚ) ^ 3 ≤ _
    norm_num [Decimal.value, Decimal.signed, Decimal.ofNat]

end PriceGranularity

/-- With at most two places the video bids of all responses have buckets. -/
theorem MappingRules.priced_of_precision_le {brand : BrandCategory} {targeting : Targeting}
    {rules : MappingRules} (hrules : ofTargeting brand targeting = .ok rules)
    (hprecision : rules.granularity.precision ≤ 2) (responses : List PartnerResponse) :
    rules.Priced responses := by
  obtain ⟨v, hg⟩ :=
    PriceGranularity.exists_ofJson_of_forVideo (parts_of_ofTargeting hrules).2.1
  intro e _ form _
  obtain ⟨b, hb⟩ := PriceGranularity.exists_bucketValue? hg e.bid.price
  obtain ⟨text, htext⟩ := PriceGranularity.exists_bucket_of_precision_le hprecision hb
  rw [htext]
  exact Option.some_ne_none text

end AdExchange
