import AdExchange.Proofs.Price.Buckets

/-!
# A higher price is in no lower bucket

Every step of computing a bucket keeps the order of prices, rounding included, so in one range a
higher price is in no lower bucket.  Between ranges the order is kept where the ranges ascend from
zero without overlapping.  It is lost where a price lies in a gap between two ranges, since its
bucket is then zero, and where the upper end of a range is itself put into a bucket above it or into
none.

## Main definitions

* `GranularityRange.Contains` — a price lies in a range.
* `GranularityRange.EndsInside` — the upper end of a range is in a bucket that is not above it.
* `PriceGranularity.Ascends` — the ranges ascend from zero without overlapping.
* `PriceGranularity.InGap` — a price lies between ranges.

## Main statements

* `GranularityRange.Sound.computed?_mono` — the order is kept in a range.
* `PriceGranularity.exists_bucketValue?` — every price has a bucket.
* `PriceGranularity.bucketValue?_mono` — the order is kept.
* `PriceGranularity.WithoutLowerEnds.ascends` — ranges without lower ends ascend without gaps.
-/

namespace AdExchange

open Decimal (IsRounding Fits Holds zero)

namespace GranularityRange

variable {r : GranularityRange} {p q b c : Decimal}

/-- The price lies in the range. -/
def Contains (r : GranularityRange) (price : Decimal) : Prop := r.min ≤ price ∧ price ≤ r.max

instance (r : GranularityRange) (price : Decimal) : Decidable (r.Contains price) :=
  inferInstanceAs (Decidable (r.min ≤ price ∧ price ≤ r.max))

theorem contains_iff_value :
    r.Contains p ↔ r.min.value ≤ p.value ∧ p.value ≤ r.max.value := by
  rw [Contains, Decimal.le_iff_value_le, Decimal.le_iff_value_le]

/-- The bucket of the upper end can be computed, and it is not above that end. -/
def EndsInside (r : GranularityRange) : Prop := ∃ b ∈ r.computed? r.max, b ≤ r.max

instance (r : GranularityRange) : Decidable r.EndsInside :=
  inferInstanceAs (Decidable (∃ b ∈ r.computed? r.max, b ≤ r.max))

/-- In a range a higher price is in no lower bucket, and no bucket is below the range.  Where the
bucket of the higher price can be computed, so can that of the lower one. -/
theorem Sound.computed?_mono (h : r.Sound) (hp : r.Contains p) (hpq : p ≤ q)
    (hc : r.computed? q = some c) :
    ∃ b, r.computed? p = some b ∧ r.min.value ≤ b.value ∧ b.value ≤ c.value := by
  have hinc := h.increment_value_pos
  rw [Decimal.le_iff_value_le] at hpq
  obtain ⟨aboveQ, stepsQ, offsetQ, haboveQ, hstepsQ, hoffsetQ, hbucketQ⟩ :=
    computed?_eq_some_iff.1 hc
  have haboveQ' := (Decimal.rounded_sub? q r.min).isRounding haboveQ
  have hstepsQ' := (Decimal.rounded_div? aboveQ h.isZero_increment).isRounding hstepsQ
  have hoffsetQ' := (Decimal.rounded_mul? stepsQ.floor r.increment).isRounding hoffsetQ
  have hbucketQ' := (Decimal.rounded_add? offsetQ r.min).isRounding hbucketQ
  obtain ⟨aboveP, haboveP, haboveP'⟩ := h.exists_above hp.1 hp.2
  obtain ⟨hnonneg, stepsP, hstepsP, hstepsP'⟩ := h.exists_steps hp.1 hp.2 haboveP'
  have hsteps : stepsP.value ≤ stepsQ.value := by
    refine hstepsP'.mono hstepsQ' ?_
    have := haboveP'.mono haboveQ' (by linarith)
    gcongr
  -- The whole increments of the lower price are no more, and they are not negative.
  have hfloor : stepsP.floor.value ≤ stepsQ.floor.value := Decimal.floor_mono hsteps
  have hfloorNonneg : 0 ≤ stepsP.floor.value :=
    Decimal.floor_nonneg (hstepsP'.nonneg (by positivity))
  have hproduct : stepsP.floor.value * r.increment.value ≤
      stepsQ.floor.value * r.increment.value := by gcongr
  obtain ⟨offsetP, hoffsetP, hoffsetP'⟩ :=
    (Decimal.rounded_mul? stepsP.floor r.increment).exists_of_fits
      (hoffsetQ'.fits.of_abs_le (abs_le_abs_of_nonneg (by positivity) hproduct))
  have hoffset : offsetP.value ≤ offsetQ.value := hoffsetP'.mono hoffsetQ' hproduct
  have hoffsetNonneg : 0 ≤ offsetP.value := hoffsetP'.nonneg (by positivity)
  obtain ⟨b, hb, hb'⟩ := (Decimal.rounded_add? offsetP r.min).exists_of_fits
    ((Holds.value r.min).fits.between hbucketQ'.fits (by linarith) (by linarith))
  refine ⟨b, computed?_eq_some_iff.2 ⟨_, _, _, haboveP, hstepsP, hoffsetP, hb⟩, ?_, ?_⟩
  · exact hb'.ge_of_ge (.value r.min) (by linarith)
  · exact hb'.mono hbucketQ' (by linarith)

/-- The upper end of a range with at most 28 digits is in a bucket that is not above it. -/
theorem Sound.endsInside_of_short (h : r.Sound) (hshort : r.Short r.max) : r.EndsInside := by
  have hlt := h.min_value_lt
  have hmin : r.min ≤ r.max := Decimal.le_iff_value_le.2 hlt.le
  obtain ⟨b, hb, k, hvalue, hle, -⟩ :=
    exists_floors h hmin (Decimal.le_refl _)
      (resolves_of_short h.increment_value_pos hmin hshort)
  exact ⟨b, hb, Decimal.le_iff_value_le.2 (hvalue.trans_le hle)⟩

/-- Every price in a range that ends inside has a bucket between the ends of the range. -/
theorem Sound.exists_bucket_between (h : r.Sound) (hends : r.EndsInside) (hp : r.Contains p) :
    ∃ b, r.computed? p = some b ∧ r.min.value ≤ b.value ∧ b.value ≤ r.max.value := by
  obtain ⟨e, he, hle⟩ := hends
  obtain ⟨b, hb, hlower, hupper⟩ := h.computed?_mono hp hp.2 he
  exact ⟨b, hb, hlower, hupper.trans (Decimal.le_iff_value_le.1 hle)⟩

end GranularityRange

namespace PriceGranularity

variable {v : Json} {g : PriceGranularity} {r s top : GranularityRange} {p q b c : Decimal}

/-! ## The range of a price -/

/-- The first range that holds a price. -/
theorem mem_and_contains_of_find?
    (h : g.ranges.find? (fun r => r.min ≤ p ∧ p ≤ r.max) = some r) :
    r ∈ g.ranges ∧ r.Contains p := by
  have hin := List.find?_some h
  exact ⟨List.mem_of_find?_eq_some h, of_decide_eq_true hin⟩

/-- Every price has a bucket. -/
theorem exists_bucketValue? (hg : ofJson v = .ok g) (p : Decimal) :
    ∃ b, g.bucketValue? p = some b := by
  obtain ⟨hnonempty, hsound⟩ := sound_of_ofJson hg
  have hlast := List.getLast?_eq_some_getLast hnonempty
  generalize g.ranges.getLast hnonempty = top at hlast
  by_cases htop : top.max < p
  · exact ⟨_, bucketValue?_of_lt hlast htop⟩
  · rw [bucketValue?_of_find? hlast (Decimal.not_lt.1 htop)]
    cases hfind : g.ranges.find? (fun r => r.min ≤ p ∧ p ≤ r.max) with
    | none => exact ⟨zero, rfl⟩
    | some r =>
      obtain ⟨hr, hin⟩ := mem_and_contains_of_find? hfind
      obtain ⟨above, habove, -⟩ := (hsound r hr).exists_above hin.1 hin.2
      exact ⟨_, bucketValue?_eq_computed? habove⟩

/-! ## Ascending ranges -/

/-- The ranges ascend from zero without overlapping.  There may be gaps between them. -/
structure Ascends (g : PriceGranularity) : Prop where
  nonneg : ∀ r ∈ g.ranges, zero ≤ r.min
  pairwise : g.ranges.Pairwise fun r s => r.max ≤ s.min

/-- The price lies between ranges: above one of them, below another one, and in none. -/
structure InGap (g : PriceGranularity) (price : Decimal) : Prop where
  outside : ∀ r ∈ g.ranges, ¬ r.Contains price
  above : ∃ r ∈ g.ranges, r.max < price
  below : ∃ r ∈ g.ranges, price < r.min

namespace Ascends

/-- Of two ranges one is below the other. -/
theorem eq_or_le (h : g.Ascends) (hr : r ∈ g.ranges) (hs : s ∈ g.ranges) :
    r = s ∨ r.max ≤ s.min ∨ s.max ≤ r.min := by
  have hsymm : Std.Symm fun r s : GranularityRange =>
      r = s ∨ r.max ≤ s.min ∨ s.max ≤ r.min := by
    constructor
    rintro r s (rfl | hrs | hsr)
    · exact .inl rfl
    · exact .inr (.inr hrs)
    · exact .inr (.inl hsr)
  have hpairwise : g.ranges.Pairwise fun r s => r = s ∨ r.max ≤ s.min ∨ s.max ≤ r.min :=
    h.pairwise.imp fun h => .inr (.inl h)
  exact List.Pairwise.forall_of_forall (fun r _ => .inl rfl) hpairwise hr hs

/-- No range ends above the last one. -/
theorem max_le_last (h : g.Ascends) (hsound : ∀ r ∈ g.ranges, r.Sound)
    (hlast : g.ranges.getLast? = some top) (hr : r ∈ g.ranges) : r.max.value ≤ top.max.value := by
  obtain ⟨init, hinit⟩ := List.getLast?_eq_some_iff.1 hlast
  have htop : top.Sound := hsound top (by simp [hinit])
  have hpairwise := h.pairwise
  rw [hinit] at hr hpairwise
  rcases List.mem_append.1 hr with hmem | hmem
  · have hle := (List.pairwise_append.1 hpairwise).2.2 r hmem top (List.mem_singleton_self top)
    exact (Decimal.le_iff_value_le.1 hle).trans htop.min_value_lt.le
  · rw [List.mem_singleton.1 hmem]

theorem min_nonneg (h : g.Ascends) (hr : r ∈ g.ranges) : 0 ≤ r.min.value := by
  have hle := Decimal.le_iff_value_le.1 (h.nonneg r hr)
  rwa [Decimal.value_zero] at hle

end Ascends

/-- The bucket of a price is computed in the first range that holds the price, and it lies in that
range as well. -/
structure PlacedIn (g : PriceGranularity) (r : GranularityRange) (price bucket : Decimal) :
    Prop where
  first : g.ranges.find? (fun r => r.min ≤ price ∧ price ≤ r.max) = some r
  computed : r.computed? price = some bucket
  min_le : r.min.value ≤ bucket.value
  le_max : bucket.value ≤ r.max.value

/-- A price that is not above the last range is in no range, and its bucket is zero, or it is placed
in a range. -/
theorem exists_placedIn (hsound : ∀ r ∈ g.ranges, r.Sound) (hends : ∀ r ∈ g.ranges, r.EndsInside)
    (hlast : g.ranges.getLast? = some top) (hle : p ≤ top.max) :
    ∃ b, g.bucketValue? p = some b ∧
      ((∀ r ∈ g.ranges, ¬ r.Contains p) ∧ b = zero ∨ ∃ r, g.PlacedIn r p b) := by
  rw [bucketValue?_of_find? hlast hle]
  cases hfind : g.ranges.find? (fun r => r.min ≤ p ∧ p ≤ r.max) with
  | none =>
    refine ⟨zero, rfl, .inl ⟨?_, rfl⟩⟩
    intro r hr hin
    exact List.find?_eq_none.1 hfind r hr (decide_eq_true hin)
  | some r =>
    obtain ⟨hr, hin⟩ := mem_and_contains_of_find? hfind
    obtain ⟨b, hb, hlower, hupper⟩ := (hsound r hr).exists_bucket_between (hends r hr) hin
    obtain ⟨above, habove, -⟩ := (hsound r hr).exists_above hin.1 hin.2
    refine ⟨b, (bucketValue?_eq_computed? habove).trans ?_, .inr ⟨r, hfind, hb, hlower, hupper⟩⟩
    rw [hb, Option.getD_some]

/-- Of two prices that are placed in ranges, the higher one is in no lower bucket. -/
theorem PlacedIn.mono (hascends : g.Ascends) (hsound : ∀ r ∈ g.ranges, r.Sound)
    (hb : g.PlacedIn r p b) (hc : g.PlacedIn s q c) (hpq : p ≤ q) : b.value ≤ c.value := by
  obtain ⟨hr, hp⟩ := mem_and_contains_of_find? hb.first
  obtain ⟨hs, hq⟩ := mem_and_contains_of_find? hc.first
  have hsame : r = s → b.value ≤ c.value := by
    rintro rfl
    obtain ⟨b', hb', -, hle⟩ := (hsound r hr).computed?_mono hp hpq hc.computed
    rw [hb.computed] at hb'
    cases hb'
    exact hle
  rcases hascends.eq_or_le hr hs with heq | hle | hge
  · exact hsame heq
  · rw [Decimal.le_iff_value_le] at hle
    exact (hb.le_max.trans hle).trans hc.min_le
  · -- The ranges touch at a price that both prices are equal to, so the same range is found.
    rw [GranularityRange.contains_iff_value] at hp hq
    rw [Decimal.le_iff_value_le] at hpq hge
    have hvalue : p.value = q.value := by linarith
    have hfirst := hb.first
    simp only [Decimal.le_iff_value_le, hvalue] at hfirst
    simp only [← Decimal.le_iff_value_le] at hfirst
    exact hsame (Option.some.inj (hfirst.symm.trans hc.first))

/-- A price above one that lies in a range lies in a range as well, above the last one, or in a
gap. -/
theorem inGap_of_not_contains (hlast : g.ranges.getLast? = some top) (hr : r ∈ g.ranges)
    (hp : r.Contains p) (hpq : p ≤ q) (hq : q ≤ top.max)
    (hnone : ∀ r ∈ g.ranges, ¬ r.Contains q) : g.InGap q := by
  have htop : top ∈ g.ranges := List.mem_of_getLast? hlast
  refine ⟨hnone, ⟨r, hr, ?_⟩, ⟨top, htop, ?_⟩⟩
  · by_contra hnot
    exact hnone r hr ⟨Decimal.le_trans hp.1 hpq, Decimal.not_lt.1 hnot⟩
  · by_contra hnot
    exact hnone top htop ⟨Decimal.not_lt.1 hnot, hq⟩

/-! ## Ranges without lower ends -/

variable {previous : Decimal} {ranges : List CustomRange} {checked : List GranularityRange}

/-- A range without a lower end starts where the one before ends. -/
theorem CustomRange.min_after_of_none (r : CustomRange) (h : r.min = none) (previous : Decimal) :
    (r.after previous).min = previous := by
  rw [after, h, Option.getD_none]

/-- Ranges without lower ends ascend from where they start. -/
theorem pairwise_of_checkRanges (hmin : ∀ r ∈ ranges, r.min = none)
    (h : checkRanges previous ranges = .ok checked) :
    (∀ r ∈ checked, previous ≤ r.min) ∧ checked.Pairwise fun r s => r.max ≤ s.min := by
  induction ranges generalizing previous checked with
  | nil =>
    cases h
    simp
  | cons r rest ih =>
    obtain ⟨hnone, hrest⟩ := List.forall_mem_cons.1 hmin
    obtain ⟨hsound, tail, htail, rfl⟩ := checkRanges_cons_eq_ok_iff.1 h
    obtain ⟨hle, hpairwise⟩ := ih hrest htail
    have hstart := r.min_after_of_none hnone previous
    have hmax : previous ≤ r.max := by
      have hnonempty := hsound.nonempty
      rw [hstart] at hnonempty
      exact Decimal.le_of_lt hnonempty
    refine ⟨List.forall_mem_cons.2 ⟨?_, ?_⟩, List.pairwise_cons.2 ⟨hle, hpairwise⟩⟩
    · rw [hstart]
      exact Decimal.le_refl previous
    · exact fun s hs => Decimal.le_trans hmax (hle s hs)

/-- Ranges without lower ends leave no price out. -/
theorem exists_contains_of_checkRanges (hmin : ∀ r ∈ ranges, r.min = none)
    (h : checkRanges previous ranges = .ok checked) (hq : previous ≤ q)
    (hbelow : ∃ r ∈ checked, q < r.min) : ∃ r ∈ checked, r.Contains q := by
  induction ranges generalizing previous checked with
  | nil =>
    cases h
    simp at hbelow
  | cons r rest ih =>
    obtain ⟨hnone, hrest⟩ := List.forall_mem_cons.1 hmin
    obtain ⟨-, tail, htail, rfl⟩ := checkRanges_cons_eq_ok_iff.1 h
    have hstart := r.min_after_of_none hnone previous
    by_cases hmax : q ≤ r.max
    · refine ⟨r.after previous, List.mem_cons_self, ?_, hmax⟩
      rwa [hstart]
    · rw [Decimal.not_le] at hmax
      have hnext : ∃ s ∈ tail, q < s.min := by
        obtain ⟨s, hs, hlt⟩ := hbelow
        rcases List.mem_cons.1 hs with rfl | hs
        · rw [hstart] at hlt
          exact absurd hlt (Decimal.not_lt.2 hq)
        · exact ⟨s, hs, hlt⟩
      obtain ⟨s, hs, hin⟩ := ih hrest htail (Decimal.le_of_lt hmax) hnext
      exact ⟨s, List.mem_cons_of_mem _ hs, hin⟩

/-- Where no lower end is given, the ranges ascend from zero, and there are no gaps. -/
theorem ascends_of_checkRanges {precision : UInt32} (hmin : ∀ r ∈ ranges, r.min = none)
    (h : checkRanges zero ranges = .ok checked) :
    Ascends ⟨precision, checked⟩ ∧ ∀ q, ¬ InGap ⟨precision, checked⟩ q := by
  obtain ⟨hnonneg, hpairwise⟩ := pairwise_of_checkRanges hmin h
  refine ⟨⟨hnonneg, hpairwise⟩, ?_⟩
  rintro q ⟨houtside, ⟨r, hr, habove⟩, hbelow⟩
  have hq : zero ≤ q := by
    have hzero := Decimal.le_iff_value_le.1 (hnonneg r hr)
    have hlt := ((sound_of_checkRanges h).2 r hr).min_value_lt
    rw [Decimal.lt_iff_value_lt] at habove
    rw [Decimal.le_iff_value_le]
    linarith
  obtain ⟨s, hs, hin⟩ := exists_contains_of_checkRanges hmin h hq hbelow
  exact houtside s hs hin

/-- A request gives ranges, and none of them has a lower end. -/
def WithoutLowerEnds (v : Json) : Prop :=
  ∃ precision ranges, readCustom? v.raw = some (precision, ranges) ∧ ∀ r ∈ ranges, r.min = none

/-- Where a request gives no lower end, its ranges ascend from zero, and there are no gaps. -/
theorem WithoutLowerEnds.ascends (h : WithoutLowerEnds v) (hg : ofJson v = .ok g) :
    g.Ascends ∧ ∀ q, ¬ g.InGap q := by
  obtain ⟨precision, ranges, hread, hmin⟩ := h
  rw [ofJson] at hg
  split at hg
  · next name hname =>
    -- A name is no list of ranges.
    cases v <;> simp [Json.asString?] at hname
    cases hread
  · rw [hread] at hg
    cases ranges with
    | nil => cases hg
    | cons r rest =>
      obtain ⟨checked, hchecked, heq⟩ := bind_eq_ok_iff.1 hg
      cases heq
      exact ascends_of_checkRanges hmin hchecked

/-! ## The order of buckets -/

/-- Of two prices the higher one is in no lower bucket, where the ranges ascend from zero without
overlapping, the bucket of the upper end of each range is not above that end, and the higher price
is in no gap between two ranges.  Ranges without lower ends always ascend so, and leave no gap. -/
theorem bucketValue?_mono (hg : ofJson v = .ok g)
    (hranges : WithoutLowerEnds v ∨ g.Ascends ∧ ¬ g.InGap q)
    (hends : ∀ r ∈ g.ranges, r.EndsInside ∨ r.Short r.max) (hpq : p ≤ q) :
    ∃ b c, g.bucketValue? p = some b ∧ g.bucketValue? q = some c ∧ b ≤ c := by
  obtain ⟨hascends, hgap⟩ : g.Ascends ∧ ¬ g.InGap q := by
    rcases hranges with hopen | hranges
    · exact ⟨(hopen.ascends hg).1, (hopen.ascends hg).2 q⟩
    · exact hranges
  obtain ⟨hnonempty, hsound⟩ := sound_of_ofJson hg
  have hinside : ∀ r ∈ g.ranges, r.EndsInside := fun r hr =>
    (hends r hr).elim id (hsound r hr).endsInside_of_short
  have hlast := List.getLast?_eq_some_getLast hnonempty
  generalize g.ranges.getLast hnonempty = top at hlast
  have htop : top ∈ g.ranges := List.mem_of_getLast? hlast
  have htopMax : 0 ≤ top.max.value :=
    (hascends.min_nonneg htop).trans (hsound top htop).min_value_lt.le
  by_cases hp : top.max < p
  · -- Both prices are above the last range.
    have hq : top.max < q := by
      rw [Decimal.lt_iff_value_lt] at hp ⊢
      exact hp.trans_le (Decimal.le_iff_value_le.1 hpq)
    exact ⟨_, _, bucketValue?_of_lt hlast hp, bucketValue?_of_lt hlast hq,
      Decimal.le_refl _⟩
  rw [Decimal.not_lt] at hp
  obtain ⟨b, hb, hplaced⟩ := exists_placedIn hsound hinside hlast hp
  by_cases hq : top.max < q
  · refine ⟨b, top.max, hb, bucketValue?_of_lt hlast hq, Decimal.le_iff_value_le.2 ?_⟩
    rcases hplaced with ⟨-, rfl⟩ | ⟨r, hr⟩
    · rwa [Decimal.value_zero]
    · exact hr.le_max.trans
        (hascends.max_le_last hsound hlast (mem_and_contains_of_find? hr.first).1)
  rw [Decimal.not_lt] at hq
  obtain ⟨c, hc, hplacedQ⟩ := exists_placedIn hsound hinside hlast hq
  refine ⟨b, c, hb, hc, Decimal.le_iff_value_le.2 ?_⟩
  rcases hplaced with ⟨hnone, rfl⟩ | ⟨r, hr⟩
  · rcases hplacedQ with ⟨-, rfl⟩ | ⟨s, hs⟩
    · rfl
    · rw [Decimal.value_zero]
      exact (hascends.min_nonneg (mem_and_contains_of_find? hs.first).1).trans hs.min_le
  · rcases hplacedQ with ⟨hnone, rfl⟩ | ⟨s, hs⟩
    · obtain ⟨hrMem, hin⟩ := mem_and_contains_of_find? hr.first
      exact absurd (inGap_of_not_contains hlast hrMem hin hpq hq hnone) hgap
    · exact PlacedIn.mono hascends hsound hr hs hpq

/-- Both prices are next to a boundary of two ranges with different increments. -/
theorem bucketValue?_mono_across_ranges :
    ∃ b c, ofJson (rangesJson [(5, 1, none), (10, 2, none)]) =
        .ok ⟨2, [⟨.ofNat 0, .ofNat 5, .ofNat 1⟩, ⟨.ofNat 5, .ofNat 10, .ofNat 2⟩]⟩ ∧
      PriceGranularity.bucketValue?
        ⟨2, [⟨.ofNat 0, .ofNat 5, .ofNat 1⟩, ⟨.ofNat 5, .ofNat 10, .ofNat 2⟩]⟩
        (.ofNat 499 2) = some b ∧
      PriceGranularity.bucketValue?
        ⟨2, [⟨.ofNat 0, .ofNat 5, .ofNat 1⟩, ⟨.ofNat 5, .ofNat 10, .ofNat 2⟩]⟩
        (.ofNat 501 2) = some c ∧ b ≤ c := by
  have hopen : WithoutLowerEnds (rangesJson [(5, 1, none), (10, 2, none)]) :=
    ⟨none, [⟨none, .ofNat 5, .ofNat 1⟩, ⟨none, .ofNat 10, .ofNat 2⟩], rfl, by simp⟩
  obtain ⟨b, c, hb, hc, hle⟩ :=
    @bucketValue?_mono (rangesJson [(5, 1, none), (10, 2, none)])
      ⟨2, [⟨.ofNat 0, .ofNat 5, .ofNat 1⟩, ⟨.ofNat 5, .ofNat 10, .ofNat 2⟩]⟩
      (.ofNat 499 2) (.ofNat 501 2) rfl (.inl hopen)
      (by
        intro r hr
        left
        revert r
        decide) (by decide)
  exact ⟨b, c, rfl, hb, hc, hle⟩

/-! ## Where the order is lost -/

/-- A price of 5 is in the bucket 5, but one of 6 is between the ranges and has the bucket zero.
Where ranges overlap, 10 is in the bucket 10 of the first range, but 11 is in the bucket 9 of the
second one.  And in a range up to the largest decimal half of that is rounded up, so the bucket of
that end is too large for a decimal, and it has the bucket of the lower end instead. -/
theorem not_mono_of_gap_or_overlap :
    (∃ g b c, ofJson (rangesJson [(5, 1, none), (10, 1, some 7)]) = .ok g ∧
      Decimal.ofNat 5 ≤ Decimal.ofNat 6 ∧
      g.bucketValue? (.ofNat 5) = some b ∧ g.bucketValue? (.ofNat 6) = some c ∧ c < b) ∧
    (∃ g b c, ofJson (rangesJson [(10, 1, none), (20, 4, some 5)]) = .ok g ∧
      Decimal.ofNat 10 ≤ Decimal.ofNat 11 ∧
      g.bucketValue? (.ofNat 10) = some b ∧ g.bucketValue? (.ofNat 11) = some c ∧ c < b) ∧
    (∃ g b c, ofJson (rangesJson [(2 ^ 96 - 1, 2, none)]) = .ok g ∧
      Decimal.ofNat 1000 ≤ Decimal.ofNat (2 ^ 96 - 1) ∧
      g.bucketValue? (.ofNat 1000) = some b ∧
      g.bucketValue? (.ofNat (2 ^ 96 - 1)) = some c ∧ c < b) := by
  refine ⟨⟨_, _, _, rfl, by decide, rfl, rfl, ?_⟩, ⟨_, _, _, rfl, by decide, rfl, rfl, ?_⟩,
    ⟨_, _, _, rfl, by decide, rfl, rfl, ?_⟩⟩
  · decide
  · decide
  · decide

end PriceGranularity

end AdExchange
