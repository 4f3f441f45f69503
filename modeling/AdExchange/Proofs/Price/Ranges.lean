import AdExchange.Price.Granularity
import AdExchange.Proofs.Decimal.Arithmetic
import AdExchange.Proofs.Results

/-!
# The ranges of a granularity

A granularity is accepted if each of its ranges is sound: the increment is positive, the range is
not empty, and a decimal can count its buckets.  A range without a lower end starts where the one
before it ends.  Nothing is said of how the ranges lie to each other: there may be gaps between
them, they may overlap, and a later one may lie below an earlier one.

The width of a range is computed before its buckets are counted.  If it does not fit a decimal there
is no answer, neither the granularity nor an error.

## Main definitions

* `GranularityRange.Sound` — what is asked of a range.
* `PriceGranularity.CustomRange.after` — a range behind another one.
* `PriceGranularity.CustomRange.TooWide` — a range whose width does not fit a decimal.

## Main statements

* `PriceGranularity.checkRanges_cons_eq_ok_iff` — which ranges are accepted.
* `PriceGranularity.checkRanges_eq_overflow_iff` — when there is no answer.
* `PriceGranularity.sound_of_ofJson` — the ranges of each granularity are sound.
-/

namespace AdExchange

open Decimal (zero)

/-- What is asked of a range: a positive increment, a lower end below the upper one, and a number of
buckets that a decimal can count. -/
structure GranularityRange.Sound (r : GranularityRange) : Prop where
  increment_pos : zero < r.increment
  nonempty : r.min < r.max
  counted : ((r.max.sub? r.min).bind (·.div? r.increment)).isSome

instance (r : GranularityRange) : Decidable r.Sound :=
  decidable_of_iff (zero < r.increment ∧ r.min < r.max ∧
      ((r.max.sub? r.min).bind (·.div? r.increment)).isSome)
    ⟨fun h => ⟨h.1, h.2.1, h.2.2⟩, fun h => ⟨h.increment_pos, h.nonempty, h.counted⟩⟩

namespace PriceGranularity

namespace CustomRange

/-- A range behind one that ends at `previous`. -/
def after (r : CustomRange) (previous : Decimal) : GranularityRange :=
  ⟨r.min.getD previous, r.max, r.increment⟩

/-- The increment is positive and the range is not empty, but its width does not fit a decimal. -/
structure TooWide (r : CustomRange) (previous : Decimal) : Prop where
  increment_pos : 0 < r.increment.value
  nonempty : (r.min.getD previous).value < r.max.value
  width : 2 ^ 96 - 1 / 2 ≤ r.max.value - (r.min.getD previous).value

end CustomRange

variable {previous : Decimal} {r : CustomRange} {rest ranges : List CustomRange}
  {checked : List GranularityRange}

/-- The ends of ranges: where the last one ends, or `previous` if there is none. -/
def endOf (previous : Decimal) (ranges : List CustomRange) : Decimal :=
  (ranges.getLast?.map (·.max)).getD previous

/-- What becomes of the first one of some ranges, by what is asked of it. -/
theorem checkRanges_cons (previous : Decimal) (r : CustomRange) (rest : List CustomRange) :
    checkRanges previous (r :: rest) =
      if (r.after previous).Sound then
        (checkRanges r.max rest).map (r.after previous :: ·)
      else if r.increment ≤ zero ∨ r.max ≤ (r.after previous).min then .error (.error .badRange)
      else if r.max.sub? (r.after previous).min = none then .error .overflow
      else .error (.error (.incrementTooSmall r.increment)) := by
  rw [checkRanges]
  by_cases hbad : r.increment ≤ zero ∨ r.max ≤ (r.after previous).min
  · have hnot : ¬ (r.after previous).Sound := by
      intro h
      rcases hbad with hinc | hempty
      · exact Decimal.not_lt.2 hinc h.increment_pos
      · exact Decimal.not_lt.2 hempty h.nonempty
    rw [if_neg hnot, if_pos hbad]
    exact if_pos hbad
  · obtain ⟨hinc, hempty⟩ := not_or.1 hbad
    have hgood : zero < r.increment ∧ (r.after previous).min < r.max :=
      ⟨Decimal.not_le.1 hinc, Decimal.not_le.1 hempty⟩
    rw [if_neg (show ¬(r.increment ≤ zero ∨ r.max ≤ r.min.getD previous) from hbad), if_neg hbad]
    have hmin : (r.after previous).min = r.min.getD previous := rfl
    cases hwidth : r.max.sub? (r.min.getD previous) with
    | none =>
      have hnot : ¬ (r.after previous).Sound := by
        intro h
        have hcounted := h.counted
        simp [CustomRange.after, hwidth] at hcounted
      rw [if_neg hnot, hmin, if_pos hwidth]
    | some width =>
      cases hsteps : width.div? r.increment with
      | none =>
        have hnot : ¬ (r.after previous).Sound := by
          intro h
          have hcounted := h.counted
          simp [CustomRange.after, hwidth, hsteps] at hcounted
        rw [if_neg hnot, hmin, hwidth, if_neg (Option.some_ne_none _)]
        simp [hsteps]
      | some steps =>
        have hsound : (r.after previous).Sound :=
          ⟨hgood.1, hgood.2, by simp [CustomRange.after, hwidth, hsteps]⟩
        rw [if_pos hsound]
        simp only [hsteps]
        cases checkRanges r.max rest with
        | error fault => rfl
        | ok tail => rfl

theorem checkRanges_cons_eq_ok_iff :
    checkRanges previous (r :: rest) = .ok checked ↔
      (r.after previous).Sound ∧ ∃ tail, checkRanges r.max rest = .ok tail ∧
        checked = r.after previous :: tail := by
  rw [checkRanges_cons]
  split
  · next hsound =>
    cases checkRanges r.max rest with
    | error fault => simp [Except.map]
    | ok tail => simp [Except.map, hsound, eq_comm]
  · next hsound =>
    simp only [hsound, false_and, iff_false]
    split
    · exact nofun
    · split <;> exact nofun

/-- The ranges that are accepted are sound. -/
theorem sound_of_checkRanges (h : checkRanges previous ranges = .ok checked) :
    checked.length = ranges.length ∧ ∀ r ∈ checked, r.Sound := by
  induction ranges generalizing previous checked with
  | nil =>
    cases h
    simp
  | cons r rest ih =>
    obtain ⟨hsound, tail, htail, rfl⟩ := checkRanges_cons_eq_ok_iff.1 h
    obtain ⟨hlength, hall⟩ := ih htail
    exact ⟨by simp [hlength], List.forall_mem_cons.2 ⟨hsound, hall⟩⟩

/-! ## No answer -/

theorem tooWide_iff :
    r.TooWide previous ↔ ¬ (r.after previous).Sound ∧
      ¬(r.increment ≤ zero ∨ r.max ≤ (r.after previous).min) ∧
      r.max.sub? (r.after previous).min = none := by
  have hwidth := (Decimal.rounded_sub? r.max (r.after previous).min).eq_none_iff
  rw [hwidth, Decimal.Fits, pow_zero, mul_one, not_lt, not_or, Decimal.le_iff_value_le,
    Decimal.le_iff_value_le, not_le, not_le, Decimal.value_zero]
  constructor
  · rintro ⟨hinc, hnonempty, hwide⟩
    have habs : 2 ^ 96 - 1 / 2 ≤ |r.max.value - (r.after previous).min.value| :=
      hwide.trans (le_abs_self _)
    refine ⟨?_, ⟨hinc, hnonempty⟩, habs⟩
    intro hsound
    have hcounted := hsound.counted
    have hnone : (r.after previous).max.sub? (r.after previous).min = none := by
      refine hwidth.2 ?_
      rw [Decimal.Fits, pow_zero, mul_one, not_lt]
      exact habs
    simp [hnone] at hcounted
  · rintro ⟨-, ⟨hinc, hnonempty⟩, hwide⟩
    refine ⟨hinc, hnonempty, ?_⟩
    rwa [abs_of_nonneg (by linarith)] at hwide

theorem endOf_cons (previous : Decimal) (r : CustomRange) (rest : List CustomRange) :
    endOf previous (r :: rest) = endOf r.max rest := by
  rw [endOf, endOf, List.getLast?_cons]
  cases rest.getLast? <;> rfl

/-- There is no answer exactly if the width of the first range that is not accepted does not fit a
decimal. -/
theorem checkRanges_eq_overflow_iff :
    checkRanges previous ranges = .error .overflow ↔
      ∃ before r after, ranges = before ++ r :: after ∧
        (∃ checked, checkRanges previous before = .ok checked) ∧
        r.TooWide (endOf previous before) := by
  induction ranges generalizing previous with
  | nil => simp [checkRanges]
  | cons r rest ih =>
    have hsplit : (∃ before r' after, r :: rest = before ++ r' :: after ∧
        (∃ checked, checkRanges previous before = .ok checked) ∧
        r'.TooWide (endOf previous before)) ↔
        r.TooWide previous ∨ (r.after previous).Sound ∧
          checkRanges r.max rest = .error .overflow := by
      rw [ih]
      constructor
      · rintro ⟨before, r', after, hranges, ⟨checked, hchecked⟩, hwide⟩
        cases before with
        | nil =>
          obtain ⟨rfl, -⟩ := List.cons.inj hranges
          exact .inl hwide
        | cons s before =>
          obtain ⟨rfl, rfl⟩ := List.cons.inj hranges
          obtain ⟨hsound, tail, htail, -⟩ := checkRanges_cons_eq_ok_iff.1 hchecked
          rw [endOf_cons] at hwide
          exact .inr ⟨hsound, before, r', after, rfl, ⟨tail, htail⟩, hwide⟩
      · rintro (hwide | ⟨hsound, before, r', after, rfl, ⟨tail, htail⟩, hwide⟩)
        · exact ⟨[], r, rest, rfl, ⟨[], rfl⟩, hwide⟩
        · refine ⟨r :: before, r', after, rfl, ?_, ?_⟩
          · exact ⟨_, checkRanges_cons_eq_ok_iff.2 ⟨hsound, tail, htail, rfl⟩⟩
          · rwa [endOf_cons]
    rw [hsplit, checkRanges_cons, tooWide_iff]
    by_cases hsound : (r.after previous).Sound
    · rw [if_pos hsound]
      cases checkRanges r.max rest <;> simp [Except.map, hsound]
    · rw [if_neg hsound]
      split
      · next hbad => simp [hsound, hbad]
      · next hgood =>
        split
        · next hnone => simp [hsound, hgood, hnone]
        · next hsome => simp [hsound, hsome]

/-! ## The granularities that a request may ask for -/

variable {v : Json} {g : PriceGranularity}

theorem sound_of_ofName? {name : String} (h : ofName? name = some g) :
    g.ranges ≠ [] ∧ ∀ r ∈ g.ranges, r.Sound := by
  unfold ofName? at h
  split at h
  case h_7 => cases h
  all_goals
    cases h
    decide

/-- Every granularity that is accepted has a range, and all its ranges are sound. -/
theorem sound_of_ofJson (h : ofJson v = .ok g) : g.ranges ≠ [] ∧ ∀ r ∈ g.ranges, r.Sound := by
  rw [ofJson] at h
  split at h
  · split at h
    · next hname =>
      cases h
      exact sound_of_ofName? hname
    · cases h
  · split at h
    · cases h
    · cases h
    · next precision ranges hne _ =>
      obtain ⟨checked, hchecked, hg⟩ := bind_eq_ok_iff.1 h
      cases hg
      obtain ⟨hlength, hall⟩ := sound_of_checkRanges hchecked
      refine ⟨?_, hall⟩
      rintro rfl
      exact hne (List.eq_nil_of_length_eq_zero hlength.symm)

end PriceGranularity

end AdExchange
