import AdExchange.Proofs.Decimal.Signs
import AdExchange.Proofs.Price.Settlement

/-!
# The sign of a settled price

Neither rates nor factors need to be positive, and nothing looks at the price that comes of them.
The price of a bid that is offered at a price of zero or more is below zero exactly if it is no
zero and either the rate or the factor is below zero, but not both.  In particular it is not below
zero if the rates of the exchange and those of the request are not, and the request has no factor
below zero.
-/

namespace AdExchange

open Decimal (zero)

/-! ## Rates -/

namespace Rates

variable {rates : Rates} {request : BidRequest} {source target : String}
  {amount converted rate : Decimal}

/-- The rate that prices are converted at; none within one currency, and none if no rate is known
that can be used. -/
def applied? (rates : Rates) (request : BidRequest) (source target : String) : Option Decimal :=
  if sameCurrency source target then none
  else (rates.rateFor request source target).toOption

/-- A price stays as it is within one currency; else it is multiplied with the rate. -/
theorem convert_eq_ok_iff :
    rates.convert request amount source target = .ok converted ↔
      sameCurrency source target = true ∧ converted = amount ∨
      sameCurrency source target = false ∧
        ∃ rate, rates.rateFor request source target = .ok rate ∧
          amount.mul? rate = some converted := by
  rw [convert]
  cases sameCurrency source target with
  | true => simp [eq_comm]
  | false =>
    simp only [Bool.false_eq_true, if_false, false_and, false_or, true_and, bind_eq_ok_iff]
    refine exists_congr fun rate => and_congr_right fun _ => ?_
    cases amount.mul? rate <;> simp

/-- A price that is not below zero is converted to one below zero exactly if the rate is below zero
and the product does not round to a zero. -/
theorem convert_lt_zero_iff (h : rates.convert request amount source target = .ok converted)
    (hamount : ¬ amount < zero) :
    converted < zero ↔ converted.isZero = false ∧
      ∃ rate ∈ rates.applied? request source target, rate < zero := by
  rcases convert_eq_ok_iff.1 h with ⟨hsame, rfl⟩ | ⟨hdiffer, rate, hrate, hproduct⟩
  · simp [applied?, hsame, hamount]
  · rw [Decimal.mul?_lt_zero_iff hproduct]
    simp [applied?, hdiffer, hrate, Except.toOption, hamount]

/-- No rate of the table is below zero. -/
def NonNegative (rates : Rates) : Prop := ∀ row ∈ rates, ∀ entry ∈ row.2, zero ≤ entry.2

theorem direct_nonneg (h : rates.NonNegative) (hrate : rates.direct? source target = some rate) :
    zero ≤ rate := by
  obtain ⟨row, hrow, hrate⟩ := Option.bind_eq_some_iff.1 hrate
  exact h _ (Dictionary.mem_of_get?_eq_some hrow) _ (Dictionary.mem_of_get?_eq_some hrate)

/-- A rate that is found by inverting another one has the sign of that one. -/
theorem lookup_nonneg (h : rates.NonNegative)
    (hrate : rates.lookup source target = .ok (some rate)) : zero ≤ rate := by
  rw [lookup] at hrate
  split at hrate
  · next hdirect =>
    cases hrate
    exact direct_nonneg h hdirect
  · split at hrate
    · cases hrate
    · next opposite hopposite =>
      split at hrate
      · cases hrate
      · split at hrate
        · next hinverse =>
          cases hrate
          have hone : ¬ Decimal.one < zero := by decide
          have hnot := Decimal.zero_le_iff.1 (direct_nonneg h hopposite)
          rw [Decimal.zero_le_iff, Decimal.div?_lt_zero_iff hinverse]
          simp [hone, hnot]
        · cases hrate

/-- The rates that a request brings along. -/
def ofRequest (request : BidRequest) : Rates :=
  ((request.prebid?.bind (·.currency)).bind (·.rates)).getD []

/-- Out of tables without a rate below zero comes no rate below zero. -/
theorem applied_nonneg (hrates : rates.NonNegative) (hown : (ofRequest request).NonNegative)
    (h : rate ∈ rates.applied? request source target) : zero ≤ rate := by
  rw [Option.mem_def, applied?] at h
  split at h
  · cases h
  · cases hr : rates.rateFor request source target with
    | error e => simp [hr, Except.toOption] at h
    | ok found =>
      obtain rfl : found = rate := by simpa [hr, Except.toOption] using h
      obtain ⟨own, hlookup, hr⟩ := bind_eq_ok_iff.1 hr
      cases own with
      | some found' =>
        cases hr
        exact lookup_nonneg hown hlookup
      | none =>
        dsimp only at hr
        split at hr
        · obtain ⟨configured, hlookup, hr⟩ := bind_eq_ok_iff.1 hr
          cases configured with
          | some found' =>
            cases hr
            exact lookup_nonneg hrates hlookup
          | none => cases hr
        · cases hr

end Rates

/-! ## Factors -/

/-- No factor of the table is below zero, be it for one medium or for all. -/
structure AdjustmentFactors.NonNegative (f : AdjustmentFactors) : Prop where
  factors : ∀ entry ∈ f.factors, zero ≤ entry.2
  mediaTypes : ∀ row ∈ f.mediaTypes.getD [], ∀ entry ∈ row.2, zero ≤ entry.2

theorem adjustmentFactor_nonneg {request : BidRequest} {partner : String} {bid : Bid}
    {factor : Decimal}
    (h : ∀ f ∈ request.prebid?.bind (·.adjustmentFactors), f.NonNegative)
    (hfactor : factor ∈ adjustmentFactor? request partner bid) : zero ≤ factor := by
  obtain ⟨f, hf, hfactor⟩ := Option.bind_eq_some_iff.1 hfactor
  have hnonneg : f.NonNegative := h f hf
  rcases Option.or_eq_some_iff.1 hfactor with hmedia | ⟨-, hpartner⟩
  · obtain ⟨row, hrow, hentry⟩ := Option.bind_eq_some_iff.1 hmedia
    obtain ⟨before, after, hsplit, -⟩ := List.lookup_eq_some_iff.1 hrow
    have hrow : (adjustmentMedia request bid, row) ∈ f.mediaTypes.getD [] := by
      rw [hsplit]
      exact List.mem_append_right _ List.mem_cons_self
    exact hnonneg.mediaTypes _ hrow _ (Dictionary.mem_of_get?_eq_some hentry)
  · exact hnonneg.factors _ (Dictionary.mem_of_get?_eq_some hpartner)

/-! ## Prices -/

namespace Settlement

variable {s : Settlement} {partner source : String} {bid : Bid} {price : Decimal}

/-- The settled price of a bid that is not offered at a price below zero is below zero exactly if it
is no zero and one of rate and factor is below zero but not the other. -/
theorem price_lt_zero_iff (h : s.price? partner source bid = some price)
    (hoffer : ¬ bid.price < zero) :
    price < zero ↔ price.isZero = false ∧
      ¬ ((∃ rate ∈ s.rates.applied? s.request source s.currency, rate < zero) ↔
        ∃ factor ∈ adjustmentFactor? s.request partner bid, factor < zero) := by
  obtain ⟨converted, hconverted, hprice⟩ := price?_eq_some_iff.1 h
  have hsign := Rates.convert_lt_zero_iff hconverted hoffer
  rcases hprice with ⟨hnone, rfl⟩ | ⟨factor, hfactor, hproduct⟩
  · rw [hsign]
    simp [hnone]
  · rw [Decimal.mul?_lt_zero_iff hproduct, and_congr_right_iff]
    intro hprice
    have hconverted : converted.isZero = false := by
      rw [← Bool.not_eq_true]
      intro hz
      rw [Decimal.isZero_of_mul? hproduct (.inl hz)] at hprice
      cases hprice
    rw [hsign]
    simp [hconverted, hfactor]

/-- Where no rate and no factor is below zero, no settled price is. -/
theorem price_nonneg (h : s.price? partner source bid = some price) (hoffer : zero ≤ bid.price)
    (hrate : ∀ rate ∈ s.rates.applied? s.request source s.currency, zero ≤ rate)
    (hfactor : ∀ factor ∈ adjustmentFactor? s.request partner bid, zero ≤ factor) :
    zero ≤ price := by
  simp only [Decimal.zero_le_iff] at hoffer hrate hfactor ⊢
  rw [price_lt_zero_iff h hoffer]
  rintro ⟨-, hone⟩
  refine hone (iff_of_false ?_ ?_)
  · rintro ⟨rate, hmem, hneg⟩
    exact hrate rate hmem hneg
  · rintro ⟨factor, hmem, hneg⟩
    exact hfactor factor hmem hneg

end Settlement

end AdExchange
