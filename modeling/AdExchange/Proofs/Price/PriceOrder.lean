import AdExchange.Proofs.Decimal.Arithmetic
import AdExchange.Proofs.Price.Signs

/-!
# Settling keeps the order of prices

A price is multiplied with a rate, which may be a rounded inverse, and then with a factor, and each
product is rounded to as many places as there is room for.  So of two prices the larger one may end
up with fewer places.  Rounding keeps the order across places, and hence the bids of a partner that
are made in one currency and have the same factor are in the same order afterwards, if neither the
rate nor the factor is below zero.
-/

namespace AdExchange

open Decimal (zero)

/-! ## Two prices -/

/-- The products with a number that is not below zero are in the order of the factors. -/
theorem Decimal.mul?_le_mul? {p q c p' q' : Decimal} (hp : p.mul? c = some p')
    (hq : q.mul? c = some q') (hc : zero ≤ c) (h : p ≤ q) : p' ≤ q' := by
  rw [le_iff_value_le] at hc h ⊢
  rw [value_zero] at hc
  exact mul?_mono hp hq hc h

/-- Conversion at a rate that is not below zero keeps the order. -/
theorem Rates.convert_mono {rates : Rates} {request : BidRequest} {source target : String}
    {p q p' q' : Decimal} (hp : rates.convert request p source target = .ok p')
    (hq : rates.convert request q source target = .ok q')
    (hrate : ∀ rate ∈ rates.applied? request source target, zero ≤ rate) (h : p ≤ q) :
    p' ≤ q' := by
  -- Which rate applies depends on the currencies alone, so both prices have the same one or none.
  rcases convert_eq_ok_iff.1 hp with ⟨hsame, rfl⟩ | ⟨hdiffer, rate, hfound, hproduct⟩
  · rcases convert_eq_ok_iff.1 hq with ⟨-, rfl⟩ | ⟨hdiffer, -⟩
    · exact h
    · rw [hsame] at hdiffer
      cases hdiffer
  · rcases convert_eq_ok_iff.1 hq with ⟨hsame, -⟩ | ⟨-, rate', hfound', hproduct'⟩
    · rw [hdiffer] at hsame
      cases hsame
    · obtain rfl : rate = rate' := Except.ok.inj (hfound.symm.trans hfound')
      have happlied : rate ∈ rates.applied? request source target := by
        simp [applied?, hdiffer, hfound, Except.toOption]
      exact Decimal.mul?_le_mul? hproduct hproduct' (hrate rate happlied) h

/-- Where two bids are made in one currency and have the same factor, and neither the rate nor the
factor is below zero, their prices are settled in the order in which they are offered. -/
theorem Settlement.price?_mono {s : Settlement} {partner source : String} {a b : Bid}
    {p' q' : Decimal} (hp : s.price? partner source a = some p')
    (hq : s.price? partner source b = some q')
    (hsame : adjustmentFactor? s.request partner a = adjustmentFactor? s.request partner b)
    (hrate : ∀ rate ∈ s.rates.applied? s.request source s.currency, zero ≤ rate)
    (hfactor : ∀ factor ∈ adjustmentFactor? s.request partner a, zero ≤ factor)
    (h : a.price ≤ b.price) : p' ≤ q' := by
  obtain ⟨p, hconvert, hfinal⟩ := price?_eq_some_iff.1 hp
  obtain ⟨q, hconvert', hfinal'⟩ := price?_eq_some_iff.1 hq
  have hle : p ≤ q := Rates.convert_mono hconvert hconvert' hrate h
  rw [← hsame] at hfinal'
  rcases hfinal with ⟨hnone, rfl⟩ | ⟨factor, hfound, hproduct⟩
  · rcases hfinal' with ⟨-, rfl⟩ | ⟨factor', hfound', -⟩
    · exact hle
    · rw [hnone] at hfound'
      cases hfound'
  · rcases hfinal' with ⟨hnone, -⟩ | ⟨factor', hfound', hproduct'⟩
    · rw [hfound] at hnone
      cases hnone
    · obtain rfl : factor = factor' := Option.some.inj (hfound.symm.trans hfound')
      exact Decimal.mul?_le_mul? hproduct hproduct' (hfactor factor hfound) hle

/-! ## The bids of a response -/

namespace PartnerResponse

section

variable (s : Settlement) (catalog : Catalog) (default : String) (r : PartnerResponse)

/-- The price that a bid of the response is settled at. -/
def settledPrice? (bid : Bid) : Option Decimal :=
  s.price? r.partner (bid.offeredIn catalog default r.code) bid

/-- The bids of a response that have a price in the settlement currency. -/
def survivors : List Bid := r.bids.filter fun bid => (r.settledPrice? s catalog default bid).isSome

/-- Two bids of a response are made in one currency and have the same factor or none, and neither
the rate nor the factor is below zero. -/
structure ScalesAlike (a b : Bid) : Prop where
  currency : a.offeredIn catalog default r.code = b.offeredIn catalog default r.code
  factor : adjustmentFactor? s.request r.partner a = adjustmentFactor? s.request r.partner b
  rate_nonneg : ∀ rate ∈ s.rates.applied? s.request (a.offeredIn catalog default r.code) s.currency,
    zero ≤ rate
  factor_nonneg : ∀ factor ∈ adjustmentFactor? s.request r.partner a, zero ≤ factor

/-- The bids of a settled response are those of the response that have a price, one for one, and of
any two of them that are multiplied with the same numbers the one that is offered at no more is
settled at no more. -/
structure KeepsOrder (settled : PartnerResponse) : Prop where
  comes_from : List.Forall₂
    (fun offered bid => ∃ price, bid = offered.normalized price s.currency
      (offered.offeredIn catalog default r.code))
    (r.survivors s catalog default) settled.bids
  mono : ∀ a ∈ (r.survivors s catalog default).zip settled.bids,
    ∀ b ∈ (r.survivors s catalog default).zip settled.bids,
      r.ScalesAlike s catalog default a.1 b.1 → a.1.price ≤ b.1.price → a.2.price ≤ b.2.price

end

variable {s : Settlement} {catalog : Catalog} {default : String} {r settled : PartnerResponse}

/-- The settled bids are those that have a price, at that price. -/
theorem SettledInto.forall₂_survivors {warnings : List PartnerError}
    (h : r.SettledInto s catalog default warnings settled) :
    List.Forall₂
      (fun offered bid => ∃ price, r.settledPrice? s catalog default offered = some price ∧
        bid = offered.normalized price s.currency (offered.offeredIn catalog default r.code))
      (r.survivors s catalog default) settled.bids := by
  have hvalues := forall₂_filterMap
    (fun bid => (r.settledPrice? s catalog default bid).map fun price =>
      bid.normalized price s.currency (bid.offeredIn catalog default r.code)) r.bids
  simp only [Option.isSome_map] at hvalues
  rw [h.bids]
  refine hvalues.imp ?_
  intro offered bid hbid
  obtain ⟨price, hprice, rfl⟩ := Option.map_eq_some_iff.1 hbid
  exact ⟨price, hprice, rfl⟩

/-- A settled response keeps the order of the bids that it comes from. -/
theorem SettledInto.keepsOrder {warnings : List PartnerError}
    (h : r.SettledInto s catalog default warnings settled) :
    r.KeepsOrder s catalog default settled where
  comes_from := h.forall₂_survivors.imp fun _ _ ⟨price, _, heq⟩ => ⟨price, heq⟩
  mono := by
    intro a ha b hb halike hle
    have hall := List.forall₂_iff_zip.1 h.forall₂_survivors
    obtain ⟨p, hp, ha'⟩ := hall.2 ha
    obtain ⟨q, hq, hb'⟩ := hall.2 hb
    rw [ha', hb']
    rw [settledPrice?, ← halike.currency] at hq
    exact Settlement.price?_mono hp hq halike.factor halike.rate_nonneg halike.factor_nonneg hle

end PartnerResponse

/-- The bids that go on after their prices are brought to one currency are those that have a price,
one for one in their order.  Of two bids of a partner that are made in one currency and have the
same factor, where neither the rate nor the factor is below zero, the one that is offered at no more
is settled at no more. -/
theorem normalize_keeps_order (rates : Rates) (default : String) (request : BidRequest)
    (catalog : Catalog) (responses : List PartnerResponse) :
    List.Forall₂
      (PartnerResponse.KeepsOrder ⟨rates, request, (settlementCurrency request default).1⟩ catalog
        default)
      responses (normalize rates default request catalog responses) := by
  rw [normalize, List.forall₂_map_right_iff, List.forall₂_same]
  intro r _
  exact (settledInto_settle _ _ _ _ r).keepsOrder

def inEuros (id : String) (price : Decimal) : Bid where
  id
  impId := "1"
  price
  currency := some "EUR"
  mediaType := .banner

/-- Two bids at prices that are next to each other. -/
def neighbours : PartnerResponse where
  partner := "a"
  code := "a"
  bids := [inEuros "x" (.ofNat 26409387504754779197847983446 28),
    inEuros "y" (.ofNat 26409387504754779197847983445 28)]

/-- Three dollars for a euro, and no other rate. -/
def threeDollars : Rates := [("EUR", [("USD", .ofNat 3)])]

/-- There is no room for the last place of the larger product, so it is rounded, and still it is not
below the other one. -/
theorem normalize_keeps_order_neighbours : ∃ x y,
    (normalize threeDollars "USD" { id := "r" } (.ofList []) [neighbours]).map (·.bids) =
      [[x, y]] ∧
    x.price = .ofNat 7922816251426433759354395034 27 ∧
    y.price = .ofNat 79228162514264337593543950335 28 ∧ y.price ≤ x.price := by
  have hall := normalize_keeps_order threeDollars "USD" { id := "r" } (.ofList []) [neighbours]
  refine ⟨_, _, rfl, by decide +kernel, by decide +kernel, ?_⟩
  obtain ⟨hkeeps, -⟩ := List.forall₂_cons.1 hall
  refine hkeeps.mono (inEuros "y" (.ofNat 26409387504754779197847983445 28), _)
    (List.mem_of_getElem? (i := 1) rfl)
    (inEuros "x" (.ofNat 26409387504754779197847983446 28), _)
    (List.mem_of_getElem? (i := 0) rfl) ⟨rfl, rfl, ?_, ?_⟩ (by decide)
  · intro rate hrate
    obtain rfl : Decimal.ofNat 3 = rate := Option.some.inj hrate
    decide
  · intro factor hfactor
    cases hfactor

end AdExchange
