import AdExchange.Proofs.Auction.Attribution
import AdExchange.Proofs.Price.Signs

/-!
# The prices that a response lists

Bids are offered at prices of zero or more: those below zero are dropped when they come in.  The
rates and the factors that are applied afterwards may be below zero, and no one looks at the prices
again.  So a response lists a price below zero exactly where it has come out so, and none if no rate
and no factor that the auction may use is below zero.
-/

namespace AdExchange

open Decimal (zero)

/-- A listed bid is one that was offered at a price of zero or more.  It is listed at the price that
it is settled at, which is below zero exactly if it is no zero and the rate or the factor is below
zero, but not both. -/
structure WireBid.PricedFrom (s : Settlement) (partner source : String) (offered : Bid)
    (w : WireBid) : Prop where
  id : w.id = offered.id
  impId : w.impId = offered.impId
  zero_le_offered : zero ≤ offered.price
  price : s.price? partner source offered = some w.price
  lt_zero_iff : w.price < zero ↔ w.price.isZero = false ∧
    ¬ ((∃ rate ∈ s.rates.applied? s.request source s.currency, rate < zero) ↔
      ∃ factor ∈ adjustmentFactor? s.request partner offered, factor < zero)

theorem pricedFrom_of_settle {s : Settlement} {partner fallback : String} {offered settled : Bid}
    (hoffered : zero ≤ offered.price) (h : offered.settle s partner fallback = .ok settled)
    (rank : Nat) (key : Option String) (multibid : Option MultiBid) :
    (settled.toWire rank key multibid).PricedFrom s partner (offered.currency.getD fallback)
      offered := by
  obtain ⟨price, hprice, rfl⟩ := Bid.settle_eq_ok_iff.1 h
  have hsign := Settlement.price_lt_zero_iff hprice (Decimal.zero_le_iff.1 hoffered)
  exact ⟨rfl, rfl, hoffered, hprice, hsign⟩

namespace Exchange

/-- No rate of the exchange or of the request, and no factor of the request, is below zero. -/
structure NoneNegative (x : Exchange) (request : BidRequest) : Prop where
  rates : x.rates.NonNegative
  ownRates : (Rates.ofRequest request).NonNegative
  factors : ∀ f ∈ request.prebid?.bind (·.adjustmentFactors), f.NonNegative

variable {x : Exchange} {now : Nat} {earlier : List HttpCall} {request : BidRequest}
  {context : AuctionContext}

/-- Bids are offered at prices of zero or more. -/
theorem zero_le_price_of_mem_offers {r : PartnerResponse} {offered : Bid}
    (hr : r ∈ x.offers now earlier request context) (hoffered : offered ∈ r.bids) :
    zero ≤ offered.price := by
  obtain ⟨q, -, hsound⟩ := exists_of_mem_right (sound_dispatch ..) hr
  obtain ⟨-, -, hnegative⟩ := Bid.defect?_eq_none_iff.1 (hsound.bids offered hoffered)
  rw [Decimal.zero_le_iff, Decimal.lt_zero_iff]
  simp [hnegative]

/-- Each listed bid is an offered one at the price that it is settled at. -/
theorem exists_pricedFrom_of_mem_seatBids {response : BidResponse} {seat : SeatBid} {w : WireBid}
    (hresponse : (x.holdAuction now earlier request context).outcome = .ok response)
    (hseat : seat ∈ response.seatBids) (hw : w ∈ seat.bids) :
    ∃ r ∈ x.offers now earlier request context, seat.seat = some r.partner ∧
      ∃ offered ∈ r.bids, w.PricedFrom (x.settlement request) r.partner
        (offered.offeredIn x.catalog x.config.defaultCurrency r.code) offered := by
  obtain ⟨r, hr, hpartner, offered, hoffered, settled, hok, rank, key, multibid, rfl⟩ :=
    exists_offer_of_mem_seatBids hresponse hseat hw
  refine ⟨r, hr, hpartner, offered, hoffered, ?_⟩
  rw [Bid.offeredIn_eq]
  exact pricedFrom_of_settle (zero_le_price_of_mem_offers hr hoffered) hok rank key multibid

/-- Each listed bid is an offered one at the price that it is settled at.  That may be below zero,
but not where no rate and no factor is. -/
theorem holdAuction_price_signs {response : BidResponse}
    (hresponse : (x.holdAuction now earlier request context).outcome = .ok response) :
    (∀ seat ∈ response.seatBids, ∀ w ∈ seat.bids,
      ∃ r ∈ x.offers now earlier request context, seat.seat = some r.partner ∧
        ∃ offered ∈ r.bids, w.PricedFrom (x.settlement request) r.partner
          (offered.offeredIn x.catalog x.config.defaultCurrency r.code) offered) ∧
    (x.NoneNegative request → ∀ seat ∈ response.seatBids, ∀ w ∈ seat.bids, zero ≤ w.price) := by
  refine ⟨fun _ hseat _ hw => exists_pricedFrom_of_mem_seatBids hresponse hseat hw, ?_⟩
  intro hnone seat hseat w hw
  obtain ⟨r, -, -, offered, -, hfrom⟩ := exists_pricedFrom_of_mem_seatBids hresponse hseat hw
  refine Settlement.price_nonneg hfrom.price hfrom.zero_le_offered ?_ ?_
  · intro rate hrate
    exact Rates.applied_nonneg hnone.rates hnone.ownRates hrate
  · intro factor hfactor
    exact adjustmentFactor_nonneg hnone.factors hfactor

/-- Offers an imp to the partner `a`, whose prices are multiplied with a factor. -/
def withFactor (factor : Decimal) : BidRequest where
  id := "r"
  imps := [{ id := "1", ext := some [("a", .nat 1)] }]
  ext := some { prebid := some { adjustmentFactors := some { factors := [("a", factor)] } } }

/-- An exchange in which `a` bids 10. -/
def bidsTen : Exchange :=
  allBid [{ id := "x", impId := "1", price := .ofNat 10, mediaType := .banner }]

def outcomeOfFactor (factor : Decimal) : Except (Fault AuctionError) BidResponse :=
  (bidsTen.holdAuction 0 [] (withFactor factor) {}).outcome

theorem noneNegative_withFactor {factor : Decimal} (h : zero ≤ factor) :
    bidsTen.NoneNegative (withFactor factor) where
  rates := by simp [bidsTen, allBid, Rates.NonNegative]
  ownRates := by simp [Rates.ofRequest, BidRequest.prebid?, withFactor, Rates.NonNegative]
  factors := by
    intro f hf
    obtain rfl : { factors := [("a", factor)] } = f := by
      simpa [BidRequest.prebid?, withFactor] using hf
    exact ⟨by simpa using h, by simp⟩

/-- A factor of minus one turns the price of 10 into -10, and a factor of two into 20. -/
theorem holdAuction_price_signs_withFactor :
    (∃ response, outcomeOfFactor Decimal.one.neg = .ok response ∧
      response.seatBids.map (·.bids.map (·.price)) = [[(Decimal.ofNat 10).neg]] ∧
      ∀ seat ∈ response.seatBids, ∀ w ∈ seat.bids,
        ∃ r ∈ bidsTen.offers 0 [] (withFactor Decimal.one.neg) {}, seat.seat = some r.partner ∧
          ∃ offered ∈ r.bids, w.PricedFrom (bidsTen.settlement (withFactor Decimal.one.neg))
            r.partner (offered.offeredIn bidsTen.catalog "USD" r.code) offered) ∧
    ∃ response, outcomeOfFactor (.ofNat 2) = .ok response ∧
      response.seatBids.map (·.bids.map (·.price)) = [[.ofNat 20]] ∧
      ∀ seat ∈ response.seatBids, ∀ w ∈ seat.bids, zero ≤ w.price := by
  have hminus : outcomeOfFactor Decimal.one.neg =
      .ok ((outcomeOfFactor Decimal.one.neg).toOption.getD default) := rfl
  have htwo : outcomeOfFactor (.ofNat 2) =
      .ok ((outcomeOfFactor (.ofNat 2)).toOption.getD default) := rfl
  have hnone : bidsTen.NoneNegative (withFactor (.ofNat 2)) := noneNegative_withFactor (by decide)
  exact ⟨⟨_, hminus, rfl, (holdAuction_price_signs hminus).1⟩,
    ⟨_, htwo, rfl, (holdAuction_price_signs htwo).2 hnone⟩⟩

end Exchange

end AdExchange
