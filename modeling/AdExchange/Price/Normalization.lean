import AdExchange.Partner.Catalog
import AdExchange.Partner.Response
import AdExchange.Results

/-!
# Bringing prices to one currency

The response of an auction has one currency.  Every bid is converted to it from its own currency
and then multiplied with the adjustment factor of its partner, if the request has one.  A bid for
which that fails is dropped, and the partner is told why.
-/

namespace AdExchange

/-- The currency of the response: the first one that the request lists, else that of the exchange.
If the request lists more than one, every partner is warned. -/
def settlementCurrency (request : BidRequest) (default : String) : String × Option PartnerError :=
  match request.cur with
  | some [first] => (first, none)
  | some (first :: _) => (first, some (.severalCurrencies first))
  | _ => (default, none)

/-- The medium by which the factor for a bid is chosen.  For a video the imp decides: with
placement 1, or with none, it is video inside content. -/
def adjustmentMedia (request : BidRequest) (bid : Bid) : AdjustmentMedia :=
  match bid.mediaType with
  | .banner => .banner
  | .audio => .audio
  | .native => .native
  | .video =>
    match ((request.findImp? bid.impId).bind (·.video)).bind (·.placement) with
    | none => .video
    | some placement => if placement = 1 then .video else .videoOutstream

/-- The factor for a bid: that of its partner for its medium, else that of its partner. -/
def adjustmentFactor? (request : BidRequest) (partner : String) (bid : Bid) : Option Decimal := do
  let factors ← request.prebid?.bind (·.adjustmentFactors)
  let byMedia := (factors.mediaTypes.getD []).lookup (adjustmentMedia request bid)
  (byMedia.bind (Dictionary.get? · partner)).or (Dictionary.get? factors.factors partner)

/-- What prices are brought to one currency with. -/
structure Settlement where
  /-- The rates of the exchange. -/
  rates : Rates
  request : BidRequest
  /-- The currency to convert to. -/
  currency : String

/-- A bid in the currency of the response. `fallback` is the currency of bids that do not say
theirs. -/
def Bid.settle (s : Settlement) (partner fallback : String) (bid : Bid) :
    Except PartnerError Bid := do
  let source := bid.currency.getD fallback
  let converted ← (s.rates.convert s.request bid.price source s.currency).mapError .conversion
  let price ← match adjustmentFactor? s.request partner bid with
    | none => pure converted
    | some factor =>
      match converted.mul? factor with
      | some price => pure price
      | none => throw (.factorOverflow factor)
  return bid.normalized price s.currency source

/-- The currency of a partner's bids that do not say theirs. -/
def bidCurrency (catalog : Catalog) (default code : String) : String :=
  ((catalog.get? code).map (·.defaultCurrency)).getD default

/-- A partner's response in the currency of the response.  The warning comes behind the errors
that are there, and behind it one error for each bid that is dropped. -/
def PartnerResponse.settle (s : Settlement) (catalog : Catalog) (default : String)
    (warning : Option PartnerError) (r : PartnerResponse) : PartnerResponse :=
  let results := r.bids.map (Bid.settle s r.partner (bidCurrency catalog default r.code))
  { r with
    bids := successes results
    errors := r.errors ++ warning.toList ++ failures results }

/-- All responses in one currency.  `default` is the currency of the exchange. -/
def normalize (rates : Rates) (default : String) (request : BidRequest) (catalog : Catalog)
    (responses : List PartnerResponse) : List PartnerResponse :=
  let (currency, warning) := settlementCurrency request default
  responses.map (PartnerResponse.settle ⟨rates, request, currency⟩ catalog default warning)

end AdExchange
