import AdExchange.Bid
import AdExchange.Partner.Error

/-!
# What a partner answered

A partner that is asked has one response, whether it bids or something goes wrong.
-/

namespace AdExchange

/-- The bids of one partner, what went wrong with it, and how long it took. -/
structure PartnerResponse where
  /-- The name that the request uses. -/
  partner : String
  /-- The name in the catalog. -/
  code : String
  bids : List Bid := []
  errors : List PartnerError := []
  responseTimeMs : Nat := 0
  deriving Inhabited

end AdExchange
