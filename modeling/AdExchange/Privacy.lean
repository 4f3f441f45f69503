import AdExchange.AuctionError
import AdExchange.BidRequest.Basic

/-!
# Privacy decisions

Before any partner is asked, a privacy service is told the request and the names of the partners,
and decides for each whether it may be asked and what it may see.
-/

namespace AdExchange

/-- What the privacy service decides for one partner. -/
structure PrivacyDecision where
  partner : String
  /-- The partner is not asked. -/
  blocked : Bool := false
  /-- The partner is shown `user` and `device` instead of those of the request. -/
  masked : Bool := false
  user : Option User := none
  device : Option Json := none
  deriving Inhabited

namespace PrivacyDecision

def allow (partner : String) : PrivacyDecision := { partner }

def block (partner : String) : PrivacyDecision := { partner, blocked := true }

/-- The decision that counts for a partner: the last one that names it. -/
def forPartner? (decisions : List PrivacyDecision) (partner : String) : Option PrivacyDecision :=
  decisions.reverse.find? (·.partner == partner)

end PrivacyDecision

/-- Decides on the partners that a request names, or fails. -/
abbrev PrivacyService := BidRequest → List String → Except AuctionError (List PrivacyDecision)

def PrivacyService.passThrough : PrivacyService := fun _ partners =>
  .ok (partners.map PrivacyDecision.allow)

end AdExchange
