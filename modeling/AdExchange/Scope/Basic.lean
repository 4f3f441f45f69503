import AdExchange.Deadline
import AdExchange.MultiBid
import AdExchange.Partner.Catalog
import AdExchange.Privacy
import AdExchange.Scope.ImpPartners
import AdExchange.Scope.PartnerData

/-!
# One request per partner

A request is taken apart into one request for each partner that it names and that may be asked.
A partner is shown the imps that name it, what it may see of the rest, and of the controls only
what concerns it.  Another name for a partner counts as a partner of its own.

## Main definitions

* `PartnerRequest` — what one partner is asked.
* `Standing` — what becomes of a name: unknown, disabled, blocked or eligible.
* `BidRequest.scopeFor` — the request as one partner is to see it.
* `scope` — the requests for all partners, and the warnings.
-/

namespace AdExchange

/-- What one partner is asked. -/
structure PartnerRequest where
  /-- The name that the request uses, perhaps another name for the partner. -/
  partner : String
  /-- The name in the catalog. -/
  code : String
  request : BidRequest
  multibid : Option MultiBid := none
  deadline : Deadline
  deriving Inhabited

/-- Why a name in a request is passed over. -/
inductive ScopeWarning where
  /-- The catalog has no partner for the name. -/
  | unknown (name : String)
  /-- The partner does not take part in auctions. -/
  | disabled (name : String)
  deriving DecidableEq, Inhabited

def ScopeWarning.message : ScopeWarning → String
  | .unknown name => "Unknown bidder " ++ name ++ " was ignored"
  | .disabled name => "Bidder " ++ name ++ " is disabled and was ignored"

/-- What becomes of a name in a request. -/
inductive Standing where
  | unknown
  | disabled
  | blocked
  /-- The partner is asked; the decision is that of the privacy service. -/
  | eligible (partner : Partner) (decision : Option PrivacyDecision)
  deriving Inhabited

namespace Standing

/-- What becomes of a name, given the catalog, the request's other names and the privacy
decisions. -/
def of (catalog : Catalog) (aliases : Dictionary String) (decisions : List PrivacyDecision)
    (name : String) : Standing :=
  match catalog.resolve? aliases name with
  | none => .unknown
  | some partner =>
    if !partner.enabled then .disabled
    else
      let decision := PrivacyDecision.forPartner? decisions name
      if (decision.map (·.blocked)).getD false then .blocked else .eligible partner decision

end Standing

namespace BidRequest

/-- The controls that concern a partner: not who may see what, and of the settings for partners
only its own. -/
def prebidFor (p : PrebidExt) (partner : String) (multibid : Option MultiBid) : PrebidExt :=
  { p with
    data := none
    bidderConfig := none
    schains := none
    multibid := multibid.map fun m => [m.toDeclaration]
    bidders := (p.bidders.bind (Dictionary.get? · partner)).map fun own => [("bidder", own)] }

/-- The request with the sections that are meant for a partner: without first-party data if the
partner may not see it, else with the partner's own fragments merged in. -/
def sectionsFor (r : BidRequest) (partner : String) : Except AuctionError BidRequest :=
  if r.mayUseData partner then
    match r.fragmentsFor? partner with
    | some fragments => r.mergeFragments fragments
    | none => .ok r
  else .ok r.withoutData

/-- The request as a partner is to see it. -/
def scopeFor (r : BidRequest) (partner code : String) (multibid : Option MultiBid) :
    Except AuctionError BidRequest := do
  let own := { r with imps := r.impsFor partner (r.mayUseData partner) }
  let own ← own.sectionsFor partner
  let own := match (r.prebid?.bind (·.data)).bind (·.eidPermissions) with
    | some rules => own.filterEids rules partner code
    | none => own
  let own := match r.schainFor? partner with
    | some schain => own.withSchain schain
    | none => own
  let ext := r.ext.map fun e =>
    { e with prebid := e.prebid.map fun p => prebidFor p partner multibid }
  return { own with ext }

/-- The request with visitor and device as the privacy service wants them. -/
def masked (r : BidRequest) : Option PrivacyDecision → BidRequest
  | some d => if d.masked then { r with user := d.user, device := d.device } else r
  | none => r

end BidRequest

/-- The requests for all partners that are asked, and why other names are passed over. -/
structure ScopedRequests where
  requests : List PartnerRequest := []
  warnings : List ScopeWarning := []
  deriving Inhabited

/-- What one name contributes: a request, a warning, or nothing. -/
structure Contribution where
  request : Option PartnerRequest := none
  warning : Option ScopeWarning := none
  deriving Inhabited

/-- What one name of a request contributes at the time `now`. -/
def contribution (request : BidRequest) (catalog : Catalog) (multibid : Dictionary MultiBid)
    (decisions : List PrivacyDecision) (deadline : Deadline) (now : Nat) (name : String) :
    Except AuctionError Contribution :=
  match Standing.of catalog request.aliases decisions name with
  | .unknown => .ok { warning := some (.unknown name) }
  | .disabled => .ok { warning := some (.disabled name) }
  | .blocked => .ok {}
  | .eligible partner decision => do
    let limit := Dictionary.get? multibid name
    let own ← request.scopeFor name partner.name limit
    return {
      request := some {
        partner := name
        code := partner.name
        request := own.masked decision
        multibid := limit
        deadline := deadline.boundedBy now (partner.timeoutMs.map (·.toNat)) } }

/-- Takes a request apart at the time `now`: one request per partner that is asked, in the order
in which the imps name them. -/
def scope (request : BidRequest) (catalog : Catalog) (multibid : Dictionary MultiBid)
    (decisions : List PrivacyDecision) (deadline : Deadline) (now : Nat) :
    Except AuctionError ScopedRequests :=
  if request.imps.isEmpty then .error .noImps
  else do
    let parts ← request.partnerNames.mapM
      (contribution request catalog multibid decisions deadline now)
    return {
      requests := parts.filterMap (·.request)
      warnings := parts.filterMap (·.warning) }

end AdExchange
