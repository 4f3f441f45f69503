import AdExchange.AuctionError
import AdExchange.BidRequest.Basic
import AdExchange.Json.Merge

/-!
# What a partner may see of a request

The controls of a request say which partners may see first-party data and which identifiers of the
visitor, and they hold settings for single partners.  A setting that lists a partner counts before
one that lists everybody.
-/

namespace AdExchange

/-- Stands for every partner in a list of partners. -/
def wildcard : String := "*"

/-- The setting that counts for a partner: the first one that lists it, else the first one that
lists everybody. -/
def selectFor? {α : Type} (entries : List (List String × α)) (partner : String) : Option α :=
  ((entries.find? (·.1.contains partner)).or (entries.find? (·.1.contains wildcard))).map (·.2)

namespace UserExt

/-- The extension without first-party data; `none` if nothing else is in it. -/
def withoutData? (e : UserExt) : Option UserExt :=
  let left := { e with data := none }
  if left.isEmpty then none else some left

end UserExt

namespace DataExt

/-- The extension without first-party data; `none` if nothing else is in it. -/
def withoutData? (e : DataExt) : Option DataExt :=
  let left := { e with data := none }
  if left.isEmpty then none else some left

end DataExt

namespace BidRequest

/-- The partner may see first-party data. -/
def mayUseData (r : BidRequest) (partner : String) : Bool :=
  match (r.prebid?.bind (·.data)).bind (·.bidders) with
  | some bidders => bidders.contains partner
  | none => true

/-- The request without first-party data on the visitor, the site, its content and the app. -/
def withoutData (r : BidRequest) : BidRequest :=
  { r with
    user := r.user.map fun u => { u with data := none, ext := u.ext.bind UserExt.withoutData? }
    site := r.site.map fun s =>
      { s with
        content := s.content.map fun c => { c with data := none }
        ext := s.ext.bind DataExt.withoutData? }
    app := r.app.map fun a => { a with ext := a.ext.bind DataExt.withoutData? } }

/-- A section with a fragment merged into it; an absent section counts as empty. -/
def mergeSection {α : Type} (form : JsonForm) (read : RawJson → Option α) (write : α → Json)
    (present : Option α) : Option Json → Except AuctionError (Option α)
  | none => .ok present
  | some fragment =>
    let merged := (present.elim (.object []) write).merge fragment
    match read merged.raw with
    | some after => .ok (some after)
    | none => .error (.badBidderConfig form merged)

/-- The request with fragments merged into site, app and user.  It may not end up with both a site
and an app. -/
def mergeFragments (r : BidRequest) (f : OrtbFragments) : Except AuctionError BidRequest := do
  let site ← mergeSection .site Site.read? Site.toJson r.site f.site
  let app ← mergeSection .app App.read? App.toJson r.app f.app
  let user ← mergeSection .user User.read? User.toJson r.user f.user
  if site.isSome ∧ app.isSome then .error .siteAndApp
  else .ok { r with site, app, user }

/-- The fragments that are meant for a partner. -/
def fragmentsFor? (r : BidRequest) (partner : String) : Option OrtbFragments := do
  let configs ← r.prebid?.bind (·.bidderConfig)
  let config ← selectFor? (configs.map fun c => (c.bidders, c.config)) partner
  config.ortb2

/-- The rules let a partner, known by its name in the request and by its own name, see the
identifiers of a source: there is no rule for the source, or one that lists the partner or
everybody. -/
def eidAllowed (rules : List EidPermission) (partner code source : String) : Bool :=
  let own := rules.filter (·.source == source)
  own.isEmpty ||
    own.any fun rule => rule.bidders.any fun b => b == wildcard || b == partner || b == code

/-- The extension with only those identifiers that pass; without a list if none does. -/
def keepEids (keep : Eid → Bool) (e : UserExt) : UserExt :=
  { e with eids := e.eids.bind fun eids =>
      let kept := eids.filter keep
      if kept.isEmpty then none else some kept }

/-- The request with only those identifiers that a partner may see. -/
def filterEids (r : BidRequest) (rules : List EidPermission) (partner code : String) : BidRequest :=
  let keep := fun e : Eid => eidAllowed rules partner code e.source
  { r with user := r.user.map fun u => { u with ext := u.ext.map (keepEids keep) } }

/-- The request with another supply chain. -/
def withSchain (r : BidRequest) (schain : SupplyChain) : BidRequest :=
  let source := r.source.getD {}
  let ext := source.ext.getD {}
  { r with source := some { source with ext := some { ext with schain := some schain } } }

/-- The supply chain that is meant for a partner. -/
def schainFor? (r : BidRequest) (partner : String) : Option SupplyChain := do
  let entries ← r.prebid?.bind (·.schains)
  selectFor? (entries.map fun e => (e.bidders, e.schain)) partner

end BidRequest

end AdExchange
