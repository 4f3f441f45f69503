import AdExchange.BidResponse
import AdExchange.Category.Mapping

/-!
# The response of an auction

Each partner with bids gets a seat in the response.  Of its bids for one imp only the best ones are
listed, as many as the partner's multibid setting allows.  Each bid carries what the publisher's ad
server needs in its extension, and the response carries what went wrong and how long each partner
took.
-/

namespace AdExchange

/-- Of two bids with their places, the first is the better one: it has the higher price, or the
same price and an earlier place. -/
def outranks (a b : Bid × Nat) : Bool := b.1.price < a.1.price || (a.1.price ≤ b.1.price &&
  b.1.price ≤ a.1.price && a.2 < b.2)

/-- How many of these bids are better than a bid and made for the same imp. -/
def rankWithinImp (placed : List (Bid × Nat)) (b : Bid × Nat) : Nat :=
  (placed.filter fun a => a.1.impId == b.1.impId && outranks a b).length

/-- For each imp the best bids, as many as the limit allows, with their ranks among the bids of
the imp.  They stay in their order. -/
def cappedBids (bids : List Bid) (limit : Option Nat) : List (Bid × Nat) :=
  let placed := bids.zipIdx
  (placed.map fun b => (b.1, rankWithinImp placed b)).filter fun b =>
    match limit with
    | some n => b.2 < n
    | none => true

/-- The extension of a listed bid: what the partner put there, the price that the bid was made
with, and for the ad server the kind of advertisement, a code for further bids of the partner, and
the display key. -/
def Bid.wireExt (bid : Bid) (rank : Nat) (displayKey : Option String) (multibid : Option MultiBid) :
    Dictionary Json :=
  let ext := (bid.ext.bind (·.asObject?)).getD []
  let ext := match bid.offeredPrice with
    | some price => Dictionary.insert ext "origbidcpm" (.decimal price)
    | none => ext
  let ext := match bid.offeredCurrency with
    | some currency => Dictionary.insert ext "origbidcur" (.string currency)
    | none => ext
  let prebid := ((Dictionary.get? ext "prebid").bind (·.asObject?)).getD []
  let prebid := Dictionary.insert prebid "type" (.string bid.mediaType.name)
  let prebid := match multibid.bind (·.targetBidderCodePrefix) with
    | some code =>
      if 0 < rank then
        Dictionary.insert prebid "targetbiddercode" (.string (code ++ toString (rank + 1)))
      else prebid
    | none => prebid
  let prebid := match displayKey with
    | some key =>
      Dictionary.insert prebid "targeting" (.object [("hb_pb_cat_dur", .string key)])
    | none => prebid
  Dictionary.insert ext "prebid" (.object prebid)

def Bid.toWire (bid : Bid) (rank : Nat) (displayKey : Option String) (multibid : Option MultiBid) :
    WireBid where
  id := bid.id
  impId := bid.impId
  price := bid.price
  adm := bid.adm
  adomain := bid.adomain
  crid := bid.crid
  cat := bid.categories
  dealId := bid.dealId
  dur := bid.duration?
  w := bid.w
  h := bid.h
  ext := some (.object (bid.wireExt rank displayKey multibid))

/-- What the response of an auction is made from. -/
structure AssemblyInput where
  request : BidRequest
  responses : List PartnerResponse
  /-- The display keys by partner and bid id. -/
  keys : Dictionary (Dictionary String) := []
  multibid : Dictionary MultiBid := []
  /-- What is wrong with the request's own settings. -/
  warnings : List String := []
  /-- The video bids that were rejected. -/
  rejections : List String := []
  currency : String
  /-- The time that the auction had, in milliseconds. -/
  tmax : Nat

/-- The seat of a partner; none without bids. -/
def seatBid? (input : AssemblyInput) (response : PartnerResponse) : Option SeatBid :=
  if response.bids.isEmpty then none
  else
    let multibid := Dictionary.get? input.multibid response.partner
    let keys := (Dictionary.get? input.keys response.partner).getD []
    let bids := cappedBids response.bids (multibid.map fun m => m.maxBids.toNat)
    some {
      bids := bids.map fun (bid, rank) =>
        bid.toWire rank (Dictionary.get? keys bid.id) multibid
      seat := some response.partner
      group := some 0 }

/-- An error or a warning in the extension of a response. -/
def notice (code : Nat) (message : String) : Json :=
  .object [("code", .nat code), ("message", .string message)]

/-- The errors of each partner that has some. -/
def errorNotices (responses : List PartnerResponse) : Dictionary Json :=
  Dictionary.ofList ((responses.filter fun r => !r.errors.isEmpty).map fun r =>
    (r.partner, .array (r.errors.map fun e => notice e.kind.code e.message)))

def latencies (responses : List PartnerResponse) : Dictionary Json :=
  Dictionary.ofList (responses.map fun r => (r.partner, .nat r.responseTimeMs))

/-- The extension of a response.  Warnings have the code of generic errors. -/
def responseExt (input : AssemblyInput) : Json :=
  let errors := errorNotices input.responses
  let general := input.warnings.map (notice PartnerErrorKind.generic.code)
  .ofFields
    [("errors", if errors.isEmpty then none else some (.object errors)),
     ("warnings", if general.isEmpty then none else some (.object [("general", .array general)])),
     ("rejections", Json.nonempty? (input.rejections.map .string)),
     ("responsetimemillis", some (.object (latencies input.responses))),
     ("tmaxrequest", some (.nat input.tmax))]

/-- The response of an auction: one seat per partner with bids, in the order of the partners. -/
def assemble (input : AssemblyInput) : BidResponse where
  id := input.request.id
  seatBids := input.responses.filterMap (seatBid? input)
  cur := some input.currency
  ext := some (responseExt input)

end AdExchange
