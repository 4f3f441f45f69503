import AdExchange.Adapter.Basic
import AdExchange.BidResponse
import AdExchange.Json.Printer
import AdExchange.Json.Reader
import AdExchange.LibraryTexts

/-!
# The OpenRTB adapter

Partners that speak OpenRTB are sent the request as it is, and answer with a bid response.  What
kind of advertisement a bid offers is what the bid says in `ext.prebid.type`, or else what its imp
asks for.
-/

namespace AdExchange

open scoped CorePower

namespace OpenRtb

/-- What kind of advertisement a bid offers: what it says itself, else the first kind that its imp
asks for, else a banner. -/
def mediaType (bid : WireBid) (imp : Option Imp) : MediaType :=
  let declared := ((bid.ext.bind (·.path? ["prebid", "type"])).bind (·.asString?)).bind
    MediaType.ofName?
  match declared, imp with
  | some m, _ => m
  | none, none => .banner
  | none, some imp =>
    if imp.banner.isSome then .banner
    else if imp.video.isSome then .video
    else if imp.native.isSome then .native
    else if imp.audio.isSome then .audio
    else .banner

/-- What a bid says about its video; `none` if that is nothing. -/
def videoInfo? (bid : WireBid) : Option VideoInfo :=
  let video := bid.ext.bind (·.path? ["prebid", "video"])
  let duration := bid.dur.or
    (((video.bind (·.get? "duration")).bind (·.asNat?)).map fun n =>
      .ofNat (min n (2 ^ (32 : Nat) - 1)))
  let category := ((video.bind (·.get? "primary_category")).bind (·.asString?)).filter
    fun c => !c.isEmpty
  if duration.isNone ∧ category.isNone then none else some ⟨duration, category⟩

def ofWire (bid : WireBid) (currency : Option String) (imp : Option Imp) : Bid :=
  let mediaType := mediaType bid imp
  { id := bid.id
    impId := bid.impId
    price := bid.price
    currency
    mediaType
    categories := bid.cat
    video := if mediaType = .video then videoInfo? bid else none
    adm := bid.adm
    dealId := bid.dealId
    adomain := bid.adomain
    crid := bid.crid
    w := bid.w
    h := bid.h
    ext := bid.ext }

/-- The one call: the whole request, sent to the partner's address. -/
def makeCall (request : PartnerRequest) (partner : Partner) : HttpCall where
  method := "POST"
  uri := partner.endpoint
  headers :=
    [("Content-Type", "application/json;charset=utf-8"), ("Accept", "application/json"),
     ("x-openrtb-version", "2.5")]
  body := request.request.toJson.text
  impIds := request.request.imps.map (·.id)

/-- The bids in a reply.  Status 204 stands for no bids; only a reply with status 200 is read. -/
def readBids (request : PartnerRequest) (reply : HttpReply) (texts : LibraryTexts := {}) :
    Except PartnerError (List Bid) :=
  if reply.status = 204 then .ok []
  else if reply.status = 200 then
    match (RawJson.parse? reply.body).bind BidResponse.read? with
    | none => .error (.undecodable (texts.badText .bidResponse reply.body))
    | some response =>
      .ok ((response.seatBids.flatMap (·.bids)).map fun bid =>
        ofWire bid response.cur (request.request.findImp? bid.impId))
  else .error (.unexpectedStatus reply.status)

/-- The adapter for partners that speak OpenRTB.  It does not crash. -/
def adapter (texts : LibraryTexts := {}) : Adapter where
  makeCalls request partner := some { calls := [makeCall request partner] }
  readBids request _ reply := some (readBids request reply texts)

end OpenRtb

end AdExchange
