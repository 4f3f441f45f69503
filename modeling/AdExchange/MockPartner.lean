import AdExchange.Adapter.Basic
import AdExchange.BidRequest.Shape
import AdExchange.BidResponse
import AdExchange.Http.ContentType
import AdExchange.Http.Request
import AdExchange.Json.Printer
import AdExchange.Json.Reader

/-!
# A mock partner

For demonstrations there is a partner that bids on every imp.  It offers the floor price times some
factor, and an advertisement of the kind that the imp asks for.  What it draws at random is given
to it here as an argument.
-/

namespace AdExchange

/-- What a mock partner draws for one bid. -/
structure MockDraw where
  /-- Tells the bids of one imp apart. -/
  token : String
  /-- What the floor price is multiplied with, by the kind of advertisement. -/
  videoFactor : Decimal
  nativeFactor : Decimal
  bannerFactor : Decimal
  creative : Nat
  /-- The length of a video in seconds. -/
  duration : UInt32
  category : String
  deriving Inhabited

def MockDraw.low (token : String) : MockDraw where
  token
  videoFactor := .ofNat 1
  nativeFactor := .ofNat 8 1
  bannerFactor := .ofNat 1
  creative := 1000
  duration := 5
  category := "IAB1-1"

/-- A draw with factors in the middle of their ranges. -/
def MockDraw.middle (token : String) : MockDraw :=
  { MockDraw.low token with
    videoFactor := .ofNat 175 2
    nativeFactor := .ofNat 14 1
    bannerFactor := .ofNat 15 1
    creative := 5499
    duration := 15
    category := "IAB17-12" }

def bannerMarkup (bidId : String) : String :=
  "<html><body>Mock Partner Banner Ad<br/><a href=\"http://partner-tracker.local/click?bid=" ++
  bidId ++ "\" target=\"_blank\">Click Here</a><img " ++
  "src=\"http://partner-tracker.local/impression?bid=" ++ bidId ++
  "\" style=\"display:none;\" /></body></html>"

/-- A natural number with two digits at least. -/
def twoDigits (n : Nat) : String := if n < 10 then "0" ++ toString n else toString n

def videoMarkup (bidId : String) (duration : UInt32) : String :=
  String.intercalate "\n"
    ["<VAST version=\"3.0\">",
     "  <Ad id=\"" ++ bidId ++ "\">",
     "    <InLine>",
     "      <AdSystem>Mock Partner</AdSystem>",
     "      <AdTitle>Mock Video Ad</AdTitle>",
     "      <Impression><![CDATA[http://partner-tracker.local/impression?bid=" ++ bidId ++
       "]]></Impression>",
     "      <Creatives>",
     "        <Creative>",
     "          <Linear>",
     "            <Duration>00:00:" ++ twoDigits duration.toNat ++ "</Duration>",
     "            <MediaFiles>",
     "              <MediaFile delivery=\"progressive\" type=\"video/mp4\" width=\"640\" " ++
       "height=\"360\" bitrate=\"500\">",
     "                http://example.com/video.mp4",
     "              </MediaFile>",
     "            </MediaFiles>",
     "          </Linear>",
     "        </Creative>",
     "      </Creatives>",
     "    </InLine>",
     "  </Ad>",
     "</VAST>"]

def nativeMarkup : String :=
  let title : Json := .object [("title", .object [("text", .string "Mock Native Ad")])]
  (Json.object [("native", .object [("assets", .array [title])])]).text

def kindExt (kind : String) : Json := .object [("prebid", .object [("type", .string kind)])]

def mockBidId (imp : Imp) (draw : MockDraw) : String := "bid-" ++ imp.id ++ "-" ++ draw.token

/-- The bid on one imp; `none` if the price does not fit.  Prices have two decimal places. -/
def mockBid? (imp : Imp) (draw : MockDraw) : Option WireBid := do
  let id := mockBidId imp draw
  let factor :=
    if imp.video.isSome then draw.videoFactor
    else if imp.native.isSome then draw.nativeFactor
    else draw.bannerFactor
  let price ← (imp.bidFloor.getD .one).mul? factor
  let base : WireBid :=
    { id
      impId := imp.id
      price := price.roundPlaces 2
      crid := some ("creative-" ++ toString draw.creative)
      adomain := some ["mock-advertiser.com"] }
  return (
    if imp.video.isSome then
      { base with
        adm := some (videoMarkup id draw.duration)
        dur := some draw.duration
        cat := some [draw.category]
        ext := some (kindExt "video") }
    else if imp.native.isSome then
      { base with adm := some nativeMarkup, ext := some (kindExt "native") }
    else { base with adm := some (bannerMarkup id), w := some 300, h := some 250 })

/-- The mock partner's answer to a request: one bid for each imp. -/
def mockResponse? (request : BidRequest) (draw : Imp → MockDraw) : Option BidResponse := do
  let bids ← request.imps.mapM fun imp => mockBid? imp (draw imp)
  return {
    id := request.id
    seatBids := [{ bids, seat := some "mock_seat", group := some 0 }]
    cur := some "USD" }

def HttpRequest.hasJsonBody (r : HttpRequest) : Bool :=
  (((r.header? "content-type").bind ContentType.parse?).map (·.isJson)).getD false

def mockPath : String := "/bid"

/-- What the mock partner answers over HTTP: a status, and with 200 a bid response.  A body that is
no bid request is told apart by its first fault.  There is no answer if a price does not fit. -/
def mockServe (r : HttpRequest) (draw : Imp → MockDraw) : Option (Nat × Option BidResponse) :=
  if r.resource ≠ mockPath then some (404, none)
  else if r.method ≠ "POST" then some (405, none)
  else if !r.hasJsonBody then some (415, none)
  else if r.isOversized then some (413, none)
  else
    match (RawJson.parse? r.body).bind BidRequest.read? with
    | none => some (if BidRequest.shape.fault? r.body = some .malformed then 400 else 422, none)
    | some request => (mockResponse? request draw).map fun response => (200, some response)

/-- Carries every call to the mock partner, whatever its address; an answer takes `delay`
milliseconds. -/
def Transport.mock (delay : Nat) (draw : Imp → MockDraw) : Transport where
  answer _ call :=
    let request : HttpRequest :=
      { method := call.method, path := mockPath, headers := call.headers,
        body := call.body.toUTF8.toList }
    match mockServe request draw with
    | some (status, response) =>
      ⟨delay, .ok ⟨status, ((response.map fun r => r.toJson.text).getD "").toUTF8.toList⟩⟩
    | none => ⟨delay, .error (.reported .failedToRequestBids "no answer")⟩

end AdExchange
