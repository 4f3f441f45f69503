import AdExchange.BidRequest.Parties
import AdExchange.BidRequest.Prebid

/-!
# Bid requests

A bid request offers advertising space, one `Imp` for each advertisement that can be shown, and
says where and to whom.  Reading keeps what the exchange has no use for, and writing puts it back.
-/

namespace AdExchange

open RawJson

/-- The binary64 number for a decimal, as a JSON number. -/
def Json.decimal (d : Decimal) : Json := .number (.binary d.toBinary64)

/-- Space for a video. -/
structure Video where
  mimes : List String := []
  minDuration : Option UInt32 := none
  maxDuration : Option UInt32 := none
  /-- Where the video is played; 1 is inside other video content. -/
  placement : Option Int32 := none
  w : Option UInt32 := none
  h : Option UInt32 := none
  other : Dictionary Json := []
  deriving Inhabited

namespace Video

def read? (v : RawJson) : Option Video := do
  let (m, other) ← v.openRecord? ["mimes", "minduration", "maxduration", "placement", "w", "h"]
  return {
    mimes := ← m.withDefault? "mimes" [] (list? string?)
    minDuration := ← m.optional? "minduration" uint32?
    maxDuration := ← m.optional? "maxduration" uint32?
    placement := ← m.optional? "placement" int32?
    w := ← m.optional? "w" uint32?
    h := ← m.optional? "h" uint32?
    other }

def toJson (v : Video) : Json :=
  .openRecord
    [("mimes", Json.nonempty? (v.mimes.map .string)),
     ("minduration", v.minDuration.map fun n => .nat n.toNat),
     ("maxduration", v.maxDuration.map fun n => .nat n.toNat),
     ("placement", v.placement.map fun n => .int n.toInt),
     ("w", v.w.map fun n => .nat n.toNat), ("h", v.h.map fun n => .nat n.toNat)]
    v.other

end Video

/-- Space for one advertisement. -/
structure Imp where
  id : String
  banner : Option Json := none
  video : Option Video := none
  audio : Option Json := none
  native : Option Json := none
  /-- The lowest price at which the space is sold. -/
  bidFloor : Option Decimal := none
  bidFloorCur : Option String := none
  tagId : Option String := none
  pmp : Option Json := none
  /-- Holds the bidders that are asked, with their parameters. -/
  ext : Option (Dictionary Json) := none
  other : Dictionary Json := []
  deriving Inhabited

namespace Imp

def read? (v : RawJson) : Option Imp := do
  let (m, other) ← v.openRecord?
    ["id", "banner", "video", "audio", "native", "bidfloor", "bidfloorcur", "tagid", "pmp", "ext"]
  return {
    id := ← m.required? "id" string?
    banner := ← m.optional? "banner" value?
    video := ← m.optional? "video" Video.read?
    audio := ← m.optional? "audio" value?
    native := ← m.optional? "native" value?
    bidFloor := ← m.optional? "bidfloor" decimal?
    bidFloorCur := ← m.optional? "bidfloorcur" string?
    tagId := ← m.optional? "tagid" string?
    pmp := ← m.optional? "pmp" value?
    ext := ← m.optional? "ext" object?
    other }

def toJson (i : Imp) : Json :=
  .openRecord
    [("id", some (.string i.id)), ("banner", i.banner), ("video", i.video.map Video.toJson),
     ("audio", i.audio), ("native", i.native), ("bidfloor", i.bidFloor.map .decimal),
     ("bidfloorcur", i.bidFloorCur.map .string), ("tagid", i.tagId.map .string), ("pmp", i.pmp),
     ("ext", i.ext.map .object)]
    i.other

end Imp

/-- A bid request. -/
structure BidRequest where
  id : String
  imps : List Imp := []
  site : Option Site := none
  app : Option App := none
  device : Option Json := none
  user : Option User := none
  source : Option Source := none
  regs : Option Json := none
  test : Option Int32 := none
  auctionType : Option Int32 := none
  /-- How many milliseconds the whole auction may take. -/
  tmax : Option UInt64 := none
  /-- The currencies that bids may be made in. -/
  cur : Option (List String) := none
  blockedCategories : Option (List String) := none
  blockedAdvertisers : Option (List String) := none
  ext : Option RequestExt := none
  other : Dictionary Json := []
  deriving Inhabited

namespace BidRequest

def read? (v : RawJson) : Option BidRequest := do
  let (m, other) ← v.openRecord?
    ["id", "imp", "site", "app", "device", "user", "source", "regs", "test", "at", "tmax", "cur",
     "bcat", "badv", "ext"]
  return {
    id := ← m.required? "id" string?
    imps := ← m.withDefault? "imp" [] (list? Imp.read?)
    site := ← m.optional? "site" Site.read?
    app := ← m.optional? "app" App.read?
    device := ← m.optional? "device" value?
    user := ← m.optional? "user" User.read?
    source := ← m.optional? "source" Source.read?
    regs := ← m.optional? "regs" value?
    test := ← m.optional? "test" int32?
    auctionType := ← m.optional? "at" int32?
    tmax := ← m.optional? "tmax" uint64?
    cur := ← m.optional? "cur" (list? string?)
    blockedCategories := ← m.optional? "bcat" (list? string?)
    blockedAdvertisers := ← m.optional? "badv" (list? string?)
    ext := ← m.optional? "ext" RequestExt.read?
    other }

def toJson (r : BidRequest) : Json :=
  .openRecord
    [("id", some (.string r.id)), ("imp", some (.array (r.imps.map Imp.toJson))),
     ("site", r.site.map Site.toJson), ("app", r.app.map App.toJson), ("device", r.device),
     ("user", r.user.map User.toJson), ("source", r.source.map Source.toJson), ("regs", r.regs),
     ("test", r.test.map fun n => .int n.toInt), ("at", r.auctionType.map fun n => .int n.toInt),
     ("tmax", r.tmax.map fun n => .nat n.toNat), ("cur", r.cur.map .strings),
     ("bcat", r.blockedCategories.map .strings), ("badv", r.blockedAdvertisers.map .strings),
     ("ext", r.ext.map RequestExt.toJson)]
    r.other

/-- The auction controls. -/
def prebid? (r : BidRequest) : Option PrebidExt := r.ext.bind (·.prebid)

def targeting? (r : BidRequest) : Option Targeting := r.prebid?.bind (·.targeting)

/-- The other names for bidders, none if the request has no such section. -/
def aliases? (r : BidRequest) : Option (Dictionary String) := r.prebid?.bind (·.aliases)

def aliases (r : BidRequest) : Dictionary String := r.aliases?.getD []

/-- The first imp with an id. -/
def findImp? (r : BidRequest) (id : String) : Option Imp := r.imps.find? (·.id == id)

def cachingRequested (r : BidRequest) : Bool := (r.prebid?.bind (·.cache)).isSome

end BidRequest

end AdExchange
