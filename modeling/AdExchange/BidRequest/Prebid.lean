import AdExchange.BidRequest.SupplyChain

/-!
# Auction controls of a bid request

The publisher steers the auction through `ext.prebid`: other names for bidders, price adjustments,
currency rates, price buckets and brand categories, and who may see which data.  All of it is meant
for the exchange; a bidder is shown only what concerns it.

## Main definitions

* `PrebidExt` — the controls; `RequestExt` is the extension that holds them.
* `AdjustmentFactors` — price factors per bidder, and per medium and bidder.
* `Targeting`, `BrandCategory` — price buckets and category mapping.
* `DataPermissions`, `EidPermission` — who may see first-party data and identifiers.
* `MultiBidDeclaration`, `SchainEntry`, `BidderConfigEntry` — settings for lists of bidders.
-/

namespace AdExchange

open RawJson FieldRule

/-- The media that a price factor can be limited to.  Video inside content and video elsewhere are
told apart. -/
inductive AdjustmentMedia where
  | banner
  | video
  | videoOutstream
  | audio
  | native
  deriving DecidableEq, Repr

namespace AdjustmentMedia

def name : AdjustmentMedia → String
  | .banner => "banner"
  | .video => "video"
  | .videoOutstream => "video-outstream"
  | .audio => "audio"
  | .native => "native"

def ofName? : String → Option AdjustmentMedia
  | "banner" => some .banner
  | "video" => some .video
  | "video-outstream" => some .videoOutstream
  | "audio" => some .audio
  | "native" => some .native
  | _ => none

@[simp] theorem ofName?_name (m : AdjustmentMedia) : ofName? m.name = some m := by
  cases m <;> rfl

end AdjustmentMedia

/-- Factors that bids' prices are multiplied with. -/
structure AdjustmentFactors where
  /-- Factors per bidder that hold for one medium only, in the order of the media's names. -/
  mediaTypes : Option (List (AdjustmentMedia × Dictionary Decimal)) := none
  /-- Factors per bidder. -/
  factors : Dictionary Decimal := []
  deriving Inhabited

namespace AdjustmentFactors

/-- Reads factors per medium. -/
def readMediaTypes? (v : RawJson) : Option (List (AdjustmentMedia × Dictionary Decimal)) := do
  let byName ← v.dictionary? (dictionary? decimal?)
  byName.mapM fun e => (AdjustmentMedia.ofName? e.1).map (·, e.2)

/-- Reads adjustment factors; every member but `mediatypes` is the factor of a bidder. -/
def read? (v : RawJson) : Option AdjustmentFactors := do
  let (m, rest) ← v.splitRecord? ["mediatypes"]
  return {
    mediaTypes := ← m.optional? "mediatypes" readMediaTypes?
    factors := ← (RawJson.object rest).dictionary? decimal? }

def toJson (f : AdjustmentFactors) : Json :=
  let media := fun (entries : List (AdjustmentMedia × Dictionary Decimal)) =>
    Json.dictionary Json.decimals (entries.map fun e => (e.1.name, e.2))
  .openRecord [("mediatypes", f.mediaTypes.map media)]
    (f.factors.mapValues fun x => .string x.toText)

end AdjustmentFactors

/-- Currency rates, by the currency to convert from and the currency to convert to. -/
abbrev Rates := Dictionary (Dictionary Decimal)

namespace Rates

def read? (v : RawJson) : Option Rates := v.dictionary? (dictionary? decimal?)

def toJson (r : Rates) : Json := Json.dictionary Json.decimals r

end Rates

/-- Currency rates that come with a request. -/
structure CurrencyExt where
  rates : Option Rates := none
  /-- Whether the rates of the exchange may be used too. -/
  useExchangeRates : Option Bool := none
  deriving Inhabited

namespace CurrencyExt

def read? (v : RawJson) : Option CurrencyExt := do
  let m ← v.closedRecord? [given "rates", given "usepbsrates"]
  return {
    rates := ← m.optional? "rates" Rates.read?
    useExchangeRates := ← m.optional? "usepbsrates" bool? }

def toJson (c : CurrencyExt) : Json :=
  .ofFields
    [("rates", c.rates.map Rates.toJson), ("usepbsrates", c.useExchangeRates.map .bool)]

end CurrencyExt

/-- Price granularities that hold for one medium only. -/
structure MediaGranularities where
  banner : Option Json := none
  video : Option Json := none
  native : Option Json := none
  deriving Inhabited

namespace MediaGranularities

def read? (v : RawJson) : Option MediaGranularities := do
  let m ← v.closedRecord? [given "banner", given "video", given "native"]
  return {
    banner := ← m.optional? "banner" value?
    video := ← m.optional? "video" value?
    native := ← m.optional? "native" value? }

def toJson (g : MediaGranularities) : Json :=
  .ofFields [("banner", g.banner), ("video", g.video), ("native", g.native)]

end MediaGranularities

/-- How video bids are mapped to brand categories. -/
structure BrandCategory where
  primaryAdServer : Option Int32 := none
  publisher : Option String := none
  /-- Whether the category is part of the display key. -/
  withCategory : Option Bool := none
  /-- Whether bidders' categories are translated to those of the ad server. -/
  translateCategories : Option Bool := none
  deriving Inhabited

namespace BrandCategory

def read? (v : RawJson) : Option BrandCategory := do
  let m ← v.closedRecord?
    [given "primaryadserver", given "publisher", given "withcategory", given "translatecategories"]
  return {
    primaryAdServer := ← m.optional? "primaryadserver" int32?
    publisher := ← m.optional? "publisher" string?
    withCategory := ← m.optional? "withcategory" bool?
    translateCategories := ← m.optional? "translatecategories" bool? }

def toJson (b : BrandCategory) : Json :=
  .ofFields
    [("primaryadserver", b.primaryAdServer.map fun x => .int x.toInt),
     ("publisher", b.publisher.map .string), ("withcategory", b.withCategory.map .bool),
     ("translatecategories", b.translateCategories.map .bool)]

end BrandCategory

/-- How bids are described to the publisher's ad server. -/
structure Targeting where
  priceGranularity : Option Json := none
  mediaTypePriceGranularity : Option MediaGranularities := none
  includeBrandCategory : Option BrandCategory := none
  /-- The lengths, in seconds, that video bids are rounded up to. -/
  durationRangeSec : Option (List UInt32) := none
  includeWinners : Option Bool := none
  includeBidderKeys : Option Bool := none
  deriving Inhabited

namespace Targeting

def read? (v : RawJson) : Option Targeting := do
  let m ← v.closedRecord?
    [given "pricegranularity", given "mediatypepricegranularity", given "includebrandcategory",
     given "durationrangesec", given "includewinners", given "includebidderkeys"]
  return {
    priceGranularity := ← m.optional? "pricegranularity" value?
    mediaTypePriceGranularity :=
      ← m.optional? "mediatypepricegranularity" MediaGranularities.read?
    includeBrandCategory := ← m.optional? "includebrandcategory" BrandCategory.read?
    durationRangeSec := ← m.optional? "durationrangesec" (list? uint32?)
    includeWinners := ← m.optional? "includewinners" bool?
    includeBidderKeys := ← m.optional? "includebidderkeys" bool? }

def toJson (t : Targeting) : Json :=
  .ofFields
    [("pricegranularity", t.priceGranularity),
     ("mediatypepricegranularity", t.mediaTypePriceGranularity.map MediaGranularities.toJson),
     ("includebrandcategory", t.includeBrandCategory.map BrandCategory.toJson),
     ("durationrangesec", t.durationRangeSec.map fun ds => .array (ds.map fun d => .nat d.toNat)),
     ("includewinners", t.includeWinners.map .bool),
     ("includebidderkeys", t.includeBidderKeys.map .bool)]

end Targeting

/-- The bidders that may see the identifiers of one source. -/
structure EidPermission where
  source : String
  bidders : List String := []
  deriving Inhabited

namespace EidPermission

def read? (v : RawJson) : Option EidPermission := do
  let m ← v.closedRecord? [given "source", omitted "bidders"]
  return {
    source := ← m.required? "source" string?
    bidders := ← m.withDefault? "bidders" [] (list? string?) }

def toJson (p : EidPermission) : Json :=
  .ofFields [("source", some (.string p.source)), ("bidders", some (.strings p.bidders))]

end EidPermission

/-- Who may see first-party data and identifiers. -/
structure DataPermissions where
  /-- The bidders that may see first-party data; all may if there is no list. -/
  bidders : Option (List String) := none
  eidPermissions : Option (List EidPermission) := none
  deriving Inhabited

namespace DataPermissions

def read? (v : RawJson) : Option DataPermissions := do
  let m ← v.closedRecord? [given "bidders", given "eidpermissions"]
  return {
    bidders := ← m.optional? "bidders" (list? string?)
    eidPermissions := ← m.optional? "eidpermissions" (list? EidPermission.read?) }

def toJson (d : DataPermissions) : Json :=
  .ofFields
    [("bidders", d.bidders.map .strings),
     ("eidpermissions", d.eidPermissions.map fun ps => .array (ps.map EidPermission.toJson))]

end DataPermissions

/-- A supply chain for a list of bidders. -/
structure SchainEntry where
  bidders : List String := []
  schain : SupplyChain
  deriving Inhabited

namespace SchainEntry

def read? (v : RawJson) : Option SchainEntry := do
  let m ← v.closedRecord? [omitted "bidders", given "schain"]
  return {
    bidders := ← m.withDefault? "bidders" [] (list? string?)
    schain := ← m.required? "schain" SupplyChain.read? }

def toJson (e : SchainEntry) : Json :=
  .ofFields [("bidders", some (.strings e.bidders)), ("schain", some e.schain.toJson)]

end SchainEntry

/-- How many bids one bidder, or each of several, may return for an imp. -/
structure MultiBidDeclaration where
  bidder : Option String := none
  bidders : Option (List String) := none
  maxBids : Option UInt32 := none
  targetBidderCodePrefix : Option String := none
  deriving Inhabited

namespace MultiBidDeclaration

def read? (v : RawJson) : Option MultiBidDeclaration := do
  let m ← v.closedRecord?
    [given "bidder", given "bidders", given "maxbids", given "targetbiddercodeprefix"]
  return {
    bidder := ← m.optional? "bidder" string?
    bidders := ← m.optional? "bidders" (list? string?)
    maxBids := ← m.optional? "maxbids" uint32?
    targetBidderCodePrefix := ← m.optional? "targetbiddercodeprefix" string? }

def toJson (d : MultiBidDeclaration) : Json :=
  .ofFields
    [("bidder", d.bidder.map .string), ("bidders", d.bidders.map .strings),
     ("maxbids", d.maxBids.map fun n => .nat n.toNat),
     ("targetbiddercodeprefix", d.targetBidderCodePrefix.map .string)]

end MultiBidDeclaration

/-- Fragments of sections that are merged into a request. -/
structure OrtbFragments where
  site : Option Json := none
  app : Option Json := none
  user : Option Json := none
  deriving Inhabited

namespace OrtbFragments

def read? (v : RawJson) : Option OrtbFragments := do
  let m ← v.closedRecord? [given "site", given "app", given "user"]
  return {
    site := ← m.optional? "site" value?
    app := ← m.optional? "app" value?
    user := ← m.optional? "user" value? }

def toJson (f : OrtbFragments) : Json :=
  .ofFields [("site", f.site), ("app", f.app), ("user", f.user)]

end OrtbFragments

/-- Settings for single bidders. -/
structure BidderConfig where
  ortb2 : Option OrtbFragments := none
  deriving Inhabited

namespace BidderConfig

def read? (v : RawJson) : Option BidderConfig := do
  let m ← v.closedRecord? [given "ortb2"]
  return { ortb2 := ← m.optional? "ortb2" OrtbFragments.read? }

def toJson (c : BidderConfig) : Json := .ofFields [("ortb2", c.ortb2.map OrtbFragments.toJson)]

end BidderConfig

/-- Settings for a list of bidders. -/
structure BidderConfigEntry where
  bidders : List String := []
  config : BidderConfig
  deriving Inhabited

namespace BidderConfigEntry

def read? (v : RawJson) : Option BidderConfigEntry := do
  let m ← v.closedRecord? [omitted "bidders", given "config"]
  return {
    bidders := ← m.withDefault? "bidders" [] (list? string?)
    config := ← m.required? "config" BidderConfig.read? }

def toJson (e : BidderConfigEntry) : Json :=
  .ofFields [("bidders", some (.strings e.bidders)), ("config", some e.config.toJson)]

end BidderConfigEntry

/-- The auction controls of a request. -/
structure PrebidExt where
  /-- Other names, and the bidders' names that they stand for. -/
  aliases : Option (Dictionary String) := none
  adjustmentFactors : Option AdjustmentFactors := none
  currency : Option CurrencyExt := none
  targeting : Option Targeting := none
  /-- Present if bids are to be cached. -/
  cache : Option Json := none
  data : Option DataPermissions := none
  schains : Option (List SchainEntry) := none
  multibid : Option (List MultiBidDeclaration) := none
  bidderConfig : Option (List BidderConfigEntry) := none
  /-- Parameters that hold for the whole request, by bidder. -/
  bidders : Option (Dictionary Json) := none
  debug : Option Int32 := none
  other : Dictionary Json := []
  deriving Inhabited

namespace PrebidExt

def read? (v : RawJson) : Option PrebidExt := do
  let (m, other) ← v.openRecord?
    ["aliases", "bidadjustmentfactors", "currency", "targeting", "cache", "data", "schains",
     "multibid", "bidderconfig", "bidders", "debug"]
  return {
    aliases := ← m.optional? "aliases" (dictionary? string?)
    adjustmentFactors := ← m.optional? "bidadjustmentfactors" AdjustmentFactors.read?
    currency := ← m.optional? "currency" CurrencyExt.read?
    targeting := ← m.optional? "targeting" Targeting.read?
    cache := ← m.optional? "cache" value?
    data := ← m.optional? "data" DataPermissions.read?
    schains := ← m.optional? "schains" (list? SchainEntry.read?)
    multibid := ← m.optional? "multibid" (list? MultiBidDeclaration.read?)
    bidderConfig := ← m.optional? "bidderconfig" (list? BidderConfigEntry.read?)
    bidders := ← m.optional? "bidders" object?
    debug := ← m.optional? "debug" int32?
    other }

def toJson (p : PrebidExt) : Json :=
  .openRecord
    [("aliases", p.aliases.map (Json.dictionary .string)),
     ("bidadjustmentfactors", p.adjustmentFactors.map AdjustmentFactors.toJson),
     ("currency", p.currency.map CurrencyExt.toJson),
     ("targeting", p.targeting.map Targeting.toJson),
     ("cache", p.cache),
     ("data", p.data.map DataPermissions.toJson),
     ("schains", p.schains.map fun es => .array (es.map SchainEntry.toJson)),
     ("multibid", p.multibid.map fun ds => .array (ds.map MultiBidDeclaration.toJson)),
     ("bidderconfig", p.bidderConfig.map fun es => .array (es.map BidderConfigEntry.toJson)),
     ("bidders", p.bidders.map .object),
     ("debug", p.debug.map fun x => .int x.toInt)]
    p.other

end PrebidExt

/-- The extension of a request. -/
structure RequestExt where
  prebid : Option PrebidExt := none
  other : Dictionary Json := []
  deriving Inhabited

namespace RequestExt

def read? (v : RawJson) : Option RequestExt := do
  let (m, other) ← v.openRecord? ["prebid"]
  return { prebid := ← m.optional? "prebid" PrebidExt.read?, other }

def toJson (e : RequestExt) : Json :=
  .openRecord [("prebid", e.prebid.map PrebidExt.toJson)] e.other

end RequestExt

end AdExchange
