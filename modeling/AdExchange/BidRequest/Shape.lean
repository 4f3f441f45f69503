import AdExchange.BidRequest.Basic
import AdExchange.Json.Shape

/-!
# The shape of a bid request

What a bid request looks like, for telling apart why a text is none: the fields of every section in
their order, each with the shape of its value.
-/

namespace AdExchange

open Shape

def Video.shape : Shape := .record
  [defaulted "mimes" texts, optional "minduration" uint32, optional "maxduration" uint32,
   optional "placement" int32, optional "w" uint32, optional "h" uint32] .kept

def Imp.shape : Shape := .record
  [required "id" text, optional "banner" .anything, optional "video" Video.shape,
   optional "audio" .anything, optional "native" .anything, optional "bidfloor" decimal,
   optional "bidfloorcur" text, optional "tagid" text, optional "pmp" .anything,
   optional "ext" object] .kept

def Content.shape : Shape := .record [optional "id" text, optional "data" (.list .anything)] .kept

def DataExt.shape : Shape := .record [optional "data" .anything] .kept

def Site.shape : Shape := .record
  [optional "id" text, optional "name" text, optional "domain" text, optional "page" text,
   optional "publisher" .anything, optional "content" Content.shape, optional "keywords" text,
   optional "ext" DataExt.shape] .kept

def App.shape : Shape := .record
  [optional "id" text, optional "name" text, optional "bundle" text,
   optional "publisher" .anything, optional "content" Content.shape, optional "keywords" text,
   optional "ext" DataExt.shape] .kept

def Eid.shape : Shape := .record [required "source" text, defaulted "uids" (.list .anything)] .kept

def UserExt.shape : Shape := .record
  [optional "data" .anything, optional "eids" (.list Eid.shape)] .kept

def User.shape : Shape := .record
  [optional "id" text, optional "buyeruid" text, optional "yob" int32, optional "gender" text,
   optional "keywords" text, optional "geo" .anything, optional "data" (.list .anything),
   optional "ext" UserExt.shape] .kept

def SupplyChainNode.shape : Shape := .record
  [required "asi" text, required "sid" text, optional "hp" int32, optional "rid" text,
   optional "name" text, optional "domain" text, optional "ext" .anything] .ignored

def SupplyChain.shape : Shape := .record
  [required "ver" text, required "complete" int32,
   defaulted "nodes" (.list SupplyChainNode.shape), optional "ext" .anything] .ignored

def SourceExt.shape : Shape := .record [optional "schain" SupplyChain.shape] .kept

def Source.shape : Shape := .record
  [optional "fd" int32, optional "tid" text, optional "pchain" text,
   optional "ext" SourceExt.shape] .ignored

def AdjustmentFactors.shape : Shape :=
  let media := [AdjustmentMedia.banner, .video, .videoOutstream, .audio, .native].map (·.name)
  .record [optional "mediatypes" (.dictionary (some media) (.dictionary none decimal))]
    (.leaves fun v => (RawJson.decimal? v).isSome)

def CurrencyExt.shape : Shape := .record
  [optional "rates" (.dictionary none (.dictionary none decimal)), optional "usepbsrates" flag]
  .ignored

def MediaGranularities.shape : Shape := .record
  [optional "banner" .anything, optional "video" .anything, optional "native" .anything] .ignored

def BrandCategory.shape : Shape := .record
  [optional "primaryadserver" int32, optional "publisher" text, optional "withcategory" flag,
   optional "translatecategories" flag] .ignored

def Targeting.shape : Shape := .record
  [optional "pricegranularity" .anything,
   optional "mediatypepricegranularity" MediaGranularities.shape,
   optional "includebrandcategory" BrandCategory.shape,
   optional "durationrangesec" (.list uint32), optional "includewinners" flag,
   optional "includebidderkeys" flag] .ignored

def EidPermission.shape : Shape := .record
  [required "source" text, defaulted "bidders" texts] .ignored

def DataPermissions.shape : Shape := .record
  [optional "bidders" texts, optional "eidpermissions" (.list EidPermission.shape)] .ignored

def SchainEntry.shape : Shape := .record
  [defaulted "bidders" texts, required "schain" SupplyChain.shape] .ignored

def MultiBidDeclaration.shape : Shape := .record
  [optional "bidder" text, optional "bidders" texts, optional "maxbids" uint32,
   optional "targetbiddercodeprefix" text] .ignored

def OrtbFragments.shape : Shape := .record
  [optional "site" .anything, optional "app" .anything, optional "user" .anything] .ignored

def BidderConfig.shape : Shape := .record [optional "ortb2" OrtbFragments.shape] .ignored

def BidderConfigEntry.shape : Shape := .record
  [defaulted "bidders" texts, required "config" BidderConfig.shape] .ignored

def PrebidExt.shape : Shape := .record
  [optional "aliases" (.dictionary none text),
   optional "bidadjustmentfactors" AdjustmentFactors.shape,
   optional "currency" CurrencyExt.shape, optional "targeting" Targeting.shape,
   optional "cache" .anything, optional "data" DataPermissions.shape,
   optional "schains" (.list SchainEntry.shape),
   optional "multibid" (.list MultiBidDeclaration.shape),
   optional "bidderconfig" (.list BidderConfigEntry.shape), optional "bidders" object,
   optional "debug" int32] .kept

def RequestExt.shape : Shape := .record [optional "prebid" PrebidExt.shape] .kept

def BidRequest.shape : Shape := .record
  [required "id" text, defaulted "imp" (.list Imp.shape), optional "site" Site.shape,
   optional "app" App.shape, optional "device" .anything, optional "user" User.shape,
   optional "source" Source.shape, optional "regs" .anything, optional "test" int32,
   optional "at" int32, optional "tmax" uint64, optional "cur" texts, optional "bcat" texts,
   optional "badv" texts, optional "ext" RequestExt.shape] .kept

end AdExchange
