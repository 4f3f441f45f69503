import AdExchange.Json.Record

/-!
# Bids

A bid as the exchange handles it, whatever protocol it came in: an offer of a price for an imp.
Bringing a price to another currency makes a new bid that remembers the price it was made with.
-/

namespace AdExchange

open RawJson FieldRule

/-- What kind of advertisement a bid offers. -/
inductive MediaType where
  | banner
  | video
  | audio
  | native
  deriving DecidableEq, Repr, Inhabited

namespace MediaType

def name : MediaType → String
  | .banner => "banner"
  | .video => "video"
  | .audio => "audio"
  | .native => "native"

def ofName? : String → Option MediaType
  | "banner" => some .banner
  | "video" => some .video
  | "audio" => some .audio
  | "native" => some .native
  | _ => none

@[simp] theorem ofName?_name (m : MediaType) : ofName? m.name = some m := by cases m <;> rfl

/-- What is said of a name that no media type has. -/
def unknownMessage (name : String) : String := "Invalid value for MediaType: " ++ name

end MediaType

/-- What a bidder says about a video. -/
structure VideoInfo where
  /-- The length in seconds. -/
  duration : Option UInt32 := none
  primaryCategory : Option String := none
  deriving DecidableEq, Inhabited

namespace VideoInfo

def read? (v : RawJson) : Option VideoInfo := do
  let m ← v.closedRecord? [given "duration", given "primary_category"]
  return {
    duration := ← m.optional? "duration" uint32?
    primaryCategory := ← m.optional? "primary_category" string? }

def toJson (i : VideoInfo) : Json :=
  .ofFields
    [("duration", some (i.duration.elim .null fun n => .nat n.toNat)),
     ("primary_category", some (i.primaryCategory.elim .null .string))]

end VideoInfo

/-- An offer of a price for an imp. -/
structure Bid where
  id : String
  impId : String
  price : Decimal
  currency : Option String := none
  mediaType : MediaType
  categories : Option (List String) := none
  video : Option VideoInfo := none
  adm : Option String := none
  dealId : Option String := none
  adomain : Option (List String) := none
  crid : Option String := none
  w : Option UInt32 := none
  h : Option UInt32 := none
  ext : Option Json := none
  /-- The price before it was brought to the settlement currency. -/
  offeredPrice : Option Decimal := none
  offeredCurrency : Option String := none
  deriving Inhabited

namespace Bid

/-- The length of the offered video in seconds. -/
def duration? (b : Bid) : Option UInt32 := b.video.bind (·.duration)

def withCurrency (b : Bid) (currency : String) : Bid := { b with currency := some currency }

def withCategories (b : Bid) (categories : List String) : Bid :=
  { b with categories := some categories }

def withDuration (b : Bid) (duration : Option UInt32) : Bid :=
  { b with video := some { b.video.getD {} with duration } }

/-- The bid at a price in the settlement currency; it remembers the price and currency that it was
made with. -/
def normalized (b : Bid) (price : Decimal) (settlement offered : String) : Bid :=
  { b with
    price
    currency := some settlement
    offeredPrice := some b.price
    offeredCurrency := some offered }

def read? (v : RawJson) : Option Bid := do
  let m ← v.closedRecord?
    [given "id", given "imp_id", given "price", given "currency", given "media_type",
     given "categories", given "video", given "adm", given "deal_id", given "adomain",
     given "crid", given "w", given "h", given "ext", given "original_price",
     given "original_currency"]
  return {
    id := ← m.required? "id" string?
    impId := ← m.required? "imp_id" string?
    price := ← m.required? "price" decimal?
    currency := ← m.optional? "currency" string?
    mediaType := ← m.required? "media_type" fun v => v.tag?.bind MediaType.ofName?
    categories := ← m.optional? "categories" (list? string?)
    video := ← m.optional? "video" VideoInfo.read?
    adm := ← m.optional? "adm" string?
    dealId := ← m.optional? "deal_id" string?
    adomain := ← m.optional? "adomain" (list? string?)
    crid := ← m.optional? "crid" string?
    w := ← m.optional? "w" uint32?
    h := ← m.optional? "h" uint32?
    ext := ← m.optional? "ext" value?
    offeredPrice := ← m.optional? "original_price" decimal?
    offeredCurrency := ← m.optional? "original_currency" string? }

/-- Writes a bid.  Prices are written as text, so that no digit is lost. -/
def toJson (b : Bid) : Json :=
  .ofFields
    [("id", some (.string b.id)), ("imp_id", some (.string b.impId)),
     ("price", some (.string b.price.plainText)), ("currency", b.currency.map .string),
     ("media_type", some (.string b.mediaType.name)), ("categories", b.categories.map .strings),
     ("video", b.video.map VideoInfo.toJson), ("adm", b.adm.map .string),
     ("deal_id", b.dealId.map .string), ("adomain", b.adomain.map .strings),
     ("crid", b.crid.map .string), ("w", b.w.map fun n => .nat n.toNat),
     ("h", b.h.map fun n => .nat n.toNat), ("ext", b.ext),
     ("original_price", b.offeredPrice.map fun x => .string x.plainText),
     ("original_currency", b.offeredCurrency.map .string)]

end Bid

end AdExchange
