import AdExchange.BidRequest.Basic

/-!
# Bid responses

A bid response is what a bidder answers, and also what the exchange answers in the end: bids,
grouped by the seat on whose behalf they are made.
-/

namespace AdExchange

open RawJson FieldRule

/-- A bid as it is sent. -/
structure WireBid where
  id : String := ""
  impId : String := ""
  price : Decimal := .zero
  adm : Option String := none
  nurl : Option String := none
  adid : Option String := none
  adomain : Option (List String) := none
  cid : Option String := none
  crid : Option String := none
  cat : Option (List String) := none
  attr : Option (List Int32) := none
  dealId : Option String := none
  /-- The length of a video in seconds. -/
  dur : Option UInt32 := none
  h : Option UInt32 := none
  w : Option UInt32 := none
  ext : Option Json := none
  deriving Inhabited

namespace WireBid

def read? (v : RawJson) : Option WireBid := do
  let m ← v.closedRecord?
    [omitted "id", omitted "impid", omitted "price", given "adm", given "nurl", given "adid",
     given "adomain", given "cid", given "crid", given "cat", given "attr", given "dealid",
     given "dur", given "h", given "w", given "ext"]
  return {
    id := ← m.withDefault? "id" "" string?
    impId := ← m.withDefault? "impid" "" string?
    price := ← m.withDefault? "price" .zero decimal?
    adm := ← m.optional? "adm" string?
    nurl := ← m.optional? "nurl" string?
    adid := ← m.optional? "adid" string?
    adomain := ← m.optional? "adomain" (list? string?)
    cid := ← m.optional? "cid" string?
    crid := ← m.optional? "crid" string?
    cat := ← m.optional? "cat" (list? string?)
    attr := ← m.optional? "attr" (list? int32?)
    dealId := ← m.optional? "dealid" string?
    dur := ← m.optional? "dur" uint32?
    h := ← m.optional? "h" uint32?
    w := ← m.optional? "w" uint32?
    ext := ← m.optional? "ext" value? }

def toJson (b : WireBid) : Json :=
  .ofFields
    [("id", some (.string b.id)), ("impid", some (.string b.impId)),
     ("price", some (.decimal b.price)), ("adm", b.adm.map .string), ("nurl", b.nurl.map .string),
     ("adid", b.adid.map .string), ("adomain", b.adomain.map .strings),
     ("cid", b.cid.map .string), ("crid", b.crid.map .string), ("cat", b.cat.map .strings),
     ("attr", b.attr.map fun ns => .array (ns.map fun n => .int n.toInt)),
     ("dealid", b.dealId.map .string), ("dur", b.dur.map fun n => .nat n.toNat),
     ("h", b.h.map fun n => .nat n.toNat), ("w", b.w.map fun n => .nat n.toNat), ("ext", b.ext)]

end WireBid

/-- The bids of one seat. -/
structure SeatBid where
  bids : List WireBid := []
  seat : Option String := none
  group : Option Int32 := none
  deriving Inhabited

namespace SeatBid

def read? (v : RawJson) : Option SeatBid := do
  let m ← v.closedRecord? [omitted "bid", given "seat", given "group"]
  return {
    bids := ← m.withDefault? "bid" [] (list? WireBid.read?)
    seat := ← m.optional? "seat" string?
    group := ← m.optional? "group" int32? }

def toJson (s : SeatBid) : Json :=
  .ofFields
    [("bid", some (.array (s.bids.map WireBid.toJson))), ("seat", s.seat.map .string),
     ("group", s.group.map fun n => .int n.toInt)]

end SeatBid

/-- A bid response. -/
structure BidResponse where
  id : String
  seatBids : List SeatBid := []
  bidId : Option String := none
  cur : Option String := none
  customData : Option String := none
  /-- Why there is no bid. -/
  noBidReason : Option Int32 := none
  ext : Option Json := none
  deriving Inhabited

namespace BidResponse

def read? (v : RawJson) : Option BidResponse := do
  let m ← v.closedRecord?
    [given "id", omitted "seatbid", given "bidid", given "cur", given "customdata", given "nbr",
     given "ext"]
  return {
    id := ← m.required? "id" string?
    seatBids := ← m.withDefault? "seatbid" [] (list? SeatBid.read?)
    bidId := ← m.optional? "bidid" string?
    cur := ← m.optional? "cur" string?
    customData := ← m.optional? "customdata" string?
    noBidReason := ← m.optional? "nbr" int32?
    ext := ← m.optional? "ext" value? }

def toJson (r : BidResponse) : Json :=
  .ofFields
    [("id", some (.string r.id)), ("seatbid", some (.array (r.seatBids.map SeatBid.toJson))),
     ("bidid", r.bidId.map .string), ("cur", r.cur.map .string),
     ("customdata", r.customData.map .string), ("nbr", r.noBidReason.map fun n => .int n.toInt),
     ("ext", r.ext)]

end BidResponse

end AdExchange
