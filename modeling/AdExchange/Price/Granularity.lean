import AdExchange.BidRequest.Prebid
import AdExchange.LibraryTexts

/-!
# Price granularity

An ad server sells at line items of fixed prices, so every price is rounded down to a bucket.  A
granularity is a list of price ranges, each with the distance of its buckets; five granularities
have names, all others come with the request.

A difference of two prices may not fit a decimal, and a bucket may be too wide to be written.  Then
there is no answer at all, which is told apart from an error that the publisher can be told of.
-/

namespace AdExchange

open RawJson FieldRule

/-- Why a computation with prices has no result. -/
inductive Fault (ε : Type) where
  /-- It was refused for this reason. -/
  | error (reason : ε)
  /-- The difference of two prices does not fit a decimal, or a bucket is too wide. -/
  | overflow
  deriving Inhabited

/-- Prices from `min` to `max`, with a bucket at every `increment` from `min` on. -/
structure GranularityRange where
  min : Decimal
  max : Decimal
  increment : Decimal
  deriving Inhabited

/-- How prices are put into buckets. -/
structure PriceGranularity where
  /-- The number of decimal places of a bucket. -/
  precision : UInt32 := 2
  ranges : List GranularityRange
  deriving Inhabited

/-- Why a request's granularity is refused. -/
inductive GranularityError where
  /-- No granularity has this name. -/
  | unknownName (name : String)
  /-- Neither a name nor a list of ranges. -/
  | malformed (value : Json)
  /-- The list of ranges is empty. -/
  | noRanges
  /-- An increment is not positive, or a range is empty. -/
  | badRange
  /-- A range has more buckets than a decimal can count. -/
  | incrementTooSmall (increment : Decimal)
  deriving Inhabited

def GranularityError.message (e : GranularityError) (texts : LibraryTexts := {}) : String :=
  match e with
  | .unknownName name => "Invalid string price granularity with value: " ++ name
  | .malformed value => "Invalid price granularity: " ++ texts.badValue .granularity value
  | .noRanges => "Price granularity ranges must not be empty"
  | .badRange => "Price granularity ranges are invalid"
  | .incrementTooSmall increment =>
    "Price granularity increment " ++ increment.toText ++ " is too small"

namespace PriceGranularity

/-- The granularity that holds if none is asked for. -/
def medium : PriceGranularity := { ranges := [⟨.ofNat 0, .ofNat 20, .ofNat 1 1⟩] }

def ofName? : String → Option PriceGranularity
  | "low" => some { ranges := [⟨.ofNat 0, .ofNat 5, .ofNat 5 1⟩] }
  | "medium" => some medium
  | "med" => some medium
  | "high" => some { ranges := [⟨.ofNat 0, .ofNat 20, .ofNat 1 2⟩] }
  | "auto" => some { ranges :=
      [⟨.ofNat 0, .ofNat 5, .ofNat 5 2⟩, ⟨.ofNat 5, .ofNat 10, .ofNat 1 1⟩,
       ⟨.ofNat 10, .ofNat 20, .ofNat 5 1⟩] }
  | "dense" => some { ranges :=
      [⟨.ofNat 0, .ofNat 3, .ofNat 1 2⟩, ⟨.ofNat 3, .ofNat 8, .ofNat 5 2⟩,
       ⟨.ofNat 8, .ofNat 20, .ofNat 5 1⟩] }
  | _ => none

/-- A range as a request gives it; without a `min` it starts where the one before it ends. -/
structure CustomRange where
  min : Option Decimal
  max : Decimal
  increment : Decimal

def CustomRange.read? (v : RawJson) : Option CustomRange := do
  let m ← v.closedRecord? [given "min", given "max", given "increment"]
  return {
    min := ← m.optional? "min" decimal?
    max := ← m.required? "max" decimal?
    increment := ← m.required? "increment" decimal? }

/-- Reads precision and ranges. -/
def readCustom? (v : RawJson) : Option (Option UInt32 × List CustomRange) := do
  let m ← v.closedRecord? [given "precision", given "ranges"]
  let precision ← m.optional? "precision" uint32?
  let ranges ← m.required? "ranges" (list? CustomRange.read?)
  some (precision, ranges)

/-- Checks ranges in their order.  `previous` is where the range before the first one ends. -/
def checkRanges (previous : Decimal) :
    List CustomRange → Except (Fault GranularityError) (List GranularityRange)
  | [] => .ok []
  | r :: rest =>
    let min := r.min.getD previous
    if r.increment ≤ .zero ∨ r.max ≤ min then .error (.error .badRange)
    else
      match r.max.sub? min with
      | none => .error .overflow
      | some width =>
        match width.div? r.increment with
        | none => .error (.error (.incrementTooSmall r.increment))
        | some _ => do
          let checked ← checkRanges r.max rest
          .ok (⟨min, r.max, r.increment⟩ :: checked)

/-- The granularity that a request asks for: by name, or by its ranges. -/
def ofJson (v : Json) : Except (Fault GranularityError) PriceGranularity :=
  match v.asString? with
  | some name =>
    match ofName? name with
    | some g => .ok g
    | none => .error (.error (.unknownName name))
  | none =>
    match readCustom? v.raw with
    | none => .error (.error (.malformed v))
    | some (_, []) => .error (.error .noRanges)
    | some (precision, ranges) => do
      let checked ← checkRanges .zero ranges
      .ok ⟨precision.getD 2, checked⟩

/-- The granularity for video bids: the one for the medium if there is one, else the one for all
bids, else `medium`. -/
def forVideo (t : Targeting) : Except (Fault GranularityError) PriceGranularity :=
  match (t.mediaTypePriceGranularity.bind (·.video)).or t.priceGranularity with
  | some v => ofJson v
  | none => .ok medium

/-- The greatest bucket of a range that is not above a price in the range; `min` if that cannot be
computed.  `none` if the price is too far from `min`. -/
def GranularityRange.bucketValue? (r : GranularityRange) (price : Decimal) : Option Decimal := do
  let above ← price.sub? r.min
  let bucket := do
    let steps ← above.div? r.increment
    let offset ← steps.floor.mul? r.increment
    offset.add? r.min
  some (bucket.getD r.min)

/-- The bucket of a price: the upper end of the last range for prices above it, the bucket in the
first range that holds the price, and zero outside of all ranges. -/
def bucketValue? (g : PriceGranularity) (price : Decimal) : Option Decimal :=
  match g.ranges.getLast? with
  | none => some .zero
  | some top =>
    if top.max < price then some top.max
    else
      match g.ranges.find? fun r => r.min ≤ price ∧ price ≤ r.max with
      | some r => GranularityRange.bucketValue? r price
      | none => some .zero

/-- The bucket of a price with as many decimal places as the precision says; `none` also if it is
too wide to be written. -/
def bucket? (g : PriceGranularity) (price : Decimal) : Option String :=
  (g.bucketValue? price).bind fun v => v.truncatedText? g.precision.toNat

end PriceGranularity

end AdExchange
