import AdExchange.Category.Store
import AdExchange.Dispatch
import AdExchange.Results

/-!
# Mapping video bids to brand categories

A publisher that fills an advertising break does not want two advertisements of one brand category
in it.  So each video bid is put into a group, and of each group one bid is kept.  A group is a
category, or, if the display key has no category, a price bucket together with a length.  The bid
with the greatest length wins; of several the last one.  The length of a bid is rounded up to one
of those that the request lists.

## Main definitions

* `MappingRules` — what a request lays down; `MappingRules.ofTargeting` checks it.
* `videoEntries` — the video bids, and where they stand.
* `MappingRules.assess` — the candidate that a video bid makes, or why it is rejected.
* `contend` — one more bid competes with the winners so far.
* `CategoryMapping` — the bids that are left, their display keys and the rejections.
* `mapCategories` — the mapping of all responses.
-/

namespace AdExchange

/-- Why a video bid is rejected. -/
inductive RejectionReason where
  | noCategory
  | severalCategories
  /-- The video is longer than all lengths that the request lists. -/
  | tooLong (declared max : UInt32)
  /-- The store does not know the category. -/
  | untranslated (adServer : PrimaryAdServer) (publisher : String)
  /-- The store failed. -/
  | store (reason : StoreError)
  /-- Another bid of the group won. -/
  | duplicate
  deriving DecidableEq, Inhabited

def RejectionReason.message : RejectionReason → String
  | .noCategory => "Bid did not contain a category"
  | .severalCategories => "Bid has more than one category"
  | .tooLong declared max =>
    "Bid duration '" ++ toString declared.toNat ++ "' exceeds maximum '" ++
      toString max.toNat ++ "'"
  | .untranslated adServer publisher =>
    "Category mapping storage for primary ad server: '" ++ adServer.name ++ "', publisher: '" ++
      publisher ++ "' not found"
  | .store reason => reason.message
  | .duplicate => "Bid was deduplicated"

/-- Where a bid stands: its response among all responses, and its place in the response. -/
structure BidPlace where
  response : Nat
  bid : Nat
  deriving DecidableEq, Inhabited

/-- What a video bid is known by. -/
structure BidRef where
  /-- Its number among the video bids. -/
  position : Nat
  place : BidPlace
  partner : String
  bidId : String
  deriving DecidableEq, Inhabited

/-- A video bid that is rejected. -/
structure Rejection extends BidRef where
  reason : RejectionReason
  deriving DecidableEq, Inhabited

def Rejection.message (r : Rejection) : String :=
  "Bid rejected [bidder: " ++ r.partner ++ ", bid ID: " ++ r.bidId ++ "] with a reason: " ++
    r.reason.message

/-- What a request lays down for the mapping. -/
structure MappingRules where
  /-- Categories are translated to those of this ad server, if one is given. -/
  adServer : Option PrimaryAdServer
  publisher : String
  /-- The category is part of the display key. -/
  withCategory : Bool
  /-- The lengths that bids are rounded up to: ascending, positive, each once. -/
  durations : List UInt32
  maxDuration : UInt32
  granularity : PriceGranularity
  deriving Inhabited

namespace MappingRules

/-- The positive ones of some lengths in ascending order, each once. -/
def ascending (durations : List UInt32) : List UInt32 :=
  ((durations.filter (0 < ·)).mergeSort (· ≤ ·)).eraseDups

/-- The ad server whose categories are asked for, if categories are to be translated. -/
def adServerOf (brand : BrandCategory) : Except AuctionError (Option PrimaryAdServer) :=
  if brand.translateCategories.getD true then
    match brand.primaryAdServer with
    | none => .error .primaryAdServerMissing
    | some id =>
      match PrimaryAdServer.ofId? id with
      | none => .error (.primaryAdServerUnknown id)
      | some adServer =>
        if (brand.publisher.getD "").isEmpty then .error .publisherMissing
        else .ok (some adServer)
  else .ok none

/-- What a request lays down. -/
def ofTargeting (brand : BrandCategory) (targeting : Targeting) :
    Except (Fault AuctionError) MappingRules :=
  match adServerOf brand with
  | .error e => .error (.error e)
  | .ok adServer =>
    let durations := ascending (targeting.durationRangeSec.getD [])
    match durations.getLast? with
    | none => .error (.error .durationsMissing)
    | some maxDuration =>
      match PriceGranularity.forVideo targeting with
      | .error .overflow => .error .overflow
      | .error (.error reason) => .error (.error (.granularity reason))
      | .ok granularity =>
        .ok {
          adServer
          publisher := brand.publisher.getD ""
          withCategory := brand.withCategory.getD false
          durations
          maxDuration
          granularity }

/-- The category of a bid, and the length that its length is rounded up to. -/
def categoryAndDuration (rules : MappingRules) (bid : Bid) :
    Except RejectionReason (String × UInt32) :=
  match bid.categories.getD [] with
  | [] => .error .noCategory
  | [category] =>
    let declared := bid.duration?.getD 0
    match rules.durations.find? (declared ≤ ·) with
    | some duration => .ok (category, duration)
    | none => .error (.tooLong declared rules.maxDuration)
  | _ => .error .severalCategories

end MappingRules

/-- A bid, where it stands and whose it is. -/
structure PlacedBid where
  place : BidPlace
  partner : String
  bid : Bid
  deriving Inhabited

/-- The bids of all responses in their order. -/
def placedBids (responses : List PartnerResponse) : List PlacedBid :=
  (responses.mapIdx fun i r => r.bids.mapIdx fun j b => ⟨⟨i, j⟩, r.partner, b⟩).flatten

/-- A video bid and its number among the video bids. -/
structure VideoEntry extends PlacedBid where
  position : Nat
  deriving Inhabited

def VideoEntry.ref (e : VideoEntry) : BidRef := ⟨e.position, e.place, e.partner, e.bid.id⟩

/-- The video bids of all responses in their order. -/
def videoEntries (responses : List PartnerResponse) : List VideoEntry :=
  ((placedBids responses).filter fun b => b.bid.mediaType == .video).mapIdx fun n b => ⟨b, n⟩

/-- A video bid whose form is right. -/
structure Candidate extends BidRef where
  rawCategory : String
  duration : UInt32
  /-- The price bucket. -/
  bucket : String
  deriving DecidableEq, Inhabited

/-- The candidate that a video bid makes, or why it is rejected; `none` if its price has no
bucket. -/
def MappingRules.assess (rules : MappingRules) (e : VideoEntry) :
    Option (Except Rejection Candidate) :=
  match rules.categoryAndDuration e.bid with
  | .error reason => some (.error ⟨e.ref, reason⟩)
  | .ok (rawCategory, duration) =>
    (rules.granularity.bucket? e.bid.price).map fun bucket =>
      .ok ⟨e.ref, rawCategory, duration, bucket⟩

/-- A candidate with the category under which it competes. -/
structure Contender where
  candidate : Candidate
  category : String
  deriving DecidableEq, Inhabited

/-- What bids compete for: a category, or a price bucket together with a length. -/
inductive GroupingKey where
  | category (name : String)
  | priceDuration (bucket : String) (duration : UInt32)
  deriving DecidableEq, Inhabited

namespace Contender

def groupingKey (withCategory : Bool) (c : Contender) : GroupingKey :=
  if withCategory then .category c.category
  else .priceDuration c.candidate.bucket c.candidate.duration

def duplicate (c : Contender) : Rejection := ⟨c.candidate.toBidRef, .duplicate⟩

/-- The key under which an ad server finds a bid. -/
def displayKey (withCategory : Bool) (c : Contender) : String :=
  if withCategory then
    c.candidate.bucket ++ "_" ++ c.category ++ "_" ++ toString c.candidate.duration.toNat ++ "s"
  else c.candidate.bucket ++ "_" ++ toString c.candidate.duration.toNat ++ "s"

end Contender

/-- The category under which a candidate competes, as a store answers it. -/
def Candidate.translated (c : Candidate) (adServer : PrimaryAdServer) (publisher : String) :
    Option (Except StoreError (Option String)) → Except Rejection Contender
  | some (.ok (some category)) => .ok ⟨c, category⟩
  | some (.ok none) => .error ⟨c.toBidRef, .untranslated adServer publisher⟩
  | some (.error reason) => .error ⟨c.toBidRef, .store reason⟩
  | none => .error ⟨c.toBidRef, .store .timeout⟩

/-- Translates the categories of all candidates at the same time.  The store is not asked if
nothing is to be translated. -/
def translate (store : CategoryStore) (rules : MappingRules) (deadline : Deadline) (now : Nat)
    (candidates : List Candidate) : Timed (List (Except Rejection Contender)) :=
  match rules.adServer with
  | none => ⟨0, candidates.map fun c => .ok ⟨c, c.rawCategory⟩⟩
  | some adServer =>
    let answers := candidates.map fun c =>
      (c, deadline.await now (store.lookup adServer.name rules.publisher c.rawCategory))
    ⟨longestDelay (answers.map (·.2)),
      answers.map fun a => a.1.translated adServer rules.publisher a.2.value⟩

/-- The winners so far, one per group in the order in which the groups came up, and those that
lost. -/
structure Contest where
  winners : List Contender := []
  losers : List Contender := []
  deriving Inhabited

/-- One more bid competes.  It takes the place of the winner of its group unless that one is
longer.  Gives the winners and the loser, if there is one. -/
def contend (withCategory : Bool) (current : Contender) :
    List Contender → List Contender × Option Contender
  | [] => ([current], none)
  | incumbent :: rest =>
    if incumbent.groupingKey withCategory = current.groupingKey withCategory then
      if incumbent.candidate.duration ≤ current.candidate.duration then
        (current :: rest, some incumbent)
      else (incumbent :: rest, some current)
    else
      let (winners, loser) := contend withCategory current rest
      (incumbent :: winners, loser)

def Contest.add (withCategory : Bool) (c : Contest) (current : Contender) : Contest :=
  let (winners, loser) := contend withCategory current c.winners
  ⟨winners, c.losers ++ loser.toList⟩

/-- All bids compete, one after the other. -/
def Contest.of (withCategory : Bool) (contenders : List Contender) : Contest :=
  contenders.foldl (Contest.add withCategory) {}

/-- The bids that are left once video bids are mapped to categories. -/
structure CategoryMapping where
  /-- The display keys by partner and bid id. -/
  keys : Dictionary (Dictionary String) := []
  responses : List PartnerResponse := []
  rejections : List Rejection := []
  deriving Inhabited

/-- The display keys of the winners by partner and bid id. -/
def displayKeys (withCategory : Bool) (winners : List Contender) :
    Dictionary (Dictionary String) :=
  winners.foldl (fun keys w =>
    let own := (Dictionary.get? keys w.candidate.partner).getD []
    Dictionary.insert keys w.candidate.partner
      (Dictionary.insert own w.candidate.bidId (w.displayKey withCategory))) []

/-- The responses without the bids at these places. -/
def withoutPlaces (places : List BidPlace) (responses : List PartnerResponse) :
    List PartnerResponse :=
  responses.mapIdx fun i r =>
    { r with bids := (r.bids.zipIdx.filter fun b => !places.contains ⟨i, b.2⟩).map (·.1) }

/-- Maps the video bids of all responses to categories, by rules that have been checked. -/
def mapByRules (store : CategoryStore) (rules : MappingRules) (deadline : Deadline) (now : Nat)
    (responses : List PartnerResponse) : Option (Timed CategoryMapping) := do
  let assessed ← (videoEntries responses).mapM rules.assess
  let answered := translate store rules deadline now (successes assessed)
  let contest := Contest.of rules.withCategory (successes answered.value)
  let rejections := (failures assessed ++ failures answered.value ++
    contest.losers.map Contender.duplicate).mergeSort fun r s => r.position ≤ s.position
  return ⟨answered.delay, {
    keys := displayKeys rules.withCategory contest.winners
    responses := withoutPlaces (rejections.map (·.place)) responses
    rejections }⟩

/-- Maps the video bids of all responses to categories.  Lookups may take until the deadline, and
no longer than `lookupTimeout`.  Without a brand category section nothing is mapped. -/
def mapCategories (store : CategoryStore) (lookupTimeout : Nat) (targeting : Targeting)
    (deadline : Deadline) (now : Nat) (responses : List PartnerResponse) :
    Except (Fault AuctionError) (Timed CategoryMapping) :=
  match targeting.includeBrandCategory with
  | none => .ok ⟨0, { responses }⟩
  | some brand => do
    let rules ← MappingRules.ofTargeting brand targeting
    match mapByRules store rules (deadline.boundedBy now (some lookupTimeout)) now responses with
    | some mapping => .ok mapping
    | none => .error .overflow

end AdExchange
