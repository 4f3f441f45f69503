import AdExchange.Auction.Log
import AdExchange.Config
import AdExchange.Price.Normalization
import AdExchange.SeatAssembly

/-!
# Auctions

An auction takes a request apart, asks the partners, brings their bids to one currency, maps video
bids to categories and assembles the response.  It is a function of the request, the state of the
exchange, the time at which it starts and the calls that were made before; its result says when it
ended and what calls it made.

## Main definitions

* `Exchange` — everything that auctions are held with.
* `AuctionContext` — on whose behalf, since when and for how long an auction is held.
* `Exchange.holdAuction` — an auction.
* `AuctionRun` — its outcome, its record, when it ended and the calls that it made.
-/

namespace AdExchange

open RawJson FieldRule

/-- Everything that auctions are held with. -/
structure Exchange where
  config : ExchangeConfig
  catalog : Catalog
  adapters : Adapters
  transport : Transport
  store : CategoryStore
  privacy : PrivacyService := PrivacyService.passThrough
  /-- The rates of the exchange. -/
  rates : Rates
  texts : LibraryTexts := {}

/-- On whose behalf, since when and for how long an auction is held. -/
structure AuctionContext where
  account : Option String := none
  /-- When the request came in. -/
  startTime : Nat := 0
  /-- The time that the caller gives the auction; it counts before that of the request. -/
  timeoutMs : Option UInt64 := none
  deriving DecidableEq, Inhabited

namespace AuctionContext

def read? (v : RawJson) : Option AuctionContext := do
  let m ← v.closedRecord? [given "account_id", given "timeout_ms"]
  return {
    account := ← m.optional? "account_id" string?
    timeoutMs := ← m.optional? "timeout_ms" uint64? }

/-- Writes a context, without its start. -/
def toJson (c : AuctionContext) : Json :=
  .ofFields
    [("account_id", some (c.account.elim .null .string)),
     ("timeout_ms", some (c.timeoutMs.elim .null fun n => .nat n.toNat))]

def elapsed (c : AuctionContext) (now : Nat) : Nat := now - c.startTime

end AuctionContext

/-- What an auction came to. -/
structure AuctionRun where
  outcome : Except (Fault AuctionError) BidResponse
  log : AuctionLog
  /-- When it ended. -/
  finished : Nat
  /-- The calls that it made, in the order in which they were made. -/
  calls : List HttpCall

namespace Exchange

/-- The time that an auction gets. -/
def tmax (x : Exchange) (request : BidRequest) (context : AuctionContext) : Nat :=
  (x.config.resolveTimeout (context.timeoutMs.or request.tmax)).toNat

/-- What is kept back of an auction's time. -/
def reserved (x : Exchange) (request : BidRequest) : Nat :=
  if request.cachingRequested then x.config.expectedCacheTimeMs.toNat else 0

/-- The settings for multibid that a request makes. -/
def multibidOf (request : BidRequest) : MultiBid.Resolution :=
  MultiBid.resolve ((request.prebid?.bind (·.multibid)).getD [])

/-- What the partners are asked, once the privacy service has decided. -/
def scopeRequest (x : Exchange) (request : BidRequest) (deadline : Deadline) (now : Nat) :
    Except AuctionError ScopedRequests := do
  let decisions ← x.privacy request request.partnerNames
  scope request x.catalog (multibidOf request).configs decisions deadline now

/-- Video bids are mapped to categories if the request asks for it. -/
def mapResponses (x : Exchange) (request : BidRequest) (deadline : Deadline) (now : Nat)
    (responses : List PartnerResponse) : Except (Fault AuctionError) (Timed CategoryMapping) :=
  match request.targeting? with
  | none => .ok ⟨0, { responses }⟩
  | some targeting =>
    mapCategories x.store x.config.categoryLookupTimeoutMs.toNat targeting deadline now responses

/-- The response from what the stages of an auction came to. -/
def respond (x : Exchange) (request : BidRequest) (tmax : Nat) (scopeWarnings : List ScopeWarning)
    (mapping : CategoryMapping) : BidResponse :=
  let multibid := multibidOf request
  assemble {
    request
    responses := mapping.responses
    keys := mapping.keys
    multibid := multibid.configs
    warnings := multibid.warnings.map (·.message) ++ scopeWarnings.map (·.message)
    rejections := mapping.rejections.map (·.message)
    currency := (settlementCurrency request x.config.defaultCurrency).1
    tmax }

/-- Ends an auction that failed. -/
def failed (x : Exchange) (context : AuctionContext) (log : AuctionLog) (now : Nat)
    (calls : List HttpCall) (fault : Fault AuctionError) : AuctionRun :=
  let log := match fault with
    | .error e => log.fail (e.message x.texts) (context.elapsed now)
    | .overflow => log
  ⟨.error fault, log, now, calls⟩

/-- Holds an auction at the time `now`, after some earlier calls. -/
def holdAuction (x : Exchange) (now : Nat) (earlier : List HttpCall) (request : BidRequest)
    (context : AuctionContext) : AuctionRun :=
  let tmax := x.tmax request context
  let log : AuctionLog :=
    { timestamp := x.texts.timeOfDay now, requestId := request.id, account := context.account
      tmaxMs := some tmax }
  match (Deadline.ofTmax context.startTime tmax).reserve now (x.reserved request) with
  | .error e => x.failed context log now [] (.error e)
  | .ok deadline =>
    match x.scopeRequest request deadline now with
    | .error e => x.failed context log now [] (.error e)
    | .ok asked =>
      let dispatched :=
        dispatch x.catalog x.adapters x.transport now earlier asked.requests x.texts.crash
      let now := now + dispatched.elapsed
      let responses :=
        normalize x.rates x.config.defaultCurrency request x.catalog dispatched.responses
      let log := responses.foldl AuctionLog.addPartner log
      match x.mapResponses request deadline now responses with
      | .error fault => x.failed context log now dispatched.calls fault
      | .ok mapping =>
        let now := now + mapping.delay
        let response := x.respond request tmax asked.warnings mapping.value
        let bidCount := (response.seatBids.flatMap (·.bids)).length
        let log := { log with rejectedCount := mapping.value.rejections.length }
        ⟨.ok response, log.succeed bidCount (context.elapsed now), now, dispatched.calls⟩

end Exchange

end AdExchange
