import AdExchange.Price.Granularity

/-!
# What ends an auction

An error of the auction as a whole leaves the publisher without a response.  Its kind decides the
HTTP status and the beginning of the message.
-/

namespace AdExchange

/-- The kinds of errors that end an auction. -/
inductive AuctionErrorKind where
  | invalidRequest
  | deadlineExhausted
  | categoryMapping
  | privacy
  | assembly
  deriving DecidableEq, Repr, Inhabited

namespace AuctionErrorKind

def status : AuctionErrorKind → Nat
  | .invalidRequest => 400
  | .categoryMapping => 400
  | .deadlineExhausted => 503
  | .privacy => 500
  | .assembly => 500

/-- The message of an error, given what is to be said in detail. -/
def message (detail : String) : AuctionErrorKind → String
  | .deadlineExhausted => "Auction timeout budget exhausted: " ++ detail
  | .assembly => "Response assembly failed: " ++ detail
  | _ => detail

end AuctionErrorKind

/-- What ends an auction. -/
inductive AuctionError where
  /-- The request offers nothing. -/
  | noImps
  /-- A section of the request does not have its form any more once a bidder config is merged. -/
  | badBidderConfig (form : JsonForm) (merged : Json)
  /-- With the bidder config merged, the request has both a site and an app. -/
  | siteAndApp
  /-- The price granularity of the request is refused. -/
  | granularity (reason : GranularityError)
  /-- What is left of the budget, in milliseconds, does not exceed what has to be kept back. -/
  | deadlineExhausted (remaining reserved : Nat)
  /-- Categories are to be translated, but no ad server is named. -/
  | primaryAdServerMissing
  /-- No ad server has this number. -/
  | primaryAdServerUnknown (id : Int32)
  /-- Categories are to be translated, but no publisher is named. -/
  | publisherMissing
  /-- Bids are to be mapped to categories, but no lengths are given. -/
  | durationsMissing
  /-- The privacy service failed. -/
  | privacy (message : String)
  deriving Inhabited

namespace AuctionError

def kind : AuctionError → AuctionErrorKind
  | .noImps => .invalidRequest
  | .badBidderConfig _ _ => .invalidRequest
  | .siteAndApp => .invalidRequest
  | .granularity _ => .invalidRequest
  | .deadlineExhausted _ _ => .deadlineExhausted
  | .primaryAdServerMissing => .categoryMapping
  | .primaryAdServerUnknown _ => .categoryMapping
  | .publisherMissing => .categoryMapping
  | .durationsMissing => .categoryMapping
  | .privacy _ => .privacy

/-- What is to be said in detail. -/
def detail (texts : LibraryTexts) : AuctionError → String
  | .noImps => "request.imp must contain at least one element"
  | .badBidderConfig form merged => "Invalid bidder config: " ++ texts.badValue form merged
  | .siteAndApp => "Either site or app should be defined, but not both"
  | .granularity reason => reason.message texts
  | .deadlineExhausted remaining reserved =>
    "remaining " ++ toString remaining ++ "ms, reserved " ++ toString reserved ++ "ms"
  | .primaryAdServerMissing =>
    "Primary ad server required but was not defined when translate category is enabled"
  | .primaryAdServerUnknown id => "Primary ad server \x60" ++ toString id.toInt ++
    "\x60 is not recognized"
  | .publisherMissing =>
    "Publisher required but was not defined when translate category is enabled"
  | .durationsMissing =>
    "Duration range seconds must be defined when brand category is included"
  | .privacy message => message

def message (e : AuctionError) (texts : LibraryTexts := {}) : String :=
  e.kind.message (e.detail texts)

def status (e : AuctionError) : Nat := e.kind.status

end AuctionError

end AdExchange
