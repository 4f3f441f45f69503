import AdExchange.Auction.Basic
import AdExchange.Http.Request

/-!
# The HTTP face of an exchange

Auctions are asked for by a POST to one path, with the bid request as the body.  Headers say on
whose behalf and for how long.  A request without a bid is answered with 200 and no seats; an error
that ends the auction is answered with its status and its message.
-/

namespace AdExchange

open scoped CorePower

structure HttpResult where
  status : Nat
  body : Option Json := none

namespace HttpRequest

/-- The natural number below `2 ^ 64` that a text stands for. -/
def parseUInt64? (text : String) : Option UInt64 := do
  let digits := match text.toList with
    | '+' :: rest => rest
    | cs => cs
  if digits.isEmpty then none
  else
    let n ← digits.foldlM (fun n c => (Decimal.digit? c).map (n * 10 + ·)) 0
    if n < 2 ^ (64 : Nat) then some (.ofNat n) else none

/-- On whose behalf and for how long an auction is asked for.  A time that is no number is passed
over. -/
def context (r : HttpRequest) (now : Nat) : AuctionContext where
  account := r.header? "x-account-id"
  startTime := now
  timeoutMs := (r.header? "x-timeout-ms").bind parseUInt64?

end HttpRequest

/-- The body of an answer that only says what went wrong. -/
def errorBody (message : String) : Json := .object [("error", .string message)]

def auctionPath : String := "/openrtb2/auction"

namespace Exchange

/-- The answer to an HTTP request at the time `now`, and the auction that was held for it.  There
is no answer if the auction came to none. -/
def serve (x : Exchange) (now : Nat) (earlier : List HttpCall) (r : HttpRequest) :
    Option HttpResult × Option AuctionRun :=
  if r.resource ≠ auctionPath then (some { status := 404 }, none)
  else if r.method ≠ "POST" then (some { status := 405 }, none)
  else if r.isOversized then (some { status := 413 }, none)
  else
    match (RawJson.parseExactly? r.body).bind BidRequest.read? with
    | none =>
      let detail := x.texts.badText .bidRequest r.body
      (some ⟨400, errorBody ("Invalid request format: " ++ detail)⟩, none)
    | some request =>
      let run := x.holdAuction now earlier request (r.context now)
      let result := match run.outcome with
        | .ok response => some ⟨200, some response.toJson⟩
        | .error (.error e) => some ⟨e.status, errorBody (e.message x.texts)⟩
        | .error .overflow => none
      (result, some run)

end Exchange

end AdExchange
