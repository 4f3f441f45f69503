import AdExchange.Adapter.Basic

/-!
# Asking all partners

All partners are asked at the same time, and all calls to one partner are made at the same time.
A partner has answered when the last of its replies is there; if its deadline comes first, nothing
that it has sent so far counts.  Whatever goes wrong with one partner, be it a crash of its
adapter, is an error of that partner and does not touch the others.
-/

namespace AdExchange

/-- What is wrong with a bid, given the request that it answers. -/
def Bid.defect? (request : BidRequest) (bid : Bid) : Option PartnerError :=
  if bid.id.isEmpty then some .missingBidId
  else if bid.impId.isEmpty then some (.missingImpId bid.id)
  else if (request.findImp? bid.impId).isNone then some (.unknownImp bid.id bid.impId)
  else if bid.price.negative then some (.negativePrice bid.id)
  else none

/-- The bids that answer a request, and one error for each of the others. -/
def validateBids (request : BidRequest) (bids : List Bid) : List Bid × List PartnerError :=
  (bids.filter fun b => (b.defect? request).isNone, bids.filterMap (Bid.defect? request))

/-- What is to be done to ask a partner. -/
inductive Preparation where
  /-- The partner cannot be asked. -/
  | refused (reason : PartnerError)
  /-- The adapter crashed before any call. -/
  | crashed
  /-- These calls are made. -/
  | ready (adapter : Adapter) (plan : CallPlan)

namespace Preparation

/-- What is to be done to ask a partner. -/
def of (catalog : Catalog) (adapters : Adapters) (request : PartnerRequest) : Preparation :=
  match catalog.get? request.code with
  | none => .refused (.notConfigured request.code)
  | some partner =>
    match adapters partner.adapter with
    | none => .refused (.noAdapter partner.adapter)
    | some adapter =>
      match adapter.makeCalls request partner with
      | none => .crashed
      | some plan => .ready adapter plan

def calls : Preparation → List HttpCall
  | .ready _ plan => plan.calls
  | _ => []

end Preparation

/-- What a partner's replies amount to. -/
inductive Reading where
  /-- The adapter crashed. -/
  | crashed
  /-- Bids and errors. -/
  | answered (bids : List Bid) (errors : List PartnerError)
  deriving Inhabited

namespace Reading

/-- Puts the bids or the error of one reply in front of those of the replies behind it. -/
def cons : Except PartnerError (List Bid) → Reading → Reading
  | _, .crashed => .crashed
  | .ok found, .answered bids errors => .answered (found ++ bids) errors
  | .error e, .answered bids errors => .answered bids (e :: errors)

/-- Reads the replies to all calls, in the order of the calls. -/
def ofReplies (adapter : Adapter) (request : PartnerRequest) :
    List (HttpCall × Except PartnerError HttpReply) → Reading
  | [] => .answered [] []
  | (_, .error e) :: rest => cons (.error e) (ofReplies adapter request rest)
  | (call, .ok reply) :: rest =>
    match adapter.readBids request call reply with
    | none => .crashed
    | some result => cons result (ofReplies adapter request rest)

/-- Puts the adapter's own errors first, and drops bids that do not answer the request. -/
def finish (request : BidRequest) (early : List PartnerError) : Reading → Reading
  | .crashed => .crashed
  | .answered bids errors =>
    let (valid, invalid) := validateBids request bids
    .answered valid (early ++ errors ++ invalid)

end Reading

/-- The longest of some delays, zero if there are none. -/
def longestDelay {α : Type} (replies : List (Timed α)) : Nat :=
  replies.foldr (fun r longest => max r.delay longest) 0

/-- What comes of asking one partner: its reading, or nothing if the deadline came first, and the
calls that were made. -/
structure PartnerTurn where
  request : PartnerRequest
  calls : List HttpCall
  reading : Timed (Option Reading)

namespace PartnerTurn

/-- Asks one partner at the time `now`, after some calls to others. -/
def of (catalog : Catalog) (adapters : Adapters) (transport : Transport) (now : Nat)
    (earlier : List HttpCall) (request : PartnerRequest) : PartnerTurn :=
  let preparation := Preparation.of catalog adapters request
  let reading : Timed Reading :=
    match preparation with
    | .refused reason => ⟨0, .answered [] [reason]⟩
    | .crashed => ⟨0, .crashed⟩
    | .ready adapter plan =>
      let replies := transport.send earlier plan.calls
      let reading := Reading.ofReplies adapter request (replies.map fun r => (r.1, r.2.value))
      ⟨longestDelay (replies.map (·.2)), reading.finish request.request plan.errors⟩
  ⟨request, preparation.calls, request.deadline.await now reading⟩

/-- The response of a partner.  A crash is noticed only when all partners are done; `report` is what
the runtime then says of it. -/
def response (t : PartnerTurn) (total : Nat) (report : String) : PartnerResponse :=
  let base : PartnerResponse := { partner := t.request.partner, code := t.request.code }
  match t.reading.value with
  | some (.answered bids errors) => { base with bids, errors, responseTimeMs := t.reading.delay }
  | some .crashed => { base with errors := [.adapterCrashed report], responseTimeMs := total }
  | none => { base with errors := [.timedOut], responseTimeMs := t.reading.delay }

end PartnerTurn

/-- What comes of asking all partners. -/
structure Dispatched where
  /-- One response per request, in the same order. -/
  responses : List PartnerResponse
  /-- The calls that were made, in the order in which they were made. -/
  calls : List HttpCall
  /-- How long it took. -/
  elapsed : Nat
  deriving Inhabited

/-- The turns of all partners: they start at the same time, their calls are made in order. -/
def turns (catalog : Catalog) (adapters : Adapters) (transport : Transport) (now : Nat)
    (earlier : List HttpCall) : List PartnerRequest → List PartnerTurn
  | [] => []
  | request :: rest =>
    let turn := PartnerTurn.of catalog adapters transport now earlier request
    turn :: turns catalog adapters transport now (earlier ++ turn.calls) rest

/-- Asks all partners at the time `now`, after some earlier calls.  Each partner is asked by a task
of its own, and the runtime reports the crash of one. -/
def dispatch (catalog : Catalog) (adapters : Adapters) (transport : Transport) (now : Nat)
    (earlier : List HttpCall) (requests : List PartnerRequest)
    (reports : Nat → String := LibraryTexts.crash {}) : Dispatched :=
  let turns := turns catalog adapters transport now earlier requests
  let elapsed := longestDelay (turns.map (·.reading))
  ⟨turns.mapIdx fun task t => t.response elapsed (reports task), turns.flatMap (·.calls), elapsed⟩

end AdExchange
