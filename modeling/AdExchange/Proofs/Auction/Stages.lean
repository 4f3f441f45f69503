import AdExchange.Auction.Basic
import AdExchange.Proofs.Delays
import AdExchange.Proofs.Results

/-!
# The stages of an auction

An auction fails before any partner is asked, or it asks the partners and fails or succeeds when
their bids are mapped.  What is known of an auction is known of these three courses.

## Main definitions

* `Exchange.asked`, `Exchange.requestsAsked` — what the partners are asked, and until when.
* `Exchange.dispatched`, `Exchange.answers` — what they answer, and the answers in one currency.
* `Exchange.mapped` — the answers, mapped to categories.

## Main statements

* `Exchange.finished_holdAuction` — when an auction ends.
* `Exchange.calls_holdAuction` — the calls that it makes.
* `Exchange.outcome_holdAuction_eq_ok_iff` — when an auction has a response, and which.
* `Exchange.outcome_holdAuction_eq_error_iff` — when an auction fails, and for what reason.
* `Exchange.outcome_holdAuction_eq_overflow_iff` — when an auction has no outcome.
-/

namespace AdExchange

namespace Exchange

variable (x : Exchange) (now : Nat) (earlier : List HttpCall) (request : BidRequest)
  (context : AuctionContext)

/-- What the partners are asked and until when, or why the auction fails before that. -/
def asked : Except AuctionError (Deadline × ScopedRequests) := do
  let deadline ←
    (Deadline.ofTmax context.startTime (x.tmax request context)).reserve now (x.reserved request)
  let s ← x.scopeRequest request deadline now
  return (deadline, s)

/-- The requests to the partners; none if the auction fails before any partner is asked. -/
def requestsAsked : List PartnerRequest :=
  match x.asked now request context with
  | .error _ => []
  | .ok (_, s) => s.requests

/-- The record of an auction that has just started. -/
def openingLog : AuctionLog where
  timestamp := x.texts.timeOfDay now
  requestId := request.id
  account := context.account
  tmaxMs := some (x.tmax request context)

/-- What becomes of asking the partners. -/
def dispatched (s : ScopedRequests) : Dispatched :=
  dispatch x.catalog x.adapters x.transport now earlier s.requests x.texts.crash

/-- The answers of the partners in one currency. -/
def answers (s : ScopedRequests) : List PartnerResponse :=
  normalize x.rates x.config.defaultCurrency request x.catalog
    (x.dispatched now earlier s).responses

/-- The answers, mapped to categories once they are there. -/
def mapped (deadline : Deadline) (s : ScopedRequests) :
    Except (Fault AuctionError) (Timed CategoryMapping) :=
  x.mapResponses request deadline (now + (x.dispatched now earlier s).elapsed)
    (x.answers now earlier request s)

variable {x now earlier request context}

/-- The partners are asked if time is left and the request can be taken apart. -/
theorem asked_eq_ok_iff {deadline : Deadline} {s : ScopedRequests} :
    x.asked now request context = .ok (deadline, s) ↔
      (Deadline.ofTmax context.startTime (x.tmax request context)).reserve now
          (x.reserved request) = .ok deadline ∧
        x.scopeRequest request deadline now = .ok s := by
  rw [asked, bind_eq_ok_iff]
  constructor
  · rintro ⟨d, hd, h⟩
    obtain ⟨s', hs, heq⟩ := bind_eq_ok_iff.1 h
    cases heq
    exact ⟨hd, hs⟩
  · rintro ⟨hd, hs⟩
    exact ⟨deadline, hd, by rw [hs]; rfl⟩

/-- The deadline of an auction leaves the reserved time. -/
theorem instant_of_asked {deadline : Deadline} {s : ScopedRequests}
    (h : x.asked now request context = .ok (deadline, s)) :
    deadline.instant = context.startTime + x.tmax request context - x.reserved request ∧
      x.scopeRequest request deadline now = .ok s := by
  obtain ⟨hdeadline, hs⟩ := asked_eq_ok_iff.1 h
  refine ⟨?_, hs⟩
  rw [Deadline.reserve] at hdeadline
  split at hdeadline
  · cases hdeadline
  · cases hdeadline
    rfl

/-- An auction that fails before any partner is asked. -/
theorem holdAuction_of_error {e : AuctionError} (h : x.asked now request context = .error e) :
    x.holdAuction now earlier request context =
      x.failed context (x.openingLog now request context) now [] (.error e) := by
  rw [asked] at h
  rw [holdAuction]
  cases hd : (Deadline.ofTmax context.startTime (x.tmax request context)).reserve now
      (x.reserved request) with
  | error e' =>
    rw [hd, error_bind] at h
    cases h
    rfl
  | ok deadline =>
    rw [hd, ok_bind] at h
    cases hs : x.scopeRequest request deadline now with
    | error e' =>
      rw [hs, error_bind] at h
      cases h
      dsimp only
      rw [hs]
      rfl
    | ok s =>
      rw [hs, ok_bind] at h
      cases h

/-- An auction that asks the partners. -/
theorem holdAuction_of_ok {deadline : Deadline} {s : ScopedRequests}
    (h : x.asked now request context = .ok (deadline, s)) :
    x.holdAuction now earlier request context =
      let ended := now + (x.dispatched now earlier s).elapsed
      let log := (x.answers now earlier request s).foldl AuctionLog.addPartner
        (x.openingLog now request context)
      match x.mapped now earlier request deadline s with
      | .error fault => x.failed context log ended (x.dispatched now earlier s).calls fault
      | .ok m =>
        let response := x.respond request (x.tmax request context) s.warnings m.value
        let bidCount := (response.seatBids.flatMap (·.bids)).length
        let log := { log with rejectedCount := m.value.rejections.length }
        ⟨.ok response, log.succeed bidCount (context.elapsed (ended + m.delay)), ended + m.delay,
          (x.dispatched now earlier s).calls⟩ := by
  obtain ⟨hdeadline, hs⟩ := asked_eq_ok_iff.1 h
  rw [holdAuction]
  simp only [hdeadline, hs]
  rfl

/-- When an auction ends. -/
theorem finished_holdAuction :
    (x.holdAuction now earlier request context).finished =
      match x.asked now request context with
      | .error _ => now
      | .ok (deadline, s) =>
        now + (x.dispatched now earlier s).elapsed +
          delayOf (x.mapped now earlier request deadline s) := by
  cases h : x.asked now request context with
  | error e => rw [holdAuction_of_error h]; rfl
  | ok asked =>
    obtain ⟨deadline, s⟩ := asked
    rw [holdAuction_of_ok h]
    cases hm : x.mapped now earlier request deadline s with
    | error fault =>
      simp only [hm]
      rfl
    | ok m => simp only [hm, delayOf]

/-- The calls of an auction are those of asking the partners. -/
theorem calls_holdAuction :
    (x.holdAuction now earlier request context).calls =
      (dispatch x.catalog x.adapters x.transport now earlier
        (x.requestsAsked now request context) x.texts.crash).calls := by
  rw [requestsAsked]
  cases h : x.asked now request context with
  | error e => rw [holdAuction_of_error h]; rfl
  | ok asked =>
    obtain ⟨deadline, s⟩ := asked
    rw [holdAuction_of_ok h]
    dsimp only
    cases x.mapped now earlier request deadline s with
    | error fault => rfl
    | ok m => rfl

/-- An auction has a response exactly if the partners are asked and their answers can be mapped. -/
theorem outcome_holdAuction_eq_ok_iff {response : BidResponse} :
    (x.holdAuction now earlier request context).outcome = .ok response ↔
      ∃ deadline s m, x.asked now request context = .ok (deadline, s) ∧
        x.mapped now earlier request deadline s = .ok m ∧
        x.respond request (x.tmax request context) s.warnings m.value = response := by
  cases h : x.asked now request context with
  | error e =>
    rw [holdAuction_of_error h]
    simp [failed]
  | ok asked =>
    obtain ⟨deadline, s⟩ := asked
    rw [holdAuction_of_ok h]
    cases hm : x.mapped now earlier request deadline s with
    | error fault => simp [hm, failed]
    | ok m => simp [hm]

/-- An auction fails exactly if the partners cannot be asked or their answers cannot be mapped. -/
theorem outcome_holdAuction_eq_error_iff {e : AuctionError} :
    (x.holdAuction now earlier request context).outcome = .error (.error e) ↔
      x.asked now request context = .error e ∨
        ∃ deadline s, x.asked now request context = .ok (deadline, s) ∧
          x.mapped now earlier request deadline s = .error (.error e) := by
  cases h : x.asked now request context with
  | error e' =>
    rw [holdAuction_of_error h]
    simp [failed]
  | ok asked =>
    obtain ⟨deadline, s⟩ := asked
    rw [holdAuction_of_ok h]
    cases hm : x.mapped now earlier request deadline s with
    | error fault => simp [hm, failed]
    | ok m => simp [hm]

/-- An auction has no outcome exactly if the partners are asked and their answers cannot be
mapped. -/
theorem outcome_holdAuction_eq_overflow_iff :
    (x.holdAuction now earlier request context).outcome = .error .overflow ↔
      ∃ deadline s, x.asked now request context = .ok (deadline, s) ∧
        x.mapped now earlier request deadline s = .error .overflow := by
  cases h : x.asked now request context with
  | error e =>
    rw [holdAuction_of_error h]
    simp [failed]
  | ok asked =>
    obtain ⟨deadline, s⟩ := asked
    rw [holdAuction_of_ok h]
    cases hm : x.mapped now earlier request deadline s with
    | error fault => simp [hm, failed]
    | ok m => simp [hm]

end Exchange

end AdExchange
