import AdExchange.Proofs.Auction.Stages
import AdExchange.Proofs.Category.Lookups
import AdExchange.Proofs.Scope.Outcome

/-!
# An auction ends in time

All waits of an auction are for partners or for categories.  A partner's deadline is never later
than that of the auction, and the lookups of categories share a deadline that is not later either.
So an auction ends by its deadline, unless the deadline has passed when it starts: then it ends at
once.

What an auction does not always have is an outcome.  The granularity of a request may ask for
prices that no decimal holds, or for buckets that are too wide to be written.
-/

namespace AdExchange

section Turns

variable {catalog : Catalog} {adapters : Adapters} {transport : Transport} {now : Nat}
  {earlier : List HttpCall} {requests : List PartnerRequest}

/-- Each turn is that of a request, and its wait does not outlast the request's deadline. -/
theorem delay_le_of_mem_turns {t : PartnerTurn}
    (ht : t ∈ turns catalog adapters transport now earlier requests) :
    ∃ q ∈ requests, t.reading.delay ≤ q.deadline.remaining now := by
  induction requests generalizing earlier with
  | nil => simp [turns] at ht
  | cons q rest ih =>
    rcases List.mem_cons.1 ht with rfl | ht
    · exact ⟨q, by simp, q.deadline.delay_await_le now _⟩
    · obtain ⟨q', hq', hle⟩ := ih ht
      exact ⟨q', List.mem_cons_of_mem _ hq', hle⟩

end Turns

/-- No partner gets more time than the auction. -/
theorem remaining_le_of_mem_scope {request : BidRequest} {catalog : Catalog}
    {multibid : Dictionary MultiBid} {decisions : List PrivacyDecision} {deadline : Deadline}
    {now : Nat} {s : ScopedRequests}
    (h : scope request catalog multibid decisions deadline now = .ok s) {q : PartnerRequest}
    (hq : q ∈ s.requests) : q.deadline.remaining now ≤ deadline.remaining now := by
  obtain ⟨name, -, partner, decision, own, -, -, rfl⟩ := exists_view_of_mem_requests h hq
  exact deadline.remaining_boundedBy_le now _

namespace Exchange

variable (x : Exchange) (now : Nat) (earlier : List HttpCall) (request : BidRequest)
  (context : AuctionContext)

/-- The turns of the partners in an auction. -/
def partnerTurns (s : ScopedRequests) : List PartnerTurn :=
  turns x.catalog x.adapters x.transport now earlier s.requests

/-- The lookups of categories in an auction, once the partners have answered. -/
def lookups (deadline : Deadline) (s : ScopedRequests) :
    List (Timed (Option (Except StoreError (Option String)))) :=
  match request.targeting? with
  | none => []
  | some targeting =>
    categoryLookups x.store x.config.categoryLookupTimeoutMs.toNat targeting deadline
      (now + (x.dispatched now earlier s).elapsed) (x.answers now earlier request s)

/-- When the waits of an auction end: first those for the partners, which all start with the
auction, then those for categories, which start when all partners are done. -/
def waits : List Nat :=
  match x.asked now request context with
  | .error _ => []
  | .ok (deadline, s) =>
    (x.partnerTurns now earlier s).map (fun t => now + t.reading.delay) ++
      (x.lookups now earlier request deadline s).map fun l =>
        now + (x.dispatched now earlier s).elapsed + l.delay

variable {x now earlier request context} {deadline : Deadline} {s : ScopedRequests}

theorem longestDelay_lookups :
    longestDelay (x.lookups now earlier request deadline s) =
      delayOf (x.mapped now earlier request deadline s) := by
  rw [lookups, mapped, mapResponses]
  cases request.targeting? with
  | none => rfl
  | some targeting => exact delay_mapCategories

theorem delay_le_of_mem_lookups {l : Timed (Option (Except StoreError (Option String)))}
    (hl : l ∈ x.lookups now earlier request deadline s) :
    l.delay ≤ deadline.remaining (now + (x.dispatched now earlier s).elapsed) := by
  rw [lookups] at hl
  split at hl
  · simp at hl
  · exact delay_le_of_mem_categoryLookups l hl

/-- The partners are done by the deadline of the auction. -/
theorem delay_le_of_mem_partnerTurns (h : x.asked now request context = .ok (deadline, s))
    {t : PartnerTurn} (ht : t ∈ x.partnerTurns now earlier s) :
    t.reading.delay ≤ deadline.remaining now := by
  obtain ⟨q, hq, hle⟩ := delay_le_of_mem_turns ht
  obtain ⟨decisions, -, hs⟩ := bind_eq_ok_iff.1 (instant_of_asked h).2
  exact Nat.le_trans hle (remaining_le_of_mem_scope hs hq)

theorem elapsed_dispatched :
    (x.dispatched now earlier s).elapsed =
      longestDelay ((x.partnerTurns now earlier s).map (·.reading)) := rfl

/-- No wait goes on after the deadline of the auction, unless that has passed before. -/
theorem le_of_mem_waits :
    ∀ t ∈ x.waits now earlier request context,
      t ≤ max now (context.startTime + x.tmax request context - x.reserved request) := by
  intro t ht
  rw [waits] at ht
  split at ht
  · simp at ht
  · next deadline s h =>
    have hinstant := (instant_of_asked h).1
    have helapsed : (x.dispatched now earlier s).elapsed ≤ deadline.remaining now := by
      rw [elapsed_dispatched, longestDelay_le_iff]
      intro r hr
      obtain ⟨turn, hturn, rfl⟩ := List.mem_map.1 hr
      exact delay_le_of_mem_partnerTurns h hturn
    rw [← hinstant]
    rcases List.mem_append.1 ht with ht | ht
    · obtain ⟨turn, hturn, rfl⟩ := List.mem_map.1 ht
      have hle := delay_le_of_mem_partnerTurns h hturn
      rw [Deadline.remaining] at hle
      omega
    · obtain ⟨l, hl, rfl⟩ := List.mem_map.1 ht
      have hle := delay_le_of_mem_lookups hl
      rw [Deadline.remaining] at hle helapsed
      omega

/-- An auction ends with the latest of its waits, at once if there are none. -/
theorem finished_eq_latest_wait :
    (x.holdAuction now earlier request context).finished =
      (x.waits now earlier request context).foldl max now := by
  rw [finished_holdAuction, waits]
  cases h : x.asked now request context with
  | error e => rfl
  | ok asked =>
    obtain ⟨deadline, s⟩ := asked
    have hturns : (x.partnerTurns now earlier s).map (fun t => now + t.reading.delay) =
        ((x.partnerTurns now earlier s).map (·.reading)).map fun r => now + r.delay := by
      rw [List.map_map]
      rfl
    simp only
    rw [← longestDelay_lookups, List.foldl_append, hturns, foldl_max_delays _ (Nat.le_refl now),
      ← elapsed_dispatched, foldl_max_delays _ (by omega)]
    omega

open MappingRules in
/-- An auction has no outcome exactly if its bids are to be mapped and a number of the granularity
does not fit, or the price of a bid of the right form has no bucket. -/
theorem outcome_eq_overflow_iff :
    (x.holdAuction now earlier request context).outcome = .error .overflow ↔
      ∃ deadline s targeting brand, x.asked now request context = .ok (deadline, s) ∧
        request.targeting? = some targeting ∧ targeting.includeBrandCategory = some brand ∧
        (ofTargeting brand targeting = .error .overflow ∨
          ∃ rules, ofTargeting brand targeting = .ok rules ∧
            ¬ rules.Priced (x.answers now earlier request s)) := by
  rw [outcome_holdAuction_eq_overflow_iff]
  simp only [mapped, mapResponses]
  cases request.targeting? with
  | none => simp
  | some targeting =>
    simp only [mapCategories_eq_overflow_iff]
    constructor
    · rintro ⟨deadline, s, h, brand, hbrand, hcause⟩
      exact ⟨deadline, s, targeting, brand, h, rfl, hbrand, hcause⟩
    · rintro ⟨deadline, s, _, brand, h, htargeting, hbrand, hcause⟩
      cases htargeting
      exact ⟨deadline, s, h, brand, hbrand, hcause⟩

open MappingRules in
/-- An auction ends by its limit, and no wait for a partner or for a category goes on after that;
it ends with the latest of its waits.  It has no outcome exactly if a number of the granularity does
not fit, or the price of a bid of the right form has no bucket. -/
theorem holdAuction_in_time (x : Exchange) (now : Nat) (earlier : List HttpCall)
    (request : BidRequest) (context : AuctionContext) :
    let run := x.holdAuction now earlier request context
    let limit := max now (context.startTime + x.tmax request context - x.reserved request)
    run.finished ≤ limit ∧
    (∀ t ∈ x.waits now earlier request context, t ≤ limit) ∧
    run.finished = (x.waits now earlier request context).foldl max now ∧
    (run.outcome = .error .overflow ↔
      ∃ deadline s targeting brand, x.asked now request context = .ok (deadline, s) ∧
        request.targeting? = some targeting ∧ targeting.includeBrandCategory = some brand ∧
        (ofTargeting brand targeting = .error .overflow ∨
          ∃ rules, ofTargeting brand targeting = .ok rules ∧
            ¬ rules.Priced (x.answers now earlier request s))) := by
  intro run limit
  have hwaits : ∀ t ∈ x.waits now earlier request context, t ≤ limit := le_of_mem_waits
  refine ⟨?_, hwaits, finished_eq_latest_wait, outcome_eq_overflow_iff⟩
  rw [finished_eq_latest_wait]
  exact foldl_max_le (Nat.le_max_left _ _) hwaits

end Exchange

end AdExchange
