import AdExchange.Proofs.Auction.CrashReports
import AdExchange.Proofs.Category.Outcome
import AdExchange.Proofs.Dispatch.Endings
import AdExchange.Proofs.Dispatch.Isolation

/-!
# Latency does not change what comes of an auction

Where no partner is late and categories are looked up at once, the time that replies take is seen
in nothing but the latencies that the response reports.  Every stage of an auction leaves the times
of the responses alone: what it makes of responses without their times is what it makes of the
responses, without the times.
-/

namespace AdExchange

/-! ## The mapping of video bids -/

/-- Categories are looked up at once. -/
def CategoryStore.Instant (s : CategoryStore) : Prop :=
  ∀ adServer publisher category, (s.lookup adServer publisher category).delay = 0

/-- If categories are looked up at once, it does not matter until when there is time. -/
theorem mapByRules_of_instant {store : CategoryStore} {rules : MappingRules}
    {deadline deadline' : Deadline} {now now' : Nat} {responses : List PartnerResponse}
    (h : store.Instant) :
    mapByRules store rules deadline now responses =
      mapByRules store rules deadline' now' responses := by
  have htranslate : translate store rules deadline now = translate store rules deadline' now' := by
    funext candidates
    simp only [translate, Deadline.await_of_instant (h _ _ _)]
  simp only [mapByRules, htranslate]

/-! ## The response -/

namespace Json

/-- The value with `null` in place of the values of its members. -/
def hideValues : Json → Json
  | .object fields => .object (Dictionary.mapValues (fun _ => .null) fields)
  | v => v

end Json

/-- The response with `null` in place of each latency that it reports. -/
def BidResponse.withoutLatencies (r : BidResponse) : BidResponse :=
  { r with ext := r.ext.map (·.modify "responsetimemillis" Json.hideValues) }

theorem hideValues_latencies (responses : List PartnerResponse) :
    Json.hideValues (.object (latencies (responses.map .untimed))) =
      Json.hideValues (.object (latencies responses)) := by
  simp only [Json.hideValues, latencies, Dictionary.mapValues_ofList, List.map_map]
  rfl

theorem errorNotices_untimed (responses : List PartnerResponse) :
    errorNotices (responses.map .untimed) = errorNotices responses := by
  simp only [errorNotices, List.filter_map, List.map_map]
  rfl

/-- Of the times of the responses nothing but the latencies is seen in the response. -/
theorem withoutLatencies_assemble (input : AssemblyInput) :
    (assemble { input with responses := input.responses.map .untimed }).withoutLatencies =
      (assemble input).withoutLatencies := by
  have hext : (responseExt { input with responses := input.responses.map .untimed }).modify
        "responsetimemillis" Json.hideValues =
      (responseExt input).modify "responsetimemillis" Json.hideValues := by
    simp only [responseExt, Json.modify_ofFields, errorNotices_untimed, List.map_cons,
      List.map_nil, Option.map_some, hideValues_latencies, if_true]
  simp only [assemble, BidResponse.withoutLatencies, Option.map_some, hext, List.filterMap_map]
  rfl

/-- Latencies and crashes are reported in different places. -/
theorem BidResponse.withoutLatencies_withoutCrashReports (r : BidResponse) :
    r.withoutCrashReports.withoutLatencies = r.withoutLatencies.withoutCrashReports := by
  have hcomm : ∀ v : Json, (v.modify "errors" Json.cutReports).modify "responsetimemillis"
      Json.hideValues = (v.modify "responsetimemillis" Json.hideValues).modify "errors"
        Json.cutReports := by
    intro v
    cases v with
    | object fields => exact congrArg Json.object (Dictionary.modify_comm _ _ _ (by decide))
    | _ => rfl
  simp only [withoutCrashReports, withoutLatencies, Option.map_map, Function.comp_def, hcomm]

/-! ## The auction -/

namespace Exchange

def withTransport (x : Exchange) (transport : Transport) : Exchange := { x with transport }

/-- The round in which the partners of an auction are asked. -/
def round (x : Exchange) (earlier : List HttpCall) (s : ScopedRequests) : PartnerRound where
  catalog := x.catalog
  adapters := x.adapters
  transport := x.transport
  earlier
  requests := s.requests
  reports := x.texts.crash

/-- All replies to the calls of each partner come before the deadline of the partner. -/
def NoneLate (x : Exchange) (now : Nat) (earlier : List HttpCall) (request : BidRequest)
    (context : AuctionContext) : Prop :=
  ∀ deadline s, x.asked now request context = .ok (deadline, s) →
    ∀ i q, s.requests[i]? = some q →
      ∀ r ∈ (x.round earlier s).replies i q, r.2.delay ≤ q.deadline.remaining now

variable {x : Exchange} {t₁ t₂ : Transport} {reply : HttpCall → Except PartnerError HttpReply}
  {now : Nat} {earlier : List HttpCall} {request : BidRequest} {context : AuctionContext}
  {deadline : Deadline} {s : ScopedRequests}

/-- What a partner that is not late has read. -/
theorem value_reading_turn_round {t : Transport} (h : t.RepliesBy reply)
    (hasked : x.asked now request context = .ok (deadline, s))
    (hin : (x.withTransport t).NoneLate now earlier request context) {i : Nat} {q : PartnerRequest}
    (hq : s.requests[i]? = some q) :
    (((x.withTransport t).round earlier s).turn now i q).reading.value =
      some (q.readingBy x.catalog x.adapters reply) :=
  PartnerRound.value_reading_turn _ now h (hin deadline s hasked i q hq)

/-- If no partner is late, what the partners answer does not depend on the delays. -/
theorem untimed_dispatched (h₁ : t₁.RepliesBy reply) (h₂ : t₂.RepliesBy reply)
    (hasked : x.asked now request context = .ok (deadline, s))
    (hin₁ : (x.withTransport t₁).NoneLate now earlier request context)
    (hin₂ : (x.withTransport t₂).NoneLate now earlier request context) :
    ((x.withTransport t₁).dispatched now earlier s).responses.map PartnerResponse.untimed =
      ((x.withTransport t₂).dispatched now earlier s).responses.map .untimed := by
  change (((x.withTransport t₁).round earlier s).dispatched now).responses.map _ =
    (((x.withTransport t₂).round earlier s).dispatched now).responses.map _
  refine List.ext_getElem? fun i => ?_
  rw [List.getElem?_map, List.getElem?_map, PartnerRound.getElem?_responses,
    PartnerRound.getElem?_responses]
  change (s.requests[i]?.map _).map _ = (s.requests[i]?.map _).map _
  cases hq : s.requests[i]? with
  | none => rfl
  | some q =>
    have hvalue := (value_reading_turn_round h₁ hasked hin₁ hq).trans
      (value_reading_turn_round h₂ hasked hin₂ hq).symm
    simp only [Option.map_some, Option.some.injEq]
    refine PartnerTurn.untimed_response ?_ hvalue _ _ _
    rfl

/-- Prices are brought to one currency whatever the times of the responses. -/
theorem untimed_answers :
    (x.answers now earlier request s).map PartnerResponse.untimed =
      normalize x.rates x.config.defaultCurrency request x.catalog
        ((x.dispatched now earlier s).responses.map .untimed) := by
  simp only [answers, normalize, List.map_map]
  rfl

/-- The mapping of bids to categories does not depend on the delays either. -/
theorem untimed_mapped (h₁ : t₁.RepliesBy reply) (h₂ : t₂.RepliesBy reply)
    (hstore : x.store.Instant) (hasked : x.asked now request context = .ok (deadline, s))
    (hin₁ : (x.withTransport t₁).NoneLate now earlier request context)
    (hin₂ : (x.withTransport t₂).NoneLate now earlier request context) :
    ((x.withTransport t₁).mapped now earlier request deadline s).map (·.mapResponses .untimed) =
      ((x.withTransport t₂).mapped now earlier request deadline s).map
        (·.mapResponses .untimed) := by
  have hanswers : ((x.withTransport t₁).answers now earlier request s).map PartnerResponse.untimed =
      ((x.withTransport t₂).answers now earlier request s).map .untimed := by
    rw [untimed_answers, untimed_answers, untimed_dispatched h₁ h₂ hasked hin₁ hin₂]
    rfl
  exact mapResponses_congr (x := x) leavesBids_untimed hanswers fun _ _ _ =>
    mapByRules_of_instant hstore

/-- Of the times of the responses nothing but the latencies is seen in what the auction comes to. -/
theorem outcome_of_asked (hasked : x.asked now request context = .ok (deadline, s)) :
    (x.holdAuction now earlier request context).outcome.map BidResponse.withoutLatencies =
      ((x.mapped now earlier request deadline s).map (·.mapResponses .untimed)).map fun m =>
        (x.respond request (x.tmax request context) s.warnings m.value).withoutLatencies := by
  rw [holdAuction_of_ok hasked]
  cases hm : x.mapped now earlier request deadline s with
  | error fault => simp only [Except.map, failed]
  | ok m =>
    simp only [Except.map]
    exact congrArg Except.ok (withoutLatencies_assemble _).symm

/-- Transports that give the same replies, though not after the same time, are of no consequence to
what an auction comes to, as far as all replies come in time. -/
theorem outcome_withTransport (h₁ : t₁.RepliesBy reply) (h₂ : t₂.RepliesBy reply)
    (hstore : x.store.Instant)
    (hin₁ : (x.withTransport t₁).NoneLate now earlier request context)
    (hin₂ : (x.withTransport t₂).NoneLate now earlier request context) :
    ((x.withTransport t₁).holdAuction now earlier request context).outcome.map
        BidResponse.withoutLatencies =
      ((x.withTransport t₂).holdAuction now earlier request context).outcome.map
        BidResponse.withoutLatencies := by
  cases hasked : x.asked now request context with
  | error e =>
    have h : ∀ t : Transport, (x.withTransport t).asked now request context = .error e :=
      fun _ => hasked
    rw [holdAuction_of_error (h t₁), holdAuction_of_error (h t₂)]
    rfl
  | ok asked =>
    obtain ⟨deadline, s⟩ := asked
    have h : ∀ t : Transport, (x.withTransport t).asked now request context = .ok (deadline, s) :=
      fun _ => hasked
    rw [outcome_of_asked (h t₁), outcome_of_asked (h t₂),
      untimed_mapped h₁ h₂ hstore hasked hin₁ hin₂]
    rfl

/-- Two auctions over transports that give the same replies, though not after the same time, come
to the same error or to the same response but for the latencies in it, if no partner is late in
either and categories are looked up at once.  If moreover the runtime does not say the same of the
tasks that crash, what the auctions come to is the same but for these words. -/
theorem holdAuction_latency (h₁ : t₁.RepliesBy reply) (h₂ : t₂.RepliesBy reply)
    (hstore : x.store.Instant)
    (hin₁ : (x.withTransport t₁).NoneLate now earlier request context)
    (hin₂ : (x.withTransport t₂).NoneLate now earlier request context) :
    ((x.withTransport t₁).holdAuction now earlier request context).outcome.map
        BidResponse.withoutLatencies =
      ((x.withTransport t₂).holdAuction now earlier request context).outcome.map
        BidResponse.withoutLatencies ∧
    ∀ reports₁ reports₂ : Nat → String,
      (((x.withTransport t₁).withReports reports₁).holdAuction now earlier request
          context).outcome.map (·.withoutCrashReports.withoutLatencies) =
        (((x.withTransport t₂).withReports reports₂).holdAuction now earlier request
          context).outcome.map (·.withoutCrashReports.withoutLatencies) := by
  have hsame := outcome_withTransport h₁ h₂ hstore hin₁ hin₂
  refine ⟨hsame, ?_⟩
  intro reports₁ reports₂
  have hreports : ∀ (x : Exchange) (reports : Nat → String),
      ((x.withReports reports).holdAuction now earlier request context).outcome.map
          (·.withoutCrashReports.withoutLatencies) =
        (x.holdAuction now earlier request context).outcome.map
          (·.withoutCrashReports.withoutLatencies) := by
    intro x reports
    have h := (x.holdAuction_withReports reports now earlier request context).outcome
    rw [← except_map_map, h, except_map_map]
  rw [hreports, hreports]
  simp only [BidResponse.withoutLatencies_withoutCrashReports]
  rw [← except_map_map, hsame, except_map_map]

/-- No partner is late if no reply takes longer than each of them has time. -/
theorem noneLate_of_le {n : Nat}
    (hreply : ∀ earlier call, (x.transport.answer earlier call).delay ≤ n)
    (htime : ∀ deadline s, x.asked now request context = .ok (deadline, s) →
      ∀ q ∈ s.requests, n ≤ q.deadline.remaining now) :
    x.NoneLate now earlier request context := by
  intro deadline s hasked i q hq r hr
  obtain ⟨before, hanswer⟩ := Transport.exists_of_mem_send hr
  rw [hanswer]
  exact Nat.le_trans (hreply before r.1) (htime deadline s hasked q (List.mem_of_getElem? hq))

/-- Offers one imp to the partners `a` and `b`. -/
def offerBoth : BidRequest where
  id := "r"
  imps := [{ id := "i", ext := some [("a", .nat 1), ("b", .nat 2)] }]

/-- An exchange in which both partners bid in answer to every reply. -/
def bothBid : Exchange where
  config := {}
  catalog := PartnerRound.twoAdapters "steady"
  adapters := PartnerRound.steadyOrCrashing
  transport := .offline
  store := .ofTable []
  rates := []

/-- Replies to `a` and to `b` after so many milliseconds. -/
def repliesAfter (a b : Nat) : Transport where
  answer _ call := ⟨if call.uri = "http://a" then a else b, .ok ⟨200, []⟩⟩

theorem noneLate_bothBid {a b : Nat} (ha : a ≤ 500) (hb : b ≤ 500) :
    (bothBid.withTransport (repliesAfter a b)).NoneLate 0 [] offerBoth {} := by
  refine noneLate_of_le (n := 500) ?_ ?_
  · intro earlier call
    simp only [withTransport, repliesAfter]
    split <;> assumption
  · intro deadline s hasked q hq
    have h : ∀ q ∈ ((bothBid.asked 0 offerBoth {}).toOption.map (·.2.requests)).getD [],
        500 ≤ q.deadline.remaining 0 := by decide
    rw [show bothBid.asked 0 offerBoth {} = .ok (deadline, s) from hasked] at h
    exact h q hq

/-- First `b` is the faster one and then `a`. -/
theorem holdAuction_latency_bothBid :
    let run (a b : Nat) := (bothBid.withTransport (repliesAfter a b)).holdAuction 0 [] offerBoth {}
    (run 5 3).finished = 5 ∧ (run 2 9).finished = 9 ∧
    (run 5 3).outcome.toOption.map (·.seatBids.map (·.seat)) = some [some "a", some "b"] ∧
    (run 5 3).outcome.map BidResponse.withoutLatencies =
      (run 2 9).outcome.map BidResponse.withoutLatencies := by
  refine ⟨rfl, rfl, rfl, ?_⟩
  exact (holdAuction_latency (fun _ _ => rfl) (fun _ _ => rfl) (fun _ _ _ => rfl)
    (noneLate_bothBid (by decide) (by decide)) (noneLate_bothBid (by decide) (by decide))).1

end Exchange

end AdExchange
