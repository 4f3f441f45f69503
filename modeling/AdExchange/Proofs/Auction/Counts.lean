import AdExchange.Proofs.Auction.Report
import AdExchange.Proofs.Category.Kept
import AdExchange.Proofs.Ranks

/-!
# How many bids there are at each stage

The log of an auction counts the bids of the partners once they are in one currency, the bids that
are rejected and the bids that are listed.  Between the first count and the others no bid is lost:
a bid is rejected, or it is beyond the limit of its partner, or it is listed.
-/

namespace AdExchange

/-! ## The bids of some responses -/

def bidTotal (responses : List PartnerResponse) : Nat := (responses.map (·.bids.length)).sum

theorem length_placedBids (responses : List PartnerResponse) :
    (placedBids responses).length = bidTotal responses := by
  have hrows : ((responses.mapIdx placedIn).map List.length) = responses.map (·.bids.length) := by
    refine List.ext_getElem? fun i => ?_
    simp [Function.comp_def, placedIn]
  exact List.length_flatten.trans (congrArg List.sum hrows)

/-- The bids at some places and all others are all bids. -/
theorem bidTotal_withoutPlaces (places : List BidPlace) (responses : List PartnerResponse) :
    bidTotal responses = bidTotal (withoutPlaces places responses) +
      ((placedBids responses).filter fun p => p.place ∈ places).length := by
  have hleft : (placedBids (withoutPlaces places responses)).length =
      ((placedBids responses).filter fun p => p.place ∉ places).length := by
    simpa using congrArg List.length (map_offer_withoutPlaces places responses)
  have hparts := (placedBids responses).length_eq_length_filter_add fun p => p.place ∈ places
  simp only [← decide_not] at hparts
  rw [← length_placedBids, ← length_placedBids, hleft, hparts, Nat.add_comm]

/-! ## The bids of a response -/

/-- How many bids for one imp a partner may list. -/
def AssemblyInput.limit (input : AssemblyInput) (partner : String) : Option Nat :=
  (Dictionary.get? input.multibid partner).map (·.maxBids.toNat)

theorem length_bids_seatBid? (input : AssemblyInput) (r : PartnerResponse) :
    ((seatBid? input r).toList.map (·.bids.length)).sum +
      beyondLimit (input.limit r.partner) r.bids = r.bids.length := by
  have hlisted := length_cappedBids r.bids (input.limit r.partner)
  cases hseat : seatBid? input r with
  | none =>
    have hbids : r.bids = [] := by
      by_contra hne
      simp [seatBid?, hne] at hseat
    rw [hbids] at hlisted ⊢
    simpa [cappedBids] using hlisted
  | some seat =>
    obtain ⟨-, rfl⟩ := seatBid?_eq_some_iff.1 hseat
    simpa [AssemblyInput.limit] using hlisted

/-- The bids that a response lists and those beyond the limits are all bids. -/
theorem listed_assemble (input : AssemblyInput) :
    ((assemble input).seatBids.map (·.bids.length)).sum +
      (input.responses.map fun r => beyondLimit (input.limit r.partner) r.bids).sum =
        bidTotal input.responses := by
  rw [assemble, bidTotal]
  induction input.responses with
  | nil => rfl
  | cons r rest ih =>
    have hr := length_bids_seatBid? input r
    rw [List.map_cons, List.map_cons, List.sum_cons, List.sum_cons, ← ih, ← hr]
    cases hseat : seatBid? input r with
    | none =>
      rw [List.filterMap_cons_none hseat]
      simp only [Option.toList_none, List.map_nil, List.sum_nil]
      omega
    | some seat =>
      rw [List.filterMap_cons_some hseat]
      simp only [Option.toList_some, List.map_cons, List.map_nil, List.sum_cons, List.sum_nil]
      omega

/-! ## The log of an auction -/

theorem partnerLogs_foldl_addPartner (log : AuctionLog) (responses : List PartnerResponse) :
    (responses.foldl AuctionLog.addPartner log).partnerLogs =
      log.partnerLogs ++ responses.map PartnerLog.of := by
  induction responses generalizing log with
  | nil => simp
  | cons r rest ih =>
    rw [List.foldl_cons, ih, List.map_cons]
    simp [AuctionLog.addPartner]

namespace Exchange

variable {x : Exchange} {now : Nat} {earlier : List HttpCall} {request : BidRequest}
  {context : AuctionContext} {deadline : Deadline} {s : ScopedRequests} {m : Timed CategoryMapping}

/-- The log has one record for each partner that was asked, also where the bids cannot be mapped. -/
theorem partnerLogs_holdAuction (h : x.asked now request context = .ok (deadline, s)) :
    (x.holdAuction now earlier request context).log.partnerLogs =
      (x.answers now earlier request s).map PartnerLog.of := by
  have hlogs := partnerLogs_foldl_addPartner (x.openingLog now request context)
    (x.answers now earlier request s)
  rw [holdAuction_of_ok h]
  cases x.mapped now earlier request deadline s with
  | error fault => cases fault <;> exact hlogs
  | ok m => exact hlogs

/-- There is one rejection for each bid that is left out. -/
theorem length_rejections_mapped (h : x.mapped now earlier request deadline s = .ok m) :
    m.value.rejections.length = ((placedBids (x.answers now earlier request s)).filter fun p =>
      p.place ∈ m.value.rejections.map (·.place)).length := by
  rw [mapped, mapResponses] at h
  split at h
  · cases h
    simp
  · rcases mapCategories_eq_ok_cases h with ⟨-, rfl⟩ | ⟨brand, rules, -, -, hm⟩
    · simp
    · simpa using congrArg List.length (names_rejections hm)

/-- The bids that are rejected and those that go on are all bids. -/
theorem bidTotal_mapped (h : x.mapped now earlier request deadline s = .ok m) :
    bidTotal (x.answers now earlier request s) =
      bidTotal m.value.responses + m.value.rejections.length := by
  rw [length_rejections_mapped h, responses_mapped h]
  exact bidTotal_withoutPlaces _ _

/-- The counts in the log of an auction add up.  The partners are those that are asked, in their
order.  Each of their bids that has a price is listed, or it is rejected, or it is beyond the number
of bids for one imp that the partner may list. -/
theorem holdAuction_counts {response : BidResponse}
    (hresponse : (x.holdAuction now earlier request context).outcome = .ok response) :
    let log := (x.holdAuction now earlier request context).log
    let limit := fun partner =>
      (Dictionary.get? (multibidOf request).configs partner).map (·.maxBids.toNat)
    ∃ deadline s m, x.asked now request context = .ok (deadline, s) ∧
      x.mapped now earlier request deadline s = .ok m ∧
      log.partnerLogs.map (fun l => (l.partner, l.code)) =
        s.requests.map (fun q => (q.partner, q.code)) ∧
      log.bidCount = (response.seatBids.map (·.bids.length)).sum ∧
      log.rejectedCount = m.value.rejections.length ∧
      (log.partnerLogs.map (·.bidCount)).sum = log.bidCount + log.rejectedCount +
        (m.value.responses.map fun r => beyondLimit (limit r.partner) r.bids).sum := by
  intro log limit
  obtain ⟨deadline, s, m, hasked, hmapped, rfl⟩ := outcome_holdAuction_eq_ok_iff.1 hresponse
  have hrun : x.holdAuction now earlier request context = _ := holdAuction_of_ok hasked
  simp only [hmapped] at hrun
  have hlog := congrArg AuctionRun.log hrun
  have hpartners : log.partnerLogs = (x.answers now earlier request s).map PartnerLog.of := by
    refine (congrArg AuctionLog.partnerLogs hlog).trans ?_
    exact partnerLogs_foldl_addPartner _ _
  have hcount : log.bidCount =
      ((x.respond request (x.tmax request context) s.warnings m.value).seatBids.map
        (·.bids.length)).sum := by
    refine (congrArg AuctionLog.bidCount hlog).trans ?_
    exact List.length_flatMap
  have hrejected : log.rejectedCount = m.value.rejections.length :=
    congrArg AuctionLog.rejectedCount hlog
  refine ⟨deadline, s, m, hasked, hmapped, ?_, hcount, hrejected, ?_⟩
  · rw [hpartners, List.map_map, ← names_answers]
    rfl
  · have htotal : (log.partnerLogs.map (·.bidCount)).sum =
        bidTotal (x.answers now earlier request s) := by
      rw [hpartners, List.map_map]
      rfl
    have hlisted : ((x.respond request (x.tmax request context) s.warnings m.value).seatBids.map
        (·.bids.length)).sum + (m.value.responses.map fun r =>
          beyondLimit (limit r.partner) r.bids).sum = bidTotal m.value.responses :=
      listed_assemble _
    have hmappedTotal := bidTotal_mapped hmapped
    omega

/-- Names the partner `a` with two imps, for each of which it may list one bid. -/
def listsOneBid : BidRequest where
  id := "r"
  imps := [{ id := "1", ext := some [("a", .nat 1)] }, { id := "2", ext := some [("a", .nat 1)] }]
  ext := some { prebid := some { multibid := some [{ bidder := some "a", maxBids := some 1 }] } }

/-- Three bids for one imp, and one for another. -/
def fourBids : List Bid :=
  [{ id := "x", impId := "1", price := .ofNat 1, mediaType := .banner },
   { id := "y", impId := "1", price := .ofNat 3, mediaType := .banner },
   { id := "z", impId := "2", price := .ofNat 1, mediaType := .banner },
   { id := "w", impId := "1", price := .ofNat 2, mediaType := .banner }]

def auctionOfFourBids : AuctionRun := (allBid fourBids).holdAuction 0 [] listsOneBid {}

/-- Of the three bids for one imp two are beyond the limit. -/
theorem holdAuction_counts_fourBids : ∃ response, auctionOfFourBids.outcome = .ok response ∧
    response.seatBids.map (·.bids.map (·.id)) = [["y", "z"]] ∧
    auctionOfFourBids.log.partnerLogs.map (·.bidCount) = [4] ∧
    auctionOfFourBids.log.bidCount = 2 ∧ auctionOfFourBids.log.rejectedCount = 0 ∧
    ∃ deadline s m, (allBid fourBids).asked 0 listsOneBid {} = .ok (deadline, s) ∧
      (allBid fourBids).mapped 0 [] listsOneBid deadline s = .ok m ∧
      4 = 2 + 0 + (m.value.responses.map fun r => beyondLimit
        ((Dictionary.get? (multibidOf listsOneBid).configs r.partner).map (·.maxBids.toNat))
        r.bids).sum := by
  have h : auctionOfFourBids.outcome =
      .ok (auctionOfFourBids.outcome.toOption.getD default) := rfl
  obtain ⟨deadline, s, m, hasked, hmapped, -, -, -, hsum⟩ := holdAuction_counts h
  exact ⟨_, h, rfl, rfl, rfl, rfl, deadline, s, m, hasked, hmapped, hsum⟩

end Exchange

end AdExchange
