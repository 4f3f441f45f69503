import AdExchange.Proofs.Auction.Stages
import AdExchange.Proofs.Category.Outcome
import AdExchange.Proofs.Price.Settlement
import AdExchange.Proofs.Seats

/-!
# Where the bids of a response come from

Partners offer bids.  An auction settles them at a price and leaves out some of them, but makes up
none: each bid that a seat lists is one that the partner of the seat has offered, settled.
-/

namespace AdExchange

/-- Some bids of a response are left out.  The partner and the order of the others stay. -/
structure PartnerResponse.ThinnedTo (r thinned : PartnerResponse) : Prop where
  partner : thinned.partner = r.partner
  bids : thinned.bids.Sublist r.bids

theorem thinnedTo_withoutPlaces (places : List BidPlace) (responses : List PartnerResponse) :
    List.Forall₂ PartnerResponse.ThinnedTo responses (withoutPlaces places responses) := by
  rw [List.forall₂_iff_get]
  refine ⟨by simp [withoutPlaces], ?_⟩
  intro i hi hi'
  simp only [withoutPlaces, List.get_eq_getElem, List.getElem_mapIdx]
  refine ⟨rfl, ?_⟩
  have hsub := (List.filter_sublist (l := responses[i].bids.zipIdx)
    (p := fun b => !places.contains ⟨i, b.2⟩)).map Prod.fst
  rwa [List.zipIdx_map_fst] at hsub

/-- The mapping of video bids to categories leaves out the bids that it rejects. -/
theorem responses_mapCategories {store : CategoryStore} {lookupTimeout : Nat}
    {targeting : Targeting} {deadline : Deadline} {now : Nat} {responses : List PartnerResponse}
    {m : Timed CategoryMapping}
    (hm : mapCategories store lookupTimeout targeting deadline now responses = .ok m) :
    m.value.responses = withoutPlaces (m.value.rejections.map (·.place)) responses := by
  rcases mapCategories_eq_ok_cases hm with ⟨-, rfl⟩ | ⟨brand, rules, -, -, hm⟩
  · exact (withoutPlaces_nil responses).symm
  · obtain ⟨-, -, -, hresponses, -⟩ := parts_of_mapByRules hm
    exact hresponses

namespace Exchange

section

variable (x : Exchange) (now : Nat) (earlier : List HttpCall) (request : BidRequest)
  (context : AuctionContext)

/-- The responses of the partners as they come in; none if the auction fails before any partner is
asked. -/
def offers : List PartnerResponse :=
  (dispatch x.catalog x.adapters x.transport now earlier
    (x.requestsAsked now request context) x.texts.crash).responses

/-- What the bids of an auction are settled with. -/
def settlement : Settlement :=
  ⟨x.rates, request, (settlementCurrency request x.config.defaultCurrency).1⟩

end

variable {x : Exchange} {now : Nat} {earlier : List HttpCall} {request : BidRequest}
  {context : AuctionContext} {deadline : Deadline} {s : ScopedRequests} {m : Timed CategoryMapping}

/-- The answers that go on are those of the partners without the bids that are rejected. -/
theorem responses_mapped (h : x.mapped now earlier request deadline s = .ok m) :
    m.value.responses =
      withoutPlaces (m.value.rejections.map (·.place)) (x.answers now earlier request s) := by
  rw [mapped, mapResponses] at h
  split at h
  · cases h
    exact (withoutPlaces_nil _).symm
  · exact responses_mapCategories h

theorem thinnedTo_mapped (h : x.mapped now earlier request deadline s = .ok m) :
    List.Forall₂ PartnerResponse.ThinnedTo (x.answers now earlier request s)
      m.value.responses := by
  rw [responses_mapped h]
  exact thinnedTo_withoutPlaces _ _

theorem mem_answers {r : PartnerResponse} (h : r ∈ x.answers now earlier request s) :
    ∃ offer ∈ (x.dispatched now earlier s).responses, ∃ warning,
      r = offer.settle (x.settlement request) x.catalog x.config.defaultCurrency warning := by
  rw [answers, normalize] at h
  obtain ⟨offer, hoffer, rfl⟩ := List.mem_map.1 h
  exact ⟨offer, hoffer, _, rfl⟩

/-- Each bid that a seat lists is one that the partner of the seat has offered, settled. -/
theorem exists_offer_of_mem_seatBids {response : BidResponse} {seat : SeatBid} {w : WireBid}
    (hresponse : (x.holdAuction now earlier request context).outcome = .ok response)
    (hseat : seat ∈ response.seatBids) (hw : w ∈ seat.bids) :
    ∃ r ∈ x.offers now earlier request context, seat.seat = some r.partner ∧
      ∃ offered ∈ r.bids, ∃ settled,
        offered.settle (x.settlement request) r.partner
            (bidCurrency x.catalog x.config.defaultCurrency r.code) = .ok settled ∧
          ∃ rank key multibid, w = settled.toWire rank key multibid := by
  obtain ⟨deadline, s, m, hasked, hmapped, rfl⟩ := outcome_holdAuction_eq_ok_iff.1 hresponse
  obtain ⟨mapped, hmem, hseat⟩ := List.mem_filterMap.1 hseat
  obtain ⟨settled, hsettled, hwire⟩ := exists_bid_of_seatBid? hseat hw
  obtain ⟨answer, hanswer, hthinned⟩ := exists_of_mem_right (thinnedTo_mapped hmapped) hmem
  obtain ⟨r, hr, warning, rfl⟩ := mem_answers hanswer
  obtain ⟨offered, hoffered, hok⟩ :=
    List.mem_map.1 (mem_successes.1 (hthinned.bids.subset hsettled))
  refine ⟨r, ?_, ?_, offered, hoffered, settled, hok, hwire⟩
  · rw [offers, requestsAsked, hasked]
    exact hr
  · rw [seat_of_seatBid? hseat, hthinned.partner]
    rfl

end Exchange

end AdExchange
