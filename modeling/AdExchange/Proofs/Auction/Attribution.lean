import AdExchange.Proofs.Auction.Listing
import AdExchange.Proofs.Dispatch.Round
import AdExchange.Proofs.Dispatch.Validation
import AdExchange.Proofs.Scope.Outcome

/-!
# Whose bids a response has

Each seat of a response is that of a partner which the request names, and each bid of the seat is
made for an imp of the request that names the partner.  The bids are checked against what the
partner was asked when they come in; from there on they are brought to another currency and some
are left out, but none is given to another partner or to another imp.
-/

namespace AdExchange

/-! ## What becomes of a response -/

section Stages

variable {request : BidRequest} {q : PartnerRequest} {r : PartnerResponse}
  {requests : List PartnerRequest} {responses : List PartnerResponse}

theorem answers_settle (s : Settlement) (catalog : Catalog) (default : String)
    (warning : Option PartnerError) (h : r.Answers q) :
    (r.settle s catalog default warning).Answers q where
  partner := h.partner
  bids := by
    intro settled hsettled
    obtain ⟨bid, hbid, hok⟩ := List.mem_map.1 (mem_successes.1 hsettled)
    obtain ⟨price, -, rfl⟩ := Bid.settle_eq_ok_iff.1 hok
    exact h.bids bid hbid

theorem answers_normalize (rates : Rates) (default : String) (catalog : Catalog)
    (h : List.Forall₂ PartnerResponse.Answers requests responses) :
    List.Forall₂ PartnerResponse.Answers requests
      (normalize rates default request catalog responses) := by
  rw [normalize, List.forall₂_map_right_iff]
  exact h.imp fun _ _ => answers_settle _ _ _ _

/-- Where some bids are left out, the others answer. -/
theorem PartnerResponse.ThinnedTo.answers {thinned : PartnerResponse} (h : r.ThinnedTo thinned)
    (hanswers : r.Answers q) : thinned.Answers q where
  partner := h.partner.trans hanswers.partner
  bids bid hbid := hanswers.bids bid (h.bids.subset hbid)

end Stages

/-! ## The seats of a response -/

/-- A seat is that of the partner `name` of a request, which takes part in auctions, and each of its
bids has an id and is made for an imp of the request that names the partner. -/
structure SeatBid.AttributableTo (catalog : Catalog) (request : BidRequest) (seat : SeatBid)
    (name : String) : Prop where
  seat_eq : seat.seat = some name
  enabled : ∃ partner, catalog.resolve? request.aliases name = some partner ∧
    partner.enabled = true
  bids : ∀ bid ∈ seat.bids, bid.id ≠ "" ∧
    ∃ imp ∈ request.imps, imp.id = bid.impId ∧ (imp.fragment? name).isSome

theorem partners_of_answers {requests : List PartnerRequest} {responses : List PartnerResponse}
    (h : List.Forall₂ PartnerResponse.Answers requests responses) :
    responses.map (·.partner) = requests.map (·.partner) := by
  induction h with
  | nil => rfl
  | cons hr _ ih => rw [List.map_cons, List.map_cons, hr.partner, ih]

section Assembly

variable {request : BidRequest} {catalog : Catalog} {multibid : Dictionary MultiBid}
  {decisions : List PrivacyDecision} {deadline : Deadline} {now : Nat} {s : ScopedRequests}
  {input : AssemblyInput}

/-- The seat of a partner that was asked is attributable to it. -/
theorem attributableTo_of_seatBid? {q : PartnerRequest} {r : PartnerResponse} {seat : SeatBid}
    (h : scope request catalog multibid decisions deadline now = .ok s) (hq : q ∈ s.requests)
    (hr : r.Answers q) (hseat : seatBid? input r = some seat) :
    seat.AttributableTo catalog request r.partner where
  seat_eq := seat_of_seatBid? hseat
  enabled := by
    rw [hr.partner]
    exact enabled_of_mem_requests h hq
  bids := by
    intro w hw
    obtain ⟨bid, hbid, rank, key, multibid, rfl⟩ := exists_bid_of_seatBid? hseat hw
    obtain ⟨hid, imp, himp, himpid⟩ := hr.bids bid hbid
    obtain ⟨original, horiginal, heq, hnames⟩ := exists_imp_of_mem_requests h hq himp
    rw [hr.partner]
    exact ⟨hid, original, horiginal, heq.trans himpid, hnames⟩

/-- A response that is assembled from answers has one seat at most for each partner of the request,
in the order of the partners, and it is attributable to the partner. -/
theorem attributable_assemble
    (h : scope request catalog multibid decisions deadline now = .ok s)
    (hanswers : List.Forall₂ PartnerResponse.Answers s.requests input.responses) :
    ∃ names : List String, names.Nodup ∧ names.Sublist request.partnerNames ∧
      List.Forall₂ (SeatBid.AttributableTo catalog request) (assemble input).seatBids names := by
  have hsub : ((input.responses.filter fun r => (seatBid? input r).isSome).map
      (·.partner)).Sublist request.partnerNames := by
    refine (List.filter_sublist.map _).trans ?_
    rw [partners_of_answers hanswers, partners_of_scope h]
    exact List.filter_sublist
  refine ⟨_, request.nodup_partnerNames.sublist hsub, hsub, ?_⟩
  have hseats : List.Forall₂ Eq ((assemble input).seatBids.map (·.seat))
      (((input.responses.filter fun r => (seatBid? input r).isSome).map (·.partner)).map some) := by
    rw [seats_assemble, List.map_map]
    exact List.forall₂_refl _
  rw [List.forall₂_map_left_iff, List.forall₂_map_right_iff] at hseats
  have hall : ∀ seat ∈ (assemble input).seatBids, ∀ name, seat.seat = some name →
      seat.AttributableTo catalog request name := by
    intro seat hseat name hname
    obtain ⟨r, hr, hseat⟩ := List.mem_filterMap.1 hseat
    obtain ⟨q, hq, hqr⟩ := exists_of_mem_right hanswers hr
    have hattributable := attributableTo_of_seatBid? h hq hqr hseat
    rw [hattributable.seat_eq, Option.some.injEq] at hname
    rwa [← hname]
  exact ((List.forall₂_and_left _ _).2 ⟨hall, hseats⟩).imp fun seat name h => h.1 name h.2

end Assembly

namespace Exchange

variable {x : Exchange} {now : Nat} {earlier : List HttpCall} {request : BidRequest}
  {context : AuctionContext}

/-- The bids that an auction lists from answer what the partners were asked. -/
theorem answers_mapped {deadline : Deadline} {s : ScopedRequests} {m : Timed CategoryMapping}
    (h : x.mapped now earlier request deadline s = .ok m) :
    List.Forall₂ PartnerResponse.Answers s.requests m.value.responses := by
  have hanswers : List.Forall₂ PartnerResponse.Answers s.requests
      (x.answers now earlier request s) := answers_normalize _ _ _ (answers_dispatch ..)
  exact forall₂_comp (fun _ _ _ ha ht => ht.answers ha) hanswers (thinnedTo_mapped h)

/-- The seats of the response of an auction are those of different partners, in the order in which
the request names them, and each of them is attributable to its partner. -/
theorem holdAuction_attributable {response : BidResponse}
    (hresponse : (x.holdAuction now earlier request context).outcome = .ok response) :
    ∃ names : List String, names.Nodup ∧ names.Sublist request.partnerNames ∧
      List.Forall₂ (SeatBid.AttributableTo x.catalog request) response.seatBids names := by
  obtain ⟨deadline, s, m, hasked, hmapped, rfl⟩ := outcome_holdAuction_eq_ok_iff.1 hresponse
  obtain ⟨decisions, -, hscope⟩ := bind_eq_ok_iff.1 (instant_of_asked hasked).2
  exact attributable_assemble hscope (answers_mapped hmapped)

/-- Names the partner `a` by its own name and by another one, and a partner that takes no part. -/
def namesTwice : BidRequest where
  id := "r"
  imps := [{ id := "1", ext := some [("off", .nat 1), ("other", .nat 1)] },
    { id := "2", ext := some [("a", .nat 1)] }]
  ext := some { prebid := some { aliases := some [("other", "a")] } }

/-- An exchange in which each partner has these bids in answer to every reply. -/
def allBid (bids : List Bid) : Exchange where
  config := {}
  catalog := .ofList [{ id := 1, name := "a", endpoint := "http://a" },
    { id := 2, name := "off", endpoint := "http://off", enabled := false }]
  adapters _ := some (.ofBids bids)
  transport := ⟨fun _ _ => ⟨0, .ok ⟨200, []⟩⟩⟩
  store := .ofTable []
  rates := []

/-- A bid for each of two imps, one for another imp, and one without an id. -/
def strayBids : List Bid :=
  [{ id := "x", impId := "1", price := .ofNat 1, mediaType := .banner },
   { id := "y", impId := "2", price := .ofNat 1, mediaType := .banner },
   { id := "z", impId := "3", price := .ofNat 1, mediaType := .banner },
   { id := "", impId := "1", price := .ofNat 1, mediaType := .banner }]

def outcomeOfStrayBids : Except (Fault AuctionError) BidResponse :=
  ((allBid strayBids).holdAuction 0 [] namesTwice {}).outcome

/-- Under each of its names the partner is left with the bid for the imp that uses the name. -/
theorem holdAuction_attributable_strayBids : ∃ response, outcomeOfStrayBids = .ok response ∧
    response.seatBids.map (fun seat => (seat.seat, seat.bids.map fun w => (w.id, w.impId))) =
      [(some "other", [("x", "1")]), (some "a", [("y", "2")])] ∧
    ∃ names : List String, names.Nodup ∧ names.Sublist namesTwice.partnerNames ∧
      List.Forall₂ (SeatBid.AttributableTo (allBid strayBids).catalog namesTwice)
        response.seatBids names := by
  have h : outcomeOfStrayBids = .ok (outcomeOfStrayBids.toOption.getD default) := rfl
  exact ⟨_, h, rfl, holdAuction_attributable h⟩

end Exchange

end AdExchange
