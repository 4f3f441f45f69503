import AdExchange.Proofs.Auction.Stages
import AdExchange.Proofs.Category.Deduplication
import AdExchange.Proofs.Category.Keys
import AdExchange.Proofs.Dispatch.Round
import AdExchange.Proofs.Seats

/-!
# The display keys in the response of an auction

A bid in the response has the display key that is found under its partner and its id; where none is
found, it has what its partner put there.  So it has a key of its own if it is not mistaken for
another winner of its partner, and if its partner puts no key into the extension of what is not a
video.  A partner that gives two bids one id gets one key for both.
-/

namespace AdExchange

open MappingRules

/-- A listed bid has a display key exactly if it is a video, and then its own one. -/
structure HasOwnKey (keyOf? : Bid → Option String) (bid : Bid) (w : WireBid) : Prop where
  isSome_iff : w.key?.isSome ↔ bid.mediaType = .video
  eq_keyOf? : bid.mediaType = .video → w.key? = (keyOf? bid).map .string

/-- No other winner has the partner and the id of a bid. -/
def Unmistaken (winners : List Contender) (p : PlacedBid) : Prop :=
  ∀ c ∈ winners, c.candidate.partner = p.partner → c.candidate.bidId = p.bid.id →
    c.candidate.place = p.place

section Mapping

variable {store : CategoryStore} {rules : MappingRules} {deadline : Deadline} {now : Nat}
  {responses : List PartnerResponse} {m : Timed CategoryMapping} {p : PlacedBid} {w : WireBid}

/-- A listed bid has the key of the last winner of its partner and its id, or what its partner put
there. -/
theorem key?_of_listedAs (h : mapByRules store rules deadline now responses = some m)
    (hw : p.ListedAs m.value.keys w) :
    w.key? = ((namedWinner? (rules.contest store deadline now responses).winners p.partner
      p.bid.id).map fun c => Json.string (c.displayKey rules.withCategory)).or p.bid.key? := by
  obtain ⟨-, -, -, -, hkeys⟩ := parts_of_mapByRules h
  obtain ⟨rank, multibid, rfl⟩ := hw
  rw [WireBid.key?_toWire, hkeys, get?_displayKeys, Option.map_map]
  rfl

/-- A bid that is not rejected and not mistaken for another one has its own key, unless it is not a
video and its partner put a key there. -/
theorem hasOwnKey_of_unmistaken (h : mapByRules store rules deadline now responses = some m)
    (hp : p ∈ placedBids responses) (hkept : p.place ∉ m.value.rejections.map (·.place))
    (hw : p.ListedAs m.value.keys w)
    (hunmistaken : Unmistaken (rules.contest store deadline now responses).winners p)
    (hext : p.bid.mediaType = .video ∨ p.bid.key? = none) :
    HasOwnKey (rules.keyOf? store deadline now) p.bid w := by
  have hkey := key?_of_listedAs h hw
  cases hnamed : namedWinner? (rules.contest store deadline now responses).winners p.partner
      p.bid.id with
  | some c =>
    -- The winner of these names stands where the bid stands.
    obtain ⟨hc, hpartner, hid⟩ := namedWinner?_mem hnamed
    obtain ⟨hvideo, -, -, hown⟩ := keyOf?_of_mem_winners hc hp (hunmistaken c hc hpartner hid)
    rw [hnamed, Option.map_some, Option.some_or] at hkey
    exact ⟨by simp [hkey, hvideo], fun _ => by rw [hkey, hown, Option.map_some]⟩
  | none =>
    have hnot : p.bid.mediaType ≠ .video := by
      intro hvideo
      obtain ⟨c, hc, hplace⟩ := exists_winner_of_kept h hp hvideo hkept
      obtain ⟨-, hpartner, hid, -⟩ := keyOf?_of_mem_winners hc hp hplace
      obtain ⟨w, hw⟩ := namedWinner?_isSome hc
      rw [hpartner, hid, hnamed] at hw
      cases hw
    rw [hnamed, Option.map_none, Option.none_or, hext.resolve_left hnot] at hkey
    exact ⟨by simp [hkey, hnot], fun hvideo => absurd hvideo hnot⟩

end Mapping

namespace Exchange

variable {x : Exchange} {now : Nat} {earlier : List HttpCall} {request : BidRequest}
  {context : AuctionContext}

/-- The seats of a response list bids of the partners' answers.  A listed bid has the key of the
last winner of its partner and its id, or what its partner put there; it has its own key if it is
not mistaken for another winner. -/
theorem holdAuction_category_keys {targeting : Targeting} {brand : BrandCategory}
    {response : BidResponse} (htargeting : request.targeting? = some targeting)
    (hbrand : targeting.includeBrandCategory = some brand)
    (hresponse : (x.holdAuction now earlier request context).outcome = .ok response) :
    ∃ deadline s rules, x.asked now request context = .ok (deadline, s) ∧
      ofTargeting brand targeting = .ok rules ∧
      let ended := now + (x.dispatched now earlier s).elapsed
      let bound := deadline.boundedBy ended (some x.config.categoryLookupTimeoutMs.toNat)
      let answers := x.answers now earlier request s
      let winners := (rules.contest x.store bound ended answers).winners
      ∀ seat ∈ response.seatBids, ∃ listed : List PlacedBid, listed.Sublist (placedBids answers) ∧
        List.Forall₂ (fun p w =>
          seat.seat = some p.partner ∧
          (∃ rank key multibid, w = p.bid.toWire rank key multibid) ∧
          (p.bid.mediaType = .video ↔ ∃ c ∈ winners, c.candidate.place = p.place) ∧
          w.key? = ((namedWinner? winners p.partner p.bid.id).map fun c =>
            Json.string (c.displayKey rules.withCategory)).or p.bid.key? ∧
          (Unmistaken winners p → p.bid.mediaType = .video ∨ p.bid.key? = none →
            HasOwnKey (rules.keyOf? x.store bound ended) p.bid w)) listed seat.bids := by
  obtain ⟨deadline, s, m, hasked, hmapped, rfl⟩ := outcome_holdAuction_eq_ok_iff.1 hresponse
  rw [mapped, mapResponses, htargeting] at hmapped
  rcases mapCategories_eq_ok_cases hmapped with ⟨hnone, -⟩ | ⟨brand', rules, hbrand', hrules, hm⟩
  · rw [hbrand] at hnone
    cases hnone
  obtain rfl : brand = brand' := Option.some.inj (hbrand.symm.trans hbrand')
  refine ⟨deadline, s, rules, hasked, hrules, ?_⟩
  intro ended bound answers winners seat hseat
  obtain ⟨-, -, -, hresponses, -⟩ := parts_of_mapByRules hm
  obtain ⟨listed, hsub, hseats, hlisted⟩ := exists_listed_of_mem_seatBids hresponses hseat
  have hmem : ∀ p ∈ listed, p ∈ placedBids answers ∧ seat.seat = some p.partner ∧
      p.place ∉ m.value.rejections.map (·.place) := fun p hp => ⟨hsub.subset hp, hseats p hp⟩
  refine ⟨listed, hsub, ((List.forall₂_and_left _ _).2 ⟨hmem, hlisted⟩).imp ?_⟩
  rintro p w ⟨⟨hp, hseat, hkept⟩, hw⟩
  refine ⟨hseat, ?_, ⟨fun hvideo => exists_winner_of_kept hm hp hvideo hkept, ?_⟩,
    key?_of_listedAs hm hw, hasOwnKey_of_unmistaken hm hp hkept hw⟩
  · obtain ⟨rank, multibid, rfl⟩ := hw
    exact ⟨rank, _, multibid, rfl⟩
  · rintro ⟨c, hc, hplace⟩
    exact (keyOf?_of_mem_winners hc hp hplace).1

/-- Offers one imp to the partner `a`, in a break for videos of 15 and of 30 seconds. -/
def offerBreak : BidRequest where
  id := "r"
  imps := [{ id := "i", ext := some [("a", .nat 1)] }]
  ext := some { prebid := some { targeting := some (breakTargeting none) } }

/-- An exchange in which the partner `a` has these bids. -/
def answeredWith (bids : List Bid) : Exchange where
  config := {}
  catalog := .ofList [{ id := 1, name := "a", endpoint := "http://a", adapter := "steady" }]
  adapters _ := some (.ofBids bids)
  transport := ⟨fun _ _ => ⟨0, .ok ⟨200, []⟩⟩⟩
  store := .ofTable []
  rates := []

def askedForBreak : ScopedRequests where
  requests := [{
    partner := "a"
    code := "a"
    request := { offerBreak with imps := [{ id := "i", ext := some [("bidder", .nat 1)] }] }
    deadline := ⟨500⟩ }]

theorem asked_offerBreak (bids : List Bid) :
    (answeredWith bids).asked 0 offerBreak {} = .ok (⟨500⟩, askedForBreak) := by
  have htmax : (answeredWith bids).tmax offerBreak {} = 500 := rfl
  have hreserved : (answeredWith bids).reserved offerBreak = 0 := rfl
  have hscope : (answeredWith bids).scopeRequest offerBreak ⟨500⟩ 0 = .ok askedForBreak := rfl
  refine asked_eq_ok_iff.2 ⟨?_, hscope⟩
  rw [htmax, hreserved]
  rfl

def breakAnswers (bids : List Bid) : List PartnerResponse :=
  (answeredWith bids).answers 0 [] offerBreak askedForBreak

/-- The auction has a response if the prices of the bids have buckets. -/
theorem outcome_answeredWith {bids : List Bid}
    (hpriced : (breakRules .medium).Priced (breakAnswers bids)) :
    ∃ m, mapByRules (.ofTable []) (breakRules .medium) ⟨50⟩ 0 (breakAnswers bids) = some m ∧
      ((answeredWith bids).holdAuction 0 [] offerBreak {}).outcome =
        .ok ((answeredWith bids).respond offerBreak 500 [] m.value) := by
  have hmapping : ∃ m,
      mapByRules (.ofTable []) (breakRules .medium) ⟨50⟩ 0 (breakAnswers bids) = some m ∧
      mapCategories (.ofTable []) 50 (breakTargeting none) ⟨500⟩ 0 (breakAnswers bids) = .ok m :=
    mapCategories_of_priced rfl (ofTargeting_break rfl) hpriced
  obtain ⟨m, hm, hcategories⟩ := hmapping
  have helapsed : ((answeredWith bids).dispatched 0 [] askedForBreak).elapsed = 0 := rfl
  have hmapped : (answeredWith bids).mapped 0 [] offerBreak ⟨500⟩ askedForBreak = .ok m := by
    rw [mapped, helapsed]
    exact hcategories
  exact ⟨m, hm, outcome_holdAuction_eq_ok_iff.2 ⟨_, _, m, asked_offerBreak bids, hmapped, rfl⟩⟩

/-- Three videos of different categories, two of them with the same id. -/
def sameIds : List Bid :=
  [{ breakVideo "1" 10 with categories := some ["sport"] },
   { breakVideo "1" 10 with categories := some ["news"] }, breakVideo "2" 30]

/-- The winners among the three videos. -/
def sameIdsWinners : List Contender :=
  ((breakRules .medium).contest (.ofTable []) ⟨50⟩ 0 (breakAnswers sameIds)).winners

/-- The first video has the key of the second one, which has the same id. -/
theorem holdAuction_category_keys_sameIds :
    let keyOf? := (breakRules .medium).keyOf? (.ofTable []) ⟨50⟩ 0
    (breakAnswers sameIds).flatMap (·.bids.map keyOf?) =
      [some "20.00_sport_15s", some "20.00_news_15s", some "20.00_c_30s"] ∧
    ∃ response,
      ((answeredWith sameIds).holdAuction 0 [] offerBreak {}).outcome = .ok response ∧
      response.seatBids.map (·.bids.map fun w => w.key?.bind (·.asString?)) =
        [[some "20.00_news_15s", some "20.00_news_15s", some "20.00_c_30s"]] ∧
      ∀ seat ∈ response.seatBids, ∃ listed : List PlacedBid,
        listed.Sublist (placedBids (breakAnswers sameIds)) ∧
        List.Forall₂ (fun p w => Unmistaken sameIdsWinners p → p.bid.mediaType = .video →
          HasOwnKey keyOf? p.bid w) listed seat.bids := by
  have hpriced : (breakRules .medium).Priced (breakAnswers sameIds) := by decide
  obtain ⟨m, hm, hresponse⟩ := outcome_answeredWith hpriced
  refine ⟨by decide +kernel, _, hresponse, ?_, ?_⟩
  · -- All three win, so none is rejected.
    obtain ⟨-, -, -, hresponses, hkeys⟩ := parts_of_mapByRules hm
    have hlength : m.value.rejections.length + sameIdsWinners.length =
        (videoEntries (breakAnswers sameIds)).length := by
      simpa [sameIdsWinners] using (perm_refs_rejections hm).length_eq
    have hwinners : sameIdsWinners.length = 3 := by decide +kernel
    have hentries : (videoEntries (breakAnswers sameIds)).length = 3 := by decide +kernel
    have hnone : m.value.rejections = [] := List.length_eq_zero_iff.1 (by omega)
    simp only [respond, assemble, hresponses, hkeys, hnone]
    decide +kernel
  · obtain ⟨deadline, s, rules, hasked, hrules, hseats⟩ :=
      holdAuction_category_keys rfl rfl hresponse
    cases (asked_offerBreak sameIds).symm.trans hasked
    cases (ofTargeting_break (v := none) (g := .medium) rfl).symm.trans hrules
    intro seat hseat
    obtain ⟨listed, hsub, hlisted⟩ := hseats seat hseat
    refine ⟨listed, hsub, hlisted.imp ?_⟩
    rintro p w ⟨-, -, -, -, hown⟩ hunmistaken hvideo
    exact hown hunmistaken (.inl hvideo)

end Exchange

end AdExchange
