import AdExchange.Proofs.Category.Places
import AdExchange.Proofs.Results
import AdExchange.SeatAssembly

/-!
# The bids that a response lists

Each seat lists some bids of one partner in their order: those that are neither rejected nor beyond
the limit of the partner.  Each of them has the display key that is kept for the partner and the id
of the bid; where none is kept, the bid has what its partner put there.
-/

namespace AdExchange

/-! ## The display key -/

/-- Where the extension of a bid has its display key. -/
def displayKeyPath : List String := ["prebid", "targeting", "hb_pb_cat_dur"]

def WireBid.key? (w : WireBid) : Option Json := w.ext.bind (·.path? displayKeyPath)

/-- What a partner put where the display key of its bid is to stand. -/
def Bid.key? (b : Bid) : Option Json := b.ext.bind (·.path? displayKeyPath)

/-- The `prebid` member in the extension of a listed bid. -/
theorem exists_prebid_wireExt (bid : Bid) (rank : Nat) (key : Option String)
    (multibid : Option MultiBid) :
    ∃ prebid, Dictionary.get? (bid.wireExt rank key multibid) "prebid" = some (.object prebid) ∧
      Dictionary.get? prebid "targeting" =
        (key.map fun key => Json.object [("hb_pb_cat_dur", .string key)]).or
          (bid.ext.bind (·.path? ["prebid", "targeting"])) := by
  refine ⟨_, Dictionary.get?_insert_self _ _ _, ?_⟩
  cases key with
  | some key => exact Dictionary.get?_insert_self _ _ _
  | none =>
    -- The offer and the code of the partner are written to other members.
    have hold : (bid.ext.bind (·.path? ["prebid", "targeting"])) =
        Dictionary.get? (((Dictionary.get? ((bid.ext.bind (·.asObject?)).getD [])
          "prebid").bind (·.asObject?)).getD []) "targeting" := by
      simp [Dictionary.get?_getD_nil, Json.path?, Json.get?, Option.bind_assoc]
    rw [Option.map_none, Option.none_or, hold]
    cases multibid.bind (·.targetBidderCodePrefix) <;> cases bid.offeredPrice <;>
      cases bid.offeredCurrency <;> by_cases hrank : 0 < rank <;>
        simp [hrank, Dictionary.get?_insert]

/-- A listed bid has the display key that is kept for it, or what its partner put there. -/
theorem WireBid.key?_toWire (bid : Bid) (rank : Nat) (key : Option String)
    (multibid : Option MultiBid) :
    (bid.toWire rank key multibid).key? = (key.map Json.string).or bid.key? := by
  obtain ⟨prebid, hprebid, htargeting⟩ := exists_prebid_wireExt bid rank key multibid
  have hkey : (bid.toWire rank key multibid).key? =
      (Dictionary.get? prebid "targeting").bind (·.path? ["hb_pb_cat_dur"]) := by
    simp [key?, Bid.toWire, displayKeyPath, Json.path?, Json.get?, Json.asObject?, hprebid]
  rw [hkey, htargeting]
  cases key with
  | some key => rfl
  | none =>
    simp [Bid.key?, displayKeyPath, Json.path?, Option.bind_assoc]

/-! ## The bids of a seat -/

/-- A bid is listed under the key that is kept for its partner and its id. -/
def PlacedBid.ListedAs (keys : Dictionary (Dictionary String)) (p : PlacedBid) (w : WireBid) :
    Prop :=
  ∃ rank multibid,
    w = p.bid.toWire rank ((Dictionary.get? keys p.partner).bind (·.get? p.bid.id)) multibid

/-- The bids that are listed are some of all, in their order. -/
theorem map_cappedBids_sublist (bids : List Bid) (limit : Option Nat) :
    ((cappedBids bids limit).map (·.1)).Sublist bids := by
  have hsub : ((cappedBids bids limit).map (·.1)).Sublist
      ((bids.zipIdx.map fun b => (b.1, rankWithinImp bids.zipIdx b)).map (·.1)) :=
    List.filter_sublist.map _
  simpa [Function.comp_def] using hsub

/-- A partner with bids has a seat, and lists there some of its bids. -/
theorem seatBid?_eq_some_iff {input : AssemblyInput} {r : PartnerResponse} {seat : SeatBid} :
    seatBid? input r = some seat ↔ r.bids ≠ [] ∧
      let multibid := Dictionary.get? input.multibid r.partner
      let keys := (Dictionary.get? input.keys r.partner).getD []
      seat = {
        bids := (cappedBids r.bids (multibid.map (·.maxBids.toNat))).map fun b =>
          b.1.toWire b.2 (Dictionary.get? keys b.1.id) multibid
        seat := some r.partner
        group := some 0 } := by
  rw [seatBid?]
  by_cases hbids : r.bids = []
  · simp [hbids]
  · simp [hbids, eq_comm (a := seat)]

theorem seat_of_seatBid? {input : AssemblyInput} {r : PartnerResponse} {seat : SeatBid}
    (h : seatBid? input r = some seat) : seat.seat = some r.partner := by
  obtain ⟨-, rfl⟩ := seatBid?_eq_some_iff.1 h
  rfl

/-- Each bid of a seat is a bid of its partner. -/
theorem exists_bid_of_seatBid? {input : AssemblyInput} {r : PartnerResponse} {seat : SeatBid}
    {w : WireBid} (h : seatBid? input r = some seat) (hw : w ∈ seat.bids) :
    ∃ bid ∈ r.bids, ∃ rank key multibid, w = bid.toWire rank key multibid := by
  obtain ⟨-, rfl⟩ := seatBid?_eq_some_iff.1 h
  obtain ⟨⟨bid, rank⟩, hmem, rfl⟩ := List.mem_map.1 hw
  have hbid : bid ∈ r.bids :=
    (map_cappedBids_sublist r.bids _).subset (List.mem_map_of_mem (f := Prod.fst) hmem)
  exact ⟨bid, hbid, rank, _, _, rfl⟩

/-- The seats are those of the partners with bids, in the order of the responses. -/
theorem seats_assemble (input : AssemblyInput) :
    (assemble input).seatBids.map (·.seat) =
      (input.responses.filter fun r => (seatBid? input r).isSome).map (some ·.partner) :=
  map_filterMap_of_eq (fun _ _ => seat_of_seatBid?) input.responses

/-- The bids of a response that is left without those at some places. -/
theorem exists_placed_of_mem_withoutPlaces {places : List BidPlace}
    {responses : List PartnerResponse} {r : PartnerResponse}
    (hr : r ∈ withoutPlaces places responses) :
    ∃ kept : List PlacedBid, kept.Sublist (placedBids responses) ∧ kept.map (·.bid) = r.bids ∧
      ∀ p ∈ kept, p.partner = r.partner ∧ p.place ∉ places := by
  obtain ⟨i, hi, rfl⟩ := List.mem_mapIdx.1 hr
  refine ⟨(placedIn i responses[i]).filter fun p => !places.contains p.place,
    List.filter_sublist.trans (placedIn_sublist hi), ?_, ?_⟩
  · simp only [placedIn, List.mapIdx_eq_zipIdx_map, List.filter_map, List.map_map]
    rfl
  · intro p hp
    obtain ⟨hmem, hplace⟩ := List.mem_filter.1 hp
    obtain ⟨j, hj, rfl⟩ := List.mem_mapIdx.1 hmem
    exact ⟨rfl, by simpa using hplace⟩

/-- A seat lists bids of one partner that have not been left out, each under the key that is kept
for it. -/
theorem exists_listed_of_mem_seatBids {input : AssemblyInput} {places : List BidPlace}
    {responses : List PartnerResponse}
    (hresponses : input.responses = withoutPlaces places responses) {seat : SeatBid}
    (hseat : seat ∈ (assemble input).seatBids) :
    ∃ listed : List PlacedBid, listed.Sublist (placedBids responses) ∧
      (∀ p ∈ listed, seat.seat = some p.partner ∧ p.place ∉ places) ∧
      List.Forall₂ (PlacedBid.ListedAs input.keys) listed seat.bids := by
  obtain ⟨r, hr, hseat⟩ := List.mem_filterMap.1 hseat
  rw [hresponses] at hr
  obtain ⟨kept, hkept, hbids, hplaces⟩ := exists_placed_of_mem_withoutPlaces hr
  obtain ⟨-, rfl⟩ := seatBid?_eq_some_iff.1 hseat
  generalize (Dictionary.get? input.multibid r.partner).map (·.maxBids.toNat) = limit
  have hsub : ((cappedBids r.bids limit).map (·.1)).Sublist (kept.map (·.bid)) := by
    rw [hbids]
    exact map_cappedBids_sublist r.bids limit
  obtain ⟨listed, hlisted, heq⟩ := List.sublist_map_iff.1 hsub
  refine ⟨listed, hlisted.trans hkept, ?_, ?_⟩
  · intro p hp
    obtain ⟨hpartner, hplace⟩ := hplaces p (hlisted.subset hp)
    exact ⟨congrArg some hpartner.symm, hplace⟩
  · have hsame : List.Forall₂ Eq (listed.map (·.bid)) ((cappedBids r.bids limit).map (·.1)) :=
      heq ▸ List.forall₂_refl _
    rw [List.forall₂_map_left_iff, List.forall₂_map_right_iff] at hsame
    have hpartner : ∀ p ∈ listed, p.partner = r.partner :=
      fun p hp => (hplaces p (hlisted.subset hp)).1
    rw [List.forall₂_map_right_iff]
    refine ((List.forall₂_and_left _ _).2 ⟨hpartner, hsame⟩).imp ?_
    rintro p ⟨bid, rank⟩ ⟨hpartner, rfl⟩
    refine ⟨rank, Dictionary.get? input.multibid r.partner, ?_⟩
    rw [hpartner, ← Dictionary.get?_getD_nil]

end AdExchange
