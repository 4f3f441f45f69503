import AdExchange.Proofs.Category.Keys

/-!
# The video bids that are kept

Bids that are kept have a price bucket, a category and a length, and no two of them are of one
group.  Bids of which that is known are all kept.
-/

namespace AdExchange

/-! ## What becomes of the places -/

/-- The video bids of all responses, and where they stand. -/
def videoBids (responses : List PartnerResponse) : List PlacedBid :=
  (placedBids responses).filter fun p => p.bid.mediaType == .video

/-- A bid and whose it is, wherever it stands. -/
def PlacedBid.offer (p : PlacedBid) : String × Bid := (p.partner, p.bid)

theorem exists_mem_of_map_offer {bids bids' : List PlacedBid} {p : PlacedBid}
    (h : bids.map PlacedBid.offer = bids'.map PlacedBid.offer) (hp : p ∈ bids) :
    ∃ q ∈ bids', q.partner = p.partner ∧ q.bid = p.bid := by
  have hoffer : p.offer ∈ bids'.map PlacedBid.offer := h ▸ List.mem_map_of_mem hp
  obtain ⟨q, hq, hqp⟩ := List.mem_map.1 hoffer
  exact ⟨q, hq, congrArg Prod.fst hqp, congrArg Prod.snd hqp⟩

theorem mem_videoBids {responses : List PartnerResponse} {p : PlacedBid} :
    p ∈ videoBids responses ↔ p ∈ placedBids responses ∧ p.bid.mediaType = .video := by
  simp [videoBids]

theorem nodup_videoBids (responses : List PartnerResponse) : (videoBids responses).Nodup :=
  (nodup_placedBids responses).filter _

theorem map_offer_placedIn (i : Nat) (r : PartnerResponse) :
    (placedIn i r).map PlacedBid.offer = r.bids.map fun bid => (r.partner, bid) := by
  refine List.ext_getElem? fun n => ?_
  simp [placedIn, Function.comp_def, PlacedBid.offer]

/-- Bids that are left out are gone, and all others are left in their order. -/
theorem map_offer_withoutPlaces (places : List BidPlace) (responses : List PartnerResponse) :
    (placedBids (withoutPlaces places responses)).map PlacedBid.offer =
      ((placedBids responses).filter fun p => p.place ∉ places).map PlacedBid.offer := by
  have hrow : ∀ i r, (placedIn i { r with
        bids := (r.bids.zipIdx.filter fun b => !places.contains ⟨i, b.2⟩).map (·.1) }).map
          PlacedBid.offer =
      ((placedIn i r).filter fun p => p.place ∉ places).map PlacedBid.offer := by
    intro i r
    rw [map_offer_placedIn, placedIn, List.mapIdx_eq_zipIdx_map, List.filter_map, List.map_map,
      List.map_map]
    simp [Function.comp_def, PlacedBid.offer]
  simp only [placedBids, withoutPlaces, List.map_flatten, List.filter_flatten, List.mapIdx_mapIdx]
  congr 1
  refine List.ext_getElem? fun n => ?_
  simp only [List.getElem?_map, List.getElem?_mapIdx, Option.map_map]
  exact congrArg (Option.map · _) (funext (hrow n))

/-- So are the video bids. -/
theorem map_offer_videoBids (places : List BidPlace) (responses : List PartnerResponse) :
    (videoBids (withoutPlaces places responses)).map PlacedBid.offer =
      ((videoBids responses).filter fun p => p.place ∉ places).map PlacedBid.offer := by
  have hfilter : ∀ bids : List PlacedBid,
      (bids.filter fun p => p.bid.mediaType == .video).map PlacedBid.offer =
        (bids.map PlacedBid.offer).filter fun o => o.2.mediaType == .video := by
    intro bids
    rw [List.filter_map]
    rfl
  rw [videoBids, hfilter, map_offer_withoutPlaces, ← hfilter, videoBids, List.filter_comm]

/-! ## Bids that are not contested -/

namespace MappingRules

variable (store : CategoryStore) (rules : MappingRules) (deadline : Deadline) (now : Nat)

/-- The group of a video bid. -/
def group? (bid : Bid) : Option GroupingKey :=
  (rules.classify? store deadline now bid).map (·.groupingKey rules.withCategory)

/-- All video bids of some responses are classified, and no two are of one group. -/
structure Uncontested (responses : List PartnerResponse) : Prop where
  classified : ∀ p ∈ videoBids responses, (rules.classify? store deadline now p.bid).isSome
  nodup : ((videoBids responses).map fun p => rules.group? store deadline now p.bid).Nodup

end MappingRules

open MappingRules

/-! ## The bids that are kept -/

section Kept

variable {store : CategoryStore} {rules : MappingRules} {deadline : Deadline} {now : Nat}
  {responses : List PartnerResponse} {m : Timed CategoryMapping} {p : PlacedBid} {c : Contender}

/-- The video bids that are not rejected, where they stood before the mapping. -/
def keptVideos (responses : List PartnerResponse) (rejections : List Rejection) : List PlacedBid :=
  (videoBids responses).filter fun p => p.place ∉ rejections.map (·.place)

theorem map_offer_keptVideos (h : mapByRules store rules deadline now responses = some m) :
    (videoBids m.value.responses).map PlacedBid.offer =
      (keptVideos responses m.value.rejections).map PlacedBid.offer := by
  obtain ⟨-, -, -, hresponses, -⟩ := parts_of_mapByRules h
  rw [hresponses, map_offer_videoBids, keptVideos]

/-- A bid that is kept has won. -/
theorem exists_winner_of_mem_keptVideos (h : mapByRules store rules deadline now responses = some m)
    (hp : p ∈ keptVideos responses m.value.rejections) :
    ∃ c ∈ (rules.contest store deadline now responses).winners,
      c.IsOf store rules deadline now p := by
  obtain ⟨hvideo, hkept⟩ := List.mem_filter.1 hp
  obtain ⟨hplaced, hvideo⟩ := mem_videoBids.1 hvideo
  obtain ⟨c, hc, hplace⟩ := exists_winner_of_kept h hplaced hvideo (by simpa using hkept)
  exact ⟨c, hc, (isOf_of_mem_winners hc hplaced hplace).2⟩

/-- A bid that has won is kept. -/
theorem exists_mem_keptVideos_of_winner (h : mapByRules store rules deadline now responses = some m)
    (hc : c ∈ (rules.contest store deadline now responses).winners) :
    ∃ p ∈ keptVideos responses m.value.rejections, c.IsOf store rules deadline now p := by
  obtain ⟨e, he, hec⟩ := exists_entry_of_mem_winners hc
  have hof := isOf_of_contender? hec
  have hwins := ((settled_contest store rules deadline now responses).mem_winners_iff
    (ascending_contenders store rules deadline now responses)).1 hc
  have hnot : e.place ∉ m.value.rejections.map (·.place) := by
    intro hmem
    obtain ⟨r, hr, hplace⟩ := List.mem_map.1 hmem
    exact not_rejected_of_wins h hwins r hr (hplace.trans hof.place.symm)
  refine ⟨e.toPlacedBid, List.mem_filter.2 ⟨?_, by simpa using hnot⟩, hof⟩
  exact mem_videoBids.2 (mem_placedBids_of_mem_videoEntries he)

/-- No two bids that are kept are of one group. -/
theorem nodup_groups_keptVideos (h : mapByRules store rules deadline now responses = some m) :
    ((keptVideos responses m.value.rejections).map fun p =>
      rules.group? store deadline now p.bid).Nodup := by
  refine List.Nodup.map_on ?_ ((nodup_videoBids responses).filter _)
  intro p hp q hq hgroup
  obtain ⟨c, hc, hcp⟩ := exists_winner_of_mem_keptVideos h hp
  obtain ⟨d, hd, hdq⟩ := exists_winner_of_mem_keptVideos h hq
  simp only [group?, hcp.classified, hdq.classified, Option.map_some, Option.some.injEq,
    Contender.groupingKey_classification] at hgroup
  obtain rfl := (settled_contest store rules deadline now responses).winner_unique hc hd hgroup
  exact eq_of_place_eq (mem_videoBids.1 (List.mem_filter.1 hp).1).1
    (mem_videoBids.1 (List.mem_filter.1 hq).1).1 (hcp.place.symm.trans hdq.place)

/-- The bids that are kept are uncontested. -/
theorem uncontested_of_mapByRules (h : mapByRules store rules deadline now responses = some m) :
    rules.Uncontested store deadline now m.value.responses where
  classified := by
    intro p hp
    obtain ⟨q, hq, -, hbid⟩ := exists_mem_of_map_offer (map_offer_keptVideos h) hp
    obtain ⟨c, -, hcq⟩ := exists_winner_of_mem_keptVideos h hq
    rw [← hbid]
    exact Option.isSome_of_eq_some hcq.classified
  nodup := by
    have hgroups : ∀ bids : List PlacedBid,
        (bids.map fun p => rules.group? store deadline now p.bid) =
          (bids.map PlacedBid.offer).map fun o => rules.group? store deadline now o.2 := by
      intro bids
      rw [List.map_map]
      rfl
    rw [hgroups, map_offer_keptVideos h, ← hgroups]
    exact nodup_groups_keptVideos h

/-! ## The bids that are left alone -/

/-- Uncontested bids win, all of them. -/
theorem wins_of_uncontested (h : rules.Uncontested store deadline now responses)
    (hc : c ∈ rules.contenders store deadline now responses) :
    c.Wins rules.withCategory (rules.contenders store deadline now responses) := by
  refine ⟨hc, ?_⟩
  intro d hd hkey
  obtain ⟨e, he, hec⟩ := List.mem_filterMap.1 hc
  obtain ⟨e', he', hed⟩ := List.mem_filterMap.1 hd
  have hnodup := h.nodup
  rw [videoBids, ← map_toPlacedBid_videoEntries, List.map_map] at hnodup
  have hsame : e = e' := by
    refine List.inj_on_of_nodup_map hnodup he he' ?_
    simp only [Function.comp_apply, group?, (isOf_of_contender? hec).classified,
      (isOf_of_contender? hed).classified, Option.map_some, Contender.groupingKey_classification,
      hkey]
  subst hsame
  obtain rfl : d = c := Option.some.inj (hed.symm.trans hec)
  exact .refl d

theorem priced_of_uncontested (h : rules.Uncontested store deadline now responses) :
    rules.Priced responses := by
  intro e he form hform hbucket
  have hclassified := h.classified e.toPlacedBid
    (mem_videoBids.2 (mem_placedBids_of_mem_videoEntries he))
  simp [classify?, hform, hbucket, Except.toOption] at hclassified

/-- Uncontested bids are all kept. -/
theorem mapByRules_of_uncontested (h : rules.Uncontested store deadline now responses) :
    ∃ m, mapByRules store rules deadline now responses = some m ∧ m.value.responses = responses ∧
      m.value.rejections = [] := by
  obtain ⟨m, hm⟩ : ∃ m, mapByRules store rules deadline now responses = some m := by
    refine Option.ne_none_iff_exists'.1 ?_
    rw [ne_eq, mapByRules_eq_none_iff, not_not]
    exact priced_of_uncontested h
  -- A rejection would be that of a video bid, but each of these competes and wins.
  have hnone : m.value.rejections = [] := by
    refine List.eq_nil_iff_forall_not_mem.2 ?_
    intro r hr
    obtain ⟨e, he, her⟩ := exists_entry_of_mem_rejections hm hr
    have hclassified := h.classified e.toPlacedBid
      (mem_videoBids.2 (mem_placedBids_of_mem_videoEntries he))
    rw [← map_classification_contender?, Option.isSome_map] at hclassified
    obtain ⟨c, hc⟩ := Option.isSome_iff_exists.1 hclassified
    have hwins := wins_of_uncontested h (List.mem_filterMap.2 ⟨e, he, hc⟩)
    refine not_rejected_of_wins hm hwins r hr ?_
    rw [(isOf_of_contender? hc).place, ← her]
    rfl
  obtain ⟨-, -, -, hresponses, -⟩ := parts_of_mapByRules hm
  refine ⟨m, hm, ?_, hnone⟩
  rw [hresponses, hnone, List.map_nil, withoutPlaces_nil]

/-! ## The keys of the bids that are kept -/

/-- The key that is kept for a partner and a bid id. -/
def CategoryMapping.key? (m : CategoryMapping) (partner bidId : String) : Option String :=
  (Dictionary.get? m.keys partner).bind (·.get? bidId)

/-- A bid is one of some bids, and no other one of them has its partner and its id. -/
def PlacedBid.Alone (bids : List PlacedBid) (p : PlacedBid) : Prop :=
  p ∈ bids ∧ ∀ q ∈ bids, q.partner = p.partner → q.bid.id = p.bid.id → q = p

/-- The key that is kept for a partner and a bid id is that of a bid of theirs. -/
theorem exists_mem_of_key? {partner bidId key : String}
    (h : mapByRules store rules deadline now responses = some m)
    (hkey : m.value.key? partner bidId = some key) :
    ∃ p ∈ videoBids m.value.responses, p.partner = partner ∧ p.bid.id = bidId ∧
      rules.keyOf? store deadline now p.bid = some key := by
  obtain ⟨-, -, -, -, hkeys⟩ := parts_of_mapByRules h
  rw [CategoryMapping.key?, hkeys, get?_displayKeys] at hkey
  obtain ⟨c, hnamed, rfl⟩ := Option.map_eq_some_iff.1 hkey
  -- The winner whose key it is competes with a bid that is kept, and that is still there.
  obtain ⟨hc, rfl, rfl⟩ := namedWinner?_mem hnamed
  obtain ⟨q, hq, hcq⟩ := exists_mem_keptVideos_of_winner h hc
  obtain ⟨p, hp, hpartner, hbid⟩ := exists_mem_of_map_offer (map_offer_keptVideos h).symm hq
  refine ⟨p, hp, hpartner.trans hcq.partner.symm, ?_, ?_⟩
  · rw [hbid, hcq.bidId]
  · rw [hbid, keyOf?_eq_map_classify?, hcq.classified, Option.map_some,
      Contender.displayKey_classification]

/-- For each bid that is kept a key is kept, perhaps that of another bid of its partner. -/
theorem key?_isSome_of_mem (h : mapByRules store rules deadline now responses = some m)
    (hp : p ∈ videoBids m.value.responses) : (m.value.key? p.partner p.bid.id).isSome := by
  obtain ⟨q, hq, hpartner, hbid⟩ := exists_mem_of_map_offer (map_offer_keptVideos h) hp
  obtain ⟨c, hc, hcq⟩ := exists_winner_of_mem_keptVideos h hq
  obtain ⟨w, hw⟩ := namedWinner?_isSome hc
  obtain ⟨-, -, -, -, hkeys⟩ := parts_of_mapByRules h
  rw [CategoryMapping.key?, hkeys, get?_displayKeys, ← hpartner, ← hbid, ← hcq.partner,
    ← hcq.bidId, hw]
  rfl

/-- The key that is kept for a bid is its own if the bid is alone. -/
theorem key?_of_alone (h : mapByRules store rules deadline now responses = some m)
    (hp : p.Alone (videoBids m.value.responses)) :
    (m.value.key? p.partner p.bid.id).isSome ∧
      m.value.key? p.partner p.bid.id = rules.keyOf? store deadline now p.bid := by
  have hsome := key?_isSome_of_mem h hp.1
  refine ⟨hsome, ?_⟩
  obtain ⟨key, hkey⟩ := Option.isSome_iff_exists.1 hsome
  obtain ⟨q, hq, hpartner, hid, hown⟩ := exists_mem_of_key? h hkey
  rw [hp.2 q hq hpartner hid] at hown
  rw [hkey, hown]

end Kept

end AdExchange
