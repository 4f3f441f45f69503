import AdExchange.Category.Mapping
import AdExchange.Proofs.Ascending

/-!
# Where bids stand

A place holds one bid, so that a bid is known by its place, and a video bid also by its number.
-/

namespace AdExchange

variable {responses : List PartnerResponse}

/-- The bids of one response, the one at the place `i`. -/
def placedIn (i : Nat) (r : PartnerResponse) : List PlacedBid :=
  r.bids.mapIdx fun j b => ⟨⟨i, j⟩, r.partner, b⟩

theorem placedIn_sublist {i : Nat} (hi : i < responses.length) :
    (placedIn i responses[i]).Sublist (placedBids responses) :=
  List.sublist_flatten_of_mem (List.mem_mapIdx.2 ⟨i, hi, rfl⟩)

/-- Which bids stand where. -/
theorem mem_placedBids {p : PlacedBid} :
    p ∈ placedBids responses ↔ ∃ r, responses[p.place.response]? = some r ∧
      r.partner = p.partner ∧ r.bids[p.place.bid]? = some p.bid := by
  obtain ⟨⟨i, j⟩, partner, bid⟩ := p
  simp only [placedBids, List.mem_flatten, List.mem_mapIdx, List.getElem?_eq_some_iff]
  constructor
  · rintro ⟨_, ⟨i', hi, rfl⟩, hp⟩
    obtain ⟨j', hj, heq⟩ := List.mem_mapIdx.1 hp
    cases heq
    exact ⟨responses[i], ⟨hi, rfl⟩, rfl, hj, rfl⟩
  · rintro ⟨r, ⟨hi, rfl⟩, rfl, hj, rfl⟩
    refine ⟨_, ⟨i, hi, rfl⟩, ?_⟩
    exact List.mem_mapIdx.2 ⟨j, hj, rfl⟩

/-- A place holds one bid. -/
theorem eq_of_place_eq {p q : PlacedBid} (hp : p ∈ placedBids responses)
    (hq : q ∈ placedBids responses) (heq : p.place = q.place) : p = q := by
  obtain ⟨r, hr, hpartner, hbid⟩ := mem_placedBids.1 hp
  obtain ⟨r', hr', hpartner', hbid'⟩ := mem_placedBids.1 hq
  obtain ⟨place, partner, bid⟩ := p
  obtain ⟨place', partner', bid'⟩ := q
  simp only at *
  subst heq
  rw [hr, Option.some.injEq] at hr'
  subst hr'
  rw [hbid, Option.some.injEq] at hbid'
  rw [← hpartner, ← hpartner', hbid']

theorem map_toPlacedBid_videoEntries (responses : List PartnerResponse) :
    (videoEntries responses).map (·.toPlacedBid) =
      (placedBids responses).filter fun p => p.bid.mediaType == .video := by
  refine List.ext_getElem? fun n => ?_
  simp [videoEntries, Function.comp_def]

theorem mem_placedBids_of_mem_videoEntries {e : VideoEntry} (he : e ∈ videoEntries responses) :
    e.toPlacedBid ∈ placedBids responses ∧ e.bid.mediaType = .video := by
  have hmem := List.mem_map_of_mem (f := VideoEntry.toPlacedBid) he
  rw [map_toPlacedBid_videoEntries, List.mem_filter] at hmem
  exact ⟨hmem.1, by simpa using hmem.2⟩

/-- No bid is there twice. -/
theorem nodup_placedBids (responses : List PartnerResponse) : (placedBids responses).Nodup := by
  rw [placedBids, List.nodup_flatten]
  constructor
  · intro row hrow
    obtain ⟨i, hi, rfl⟩ := List.mem_mapIdx.1 hrow
    refine List.pairwise_iff_getElem.2 ?_
    intro j j' hj hj' hlt heq
    simp only [List.getElem_mapIdx, PlacedBid.mk.injEq, BidPlace.mk.injEq] at heq
    omega
  · refine List.pairwise_iff_getElem.2 ?_
    intro i i' hi hi' hlt p hp hp'
    simp only [List.getElem_mapIdx] at hp hp'
    obtain ⟨j, hj, rfl⟩ := List.mem_mapIdx.1 hp
    obtain ⟨j', hj', heq⟩ := List.mem_mapIdx.1 hp'
    simp only [PlacedBid.mk.injEq, BidPlace.mk.injEq] at heq
    omega

@[simp] theorem withoutPlaces_nil (responses : List PartnerResponse) :
    withoutPlaces [] responses = responses := by
  refine List.ext_getElem? fun n => ?_
  cases hn : responses[n]? <;> simp [withoutPlaces, hn]

/-- Video bids are numbered in their order. -/
theorem ascending_videoEntries (responses : List PartnerResponse) :
    Ascending VideoEntry.position (videoEntries responses) := by
  refine List.pairwise_iff_getElem.2 ?_
  intro i j hi hj hlt
  simpa [videoEntries] using hlt

theorem ascending_refs (responses : List PartnerResponse) :
    Ascending BidRef.position ((videoEntries responses).map VideoEntry.ref) :=
  List.pairwise_map.2 (ascending_videoEntries responses)

/-- A video bid is known by its place. -/
theorem eq_of_entry_place_eq {e e' : VideoEntry} (he : e ∈ videoEntries responses)
    (he' : e' ∈ videoEntries responses) (heq : e.place = e'.place) : e = e' := by
  have hbid := eq_of_place_eq (mem_placedBids_of_mem_videoEntries he).1
    (mem_placedBids_of_mem_videoEntries he').1 heq
  obtain ⟨n, hn, rfl⟩ := List.mem_mapIdx.1 he
  obtain ⟨n', hn', rfl⟩ := List.mem_mapIdx.1 he'
  obtain rfl : n = n' := ((nodup_placedBids responses).filter _).getElem_inj_iff.1 hbid
  rfl

end AdExchange
