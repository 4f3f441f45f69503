import AdExchange.Auction.Basic
import AdExchange.Proofs.Dispatch.Round
import AdExchange.Proofs.Results

/-!
# What the mapping to categories does not see

The mapping of video bids looks at the bids of the responses and at the names of the partners.  What
else there is in a response, its time and its errors, is handed through.  So what the mapping makes
of changed responses is what it makes of the responses, with the same change made to them.
-/

namespace AdExchange

/-- A change to responses that leaves their partners and their bids alone. -/
structure LeavesBids (f : PartnerResponse → PartnerResponse) : Prop where
  partner : ∀ r, (f r).partner = r.partner
  bids : ∀ r, (f r).bids = r.bids
  withBids : ∀ r bids, f { r with bids } = { f r with bids }

theorem leavesBids_untimed : LeavesBids PartnerResponse.untimed :=
  ⟨fun _ => rfl, fun _ => rfl, fun _ _ => rfl⟩

def CategoryMapping.mapResponses (f : PartnerResponse → PartnerResponse) (m : CategoryMapping) :
    CategoryMapping :=
  { m with responses := m.responses.map f }

/-- A mapping with a change made to its responses once it is there. -/
def Timed.mapResponses (f : PartnerResponse → PartnerResponse) (m : Timed CategoryMapping) :
    Timed CategoryMapping :=
  ⟨m.delay, m.value.mapResponses f⟩

section

variable {f : PartnerResponse → PartnerResponse} {store : CategoryStore} {rules : MappingRules}
  {lookupTimeout : Nat} {targeting : Targeting} {deadline deadline' : Deadline} {now now' : Nat}
  {responses responses' : List PartnerResponse}

theorem placedBids_map (h : LeavesBids f) (responses : List PartnerResponse) :
    placedBids (responses.map f) = placedBids responses := by
  refine congrArg List.flatten (List.ext_getElem? fun i => ?_)
  simp [Function.comp_def, h.partner, h.bids]

theorem withoutPlaces_map (h : LeavesBids f) (places : List BidPlace)
    (responses : List PartnerResponse) :
    withoutPlaces places (responses.map f) = (withoutPlaces places responses).map f := by
  refine List.ext_getElem? fun i => ?_
  simp only [withoutPlaces, List.getElem?_mapIdx, List.getElem?_map, Option.map_map]
  congr 1
  funext r
  simp only [Function.comp_apply, h.bids]
  exact (h.withBids r _).symm

theorem mapByRules_map (h : LeavesBids f) :
    mapByRules store rules deadline now (responses.map f) =
      (mapByRules store rules deadline now responses).map (·.mapResponses f) := by
  simp only [mapByRules, videoEntries, placedBids_map h, withoutPlaces_map h]
  cases (((placedBids responses).filter fun b => b.bid.mediaType == .video).mapIdx
    fun n b => (⟨b, n⟩ : VideoEntry)).mapM rules.assess <;> rfl

/-- Responses that are the same but for the change are mapped alike but for the change, as far as
the deadlines are of no consequence. -/
theorem mapCategories_congr (h : LeavesBids f) (hresponses : responses.map f = responses'.map f)
    (htime : ∀ rules responses,
      mapByRules store rules (deadline.boundedBy now (some lookupTimeout)) now responses =
        mapByRules store rules (deadline'.boundedBy now' (some lookupTimeout)) now' responses) :
    (mapCategories store lookupTimeout targeting deadline now responses).map (·.mapResponses f) =
      (mapCategories store lookupTimeout targeting deadline' now' responses').map
        (·.mapResponses f) := by
  rw [mapCategories, mapCategories]
  cases targeting.includeBrandCategory with
  | none =>
    simp only [Except.map, Timed.mapResponses, CategoryMapping.mapResponses, hresponses]
  | some brand =>
    cases hrules : MappingRules.ofTargeting brand targeting with
    | error fault => simp only [hrules, error_bind, Except.map]
    | ok rules =>
      simp only [hrules, ok_bind]
      generalize deadline.boundedBy now (some lookupTimeout) = bound at htime ⊢
      generalize deadline'.boundedBy now' (some lookupTimeout) = bound' at htime ⊢
      have hmap : (mapByRules store rules bound now responses).map (·.mapResponses f) =
          (mapByRules store rules bound' now' responses').map (·.mapResponses f) := by
        rw [← mapByRules_map h, ← mapByRules_map h, hresponses, htime]
      generalize mapByRules store rules bound now responses = m at hmap ⊢
      generalize mapByRules store rules bound' now' responses' = m' at hmap ⊢
      cases m <;> cases m' <;> simp_all [Except.map]

/-- So they are in an auction, whether or not its request wants bids to be mapped. -/
theorem Exchange.mapResponses_congr {x : Exchange} {request : BidRequest} (h : LeavesBids f)
    (hresponses : responses.map f = responses'.map f)
    (htime : ∀ rules responses (bound : Option Nat),
      mapByRules x.store rules (deadline.boundedBy now bound) now responses =
        mapByRules x.store rules (deadline'.boundedBy now' bound) now' responses) :
    (x.mapResponses request deadline now responses).map (·.mapResponses f) =
      (x.mapResponses request deadline' now' responses').map (·.mapResponses f) := by
  rw [mapResponses, mapResponses]
  cases request.targeting? with
  | none => simp only [Except.map, Timed.mapResponses, CategoryMapping.mapResponses, hresponses]
  | some targeting =>
    exact mapCategories_congr h hresponses fun rules responses => htime rules responses _

end

end AdExchange
