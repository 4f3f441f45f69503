import AdExchange.Proofs.Delays
import Mathlib.Data.List.Forall2

/-!
# Bids that answer a request

Whatever an adapter makes of the replies to its calls, the response of a partner has only bids
without a defect.  So all of them answer what the partner was asked, at prices that are not
negative.
-/

namespace AdExchange

/-- A bid has an id and is made for an imp of the request. -/
def Bid.Answers (request : BidRequest) (bid : Bid) : Prop :=
  bid.id ≠ "" ∧ ∃ imp ∈ request.imps, imp.id = bid.impId

/-- A response is that of the partner that was asked, and all its bids answer what was asked. -/
structure PartnerResponse.Answers (q : PartnerRequest) (r : PartnerResponse) : Prop where
  partner : r.partner = q.partner
  bids : ∀ bid ∈ r.bids, bid.Answers q.request

theorem findImp?_isSome_iff {request : BidRequest} {id : String} :
    (request.findImp? id).isSome ↔ ∃ imp ∈ request.imps, imp.id = id := by
  simp [BidRequest.findImp?]

/-- A bid has no defect exactly if it answers the request, names its imp and has a price that is not
negative. -/
theorem Bid.defect?_eq_none_iff {request : BidRequest} {bid : Bid} :
    bid.defect? request = none ↔
      bid.Answers request ∧ bid.impId ≠ "" ∧ bid.price.negative = false := by
  rw [Bid.Answers, ← findImp?_isSome_iff, defect?]
  by_cases hid : bid.id = ""
  · simp [hid]
  by_cases himp : bid.impId = ""
  · simp [hid, himp]
  cases hfound : request.findImp? bid.impId with
  | none => simp [hid, himp]
  | some imp => simp [hid, himp]

/-- A response is that of the partner that was asked, and no bid of it has a defect. -/
structure PartnerResponse.Sound (q : PartnerRequest) (r : PartnerResponse) : Prop where
  partner : r.partner = q.partner
  bids : ∀ bid ∈ r.bids, bid.defect? q.request = none

theorem PartnerResponse.Sound.answers {q : PartnerRequest} {r : PartnerResponse} (h : r.Sound q) :
    r.Answers q where
  partner := h.partner
  bids bid hbid := (Bid.defect?_eq_none_iff.1 (h.bids bid hbid)).1

/-- What is left of a reading in the end has no defect. -/
theorem Reading.defect?_of_finish {request : BidRequest} {early errors : List PartnerError}
    {reading : Reading} {bids : List Bid}
    (h : reading.finish request early = .answered bids errors) :
    ∀ bid ∈ bids, bid.defect? request = none := by
  cases reading with
  | crashed => cases h
  | answered found reported =>
    cases h
    intro bid hbid
    exact Option.isNone_iff_eq_none.1 (List.mem_filter.1 hbid).2

namespace PartnerTurn

variable {catalog : Catalog} {adapters : Adapters} {transport : Transport} {now : Nat}
  {earlier : List HttpCall} {q : PartnerRequest}

/-- The bids that a turn has read have no defect. -/
theorem defect?_of_reading {bids : List Bid} {errors : List PartnerError}
    (h : (PartnerTurn.of catalog adapters transport now earlier q).reading.value =
      some (.answered bids errors)) :
    ∀ bid ∈ bids, bid.defect? q.request = none := by
  simp only [of] at h
  have hreading := Deadline.value_eq_of_await h
  cases hp : Preparation.of catalog adapters q with
  | refused reason =>
    rw [hp] at hreading
    cases hreading
    simp
  | crashed =>
    rw [hp] at hreading
    cases hreading
  | ready adapter plan =>
    rw [hp] at hreading
    exact Reading.defect?_of_finish hreading

/-- The bids of a partner's response have no defect. -/
theorem sound_response (total : Nat) (report : String) :
    ((PartnerTurn.of catalog adapters transport now earlier q).response total report).Sound q := by
  rw [response]
  split
  · next h => exact ⟨rfl, defect?_of_reading h⟩
  · exact ⟨rfl, by simp⟩
  · exact ⟨rfl, by simp⟩

end PartnerTurn

variable (catalog : Catalog) (adapters : Adapters) (transport : Transport) (now : Nat)

theorem sound_turns (earlier : List HttpCall) (requests : List PartnerRequest) (total : Nat)
    (reports : Nat → String) :
    List.Forall₂ PartnerResponse.Sound requests
      ((turns catalog adapters transport now earlier requests).mapIdx fun i t =>
        t.response total (reports i)) := by
  induction requests generalizing earlier reports with
  | nil => exact .nil
  | cons q rest ih =>
    rw [turns, List.mapIdx_cons]
    exact .cons (PartnerTurn.sound_response total _) (ih _ fun i => reports (i + 1))

/-- The responses of all partners are sound. -/
theorem sound_dispatch (earlier : List HttpCall) (requests : List PartnerRequest)
    (reports : Nat → String) :
    List.Forall₂ PartnerResponse.Sound requests
      (dispatch catalog adapters transport now earlier requests reports).responses :=
  sound_turns catalog adapters transport now earlier requests _ reports

/-- The responses of all partners answer what the partners were asked. -/
theorem answers_dispatch (earlier : List HttpCall) (requests : List PartnerRequest)
    (reports : Nat → String) :
    List.Forall₂ PartnerResponse.Answers requests
      (dispatch catalog adapters transport now earlier requests reports).responses :=
  (sound_dispatch catalog adapters transport now earlier requests reports).imp
    fun _ _ h => h.answers

end AdExchange
