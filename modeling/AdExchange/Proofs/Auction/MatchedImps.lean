import AdExchange.Proofs.Auction.PublishedFields
import AdExchange.Proofs.Dispatch.Validation
import AdExchange.Proofs.Scope.Outcome

/-!
# The imp that a bid is made for

A bid names its imp by an id.  When the bid comes in, the id is looked up among the imps that its
partner was shown; when a factor is chosen for it, the id is looked up among all imps of the
request.  Each look-up takes the first imp with the id.  So both come to the same imp unless another
imp with the id, which the partner was not shown, is in front of it.  Where no two imps have the
same id there is none.
-/

namespace AdExchange

/-! ## The first item with a property -/

/-- The item at the place `i` is the first one of the list that has the property. -/
structure FirstWhere {α : Type} (l : List α) (p : α → Prop) (i : Nat) (a : α) : Prop where
  getElem? : l[i]? = some a
  holds : p a
  before : ∀ j < i, ∀ b, l[j]? = some b → ¬ p b

section First

variable {α : Type} {l : List α} {p q : α → Prop} {i j : Nat} {a b : α}

/-- What is found is the first item with the property. -/
theorem find?_eq_some_iff_firstWhere {f : α → Bool} (hf : ∀ a, f a = true ↔ p a) :
    l.find? f = some a ↔ ∃ i, FirstWhere l p i a := by
  rw [List.find?_eq_some_iff_getElem, hf]
  constructor
  · rintro ⟨hp, i, hi, rfl, hbefore⟩
    refine ⟨i, List.getElem?_eq_getElem hi, hp, ?_⟩
    intro j hj b hb hpb
    obtain ⟨_, rfl⟩ := List.getElem?_eq_some_iff.1 hb
    simpa [(hf _).2 hpb] using hbefore j hj
  · rintro ⟨i, hi, hp, hbefore⟩
    obtain ⟨hlt, rfl⟩ := List.getElem?_eq_some_iff.1 hi
    refine ⟨hp, i, hlt, rfl, ?_⟩
    intro j hj
    have hnot := hbefore j hj _ (List.getElem?_eq_getElem (Nat.lt_trans hj hlt))
    rw [← hf] at hnot
    simpa using hnot

theorem FirstWhere.unique (h : FirstWhere l p i a) (h' : FirstWhere l p j b) : i = j := by
  rcases Nat.lt_trichotomy i j with hlt | rfl | hlt
  · exact absurd h.holds (h'.before i hlt a h.getElem?)
  · rfl
  · exact absurd h'.holds (h.before j hlt b h'.getElem?)

/-- The first item with a weaker property is at the same place exactly if no item before that place
has the property. -/
theorem FirstWhere.eq_place_iff (h : FirstWhere l p i a) (h' : FirstWhere l q j b)
    (himp : ∀ c, p c → q c) : j = i ↔ ∀ k < i, ∀ c, l[k]? = some c → ¬ q c := by
  constructor
  · rintro rfl
    exact h'.before
  · intro hnone
    have hfirst : FirstWhere l q i a := ⟨h.getElem?, himp a h.holds, hnone⟩
    exact h'.unique hfirst

/-- Where the items have different keys, an item is the first one with its key. -/
theorem FirstWhere.eq_place_of_nodup {κ : Type} {key : α → κ} {k : κ} (hkeys : (l.map key).Nodup)
    (h : FirstWhere l (fun c => key c = k) j b) (ha : l[i]? = some a) (hk : key a = k) : j = i := by
  have hj : (l.map key)[j]? = some k := by
    rw [List.getElem?_map, h.getElem?, Option.map_some, h.holds]
  have hi : (l.map key)[i]? = some k := by
    rw [List.getElem?_map, ha, Option.map_some, hk]
  obtain ⟨hlt, -⟩ := List.getElem?_eq_some_iff.1 hj
  exact (List.getElem?_inj hlt hkeys).1 (hj.trans hi.symm)

end First

/-! ## The two look-ups -/

/-- The medium by which the factor for a bid is chosen if the bid is made for the imp. -/
def Bid.mediumFor (bid : Bid) (imp : Imp) : AdjustmentMedia :=
  match bid.mediaType with
  | .banner => .banner
  | .audio => .audio
  | .native => .native
  | .video =>
    match imp.video.bind (·.placement) with
    | none => .video
    | some placement => if placement = 1 then .video else .videoOutstream

/-- The bid is matched to the imp at this place of the request when it comes in: the first one with
its id that names the partner.  The partner was shown it, so that it is found in what the partner
was asked, and there it has the same video. -/
structure Bid.MatchedTo (request : BidRequest) (q : PartnerRequest) (bid : Bid) (place : Nat)
    (imp : Imp) : Prop where
  first : FirstWhere request.imps
    (fun imp => imp.id = bid.impId ∧ (imp.fragment? q.partner).isSome) place imp
  found : ∃ fragment, imp.fragment? q.partner = some fragment ∧
    q.request.findImp? bid.impId =
      some (imp.scopedTo fragment (request.mayUseData q.partner))
  medium : adjustmentMedia q.request bid = bid.mediumFor imp

/-- The factor for the bid is chosen by the imp at this place of the request: the first one with the
id of the imp that the bid names. -/
structure Bid.DecidedBy (request : BidRequest) (bid : Bid) (place : Nat) (imp : Imp) : Prop where
  first : FirstWhere request.imps (fun imp => imp.id = bid.impId) place imp
  medium : adjustmentMedia request bid = bid.mediumFor imp

section LookUps

variable {request : BidRequest} {q : PartnerRequest} {bid : Bid} {imp : Imp}

theorem adjustmentMedia_eq (h : request.findImp? bid.impId = some imp) :
    adjustmentMedia request bid = bid.mediumFor imp := by
  rw [adjustmentMedia, h]
  rfl

/-- Some imp of the request decides if one has the id. -/
theorem exists_decidedBy (h : (request.findImp? bid.impId).isSome) :
    ∃ place imp, bid.DecidedBy request place imp := by
  obtain ⟨imp, himp⟩ := Option.isSome_iff_exists.1 h
  obtain ⟨place, hplace⟩ := (find?_eq_some_iff_firstWhere fun _ => beq_iff_eq).1 himp
  exact ⟨place, imp, hplace, adjustmentMedia_eq himp⟩

/-- What is found among the imps that a partner is shown is the first one with the id that names the
partner. -/
theorem findImp?_eq_some_iff_of_imps {partner id : String} {mayUseData : Bool} {shown : Imp}
    {own : BidRequest} (himps : own.imps = request.impsFor partner mayUseData) :
    own.findImp? id = some shown ↔ ∃ place imp fragment,
      FirstWhere request.imps (fun imp => imp.id = id ∧ (imp.fragment? partner).isSome) place imp ∧
      imp.fragment? partner = some fragment ∧ shown = imp.scopedTo fragment mayUseData := by
  have hnamed : ∀ imp : Imp, ((imp.fragment? partner).map fun fragment =>
      imp.scopedTo fragment mayUseData).any (·.id == id) = true ↔
        imp.id = id ∧ (imp.fragment? partner).isSome := by
    intro imp
    cases imp.fragment? partner with
    | none => simp
    | some fragment => simp [Imp.scopedTo]
  rw [BidRequest.findImp?, himps, BidRequest.impsFor, List.find?_filterMap,
    Option.bind_eq_some_iff]
  simp only [find?_eq_some_iff_firstWhere hnamed, Option.map_eq_some_iff]
  constructor
  · rintro ⟨imp, ⟨place, hplace⟩, fragment, hfragment, rfl⟩
    exact ⟨place, imp, fragment, hplace, hfragment, rfl⟩
  · rintro ⟨place, imp, fragment, hplace, hfragment, rfl⟩
    exact ⟨imp, ⟨place, hplace⟩, fragment, hfragment, rfl⟩

/-- A bid that answers what a partner is asked is matched to an imp of the request. -/
theorem exists_matchedTo_of_scope {catalog : Catalog} {multibid : Dictionary MultiBid}
    {decisions : List PrivacyDecision} {deadline : Deadline} {now : Nat} {s : ScopedRequests}
    (h : scope request catalog multibid decisions deadline now = .ok s) (hq : q ∈ s.requests)
    (hfound : (q.request.findImp? bid.impId).isSome) :
    ∃ place imp, bid.MatchedTo request q place imp := by
  obtain ⟨shown, hshown⟩ := Option.isSome_iff_exists.1 hfound
  have hmedium := adjustmentMedia_eq hshown
  have himps : q.request.imps = request.impsFor q.partner (request.mayUseData q.partner) := by
    obtain ⟨name, -, partner, decision, own, -, hown, rfl⟩ := exists_view_of_mem_requests h hq
    rw [BidRequest.imps_masked, BidRequest.imps_of_scopeFor hown]
  obtain ⟨place, imp, fragment, hfirst, hfragment, rfl⟩ :=
    (findImp?_eq_some_iff_of_imps himps).1 hshown
  exact ⟨place, imp, hfirst, ⟨fragment, hfragment, hshown⟩, hmedium⟩

end LookUps

namespace Exchange

variable {x : Exchange} {now : Nat} {earlier : List HttpCall} {request : BidRequest}
  {context : AuctionContext}

/-- Each bid of a partner is matched to the first imp with its id that names the partner, and a
partner that speaks OpenRTB has sent the bid for that imp.  The factor for the bid is chosen by the
first imp with the id.  That is the same imp of the request exactly if no imp before the matched one
has the id; then the medium is that of the imp as the partner was shown it.  Where no two imps have
the same id, it is always the same imp. -/
theorem holdAuction_matches_imps {deadline : Deadline} {s : ScopedRequests} {i : Nat}
    {q : PartnerRequest} {r : PartnerResponse} {bid : Bid}
    (hasked : x.asked now request context = .ok (deadline, s)) (hq : s.requests[i]? = some q)
    (hr : (x.dispatched now earlier s).responses[i]? = some r) (hbid : bid ∈ r.bids) :
    ∃ matched imp decisive other,
      bid.MatchedTo request q matched imp ∧
      ((x.round earlier s).SpeaksOpenRtb q → ∃ answer, (x.round earlier s).Receives i q answer ∧
        ∃ sent ∈ answer.seatBids.flatMap (·.bids), sent.impId = bid.impId ∧
          bid = OpenRtb.ofWire sent answer.cur (q.request.findImp? sent.impId)) ∧
      bid.DecidedBy request decisive other ∧
      (decisive = matched ↔
        ∀ j < matched, ∀ c, request.imps[j]? = some c → c.id ≠ bid.impId) ∧
      (decisive = matched → adjustmentMedia request bid = adjustmentMedia q.request bid) ∧
      ((request.imps.map (·.id)).Nodup → decisive = matched) := by
  obtain ⟨decisions, -, hscope⟩ := bind_eq_ok_iff.1 (instant_of_asked hasked).2
  change ((x.round earlier s).dispatched now).responses[i]? = some r at hr
  have hturn : ((x.round earlier s).dispatched now).responses[i]? = _ :=
    PartnerRound.response_dispatched hq
  obtain rfl := Option.some.inj (hr.symm.trans hturn)
  have hanswer : (((x.round earlier s).turn now i q).response
      ((x.round earlier s).dispatched now).elapsed (x.texts.crash i)).Answers q :=
    (PartnerTurn.sound_response _ _).answers
  have hfound : (q.request.findImp? bid.impId).isSome :=
    findImp?_isSome_iff.2 (hanswer.bids bid hbid).2
  obtain ⟨matched, imp, hmatched⟩ :=
    exists_matchedTo_of_scope hscope (List.mem_of_getElem? hq) hfound
  have hid : (request.findImp? bid.impId).isSome :=
    findImp?_isSome_iff.2 ⟨imp, List.mem_of_getElem? hmatched.first.getElem?,
      hmatched.first.holds.1⟩
  obtain ⟨decisive, other, hdecided⟩ := exists_decidedBy hid
  refine ⟨matched, imp, decisive, other, hmatched, ?_, hdecided,
    hmatched.first.eq_place_iff hdecided.first fun _ h => h.1, ?_, ?_⟩
  · intro hspeaks
    obtain ⟨answer, hreceived, hsub⟩ :=
      PartnerRound.exists_answer_sublist hspeaks (List.ne_nil_of_mem hbid)
    obtain ⟨sent, hsent, hmade⟩ := List.mem_map.1 (hsub.subset hbid)
    exact ⟨answer, hreceived, sent, hsent, by rw [← hmade]; rfl, hmade.symm⟩
  · rintro rfl
    have hsame : other = imp := by
      rw [← Option.some.injEq, ← hdecided.first.getElem?, hmatched.first.getElem?]
    rw [hdecided.medium, hmatched.medium, hsame]
  · intro hnodup
    exact hdecided.first.eq_place_of_nodup hnodup hmatched.first.getElem? hmatched.first.holds.1

/-- Two imps have one id: the first one, outside of content, is for the partner `b`, and the second
one, inside of content, for the partner `a`. -/
def sharedId : BidRequest where
  id := "r"
  imps :=
    [{ id := "i", video := some { placement := some 3 }, ext := some [("b", .nat 1)] },
      { id := "i", video := some { placement := some 1 }, ext := some [("a", .nat 1)] }]

def askedOfSharedId : Deadline × ScopedRequests :=
  (sendsNotice.asked 0 sharedId {}).toOption.getD default

/-- The partner `a` is asked for the second imp alone, and its bid is matched to that one.  The
factor for the bid is chosen by the first one, and so for the other medium. -/
theorem holdAuction_matches_imps_sharedId : ∃ q r bid,
    sendsNotice.asked 0 sharedId {} = .ok askedOfSharedId ∧
    askedOfSharedId.2.requests[0]? = some q ∧
    (sendsNotice.dispatched 0 [] askedOfSharedId.2).responses[0]? = some r ∧ bid ∈ r.bids ∧
    adjustmentMedia sharedId bid = .videoOutstream ∧ adjustmentMedia q.request bid = .video ∧
    ∃ matched imp decisive other, bid.MatchedTo sharedId q matched imp ∧
      bid.DecidedBy sharedId decisive other ∧ decisive ≠ matched := by
  have hasked : sendsNotice.asked 0 sharedId {} =
      .ok (askedOfSharedId.1, askedOfSharedId.2) := rfl
  obtain ⟨q, r, hq, hr, hmedia⟩ : ∃ q r, askedOfSharedId.2.requests[0]? = some q ∧
      (sendsNotice.dispatched 0 [] askedOfSharedId.2).responses[0]? = some r ∧
      r.bids.map (fun bid => (adjustmentMedia sharedId bid, adjustmentMedia q.request bid)) =
        [(.videoOutstream, .video)] := ⟨_, _, rfl, rfl, by decide +kernel⟩
  obtain ⟨bid, hbids, hmedia⟩ := List.map_eq_singleton_iff.1 hmedia
  obtain ⟨hdecided, hmatched⟩ := Prod.mk.inj hmedia
  have hbid : bid ∈ r.bids := by rw [hbids]; exact List.mem_singleton_self bid
  obtain ⟨matched, imp, decisive, other, hmatch, -, hby, -, hsame, -⟩ :=
    holdAuction_matches_imps hasked hq hr hbid
  refine ⟨q, r, bid, hasked, hq, hr, hbid, hdecided, hmatched, matched, imp, decisive, other,
    hmatch, hby, ?_⟩
  -- One imp would have one medium.
  intro heq
  rw [hsame heq, hmatched] at hdecided
  cases hdecided

end Exchange

end AdExchange
