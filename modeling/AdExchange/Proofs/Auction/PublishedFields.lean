import AdExchange.Adapter.OpenRtb
import AdExchange.Proofs.Auction.Latency
import AdExchange.Proofs.Auction.Listing

/-!
# What is left of a partner's bid

A partner that speaks OpenRTB sends bids with a creative, its sizes and its labels.  What the
exchange does not need for its own decisions is carried along: through the bid as the exchange
handles it, the settlement, the mapping of video bids and the limit of the partner.  But the bid as
the exchange handles it has no room for four of the fields that a bid on the wire has: the notice of
a win, the ids of the advertisement and of the campaign, and the attributes of the creative are not
published.
-/

namespace AdExchange

/-! ## One bid -/

/-- Two bids on the wire offer the same creative. -/
structure WireBid.SameContent (published sent : WireBid) : Prop where
  adm : published.adm = sent.adm
  nurl : published.nurl = sent.nurl
  adid : published.adid = sent.adid
  adomain : published.adomain = sent.adomain
  cid : published.cid = sent.cid
  crid : published.crid = sent.crid
  cat : published.cat = sent.cat
  attr : published.attr = sent.attr
  dealId : published.dealId = sent.dealId
  w : published.w = sent.w
  h : published.h = sent.h

/-- A published bid has what was sent, but for the notice, two ids and the attributes. -/
structure WireBid.PublishedFrom (published sent : WireBid) : Prop where
  id : published.id = sent.id
  impId : published.impId = sent.impId
  adm : published.adm = sent.adm
  nurl : published.nurl = none
  adid : published.adid = none
  adomain : published.adomain = sent.adomain
  cid : published.cid = none
  crid : published.crid = sent.crid
  cat : published.cat = sent.cat
  attr : published.attr = none
  dealId : published.dealId = sent.dealId
  w : published.w = sent.w
  h : published.h = sent.h

/-- Nothing is lost exactly if none of the four was sent. -/
theorem WireBid.PublishedFrom.sameContent_iff {published sent : WireBid}
    (h : published.PublishedFrom sent) :
    published.SameContent sent ↔
      sent.nurl = none ∧ sent.adid = none ∧ sent.cid = none ∧ sent.attr = none := by
  constructor
  · intro hsame
    exact ⟨hsame.nurl.symm.trans h.nurl, hsame.adid.symm.trans h.adid,
      hsame.cid.symm.trans h.cid, hsame.attr.symm.trans h.attr⟩
  · rintro ⟨hnurl, hadid, hcid, hattr⟩
    exact {
      adm := h.adm
      nurl := h.nurl.trans hnurl.symm
      adid := h.adid.trans hadid.symm
      adomain := h.adomain
      cid := h.cid.trans hcid.symm
      crid := h.crid
      cat := h.cat
      attr := h.attr.trans hattr.symm
      dealId := h.dealId
      w := h.w
      h := h.h }

/-- What the exchange keeps of a bid that was sent. -/
structure Bid.MadeFrom (b : Bid) (sent : WireBid) : Prop where
  id : b.id = sent.id
  impId : b.impId = sent.impId
  adm : b.adm = sent.adm
  adomain : b.adomain = sent.adomain
  crid : b.crid = sent.crid
  categories : b.categories = sent.cat
  dealId : b.dealId = sent.dealId
  w : b.w = sent.w
  h : b.h = sent.h

namespace Bid

variable {b settled : Bid} {sent : WireBid}

theorem madeFrom_ofWire (sent : WireBid) (currency : Option String) (imp : Option Imp) :
    (OpenRtb.ofWire sent currency imp).MadeFrom sent :=
  ⟨rfl, rfl, rfl, rfl, rfl, rfl, rfl, rfl, rfl⟩

theorem MadeFrom.settle {s : Settlement} {partner fallback : String} (hb : b.MadeFrom sent)
    (h : b.settle s partner fallback = .ok settled) : settled.MadeFrom sent := by
  obtain ⟨price, -, rfl⟩ := settle_eq_ok_iff.1 h
  exact ⟨hb.id, hb.impId, hb.adm, hb.adomain, hb.crid, hb.categories, hb.dealId, hb.w, hb.h⟩

theorem MadeFrom.publishedFrom_toWire (hb : b.MadeFrom sent) (rank : Nat) (key : Option String)
    (multibid : Option MultiBid) : (b.toWire rank key multibid).PublishedFrom sent where
  id := hb.id
  impId := hb.impId
  adm := hb.adm
  nurl := rfl
  adid := rfl
  adomain := hb.adomain
  cid := rfl
  crid := hb.crid
  cat := hb.categories
  attr := rfl
  dealId := hb.dealId
  w := hb.w
  h := hb.h

end Bid

/-! ## All bids of a partner -/

namespace PartnerResponse

/-- The bids of a response are made from some of those that were sent, in their order. -/
def MadeFrom (r : PartnerResponse) (sent : List WireBid) : Prop :=
  List.SublistForall₂ Bid.MadeFrom r.bids sent

variable {r rest : PartnerResponse} {sent : List WireBid}

theorem MadeFrom.settle (hr : r.MadeFrom sent) (s : Settlement) (catalog : Catalog)
    (default : String) (warning : Option PartnerError) :
    (r.settle s catalog default warning).MadeFrom sent :=
  sublistForall₂_comp (fun _ _ _ hok hb => hb.settle hok) (sublistForall₂_successes _ r.bids) hr

theorem MadeFrom.thinned (hr : r.MadeFrom sent) (h : r.ThinnedTo rest) : rest.MadeFrom sent :=
  sublistForall₂_comp (R := Eq) (fun _ _ _ heq hb => heq ▸ hb) h.bids.sublistForall₂ hr

theorem ThinnedTo.bids_ne_nil (h : r.ThinnedTo rest) (hbids : rest.bids ≠ []) : r.bids ≠ [] := by
  intro hnone
  have hsub : rest.bids.Sublist [] := hnone ▸ h.bids
  exact hbids (List.sublist_nil.1 hsub)

theorem bids_ne_nil_of_settle {s : Settlement} {catalog : Catalog} {default : String}
    {warning : Option PartnerError} (h : (r.settle s catalog default warning).bids ≠ []) :
    r.bids ≠ [] := by
  intro hnone
  refine h ?_
  rw [PartnerResponse.settle, hnone]
  rfl

/-- The seat of a partner publishes some of what was sent. -/
theorem MadeFrom.publishedFrom_of_seatBid? {input : AssemblyInput} {seat : SeatBid}
    (hr : r.MadeFrom sent) (h : seatBid? input r = some seat) :
    List.SublistForall₂ WireBid.PublishedFrom seat.bids sent := by
  obtain ⟨-, rfl⟩ := seatBid?_eq_some_iff.1 h
  generalize (Dictionary.get? input.multibid r.partner).map (·.maxBids.toNat) = limit
  have hlisted : List.SublistForall₂ Eq ((cappedBids r.bids limit).map (·.1)) r.bids :=
    (map_cappedBids_sublist r.bids limit).sublistForall₂
  rw [List.sublistForall₂_map_left_iff] at hlisted ⊢
  refine sublistForall₂_comp ?_ hlisted hr
  rintro listed _ sent rfl hb
  exact hb.publishedFrom_toWire _ _ _

end PartnerResponse

/-! ## The reply of a partner -/

namespace OpenRtb

variable {q : PartnerRequest} {reply : HttpReply} {texts : LibraryTexts} {bids : List Bid}

/-- A reply has bids if its status says that there are none, or if it is read. -/
theorem readBids_eq_ok_iff :
    readBids q reply texts = .ok bids ↔ reply.status = 204 ∧ bids = [] ∨
      reply.status = 200 ∧ ∃ answer,
        (RawJson.parse? reply.body).bind BidResponse.read? = some answer ∧
          bids = (answer.seatBids.flatMap (·.bids)).map fun sent =>
            ofWire sent answer.cur (q.request.findImp? sent.impId) := by
  rw [readBids]
  by_cases hnone : reply.status = 204
  · simp [hnone, eq_comm]
  by_cases hread : reply.status = 200
  · cases (RawJson.parse? reply.body).bind BidResponse.read? <;> simp [hread, eq_comm]
  · simp [hnone, hread]

/-- If bids are left in the end, then they are some of those in a reply that is read. -/
theorem exists_answer_of_finish {call : HttpCall} {result : Except PartnerError HttpReply}
    {errors : List PartnerError}
    (h : (Reading.ofReplies (adapter texts) q [(call, result)]).finish q.request [] =
      .answered bids errors) (hbids : bids ≠ []) :
    ∃ body answer, result = .ok ⟨200, body⟩ ∧
      (RawJson.parse? body).bind BidResponse.read? = some answer ∧
      bids.Sublist ((answer.seatBids.flatMap (·.bids)).map fun sent =>
        ofWire sent answer.cur (q.request.findImp? sent.impId)) := by
  cases result with
  | error e =>
    cases h
    exact absurd rfl hbids
  | ok reply =>
    have hone : Reading.ofReplies (adapter texts) q [(call, .ok reply)] =
        .cons (readBids q reply texts) (.answered [] []) := rfl
    rw [hone] at h
    cases hread : readBids q reply texts with
    | error e =>
      rw [hread] at h
      cases h
      exact absurd rfl hbids
    | ok found =>
      rw [hread, Reading.cons, List.append_nil] at h
      cases h
      rcases readBids_eq_ok_iff.1 hread with ⟨-, rfl⟩ | ⟨hstatus, answer, hanswer, rfl⟩
      · exact absurd rfl hbids
      · obtain ⟨status, body⟩ := reply
        obtain rfl : status = 200 := hstatus
        exact ⟨body, answer, rfl, hanswer, List.filter_sublist⟩

end OpenRtb

/-- A response with bids has them from a reading. -/
theorem PartnerTurn.exists_reading_of_bids {t : PartnerTurn} {total : Nat} {report : String}
    (h : (t.response total report).bids ≠ []) :
    ∃ errors, t.reading.value = some (.answered (t.response total report).bids errors) := by
  cases hvalue : t.reading.value with
  | none => simp [response, hvalue] at h
  | some reading =>
    cases reading with
    | crashed => simp [response, hvalue] at h
    | answered bids errors => exact ⟨errors, by simp [response, hvalue]⟩

namespace PartnerRound

/-- The partner that is asked `q` at the place `i` is sent one call, and replies to it with a bid
response. -/
def Receives (d : PartnerRound) (i : Nat) (q : PartnerRequest) (answer : BidResponse) : Prop :=
  ∃ call reply body, d.replies i q = [(call, reply)] ∧ reply.value = .ok ⟨200, body⟩ ∧
    (RawJson.parse? body).bind BidResponse.read? = some answer

/-- The partner that is asked `q` speaks OpenRTB. -/
def SpeaksOpenRtb (d : PartnerRound) (q : PartnerRequest) : Prop :=
  ∃ partner texts, d.catalog.get? q.code = some partner ∧
    d.adapters partner.adapter = some (OpenRtb.adapter texts)

variable {d : PartnerRound} {now i total : Nat} {report : String} {q : PartnerRequest}

/-- If a partner that speaks OpenRTB has bids, then they are some of those that are read from its
reply. -/
theorem exists_answer_sublist (hq : d.SpeaksOpenRtb q)
    (hbids : ((d.turn now i q).response total report).bids ≠ []) :
    ∃ answer, d.Receives i q answer ∧
      ((d.turn now i q).response total report).bids.Sublist
        ((answer.seatBids.flatMap (·.bids)).map fun sent =>
          OpenRtb.ofWire sent answer.cur (q.request.findImp? sent.impId)) := by
  obtain ⟨partner, texts, hpartner, hadapter⟩ := hq
  have hready : Preparation.of d.catalog d.adapters q =
      .ready (OpenRtb.adapter texts) { calls := [OpenRtb.makeCall q partner] } := by
    simp only [Preparation.of, hpartner, hadapter]
    rfl
  obtain ⟨errors, hvalue⟩ := PartnerTurn.exists_reading_of_bids hbids
  generalize ((d.turn now i q).response total report) = r at hbids hvalue ⊢
  have hreplies : d.replies i q = [(OpenRtb.makeCall q partner,
      d.transport.answer (d.callsBefore i) (OpenRtb.makeCall q partner))] := by
    rw [replies, callsTo, hready]
    rfl
  rw [reading_turn] at hvalue
  have hread := Deadline.value_eq_of_await hvalue
  simp only [reading, hready, hreplies, List.map_cons, List.map_nil] at hread
  obtain ⟨body, answer, hreply, hanswer, hsub⟩ := OpenRtb.exists_answer_of_finish hread hbids
  exact ⟨answer, ⟨OpenRtb.makeCall q partner, _, body, hreplies, hreply, hanswer⟩, hsub⟩

/-- If a partner that speaks OpenRTB has bids, then they are made from bids that it has sent. -/
theorem exists_answer_of_bids (hq : d.SpeaksOpenRtb q)
    (hbids : ((d.turn now i q).response total report).bids ≠ []) :
    ∃ answer, d.Receives i q answer ∧
      ((d.turn now i q).response total report).MadeFrom (answer.seatBids.flatMap (·.bids)) := by
  obtain ⟨answer, hanswer, hsub⟩ := exists_answer_sublist hq hbids
  refine ⟨answer, hanswer, ?_⟩
  have hsome : List.SublistForall₂ Eq ((d.turn now i q).response total report).bids _ :=
    hsub.sublistForall₂
  rw [List.sublistForall₂_map_right_iff] at hsome
  refine sublistForall₂_imp ?_ hsome
  rintro _ sent rfl
  exact Bid.madeFrom_ofWire _ _ _

end PartnerRound

namespace Exchange

variable {x : Exchange} {now : Nat} {earlier : List HttpCall} {request : BidRequest}
  {context : AuctionContext}

/-- Each seat is that of a partner that was asked.  If the partner speaks OpenRTB, the seat
publishes some of the bids in its reply, in their order.  Nothing is lost of such a bid exactly if
it was sent without a notice, the two ids and attributes; those are never published. -/
theorem holdAuction_publishedFrom {response : BidResponse} {seat : SeatBid}
    (hresponse : (x.holdAuction now earlier request context).outcome = .ok response)
    (hseat : seat ∈ response.seatBids) :
    ∃ deadline s i q, x.asked now request context = .ok (deadline, s) ∧
      s.requests[i]? = some q ∧ seat.seat = some q.partner ∧
      ((x.round earlier s).SpeaksOpenRtb q →
        ∃ answer, (x.round earlier s).Receives i q answer ∧
          List.SublistForall₂
            (fun published sent => published.PublishedFrom sent ∧
              (published.SameContent sent ↔
                sent.nurl = none ∧ sent.adid = none ∧ sent.cid = none ∧ sent.attr = none))
            seat.bids (answer.seatBids.flatMap (·.bids))) := by
  obtain ⟨deadline, s, m, hasked, hmapped, rfl⟩ := outcome_holdAuction_eq_ok_iff.1 hresponse
  obtain ⟨mapped, hmem, hseat⟩ := List.mem_filterMap.1 hseat
  obtain ⟨answered, hanswered, hthinned⟩ := exists_of_mem_right (thinnedTo_mapped hmapped) hmem
  obtain ⟨offer, hoffer, warning, rfl⟩ := mem_answers hanswered
  obtain ⟨i, hi⟩ := List.getElem?_of_mem hoffer
  change ((x.round earlier s).dispatched now).responses[i]? = some offer at hi
  rw [PartnerRound.getElem?_responses, Option.map_eq_some_iff] at hi
  obtain ⟨q, hq, rfl⟩ := hi
  refine ⟨deadline, s, i, q, hasked, hq, ?_, ?_⟩
  · rw [seat_of_seatBid? hseat, hthinned.partner]
    exact congrArg some (PartnerTurn.partner_response _ _ _)
  · intro hspeaks
    have hlisted : mapped.bids ≠ [] := (seatBid?_eq_some_iff.1 hseat).1
    have hoffered := PartnerResponse.bids_ne_nil_of_settle (hthinned.bids_ne_nil hlisted)
    obtain ⟨answer, hanswer, hmade⟩ := PartnerRound.exists_answer_of_bids hspeaks hoffered
    refine ⟨answer, hanswer, ?_⟩
    have hpublished := ((hmade.settle _ _ _ _).thinned hthinned).publishedFrom_of_seatBid? hseat
    exact sublistForall₂_imp (fun _ _ h => ⟨h, h.sameContent_iff⟩) hpublished

/-- Offers one imp to the partner `a`. -/
def offerOne : BidRequest where
  id := "r"
  imps := [{ id := "i", ext := some [("a", .nat 1)] }]

/-- A bid response whose bid has a creative and the notice of a win. -/
def bidWithNotice : List UInt8 :=
  ("\x7b\"id\":\"s\",\"seatbid\":[\x7b\"bid\":[\x7b\"id\":\"1\",\"impid\":\"i\",\"price\":1," ++
    "\"adm\":\"ad\",\"nurl\":\"won\"\x7d]\x7d]\x7d").toUTF8.toList

/-- An exchange in which `a` speaks OpenRTB and sends that response to every call. -/
def sendsNotice : Exchange where
  config := {}
  catalog := .ofList [{ id := 1, name := "a", endpoint := "http://a" }]
  adapters _ := some OpenRtb.adapter
  transport := ⟨fun _ _ => ⟨0, .ok ⟨200, bidWithNotice⟩⟩⟩
  store := .ofTable []
  rates := []

def outcomeOfNotice : Except (Fault AuctionError) BidResponse :=
  (sendsNotice.holdAuction 0 [] offerOne {}).outcome

theorem speaksOpenRtb_sendsNotice {deadline : Deadline} {s : ScopedRequests} {i : Nat}
    {q : PartnerRequest}
    (hasked : sendsNotice.asked 0 offerOne {} = .ok (deadline, s))
    (hq : s.requests[i]? = some q) : (sendsNotice.round [] s).SpeaksOpenRtb q := by
  have hcodes : s.requests.map (·.code) = ["a"] := by
    have hall : ((sendsNotice.asked 0 offerOne {}).toOption.map fun asked =>
        asked.2.requests.map (·.code)) = some ["a"] := rfl
    rw [hasked] at hall
    exact Option.some.inj hall
  have hcode : q.code ∈ s.requests.map (·.code) := List.mem_map_of_mem (List.mem_of_getElem? hq)
  rw [hcodes, List.mem_singleton] at hcode
  exact ⟨_, {}, by rw [hcode]; rfl, rfl⟩

/-- The creative is published, and the notice is not. -/
theorem holdAuction_publishedFrom_notice :
    ((RawJson.parse? bidWithNotice).bind BidResponse.read?).map
      (·.seatBids.map (·.bids.map fun w => (w.adm, w.nurl))) = some [[(some "ad", some "won")]] ∧
    ∃ response, outcomeOfNotice = .ok response ∧
      response.seatBids.map (·.bids.map fun w => (w.adm, w.nurl)) = [[(some "ad", none)]] ∧
      ∀ seat ∈ response.seatBids, ∃ deadline s i q,
        sendsNotice.asked 0 offerOne {} = .ok (deadline, s) ∧ s.requests[i]? = some q ∧
        ∃ answer, (sendsNotice.round [] s).Receives i q answer ∧
          List.SublistForall₂ WireBid.PublishedFrom seat.bids
            (answer.seatBids.flatMap (·.bids)) := by
  have h : outcomeOfNotice = .ok (outcomeOfNotice.toOption.getD default) := rfl
  refine ⟨by decide +kernel, _, h, by decide +kernel, ?_⟩
  intro seat hseat
  obtain ⟨deadline, s, i, q, hasked, hq, -, hlaw⟩ := holdAuction_publishedFrom h hseat
  obtain ⟨answer, hanswer, hpublished⟩ := hlaw (speaksOpenRtb_sendsNotice hasked hq)
  exact ⟨deadline, s, i, q, hasked, hq, answer, hanswer,
    sublistForall₂_imp (fun _ _ h => h.1) hpublished⟩

end Exchange

end AdExchange
